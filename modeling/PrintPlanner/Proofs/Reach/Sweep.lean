import PrintPlanner.Proofs.Reach.Within
import PrintPlanner.Reach.Sweep

/-!
# What a sweep gathers

A sweep may meet a type at a great depth first and expand it again when it is met at a
smaller one.  Two properties survive this.  Whatever the state of a sweep says is true
(`FilterGraph.Sound`): a type expanded at some depth lies within so many filters, and no depth
exceeds the bound of the sweep.  And a step leaves nothing undone (`FilterGraph.Advances`): depths
only shrink, and every type whose depth has changed is settled, which is to say that its producers
are listed and expanded one level deeper.  When the sweep has finished, all types are settled, so
the depths are the distances (`FilterGraph.Coherent.sweep_settles`).
-/

set_option autoImplicit false

namespace PrintPlanner

/-- One state of a sweep comes after another: lists grow and depths shrink. -/
structure SweepState.Grows (before after : SweepState) : Prop where
  found : ∀ place ∈ before.found, place ∈ after.found
  expandedAt : ∀ (place : MediaTypeId) (depth : Nat), before.expandedAt[place]? = some depth →
    ∃ shallow, shallow ≤ depth ∧ after.expandedAt[place]? = some shallow

theorem SweepState.Grows.refl (state : SweepState) : state.Grows state :=
  ⟨fun _ listed => listed, fun _ depth expanded => ⟨depth, Nat.le_refl depth, expanded⟩⟩

theorem SweepState.Grows.trans {first second third : SweepState} (earlier : first.Grows second)
    (later : second.Grows third) : first.Grows third := by
  refine ⟨fun place listed => later.found place (earlier.found place listed), ?_⟩
  intro place depth expanded
  obtain ⟨middle, below, expandedThen⟩ := earlier.expandedAt place depth expanded
  obtain ⟨shallow, least, expandedNow⟩ := later.expandedAt place middle expandedThen
  exact ⟨shallow, Nat.le_trans least below, expandedNow⟩

namespace FilterGraph

variable {graph : FilterGraph} {query : MediaTypeId}

/-- What the state of a sweep of `query` says is true of the graph. -/
structure Sound (graph : FilterGraph) (query : MediaTypeId) (state : SweepState) : Prop where
  near : ∀ (place : MediaTypeId) (depth : Nat), state.expandedAt[place]? = some depth →
    graph.Within depth place query
  /-- The sweep goes no deeper than its bound. -/
  bounded : ∀ (place : MediaTypeId) (depth : Nat), state.expandedAt[place]? = some depth →
    depth ≤ maxReachDepth
  listed : ∀ place ∈ state.found, graph.types.contains place = true ∧
    graph.isReportable query place = true ∧ graph.Within (maxReachDepth + 1) place query
  nodup : state.found.Nodup

/-- The type is listed where it belongs into the list, and expanded at the given depth or a
smaller one if there is one. -/
def Visited (graph : FilterGraph) (query : MediaTypeId) (state : SweepState)
    (below : Option Nat) (source : MediaTypeId) : Prop :=
  (graph.isReportable query source = true → source ∈ state.found) ∧
    ∀ depth ∈ below, ∃ shallow, shallow ≤ depth ∧ state.expandedAt[source]? = some shallow

theorem Visited.mono {before after : SweepState} {below : Option Nat} {source : MediaTypeId}
    (visited : graph.Visited query before below source) (grows : before.Grows after) :
    graph.Visited query after below source := by
  refine ⟨fun reportable => grows.found source (visited.1 reportable), fun depth some => ?_⟩
  obtain ⟨middle, small, expandedThen⟩ := visited.2 depth some
  obtain ⟨shallow, least, expandedNow⟩ := grows.expandedAt source middle expandedThen
  exact ⟨shallow, Nat.le_trans least small, expandedNow⟩

/-- The depth of the next level, if a sweep goes as deep. -/
def depthBelow? (depth : Nat) : Option Nat :=
  if depth < maxReachDepth then some (depth + 1) else none

/-- The producers of the type have been visited, one level deeper than the type itself. -/
def Settled (graph : FilterGraph) (query : MediaTypeId) (state : SweepState)
    (place : MediaTypeId) : Prop :=
  ∀ depth, state.expandedAt[place]? = some depth → ∀ source ∈ graph.producersOf place,
    graph.Visited query state (depthBelow? depth) source

/-- A type stays settled while its own depth does not change. -/
theorem Settled.mono {before after : SweepState} {place : MediaTypeId}
    (settled : graph.Settled query before place) (grows : before.Grows after)
    (same : after.expandedAt[place]? = before.expandedAt[place]?) :
    graph.Settled query after place := by
  intro depth expanded source feeds
  exact (settled depth (same ▸ expanded) source feeds).mono grows

/-- From one state to a later one, and every type whose depth has changed is settled. -/
structure Advances (graph : FilterGraph) (query : MediaTypeId)
    (before after : SweepState) : Prop where
  grows : before.Grows after
  settles : ∀ place : MediaTypeId, after.expandedAt[place]? ≠ before.expandedAt[place]? →
    graph.Settled query after place

theorem Advances.refl (state : SweepState) : graph.Advances query state state :=
  ⟨.refl state, fun _ changed => absurd rfl changed⟩

theorem Advances.trans {first second third : SweepState}
    (earlier : graph.Advances query first second) (later : graph.Advances query second third) :
    graph.Advances query first third := by
  refine ⟨earlier.grows.trans later.grows, fun place changed => ?_⟩
  by_cases same : third.expandedAt[place]? = second.expandedAt[place]?
  · exact (earlier.settles place (same ▸ changed)).mono later.grows same
  · exact later.settles place same

/-! ## Listing and expanding a type -/

theorem advances_list (state : SweepState) (source : MediaTypeId) :
    graph.Advances query state (state.list source) := by
  unfold SweepState.list
  split
  · exact .refl state
  · refine ⟨⟨fun place listed => List.mem_append_left _ listed, ?_⟩,
      fun _ changed => absurd rfl changed⟩
    exact fun place depth expanded => ⟨depth, Nat.le_refl depth, expanded⟩

theorem mem_found_list (state : SweepState) (source : MediaTypeId) :
    source ∈ (state.list source).found := by
  unfold SweepState.list
  split
  · assumption
  · simp

theorem Sound.list {state : SweepState} (sound : graph.Sound query state) {source : MediaTypeId}
    (registered : graph.types.contains source = true)
    (reportable : graph.isReportable query source = true)
    (near : graph.Within (maxReachDepth + 1) source query) :
    graph.Sound query (state.list source) := by
  unfold SweepState.list
  split
  · exact sound
  · rename_i unlisted
    refine ⟨sound.near, sound.bounded, fun place listed => ?_, ?_⟩
    · rcases List.mem_append.mp listed with old | new
      · exact sound.listed place old
      · rw [List.mem_singleton.mp new]
        exact ⟨registered, reportable, near⟩
    · refine List.nodup_append'.mpr ⟨sound.nodup, List.nodup_singleton source, ?_⟩
      exact List.disjoint_singleton.mpr unlisted

theorem getElem?_expand (state : SweepState) (source : MediaTypeId) (depth : Nat)
    (place : MediaTypeId) :
    (state.expand source depth).expandedAt[place]? =
      if place = source then some depth else state.expandedAt[place]? := by
  simp only [SweepState.expand, Std.TreeMap.getElem?_insert, Std.compare_eq_iff_eq,
    eq_comm (a := source)]

theorem Sound.expand {state : SweepState} (sound : graph.Sound query state)
    {source : MediaTypeId} {depth : Nat} (near : graph.Within depth source query)
    (shallow : depth ≤ maxReachDepth) : graph.Sound query (state.expand source depth) := by
  refine ⟨fun place found expanded => ?_, fun place found expanded => ?_, sound.listed,
    sound.nodup⟩
  · rw [getElem?_expand] at expanded
    split at expanded
    · rename_i same
      cases expanded
      exact same ▸ near
    · exact sound.near place found expanded
  · rw [getElem?_expand] at expanded
    split at expanded
    · cases expanded
      exact shallow
    · exact sound.bounded place found expanded

/-- Expanding a type anew at a smaller depth and settling it advances the sweep. -/
theorem Advances.of_expand {before after : SweepState} {source : MediaTypeId} {depth : Nat}
    (shallower : before.isShallower source depth = true)
    (explored : graph.Advances query (before.expand source depth) after)
    (settled : graph.Settled query after source) : graph.Advances query before after := by
  have expands : before.Grows (before.expand source depth) := by
    refine ⟨fun _ listed => listed, fun place seen expanded => ?_⟩
    rw [getElem?_expand]
    split
    · rename_i same
      subst same
      have deeper : depth < seen := by simpa [SweepState.isShallower, expanded] using shallower
      exact ⟨depth, Nat.le_of_lt deeper, rfl⟩
    · exact ⟨seen, Nat.le_refl seen, expanded⟩
  refine ⟨expands.trans explored.grows, fun place changed => ?_⟩
  by_cases same : place = source
  · exact same ▸ settled
  · refine explored.settles place ?_
    rwa [getElem?_expand, if_neg same]

/-- A type belongs into the list of a query if it is no printer, and for the queried type
itself only if it is its own producer. -/
theorem Coherent.isReportable_iff (coherent : graph.Coherent) {source : MediaTypeId} :
    graph.isReportable query source = true ↔
      graph.types.isSink source = false ∧ (source = query → source ∈ graph.producersOf source) := by
  have looped : (graph.lookupDirect? source source).isSome = true ↔
      source ∈ graph.producersOf source := by
    simp only [Option.isSome_iff_exists, coherent.lookupDirect?_eq_some_iff,
      coherent.mem_producersOf]
  rw [isReportable, Bool.and_eq_true, Bool.or_eq_true, looped]
  simp [imp_iff_not_or]

/-! ## Visiting the producers of a type -/

/-- What an exploration at a depth does: it succeeds, says nothing false, and settles the
type that it was called for. -/
def Explores (graph : FilterGraph) (query : MediaTypeId) (depth : Nat)
    (explore : MediaTypeId → SweepState → Except SearchFault SweepState) : Prop :=
  ∀ (source : MediaTypeId) (state : SweepState), graph.Sound query state →
    state.expandedAt[source]? = some depth →
    ∃ after, explore source state = .ok after ∧ graph.Sound query after ∧
      graph.Advances query state after ∧ graph.Settled query after source

/-- The state after a producer has been met: it is listed where it belongs into the list. -/
def meet (graph : FilterGraph) (query source : MediaTypeId) (state : SweepState) : SweepState :=
  if graph.isReportable query source then state.list source else state

section Visit

variable {source : MediaTypeId} {rest : List MediaTypeId} {depth : Nat} {state : SweepState}
  {explore : MediaTypeId → SweepState → Except SearchFault SweepState}

/-- A producer met at a new or smaller depth is explored. -/
theorem visitProducers_of_isShallower (registered : graph.types.contains source = true)
    (shallower : (graph.meet query source state).isShallower source (depth + 1) = true)
    {next : SweepState}
    (explored : explore source ((graph.meet query source state).expand source (depth + 1)) =
      .ok next) :
    graph.indexed.visitProducers query depth (some explore) (source :: rest) state =
      graph.indexed.visitProducers query depth (some explore) rest next := by
  have folded : (if graph.indexed.isReportable query source then state.list source else state) =
      graph.meet query source state := rfl
  rw [visitProducers, types_indexed, registered, folded]
  simp [shallower, explored]

/-- A producer that has been expanded at a depth as small is not explored again. -/
theorem visitProducers_of_not_isShallower (registered : graph.types.contains source = true)
    (notShallower : ¬ (graph.meet query source state).isShallower source (depth + 1) = true) :
    graph.indexed.visitProducers query depth (some explore) (source :: rest) state =
      graph.indexed.visitProducers query depth (some explore) rest
        (graph.meet query source state) := by
  have folded : (if graph.indexed.isReportable query source then state.list source else state) =
      graph.meet query source state := rfl
  rw [visitProducers, types_indexed, registered, folded]
  simp [notShallower]

end Visit

section Coherent

variable (coherent : graph.Coherent) {target source : MediaTypeId} {depth : Nat}
  {state : SweepState}
include coherent

/-- Meeting a producer lists it where it belongs into the list, and says nothing false. -/
theorem Coherent.meet_producer (near : graph.Within depth target query)
    (shallow : depth ≤ maxReachDepth) (feeds : source ∈ graph.producersOf target)
    (sound : graph.Sound query state) :
    graph.Sound query (graph.meet query source state) ∧
      graph.Advances query state (graph.meet query source state) ∧
      (graph.isReportable query source = true →
        source ∈ (graph.meet query source state).found) := by
  unfold meet
  split
  · rename_i reportable
    have far : graph.Within (maxReachDepth + 1) source query :=
      (coherent.within_of_producer feeds near).mono (Nat.succ_le_succ shallow)
    have registered := (coherent.contains_of_mem_producersOf feeds).1
    exact ⟨sound.list registered reportable far, advances_list state source,
      fun _ => mem_found_list state source⟩
  · rename_i passed
    exact ⟨sound, .refl state, fun reportable => absurd reportable passed⟩

/-- Visiting one producer on the last level only lists it. -/
theorem Coherent.visit_last (near : graph.Within depth target query)
    (shallow : depth ≤ maxReachDepth) (feeds : source ∈ graph.producersOf target)
    (sound : graph.Sound query state) (rest : List MediaTypeId) :
    ∃ next, graph.indexed.visitProducers query depth none (source :: rest) state =
        graph.indexed.visitProducers query depth none rest next ∧
      graph.Sound query next ∧ graph.Advances query state next ∧
      graph.Visited query next none source := by
  obtain ⟨soundMet, advances, mentions⟩ := coherent.meet_producer near shallow feeds sound
  have registered := (coherent.contains_of_mem_producersOf feeds).1
  refine ⟨graph.meet query source state, ?_, soundMet, advances, mentions, by simp⟩
  rw [visitProducers, types_indexed, registered]
  rfl

/-- Visiting one producer above the last level lists it, and explores it unless it has been
expanded at a depth as small. -/
theorem Coherent.visit_deeper
    {explore : MediaTypeId → SweepState → Except SearchFault SweepState}
    (explores : graph.Explores query (depth + 1) explore)
    (near : graph.Within depth target query) (shallow : depth < maxReachDepth)
    (feeds : source ∈ graph.producersOf target) (sound : graph.Sound query state)
    (rest : List MediaTypeId) :
    ∃ next, graph.indexed.visitProducers query depth (some explore) (source :: rest) state =
        graph.indexed.visitProducers query depth (some explore) rest next ∧
      graph.Sound query next ∧ graph.Advances query state next ∧
      graph.Visited query next (some (depth + 1)) source := by
  obtain ⟨soundMet, advances, mentions⟩ :=
    coherent.meet_producer near (Nat.le_of_lt shallow) feeds sound
  have registered := (coherent.contains_of_mem_producersOf feeds).1
  by_cases shallower : (graph.meet query source state).isShallower source (depth + 1) = true
  · -- a new or smaller depth: the exploration settles the source
    have reaches := coherent.within_of_producer feeds near
    have expanded :
        ((graph.meet query source state).expand source (depth + 1)).expandedAt[source]? =
          some (depth + 1) := by
      rw [getElem?_expand, if_pos rfl]
    obtain ⟨next, explored, soundNext, exploredAdvances, settled⟩ :=
      explores source _ (soundMet.expand reaches shallow) expanded
    have onward : graph.Advances query (graph.meet query source state) next :=
      exploredAdvances.of_expand shallower settled
    refine ⟨next, visitProducers_of_isShallower registered shallower explored, soundNext,
      advances.trans onward, fun reportable => onward.grows.found source (mentions reportable), ?_⟩
    rintro below ⟨⟩
    exact exploredAdvances.grows.expandedAt source (depth + 1) expanded
  · refine ⟨graph.meet query source state,
      visitProducers_of_not_isShallower registered shallower, soundMet, advances, mentions, ?_⟩
    rintro below ⟨⟩
    unfold SweepState.isShallower at shallower
    cases seen : (graph.meet query source state).expandedAt[source]? with
    | none => simp [seen] at shallower
    | some least => exact ⟨least, by simpa [seen] using shallower, rfl⟩

end Coherent

/-- Visiting the producers one after another visits all of them. -/
theorem visitProducers_run {depth : Nat} {below : Option Nat}
    {explore : Option (MediaTypeId → SweepState → Except SearchFault SweepState)}
    (sources : List MediaTypeId)
    (visits : ∀ source ∈ sources, ∀ rest state, graph.Sound query state →
      ∃ next, graph.indexed.visitProducers query depth explore (source :: rest) state =
          graph.indexed.visitProducers query depth explore rest next ∧
        graph.Sound query next ∧ graph.Advances query state next ∧
        graph.Visited query next below source)
    {state : SweepState} (sound : graph.Sound query state) :
    ∃ after, graph.indexed.visitProducers query depth explore sources state = .ok after ∧
      graph.Sound query after ∧ graph.Advances query state after ∧
      ∀ source ∈ sources, graph.Visited query after below source := by
  induction sources generalizing state with
  | nil => exact ⟨state, rfl, sound, .refl state, by simp⟩
  | cons source rest ih =>
      obtain ⟨next, step, soundNext, advances, visited⟩ :=
        visits source List.mem_cons_self rest state sound
      obtain ⟨after, run, soundAfter, onward, later⟩ :=
        ih (fun other member => visits other (List.mem_cons_of_mem source member)) soundNext
      refine ⟨after, step.trans run, soundAfter, advances.trans onward, fun other member => ?_⟩
      rcases List.mem_cons.mp member with rfl | member
      · exact visited.mono onward.grows
      · exact later other member

/-- A type whose producers have all been visited is settled. -/
theorem Advances.settled {before after : SweepState} {target : MediaTypeId} {depth : Nat}
    (advances : graph.Advances query before after)
    (expanded : before.expandedAt[target]? = some depth)
    (visited : ∀ source ∈ graph.producersOf target,
      graph.Visited query after (depthBelow? depth) source) :
    graph.Settled query after target := by
  by_cases same : after.expandedAt[target]? = before.expandedAt[target]?
  · intro found foundAt source feeds
    rw [same, expanded] at foundAt
    cases foundAt
    exact visited source feeds
  · exact advances.settles target same

/-- **A sweep from a type settles it.**  The levels that are left and the depth always make
up the whole. -/
theorem Coherent.sweepFrom_explores (coherent : graph.Coherent) {levels depth : Nat}
    (whole : levels + depth = maxReachDepth) :
    graph.Explores query depth (graph.indexed.sweepFrom query levels depth) := by
  induction levels generalizing depth with
  | zero =>
      intro target state sound expanded
      have near := sound.near target depth expanded
      have bottom : depthBelow? depth = none := if_neg (by omega)
      obtain ⟨after, run, soundAfter, advances, visited⟩ :=
        visitProducers_run (graph.producersOf target)
          (fun source feeds rest state sound =>
            coherent.visit_last near (by omega) feeds sound rest) sound
      refine ⟨after, ?_, soundAfter, advances, advances.settled expanded (bottom ▸ visited)⟩
      rw [sweepFrom, producersOf_indexed, run]
  | succ levels ih =>
      intro target state sound expanded
      have near := sound.near target depth expanded
      have explores : graph.Explores query (depth + 1)
          (graph.indexed.sweepFrom query levels (depth + 1)) := ih (by omega)
      have next : depthBelow? depth = some (depth + 1) := if_pos (by omega)
      obtain ⟨after, run, soundAfter, advances, visited⟩ :=
        visitProducers_run (graph.producersOf target)
          (fun source feeds rest state sound =>
            coherent.visit_deeper explores near (by omega) feeds sound rest) sound
      refine ⟨after, ?_, soundAfter, advances, advances.settled expanded (next ▸ visited)⟩
      rw [sweepFrom, producersOf_indexed, run]

/-! ## The finished sweep -/

theorem getElem?_initial (dest place : MediaTypeId) :
    (SweepState.initial dest).expandedAt[place]? = if place = dest then some 0 else none := by
  simp only [SweepState.initial, Std.TreeMap.getElem?_insert, Std.compare_eq_iff_eq,
    Std.TreeMap.getElem?_emptyc, eq_comm (a := dest)]

theorem sound_initial (graph : FilterGraph) (dest : MediaTypeId) :
    graph.Sound dest (.initial dest) := by
  refine ⟨fun place depth expanded => ?_, fun place depth expanded => ?_,
    by simp [SweepState.initial], List.nodup_nil⟩
  · rw [getElem?_initial] at expanded
    split at expanded
    · rename_i same
      exact same ▸ .refl graph depth place
    · contradiction
  · rw [getElem?_initial] at expanded
    split at expanded
    · cases expanded
      exact Nat.zero_le maxReachDepth
    · contradiction

/-- A sweep succeeds, says nothing false, and leaves every type that it has met settled. -/
theorem Coherent.sweep_settles (coherent : graph.Coherent) (dest : MediaTypeId) :
    ∃ after, graph.sweep dest = .ok after ∧ graph.Sound dest after ∧
      after.expandedAt[dest]? = some 0 ∧ ∀ place, graph.Settled dest after place := by
  have started : (SweepState.initial dest).expandedAt[dest]? = some 0 := by
    rw [getElem?_initial, if_pos rfl]
  obtain ⟨after, run, sound, advances, settled⟩ :=
    coherent.sweepFrom_explores (Nat.add_zero maxReachDepth) dest _ (sound_initial graph dest)
      started
  obtain ⟨least, small, expanded⟩ := advances.grows.expandedAt dest 0 started
  rw [Nat.le_zero.mp small] at expanded
  refine ⟨after, run, sound, expanded, fun place => ?_⟩
  by_cases same : place = dest
  · exact same ▸ settled
  by_cases met : after.expandedAt[place]? = none
  · intro depth found
    rw [met] at found
    contradiction
  · refine advances.settles place ?_
    rwa [getElem?_initial, if_neg same]

/-- Where all types are settled, depths are at most the distances. -/
theorem Coherent.expandedAt_le (coherent : graph.Coherent) {state : SweepState}
    {dest : MediaTypeId} (started : state.expandedAt[dest]? = some 0)
    (settled : ∀ place, graph.Settled dest state place) {bound : Nat}
    (shallow : bound ≤ maxReachDepth) {place : MediaTypeId}
    (near : graph.Within bound place dest) :
    ∃ depth, depth ≤ bound ∧ state.expandedAt[place]? = some depth := by
  induction bound generalizing place with
  | zero =>
      rw [within_zero_iff.mp near]
      exact ⟨0, Nat.le_refl 0, started⟩
  | succ bound ih =>
      rcases coherent.within_succ_iff.mp near with rfl | ⟨middle, feeds, nearer⟩
      · exact ⟨0, Nat.zero_le _, started⟩
      · obtain ⟨depth, small, expanded⟩ := ih (by omega) nearer
        obtain ⟨least, below, found⟩ :=
          (settled middle depth expanded place feeds).2 (depth + 1) (if_pos (by omega))
        exact ⟨least, by omega, found⟩

/-- **The sweep lists the producers of all types within four filters of the destination,**
where they belong into the list. -/
theorem Coherent.mem_found_iff (coherent : graph.Coherent) {state : SweepState}
    {dest : MediaTypeId} (sound : graph.Sound dest state)
    (started : state.expandedAt[dest]? = some 0)
    (settled : ∀ place, graph.Settled dest state place) {source : MediaTypeId} :
    source ∈ state.found ↔ graph.isReportable dest source = true ∧
      ∃ middle, source ∈ graph.producersOf middle ∧ graph.Within maxReachDepth middle dest := by
  constructor
  · intro listed
    obtain ⟨_, reportable, near⟩ := sound.listed source listed
    refine ⟨reportable, ?_⟩
    rcases coherent.within_succ_iff.mp near with rfl | nearer
    · -- the destination itself is only listed for a filter to itself
      have looped := (coherent.isReportable_iff.mp reportable).2 rfl
      exact ⟨source, looped, .refl graph maxReachDepth source⟩
    · exact nearer
  · rintro ⟨reportable, middle, feeds, near⟩
    obtain ⟨depth, _, expanded⟩ :=
      coherent.expandedAt_le started settled (Nat.le_refl maxReachDepth) near
    exact (settled middle depth expanded source feeds).1 reportable

end FilterGraph

end PrintPlanner
