import PrintPlanner.Chain.Search
import PrintPlanner.Proofs.Chain.Enumeration

/-!
# The search against the enumeration

The search keeps one best chain, follows no filter that alone costs as much, and takes early
returns, yet in either mode it returns the selection from the exhaustive enumeration
(`FilterGraph.Coherent.search_eq`).  In particular it never breaks off.  Hence every answer is
the selection from the candidates between two types (`FilterGraph.Coherent.resolveChain_eq`),
which are the simple walks, or the filter from a type to itself.
-/

set_option autoImplicit false

namespace PrintPlanner

namespace FilterGraph

/-- Some filters as a chain. -/
def chainOf (graph : FilterGraph) (handles : List FilterId) : FilterChain :=
  ⟨handles, .ofNat (graph.costOf handles)⟩

variable {graph : FilterGraph}

theorem chainOf_single {handle : FilterId} {filter : Filter}
    (live : graph.filter? handle = some filter) :
    graph.chainOf [handle] = .single handle filter := by
  simp [chainOf, FilterChain.single, costOf_cons live]

theorem chainOf_cons {handle : FilterId} {filter : Filter}
    (live : graph.filter? handle = some filter) (rest : List FilterId) :
    graph.chainOf (handle :: rest) = (graph.chainOf rest).cons handle filter := by
  simp [chainOf, FilterChain.cons, costOf_cons live, UInt64.ofNat_add, UInt64.add_comm]

theorem toNat_cost_chainOf {handles : List FilterId}
    (small : graph.costOf handles < UInt64.size) :
    (graph.chainOf handles).cost.toNat = graph.costOf handles :=
  UInt64.toNat_ofNat_of_lt small

end FilterGraph

namespace ChainQuery

open FilterGraph

variable {graph : FilterGraph}

/-- Comparing words compares the exact costs, as long as these fit. -/
theorem prunes_chainOf {best : List FilterId} (small : graph.costOf best < UInt64.size)
    (filter : Filter) :
    prunes (some (graph.chainOf best)) filter = true ↔
      graph.costOf best ≤ filter.cost.toNat := by
  simp only [prunes, Option.any_some, decide_eq_true_eq, UInt64.le_iff_toNat_le,
    toNat_cost_chainOf small, UInt32.toNat_toUInt64]

theorem improves_chainOf {best chain : List FilterId} (small : graph.costOf best < UInt64.size)
    (smallChain : graph.costOf chain < UInt64.size) :
    improves (some (graph.chainOf best)) (graph.chainOf chain) = true ↔
      graph.costOf chain < graph.costOf best := by
  simp only [improves, Option.all_some, decide_eq_true_eq, UInt64.lt_iff_toNat_lt,
    toNat_cost_chainOf small, toNat_cost_chainOf smallChain]

end ChainQuery

namespace FilterGraph

variable {graph : FilterGraph} {mode : SearchMode} {best : Option (List FilterId)}

/-- What is kept of the best chain so far: its cost fits into a word, and there is none yet where
the first chain ends the search. -/
structure Incumbent (graph : FilterGraph) (mode : SearchMode) (best : Option (List FilterId)) :
    Prop where
  small : ∀ chain, best = some chain → graph.costOf chain < UInt64.size
  undecided : mode = .firstFound → best = none

/-- A chain that does not improve on the best one leaves it standing. -/
theorem Incumbent.prefer_of_not_improves (incumbent : graph.Incumbent mode best)
    {chain : List FilterId} (smallChain : graph.costOf chain < UInt64.size)
    (worse : ¬ ChainQuery.improves (best.map graph.chainOf) (graph.chainOf chain) = true) :
    graph.prefer mode best (some chain) = best := by
  cases best with
  | none => simp [ChainQuery.improves] at worse
  | some first =>
      cases mode with
      | firstFound => cases incumbent.undecided rfl
      | cheapest =>
          rw [Option.map_some,
            ChainQuery.improves_chainOf (incumbent.small _ rfl) smallChain] at worse
          rw [prefer, if_pos (Nat.le_of_not_lt worse)]

/-- A chain that improves on the best one replaces it. -/
theorem Incumbent.prefer_of_improves (incumbent : graph.Incumbent mode best)
    {chain : List FilterId} (smallChain : graph.costOf chain < UInt64.size)
    (better : ChainQuery.improves (best.map graph.chainOf) (graph.chainOf chain) = true) :
    graph.prefer mode best (some chain) = some chain := by
  cases best with
  | none => simp
  | some first =>
      cases mode with
      | firstFound => cases incumbent.undecided rfl
      | cheapest =>
          rw [Option.map_some,
            ChainQuery.improves_chainOf (incumbent.small _ rfl) smallChain] at better
          rw [prefer, if_neg (Nat.not_le_of_lt better)]

/-- The chains through a filter that alone costs as much as the best chain do not matter. -/
theorem Incumbent.prefer_select_of_prunes (incumbent : graph.Incumbent mode best)
    {chains : List (List FilterId)} {filter : Filter}
    (dear : ∀ chain ∈ chains, filter.cost.toNat ≤ graph.costOf chain)
    (pruned : ChainQuery.prunes (best.map graph.chainOf) filter = true) :
    graph.prefer mode best (graph.select mode chains) = best := by
  cases best with
  | none => simp [ChainQuery.prunes] at pruned
  | some first =>
      cases mode with
      | firstFound => cases incumbent.undecided rfl
      | cheapest =>
          rw [Option.map_some, ChainQuery.prunes_chainOf (incumbent.small _ rfl)] at pruned
          cases chosen : graph.select .cheapest chains with
          | none => simp
          | some chain =>
              have least := dear chain (select_mem chosen)
              rw [prefer, if_pos (Nat.le_trans pruned least)]

/-- The direct filter is the selection from the direct chains, of which there is at most one. -/
theorem direct?_eq (size : UInt64) (current dest : MediaTypeId) :
    (ChainQuery.mk graph.indexed size dest mode).direct? current =
      (graph.select mode (graph.directChains size current dest)).map graph.chainOf := by
  unfold ChainQuery.direct? directChains
  simp only [lookupDirect?_indexed, filter?_indexed]
  cases graph.lookupDirect? current dest with
  | none => simp
  | some handle =>
      cases live : graph.filter? handle with
      | none => simp [live]
      | some filter =>
          by_cases takes : filter.accepts size = true
          · simp [live, takes, select_cons, chainOf_single live]
          · simp [live, takes]

/-! ## One type's outgoing filters -/

section Scan

variable (coherent : graph.Coherent) {size : UInt64} {dest : MediaTypeId}
  {path : List MediaTypeId}
include coherent

theorem Coherent.chainsVia_of_onward {handle : FilterId} {filter : Filter}
    (live : graph.filter? handle = some filter)
    (onward : filter.dest ≠ dest ∧ filter.dest ∉ path ∧ filter.accepts size = true) :
    graph.chainsVia size dest path (handle, filter) =
      (graph.chainsFrom size dest (filter.dest :: path) filter.dest).map (handle :: ·) := by
  have known := coherent.mem_handles.mpr (coherent.registered handle filter live).2
  rw [chainsVia, if_pos ⟨onward.1, onward.2.1, onward.2.2, known⟩]

theorem Coherent.costOf_lt_of_mem_chainsVia {handle : FilterId} {filter : Filter}
    (destAhead : dest ∉ path) (live : graph.filter? handle = some filter) {chain : List FilterId}
    (listed : chain ∈ graph.chainsVia size dest path (handle, filter)) :
    graph.costOf chain < UInt64.size := by
  have among : (handle, filter) ∈ graph.filtersFrom filter.source :=
    coherent.mem_filtersFrom.mpr ⟨live, rfl⟩
  have listedFrom : chain ∈ graph.chainsFrom size dest path filter.source := by
    rw [chainsFrom_eq]
    exact List.mem_append_right _ (List.mem_flatMap.mpr ⟨_, among, listed⟩)
  exact coherent.costOf_lt_of_mem_chainsFrom destAhead listedFrom

omit coherent in
/-- No chain begins with a filter into the destination, into the path, or of too small a limit. -/
theorem chainsVia_eq_nil {handle : FilterId} {filter : Filter}
    (skipped : filter.dest = dest ∨ filter.dest ∈ path ∨ filter.accepts size = false) :
    graph.chainsVia size dest path (handle, filter) = [] := by
  rcases skipped with arrives | seen | refuses
  · simp [chainsVia, arrives]
  · simp [chainsVia, seen]
  · simp [chainsVia, refuses]

/-- The best chain so far or a better one that begins with the filter. -/
def preferVia (graph : FilterGraph) (mode : SearchMode) (size : UInt64) (dest : MediaTypeId)
    (path : List MediaTypeId) (best : Option (List FilterId)) (entry : FilterId × Filter) :
    Option (List FilterId) :=
  graph.prefer mode best (graph.select mode (graph.chainsVia size dest path entry))

theorem Coherent.incumbent_preferVia (incumbent : graph.Incumbent mode best)
    {handle : FilterId} {filter : Filter} (destAhead : dest ∉ path)
    (live : graph.filter? handle = some filter)
    (goesOn : ¬ (mode = .firstFound ∧
      (graph.preferVia mode size dest path best (handle, filter)).isSome = true)) :
    graph.Incumbent mode (graph.preferVia mode size dest path best (handle, filter)) := by
  refine ⟨fun chain chosen => ?_, fun first => ?_⟩
  · rcases prefer_mem chosen with old | new
    · exact incumbent.small chain old
    · exact coherent.costOf_lt_of_mem_chainsVia destAhead live (select_mem new)
  · rw [← Option.not_isSome_iff_eq_none]
    exact fun found => goesOn ⟨first, found⟩

/-- What `explore` must do: it selects from the chains of every type that is not yet on the
path. -/
def Explored (graph : FilterGraph) (mode : SearchMode) (size : UInt64) (dest : MediaTypeId)
    (path : List MediaTypeId)
    (explore : List MediaTypeId → MediaTypeId → Except SearchFault (Option FilterChain)) : Prop :=
  ∀ next, graph.types.contains next = true → next ≠ dest → next ∉ path →
    explore (next :: path) next = .ok
      ((graph.select mode (graph.chainsFrom size dest (next :: path) next)).map graph.chainOf)

variable {explore : List MediaTypeId → MediaTypeId → Except SearchFault (Option FilterChain)}

/-- **One filter**: the scan goes on with the best chain so far or a better one that begins with
the filter, or stops with the first one. -/
theorem Coherent.scan_cons (destAhead : dest ∉ path)
    (explores : graph.Explored mode size dest path explore) {handle : FilterId} {filter : Filter}
    (live : graph.filter? handle = some filter) (rest : List (FilterId × Filter))
    (incumbent : graph.Incumbent mode best) :
    (ChainQuery.mk graph.indexed size dest mode).scan explore path ((handle, filter) :: rest)
        (best.map graph.chainOf) =
      if mode = .firstFound ∧
          (graph.preferVia mode size dest path best (handle, filter)).isSome = true then
        .ok ((graph.preferVia mode size dest path best (handle, filter)).map graph.chainOf)
      else (ChainQuery.mk graph.indexed size dest mode).scan explore path rest
        ((graph.preferVia mode size dest path best (handle, filter)).map graph.chainOf) := by
  have known := (coherent.registered handle filter live).2
  have notEarly : ¬ (mode = .firstFound ∧ best.isSome = true) := by
    rintro ⟨first, found⟩
    rw [incumbent.undecided first] at found
    contradiction
  rw [ChainQuery.scan]
  simp only [types_indexed, known, Bool.not_true, Bool.false_eq_true, if_false,
    Bool.or_eq_true, decide_eq_true_eq, Bool.not_eq_true']
  by_cases arrives : filter.dest = dest
  · have stays : graph.preferVia mode size dest path best (handle, filter) = best := by
      rw [preferVia, chainsVia_eq_nil (.inl arrives), select_nil, prefer_none_right]
    rw [if_pos arrives, stays, if_neg notEarly]
  rw [if_neg arrives]
  by_cases blocked : filter.dest ∈ path ∨ filter.accepts size = false
  · have stays : graph.preferVia mode size dest path best (handle, filter) = best := by
      rw [preferVia, chainsVia_eq_nil (.inr blocked), select_nil, prefer_none_right]
    rw [if_pos (.inl blocked), stays, if_neg notEarly]
  have onward : filter.dest ≠ dest ∧ filter.dest ∉ path ∧ filter.accepts size = true := by
    simpa [arrives] using blocked
  have via := coherent.chainsVia_of_onward live onward
  by_cases pruned : ChainQuery.prunes (best.map graph.chainOf) filter = true
  · have dear : ∀ chain ∈ graph.chainsVia size dest path (handle, filter),
        filter.cost.toNat ≤ graph.costOf chain := by
      rw [via]
      intro chain member
      obtain ⟨tail, _, rfl⟩ := List.mem_map.mp member
      rw [costOf_cons live]
      exact Nat.le_add_right _ _
    have stays : graph.preferVia mode size dest path best (handle, filter) = best :=
      incumbent.prefer_select_of_prunes dear pruned
    rw [if_pos (.inr pruned), stays, if_neg notEarly]
  rw [if_neg (by simp [blocked, pruned]), explores _ known onward.1 onward.2.1]
  cases chosen : graph.select mode
      (graph.chainsFrom size dest (filter.dest :: path) filter.dest) with
  | none =>
      have stays : graph.preferVia mode size dest path best (handle, filter) = best := by
        rw [preferVia, via, select_map_cons, chosen, Option.map_none, prefer_none_right]
      rw [stays, if_neg notEarly]
      rfl
  | some tail =>
      have listed : handle :: tail ∈ graph.chainsVia size dest path (handle, filter) := by
        rw [via]
        exact List.mem_map.mpr ⟨tail, select_mem chosen, rfl⟩
      have smallChain := coherent.costOf_lt_of_mem_chainsVia destAhead live listed
      have offers : graph.preferVia mode size dest path best (handle, filter) =
          graph.prefer mode best (some (handle :: tail)) := by
        rw [preferVia, via, select_map_cons, chosen, Option.map_some]
      simp only [Option.map_some, ← chainOf_cons live]
      by_cases better : ChainQuery.improves (best.map graph.chainOf)
          (graph.chainOf (handle :: tail)) = true
      · rw [if_pos better, offers, incumbent.prefer_of_improves smallChain better]
        simp
      · rw [if_neg better, offers, incumbent.prefer_of_not_improves smallChain better,
          if_neg notEarly]

/-- Scanning some filters with a best chain so far selects from that chain and the chains that
begin with the filters. -/
theorem Coherent.scan_eq (destAhead : dest ∉ path)
    (explores : graph.Explored mode size dest path explore)
    (entries : List (FilterId × Filter))
    (live : ∀ entry ∈ entries, graph.filter? entry.1 = some entry.2)
    (best : Option (List FilterId)) (incumbent : graph.Incumbent mode best) :
    (ChainQuery.mk graph.indexed size dest mode).scan explore path entries
        (best.map graph.chainOf) =
      .ok ((graph.prefer mode best
        (graph.select mode (entries.flatMap (graph.chainsVia size dest path)))).map
          graph.chainOf) := by
  induction entries generalizing best with
  | nil => simp [ChainQuery.scan]
  | cons entry rest ih =>
      obtain ⟨handle, filter⟩ := entry
      have liveHere : graph.filter? handle = some filter := live _ List.mem_cons_self
      have liveRest := fun entry member => live entry (List.mem_cons_of_mem (handle, filter) member)
      rw [coherent.scan_cons destAhead explores liveHere rest incumbent, List.flatMap_cons,
        select_append, ← prefer_assoc]
      by_cases early : mode = .firstFound ∧
          (graph.preferVia mode size dest path best (handle, filter)).isSome = true
      · obtain ⟨chain, found⟩ := Option.isSome_iff_exists.mp early.2
        rw [if_pos early]
        unfold preferVia at found ⊢
        rw [found, early.1, prefer_firstFound_some]
      · rw [if_neg early]
        exact ih liveRest _ (coherent.incumbent_preferVia incumbent destAhead liveHere early)

/-! ## The whole search -/

/-- **The search returns the selection from the enumeration**, if it may take one nested step
more than there are types to visit. -/
theorem Coherent.search_eq {steps : Nat} {current : MediaTypeId} (destAhead : dest ∉ path)
    (enough : (graph.unvisited path).length < steps) :
    (ChainQuery.mk graph.indexed size dest mode).search steps path current =
      .ok ((graph.select mode (graph.chainsFrom size dest path current)).map
        graph.chainOf) := by
  induction steps generalizing path current with
  | zero => cases enough
  | succ steps ih =>
      have explores : graph.Explored mode size dest path
          ((ChainQuery.mk graph.indexed size dest mode).search steps) := by
        intro next known passes fresh
        have fewer := length_unvisited_cons (coherent.mem_handles.mpr known) fresh
        exact ih (by simp [passes.symm, destAhead]) (by omega)
      have live : ∀ entry ∈ graph.filtersFrom current, graph.filter? entry.1 = some entry.2 :=
        fun _ member => (coherent.mem_filtersFrom.mp member).1
      have small : ∀ chain, graph.select mode (graph.directChains size current dest) = some chain →
          graph.costOf chain < UInt64.size := by
        intro chain chosen
        have listed : chain ∈ graph.chainsFrom size dest path current := by
          rw [chainsFrom_eq]
          exact List.mem_append_left _ (select_mem chosen)
        exact coherent.costOf_lt_of_mem_chainsFrom destAhead listed
      unfold ChainQuery.search
      rw [chainsFrom_eq, select_append, direct?_eq size current dest]
      by_cases early : mode = .firstFound ∧
          (graph.select mode (graph.directChains size current dest)).isSome = true
      · obtain ⟨rfl, found⟩ := early
        obtain ⟨chain, chosen⟩ := Option.isSome_iff_exists.mp found
        rw [chosen, prefer_firstFound_some]
        rfl
      · have undecided : mode = .firstFound →
            graph.select mode (graph.directChains size current dest) = none := by
          intro first
          simpa [first] using early
        rw [if_neg (by simpa using early)]
        exact coherent.scan_eq destAhead explores _ live _ ⟨small, undecided⟩

end Scan

/-! ## Answers -/

/-- The chains between two types: the filter from a type to itself, or else all chains of the
enumeration. -/
def candidates (graph : FilterGraph) (source : MediaTypeId) (size : UInt64)
    (dest : MediaTypeId) : List (List FilterId) :=
  if !(graph.types.contains source && graph.types.contains dest) then []
  else if source = dest then graph.directChains size source dest
  else graph.chainsFrom size dest [source] source

section Answers

variable (coherent : graph.Coherent) {source dest : MediaTypeId} {size : UInt64}
include coherent

/-- **A chain is always searched to the end, and the answer is the selection from all
candidates.** -/
theorem Coherent.resolveChain_eq (source : MediaTypeId) (size : UInt64) (dest : MediaTypeId)
    (mode : SearchMode) :
    graph.resolveChain source size dest mode =
      .ok ((graph.select mode (graph.candidates source size dest)).map graph.chainOf) := by
  unfold resolveChain candidates
  by_cases known : (graph.types.contains source && graph.types.contains dest) = true
  · simp only [known, Bool.not_true, Bool.false_eq_true, if_false]
    by_cases same : source = dest
    · rw [if_pos same, if_pos same, direct?_eq]
    · rw [if_neg same, if_neg same]
      have registered := coherent.mem_handles.mpr (Bool.and_eq_true_iff.mp known).1
      have enough : (graph.unvisited [source]).length < graph.types.size := by
        have fewer := length_unvisited_cons registered List.not_mem_nil
        simpa [unvisited] using fewer
      exact coherent.search_eq (by simpa using Ne.symm same) enough
  · simp [known]

/-- Graphs with the same candidates at the same costs return the same chain. -/
theorem Coherent.resolveChain_congr {older : FilterGraph} (olderCoherent : older.Coherent)
    (same : graph.candidates source size dest = older.candidates source size dest)
    (costs : ∀ chain ∈ older.candidates source size dest,
      graph.costOf chain = older.costOf chain) (mode : SearchMode) :
    graph.resolveChain source size dest mode = older.resolveChain source size dest mode := by
  rw [coherent.resolveChain_eq, olderCoherent.resolveChain_eq, same, select_congr costs]
  cases chosen : older.select mode (older.candidates source size dest) with
  | none => rfl
  | some chain => simp only [Option.map_some, chainOf, costs chain (select_mem chosen)]

/-- The candidates between different types are the simple walks. -/
theorem Coherent.mem_candidates (apart : source ≠ dest) {handles : List FilterId} :
    handles ∈ graph.candidates source size dest ↔
      (graph.types.contains source = true ∧ graph.types.contains dest = true) ∧
        graph.SimpleWalk size source handles dest := by
  unfold candidates
  by_cases known : (graph.types.contains source && graph.types.contains dest) = true
  · simp [apart, coherent.mem_chainsFrom_self apart, Bool.and_eq_true_iff.mp known]
  · have unknown : ¬ (graph.types.contains source = true ∧ graph.types.contains dest = true) := by
      simpa using known
    simp [known, unknown]

/-- The only candidate from a type to itself is the filter between the two. -/
theorem Coherent.mem_candidates_self {handles : List FilterId} :
    handles ∈ graph.candidates source size source ↔
      ∃ handle filter, handles = [handle] ∧ graph.filter? handle = some filter ∧
        filter.source = source ∧ filter.dest = source ∧ filter.accepts size = true := by
  unfold candidates
  by_cases known : graph.types.contains source = true
  · simp [known, coherent.mem_directChains]
  · have noFilter : ∀ handle filter, graph.filter? handle = some filter →
        filter.source ≠ source := by
      rintro handle filter live rfl
      exact known (coherent.registered handle filter live).1
    simp only [known, Bool.and_self, Bool.not_false, if_true, List.not_mem_nil, false_iff]
    rintro ⟨handle, filter, _, live, start, _⟩
    exact noFilter handle filter live start

/-- Candidates are walks. -/
theorem Coherent.walk_of_mem_candidates {handles : List FilterId}
    (listed : handles ∈ graph.candidates source size dest) :
    graph.Walk size source handles dest := by
  by_cases same : source = dest
  · subst same
    obtain ⟨handle, filter, rfl, live, rfl, back, takes⟩ := coherent.mem_candidates_self.mp listed
    exact .cons live takes (walk_nil_iff.mpr back)
  · exact ((coherent.mem_candidates same).mp listed).2.walk

/-- The cost of a candidate fits into a long word. -/
theorem Coherent.costOf_lt_of_mem_candidates {handles : List FilterId}
    (listed : handles ∈ graph.candidates source size dest) :
    graph.costOf handles < UInt64.size := by
  refine costOf_lt ?_
  by_cases same : source = dest
  · subst same
    obtain ⟨handle, filter, rfl, _⟩ := coherent.mem_candidates_self.mp listed
    exact Nat.succ_le_of_lt (by decide)
  · obtain ⟨⟨registered, _⟩, simple⟩ := (coherent.mem_candidates same).mp listed
    exact Nat.le_trans (Nat.le_of_lt (simple.length_lt coherent registered))
      coherent.types.size_le

end Answers

end FilterGraph

end PrintPlanner
