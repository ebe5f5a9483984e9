import Mathlib.Order.Bounds.Basic
import PrintPlanner.Proofs.Reach.Agreement

/-!
# Depths are distances

A sweep descends depth first.  It may come upon a type at the end of a detour, record it too deep
and cut off what lies below, long before it meets the same type on a shorter way.  Once the sweep
has finished, the depth of a type is nevertheless the least number of filters that lead from it to
the destination (`FilterGraph.Coherent.expandedAt_eq_some_iff`): so many filters do lead there, and
fewer would have settled the type at a smaller depth.  Types farther away than the sweep descends
have no depth.  As distances know nothing of the order in which filters were registered, neither do
the depths (`FilterGraph.sweep_depths_exact`), although the list of the sweep follows that order.
-/

set_option autoImplicit false

namespace PrintPlanner.FilterGraph

variable {graph other : FilterGraph} {source dest place : MediaTypeId} {depth bound : Nat}

/-! ## Distances -/

/-- The numbers of filters with which walks lead from `source` to `dest`.  The size zero admits
every filter, so these are walks over any filters of the graph. -/
def walkLengths (graph : FilterGraph) (source dest : MediaTypeId) : Set Nat :=
  {count | ∃ handles, graph.Walk 0 source handles dest ∧ handles.length = count}

theorem within_iff_exists_walkLength :
    graph.Within bound source dest ↔ ∃ count ∈ graph.walkLengths source dest, count ≤ bound := by
  constructor
  · rintro ⟨handles, walk, few⟩
    exact ⟨handles.length, ⟨handles, walk, rfl⟩, few⟩
  · rintro ⟨_, ⟨handles, walk, rfl⟩, few⟩
    exact ⟨handles, walk, few⟩

/-- The distance is the least bound within which a type lies. -/
theorem isLeast_walkLengths_iff :
    IsLeast (graph.walkLengths source dest) depth ↔
      graph.Within depth source dest ∧ ∀ bound, graph.Within bound source dest → depth ≤ bound := by
  constructor
  · rintro ⟨attained, least⟩
    refine ⟨within_iff_exists_walkLength.mpr ⟨depth, attained, Nat.le_refl depth⟩, ?_⟩
    intro bound near
    obtain ⟨count, walked, few⟩ := within_iff_exists_walkLength.mp near
    exact Nat.le_trans (least walked) few
  · rintro ⟨near, least⟩
    have below : depth ∈ lowerBounds (graph.walkLengths source dest) := by
      intro count walked
      exact least count (within_iff_exists_walkLength.mpr ⟨count, walked, Nat.le_refl count⟩)
    obtain ⟨count, walked, few⟩ := within_iff_exists_walkLength.mp near
    have same : count = depth := Nat.le_antisymm few (below walked)
    exact ⟨same ▸ walked, below⟩

/-- Graphs whose types have the same producers have the same types within each bound. -/
theorem Coherent.within_congr (coherent : graph.Coherent) (otherCoherent : other.Coherent)
    (same : ∀ place source, source ∈ other.producersOf place ↔ source ∈ graph.producersOf place) :
    other.Within bound source dest ↔ graph.Within bound source dest := by
  induction bound generalizing source with
  | zero => rw [within_zero_iff, within_zero_iff]
  | succ bound ih => simp only [otherCoherent.within_succ_iff, coherent.within_succ_iff, same, ih]

/-- The same producers make the same distances. -/
theorem Coherent.isLeast_walkLengths_congr (coherent : graph.Coherent)
    (otherCoherent : other.Coherent)
    (same : ∀ place source, source ∈ other.producersOf place ↔ source ∈ graph.producersOf place) :
    IsLeast (other.walkLengths source dest) depth ↔
      IsLeast (graph.walkLengths source dest) depth := by
  rw [isLeast_walkLengths_iff, isLeast_walkLengths_iff]
  simp only [coherent.within_congr otherCoherent same]

/-! ## The depths of a finished sweep -/

section Finished

variable {state : SweepState} (coherent : graph.Coherent) (sound : graph.Sound dest state)
  (started : state.expandedAt[dest]? = some 0)
  (settled : ∀ place, graph.Settled dest state place)
include coherent sound started settled

/-- **A depth is recorded exactly where it is the distance,** and the sweep descends as far. -/
theorem Coherent.expandedAt_eq_some_iff :
    state.expandedAt[place]? = some depth ↔
      IsLeast (graph.walkLengths place dest) depth ∧ depth ≤ maxReachDepth := by
  rw [isLeast_walkLengths_iff]
  constructor
  · intro expanded
    have shallow := sound.bounded place depth expanded
    refine ⟨⟨sound.near place depth expanded, fun bound near => ?_⟩, shallow⟩
    by_contra shorter
    -- a walk that is shorter than the depth would have settled the type at its own length
    obtain ⟨recorded, small, found⟩ := coherent.expandedAt_le started settled (by omega) near
    rw [expanded] at found
    cases found
    exact shorter small
  · rintro ⟨⟨near, least⟩, shallow⟩
    obtain ⟨recorded, small, found⟩ := coherent.expandedAt_le started settled shallow near
    have large : depth ≤ recorded := least recorded (sound.near place recorded found)
    rw [found, Nat.le_antisymm small large]

theorem Coherent.expandedAt_eq_none_iff :
    state.expandedAt[place]? = none ↔
      ∀ depth, IsLeast (graph.walkLengths place dest) depth → maxReachDepth < depth := by
  rw [Option.eq_none_iff_forall_ne_some]
  refine forall_congr' fun depth => ?_
  rw [ne_eq, coherent.expandedAt_eq_some_iff sound started settled, not_and, Nat.not_le]

end Finished

/-- **The depths of a finished sweep are the exact distances to the destination,** with the
destination itself at depth zero.  A type has no depth exactly if it is farther away than the sweep
descends or no filters lead from it to the destination.  The order in which producers were
registered makes no difference to any depth. -/
theorem sweep_depths_exact (reachable : graph.Reachable)
    (registered : graph.types.contains dest = true) :
    ∃ state, graph.sweep dest = .ok state ∧ graph.reachableSourceIds dest = .ok state.found ∧
      state.expandedAt[dest]? = some 0 ∧
      (∀ place depth, state.expandedAt[place]? = some depth ↔
        IsLeast (graph.walkLengths place dest) depth ∧ depth ≤ maxReachDepth) ∧
      (∀ place, state.expandedAt[place]? = none ↔
        ∀ depth, IsLeast (graph.walkLengths place dest) depth → maxReachDepth < depth) ∧
      ∀ other : FilterGraph, other.Reachable →
        (∀ place, (other.producersOf place).Perm (graph.producersOf place)) →
        ∃ otherState, other.sweep dest = .ok otherState ∧
          ∀ place : MediaTypeId, otherState.expandedAt[place]? = state.expandedAt[place]? := by
  have coherent := reachable.coherent
  obtain ⟨state, swept, sound, started, settled⟩ := coherent.sweep_settles dest
  refine ⟨state, swept, ?_, started, ?_, ?_, ?_⟩
  · rw [reachableSourceIds, if_pos registered, swept]
    rfl
  · intro place depth
    exact coherent.expandedAt_eq_some_iff sound started settled
  · intro place
    exact coherent.expandedAt_eq_none_iff sound started settled
  · intro other otherReachable reordered
    have otherCoherent := otherReachable.coherent
    obtain ⟨otherState, otherSwept, otherSound, otherStarted, otherSettled⟩ :=
      otherCoherent.sweep_settles dest
    refine ⟨otherState, otherSwept, fun place => ?_⟩
    apply Option.ext
    intro depth
    have sameDistance : IsLeast (other.walkLengths place dest) depth ↔
        IsLeast (graph.walkLengths place dest) depth :=
      coherent.isLeast_walkLengths_congr otherCoherent fun target _ => (reordered target).mem_iff
    rw [otherCoherent.expandedAt_eq_some_iff otherSound otherStarted otherSettled,
      coherent.expandedAt_eq_some_iff sound started settled, sameDistance]

/-- Troff passes to Markdown, the last type of the shortcut that a sweep expands. -/
def troffEdits : List GraphEdit :=
  [.addType "text" "troff", .addFilter ⟨7⟩ ⟨6⟩ 1 "trofftomd"]

/-- The seven types of the shortcut and Troff, and then the filters of the shortcut in the opposite
order, so that PostScript is met on the short way first. -/
def shortcutFirstEdits : List GraphEdit :=
  shortcutEdits.take 7 ++ troffEdits ++ (shortcutEdits.drop 7).reverse

/-- In the one order PostScript is met at depth three first, too deep for Text below it to be
expanded, and in the other at depth one.  Both sweeps end with the same depths, Markdown at the
bound and Troff beyond it. -/
theorem sweep_depths_exact_shortcut :
    let graph := empty.after (shortcutEdits ++ troffEdits)
    let other := empty.after shortcutFirstEdits
    (graph.Reachable ∧ graph.types.contains ⟨0⟩ = true ∧ other.Reachable ∧
        ∀ place, (other.producersOf place).Perm (graph.producersOf place)) ∧
      graph.producersOf ⟨0⟩ = [⟨1⟩, ⟨3⟩] ∧ other.producersOf ⟨0⟩ = [⟨3⟩, ⟨1⟩] ∧
      ∃ state otherState, graph.sweep ⟨0⟩ = .ok state ∧ other.sweep ⟨0⟩ = .ok otherState ∧
        state.expandedAt.toList =
          [(⟨0⟩, 0), (⟨1⟩, 1), (⟨2⟩, 2), (⟨3⟩, 1), (⟨4⟩, 2), (⟨5⟩, 3), (⟨6⟩, 4)] ∧
        IsLeast (graph.walkLengths ⟨6⟩ ⟨0⟩) 4 ∧
        (∀ depth, IsLeast (graph.walkLengths ⟨7⟩ ⟨0⟩) depth → maxReachDepth < depth) ∧
        ∀ place : MediaTypeId, otherState.expandedAt[place]? = state.expandedAt[place]? := by
  intro graph other
  have reachable : graph.Reachable := ⟨shortcutEdits ++ troffEdits, rfl⟩
  have otherReachable : other.Reachable := ⟨shortcutFirstEdits, rfl⟩
  have registered : graph.types.contains ⟨0⟩ = true := by decide +kernel
  have sameFilters : (other.filters.map Prod.snd).Perm (graph.filters.map Prod.snd) := by
    decide +kernel
  have reordered : ∀ place, (other.producersOf place).Perm (graph.producersOf place) := by
    intro place
    have into := (sameFilters.filter (·.dest = place)).map Filter.source
    rw [List.filter_map, List.filter_map, List.map_map, List.map_map] at into
    rw [otherReachable.coherent.producersOf_eq, reachable.coherent.producersOf_eq]
    exact into
  have depths : (graph.sweep ⟨0⟩).map (·.expandedAt.toList) =
      .ok [(⟨0⟩, 0), (⟨1⟩, 1), (⟨2⟩, 2), (⟨3⟩, 1), (⟨4⟩, 2), (⟨5⟩, 3), (⟨6⟩, 4)] := by
    decide +kernel
  obtain ⟨state, swept, _, _, exactly, beyond, alike⟩ := sweep_depths_exact reachable registered
  obtain ⟨otherState, otherSwept, same⟩ := alike other otherReachable reordered
  rw [swept] at depths
  have recorded : state.expandedAt.toList =
      [(⟨0⟩, 0), (⟨1⟩, 1), (⟨2⟩, 2), (⟨3⟩, 1), (⟨4⟩, 2), (⟨5⟩, 3), (⟨6⟩, 4)] :=
    Except.ok.inj depths
  have markdown : state.expandedAt[(⟨6⟩ : MediaTypeId)]? = some 4 := by
    rw [← Std.TreeMap.mem_toList_iff_getElem?_eq_some, recorded]
    decide
  have troff : state.expandedAt[(⟨7⟩ : MediaTypeId)]? = none := by
    rw [Option.eq_none_iff_forall_ne_some]
    intro depth found
    rw [← Std.TreeMap.mem_toList_iff_getElem?_eq_some, recorded] at found
    simp at found
  exact ⟨⟨reachable, registered, otherReachable, reordered⟩, by decide +kernel, by decide +kernel,
    state, otherState, swept, otherSwept, recorded, ((exactly ⟨6⟩ 4).mp markdown).1,
    (beyond ⟨7⟩).mp troff, same⟩

end PrintPlanner.FilterGraph
