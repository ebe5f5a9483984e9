import PrintPlanner.Proofs.Chain.TieBreaking
import PrintPlanner.Proofs.Graph.Handles
import PrintPlanner.Proofs.Graph.NewTarget
import PrintPlanner.Proofs.Query.Inbound

/-!
# Queries that a new type leaves alone

The filters into a new type stand in the lists that a search walks through, so a search from an
old type does look at the new one.  It comes to a dead end there
(`FilterGraph.GrownInto.chainsFrom_target`), and all chains between old types are enumerated as
they were, in the same order.  What leads into an old type is old, so its sources and its signature
are the old ones as well (`FilterGraph.GrownInto.sameInto`).  So whatever is asked about old types
is answered as before (`FilterGraph.GrownInto.keepsAnswers`).
-/

set_option autoImplicit false

namespace PrintPlanner.FilterGraph

/-- What the older graph answers about its own handles, the graph answers too. -/
structure KeepsAnswers (graph older : FilterGraph) : Prop where
  types : graph.types.Extends older.types
  names : ∀ superType subType handle, older.types.lookup? superType subType = some handle →
    graph.types.lookup? superType subType = some handle
  /-- A handle that was given out keeps its filter, and if the filter was removed, it has none. -/
  filters : ∀ handle, handle.index < older.slots.size →
    graph.filter? handle = older.filter? handle
  pairs : ∀ source dest, older.types.contains dest = true →
    graph.lookupDirect? source dest = older.lookupDirect? source dest
  chains : ∀ source dest, older.types.contains source = true →
    older.types.contains dest = true → ∀ size mode,
      graph.resolveChain source size dest mode = older.resolveChain source size dest mode
  sourceIds : ∀ dest, older.types.contains dest = true →
    graph.reachableSourceIds dest = older.reachableSourceIds dest
  sources : ∀ dest, older.types.contains dest = true →
    graph.reachableSources dest = older.reachableSources dest
  signatures : ∀ dest, older.types.contains dest = true →
    graph.signature dest = older.signature dest

variable {graph older : FilterGraph} {target source dest current : MediaTypeId} {size : UInt64}
  {mode : SearchMode} {visited : List MediaTypeId}

/-! ## Chains -/

section Chains

variable (grown : graph.GrownInto older target) (coherent : graph.Coherent)
  (olderCoherent : older.Coherent)
include grown coherent olderCoherent

omit coherent in
/-- What leaves the new type comes back to it. -/
theorem GrownInto.dest_eq_of_source_eq {handle : FilterId} {filter : Filter}
    (live : graph.filter? handle = some filter) (leaves : filter.source = target) :
    filter.dest = target := by
  by_contra apart
  have old := (grown.filter?_iff apart).mp live
  exact grown.ne_target (olderCoherent.registered handle filter old).1 leaves

/-- **The new type is a dead end.** -/
theorem GrownInto.chainsFrom_target (apart : dest ≠ target) :
    graph.chainsFrom size dest visited target = [] := by
  rw [List.eq_nil_iff_forall_not_mem]
  intro handles
  -- A chain could only run in circles through the new type, so it would have no last filter.
  induction handles generalizing visited with
  | nil => exact coherent.nil_notMem_chainsFrom
  | cons handle rest ih =>
      intro listed
      obtain ⟨filter, live, leaves, _, onward⟩ := coherent.mem_chainsFrom_cons.mp listed
      have back := grown.dest_eq_of_source_eq olderCoherent live leaves
      rcases onward with ⟨arrives, _⟩ | ⟨_, _, later⟩
      · exact apart (arrives.symm.trans back)
      · rw [back] at later
        exact ih later

omit coherent olderCoherent in
theorem GrownInto.filtersBetween_eq (apart : dest ≠ target) :
    graph.filtersBetween size current dest = older.filtersBetween size current dest := by
  apply grown.filter_filters
  intro entry into
  simp [Filter.endpoints, into, apart.symm]

/-- The chains between old types are enumerated as before.  By its list of filters the larger
graph has more onward filters, but there are no chains beyond these. -/
theorem GrownInto.chainsFrom_eq (apart : dest ≠ target) (visited : List MediaTypeId)
    (current : MediaTypeId) :
    graph.chainsFrom size dest visited current = older.chainsFrom size dest visited current := by
  apply olderCoherent.eq_chainsFrom_of_enumerates
  intro visited current
  obtain ⟨added, all, into⟩ := grown.exists_filters
  rw [coherent.enumerates_chainsFrom visited current, grown.filtersBetween_eq apart]
  congr 1
  rw [onwardFilters, all, List.filter_append, List.flatMap_append]
  have deadEnds : ∀ entry ∈ added.filter fun entry =>
      entry.2.source = current ∧ entry.2.dest ≠ dest ∧ entry.2.dest ∉ visited ∧
        entry.2.accepts size,
      (graph.chainsFrom size dest (entry.2.dest :: visited) entry.2.dest).map (entry.1 :: ·) =
        [] := by
    intro entry member
    rw [into entry (List.mem_of_mem_filter member),
      grown.chainsFrom_target coherent olderCoherent apart, List.map_nil]
  rw [List.flatMap_eq_nil_iff.mpr deadEnds, List.append_nil]
  rfl

theorem GrownInto.candidates_eq (sourceKnown : older.types.contains source = true)
    (destKnown : older.types.contains dest = true) :
    graph.candidates source size dest = older.candidates source size dest := by
  have apart := grown.ne_target destKnown
  rw [candidates, candidates, sourceKnown, destKnown, grown.types.contains sourceKnown,
    grown.types.contains destKnown, coherent.directChains_eq, olderCoherent.directChains_eq,
    grown.filtersBetween_eq apart, grown.chainsFrom_eq coherent olderCoherent apart]

/-- **Between old types the same chain is found.** -/
theorem GrownInto.resolveChain_eq (sourceKnown : older.types.contains source = true)
    (destKnown : older.types.contains dest = true) (size : UInt64) (mode : SearchMode) :
    graph.resolveChain source size dest mode = older.resolveChain source size dest mode := by
  have costs : ∀ chain ∈ older.candidates source size dest,
      graph.costOf chain = older.costOf chain := by
    intro chain candidate
    refine costOf_congr fun handle member => ?_
    have walk := olderCoherent.walk_of_mem_candidates candidate
    obtain ⟨filter, live⟩ := walk.exists_filter handle member
    rw [grown.filter?_of_live live, live]
  exact coherent.resolveChain_congr olderCoherent
    (grown.candidates_eq coherent olderCoherent sourceKnown destKnown) costs mode

end Chains

/-! ## All answers -/

section Answers

variable (grown : graph.GrownInto older target) (coherent : graph.Coherent)
  (olderCoherent : older.Coherent)
include grown coherent olderCoherent

/-- What leads into an old type is old. -/
theorem GrownInto.sameInto : graph.SameInto older where
  types := grown.types
  filtersInto := fun _ known =>
    grown.filtersInto_eq coherent olderCoherent (grown.ne_target known)

/-- **Filters into a new type change no answer about the old types.** -/
theorem GrownInto.keepsAnswers : graph.KeepsAnswers older where
  types := grown.types
  names := fun _ _ _ named => grown.types.lookup? coherent.types olderCoherent.types named
  filters := fun _ old => grown.filter?_eq old
  pairs := fun _ _ known =>
    grown.lookupDirect?_eq coherent olderCoherent (grown.ne_target known)
  chains := fun _ _ sourceKnown destKnown =>
    grown.resolveChain_eq coherent olderCoherent sourceKnown destKnown
  sourceIds := fun _ known =>
    (grown.sameInto coherent olderCoherent).reachableSourceIds_eq coherent olderCoherent known
  sources := fun _ known =>
    (grown.sameInto coherent olderCoherent).reachableSources_eq coherent olderCoherent known
  signatures := fun _ known =>
    (grown.sameInto coherent olderCoherent).signature_eq olderCoherent known

end Answers

end PrintPlanner.FilterGraph
