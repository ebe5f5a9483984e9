import Mathlib.Data.List.Nodup
import PrintPlanner.Proofs.Graph.Coherence

/-!
# The tables of a graph against its filters

Pairs, adjacency and the number of filters are kept beside the slots.  In a coherent graph
each of them says what the list of all filters says (`FilterGraph.Coherent.tablesAgree`),
since no pair occurs twice in that list.
-/

set_option autoImplicit false

namespace PrintPlanner.FilterGraph

/-- What is answered from a table is what the list of all filters says. -/
structure TablesAgree (graph : FilterGraph) : Prop where
  filtersFrom_eq : ∀ source,
    graph.filtersFrom source = graph.filters.filter (·.2.source = source)
  filtersInto_eq : ∀ dest, graph.filtersInto dest = graph.filters.filter (·.2.dest = dest)
  producersOf_eq : ∀ dest, graph.producersOf dest = (graph.filtersInto dest).map (·.2.source)
  nodup_producersOf : ∀ dest, (graph.producersOf dest).Nodup
  /-- A pair has a handle when it has a filter, which is then its only one and has that handle. -/
  lookupDirect?_eq_some_iff : ∀ source dest handle,
    graph.lookupDirect? source dest = some handle ↔
      ∃ filter, graph.filters.filter (·.2.endpoints = ⟨source, dest⟩) = [(handle, filter)]
  lookupDirect?_eq_none_iff : ∀ source dest, graph.lookupDirect? source dest = none ↔
    graph.filters.filter (·.2.endpoints = ⟨source, dest⟩) = []
  filterCount_eq : graph.filterCount = graph.filters.length

/-- The filters are listed by ascending handles. -/
theorem pairwise_index_filters {graph : FilterGraph} (small : graph.slots.size ≤ handleCount) :
    graph.filters.Pairwise fun earlier later => earlier.1.index < later.1.index := by
  have ascending : graph.slots.toList.zipIdx.Pairwise fun earlier later => earlier.2 < later.2 := by
    apply List.pairwise_map.mp
    rw [List.zipIdx_map_snd]
    exact List.pairwise_lt_range' 1
  have below : ∀ entry ∈ graph.slots.toList.zipIdx, entry.2 < handleCount := by
    intro entry member
    have inside := List.snd_lt_of_mem_zipIdx member
    rw [Nat.add_zero, Array.length_toList] at inside
    exact Nat.lt_of_lt_of_le inside small
  rw [filters, List.pairwise_filterMap]
  refine ascending.imp_of_mem fun {earlier later} first second less => ?_
  intro filter made next madeNext
  obtain ⟨_, _, rfl⟩ := Option.map_eq_some_iff.mp made
  obtain ⟨_, _, rfl⟩ := Option.map_eq_some_iff.mp madeNext
  rwa [FilterId.index_ofIndex (below earlier first), FilterId.index_ofIndex (below later second)]

section Coherent

variable {graph : FilterGraph} (coherent : graph.Coherent)
include coherent

/-- A pair has one filter at most. -/
theorem Coherent.eq_of_endpoints_eq {handle other : FilterId} {filter twin : Filter}
    (live : graph.filter? handle = some filter) (twinLive : graph.filter? other = some twin)
    (same : filter.endpoints = twin.endpoints) : handle = other := by
  have pair := (coherent.direct_iff _ _).mpr ⟨filter, live, same⟩
  have twinPair := (coherent.direct_iff _ _).mpr ⟨twin, twinLive, rfl⟩
  rw [pair] at twinPair
  exact Option.some.inj twinPair

theorem Coherent.pairwise_endpoints_filters :
    graph.filters.Pairwise fun earlier later => earlier.2.endpoints ≠ later.2.endpoints := by
  refine (pairwise_index_filters coherent.slots_size_le).imp_of_mem ?_
  intro earlier later first second less same
  have equal := coherent.eq_of_endpoints_eq (coherent.mem_filters.mp first)
    (coherent.mem_filters.mp second) same
  rw [equal] at less
  exact Nat.lt_irrefl _ less

/-- The filters of a pair are none or a single one. -/
theorem Coherent.filter_endpoints_eq_singleton_iff {ends : Endpoints}
    {entry : FilterId × Filter} :
    graph.filters.filter (·.2.endpoints = ends) = [entry] ↔
      entry ∈ graph.filters ∧ entry.2.endpoints = ends := by
  have member : entry ∈ graph.filters.filter (·.2.endpoints = ends) ↔
      entry ∈ graph.filters ∧ entry.2.endpoints = ends := by
    rw [List.mem_filter, decide_eq_true_eq]
  rw [← member]
  constructor
  · intro single
    rw [single]
    exact List.mem_singleton_self entry
  · intro listed
    have apart := coherent.pairwise_endpoints_filters.filter (·.2.endpoints = ends)
    have shared : ∀ other ∈ graph.filters.filter (·.2.endpoints = ends),
        other.2.endpoints = ends := by
      intro other among
      simpa using (List.mem_filter.mp among).2
    revert listed apart shared
    generalize graph.filters.filter (·.2.endpoints = ends) = found
    intro listed apart shared
    match found, listed with
    | [only], listed => rw [List.mem_singleton.mp listed]
    | first :: second :: rest, _ =>
        have distinct := (List.pairwise_cons.mp apart).1 second (List.mem_cons_self ..)
        have equal := shared second (List.mem_cons_of_mem _ (List.mem_cons_self ..))
        exact absurd ((shared first (List.mem_cons_self ..)).trans equal.symm) distinct

/-- The table of pairs holds the pairs of the filters, each once. -/
theorem Coherent.filterCount_eq_length : graph.filterCount = graph.filters.length := by
  have nodup : (graph.filters.map (·.2.endpoints)).Nodup :=
    List.pairwise_map.mpr coherent.pairwise_endpoints_filters
  have samePairs : graph.direct.keys.Perm (graph.filters.map (·.2.endpoints)) := by
    rw [List.perm_ext_iff_of_nodup Std.TreeMap.nodup_keys nodup]
    intro ends
    rw [Std.TreeMap.mem_keys, Std.TreeMap.mem_iff_isSome_getElem?, Option.isSome_iff_exists,
      List.mem_map, Prod.exists]
    refine exists_congr fun handle => ?_
    rw [coherent.direct_iff]
    exact exists_congr fun filter => and_congr_left fun _ => coherent.mem_filters.symm
  rw [filterCount, ← Std.TreeMap.length_keys, samePairs.length_eq, List.length_map]

theorem Coherent.nodup_producersOf (dest : MediaTypeId) : (graph.producersOf dest).Nodup := by
  rw [coherent.producersOf_eq]
  apply List.pairwise_map.mpr
  refine (coherent.pairwise_endpoints_filters.filter _).imp_of_mem ?_
  intro earlier later first second apart same
  have firstInto : earlier.2.dest = dest := by simpa using (List.mem_filter.mp first).2
  have secondInto : later.2.dest = dest := by simpa using (List.mem_filter.mp second).2
  exact apart (Filter.endpoints_eq_iff.mpr ⟨same, firstInto.trans secondInto.symm⟩)

/-- **All tables of a coherent graph agree with the list of its filters.** -/
theorem Coherent.tablesAgree : graph.TablesAgree where
  filtersFrom_eq := coherent.filtersFrom_eq
  filtersInto_eq := coherent.filtersInto_eq
  producersOf_eq := by
    intro dest
    rw [coherent.producersOf_eq, coherent.filtersInto_eq]
  nodup_producersOf := coherent.nodup_producersOf
  lookupDirect?_eq_some_iff := by
    intro source dest handle
    rw [lookupDirect?, coherent.direct_iff]
    refine exists_congr fun filter => ?_
    rw [coherent.filter_endpoints_eq_singleton_iff, coherent.mem_filters]
  lookupDirect?_eq_none_iff := by
    intro source dest
    rw [List.filter_eq_nil_iff, Option.eq_none_iff_forall_ne_some]
    constructor
    · rintro absent ⟨handle, filter⟩ listed
      have live := coherent.mem_filters.mp listed
      simpa using fun same => absent handle ((coherent.direct_iff _ _).mpr ⟨filter, live, same⟩)
    · intro absent handle found
      obtain ⟨filter, live, same⟩ := (coherent.direct_iff _ _).mp found
      exact absent (handle, filter) (coherent.mem_filters.mpr live) (by simpa using same)
  filterCount_eq := coherent.filterCount_eq_length

end Coherent

end PrintPlanner.FilterGraph
