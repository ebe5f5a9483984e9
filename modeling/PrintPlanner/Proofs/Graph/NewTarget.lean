import PrintPlanner.Proofs.Graph.Tables

/-!
# Graphs grown by filters into a new type

A graph may have grown out of an older one by a type that was not registered before and by
filters into that type alone (`FilterGraph.GrownInto`).  A further filter into the type is such
growth again (`FilterGraph.GrownInto.offerFilter`).  The list of all filters is then the old list
with filters into the new type behind it (`FilterGraph.GrownInto.exists_filters`), so the old
filters alone tell what leads into any other type.
-/

set_option autoImplicit false

namespace PrintPlanner

namespace TypeRegistry

/-- A name keeps its handle as long as the handle keeps its type. -/
theorem Extends.lookup? {registry older : TypeRegistry} (extension : registry.Extends older)
    (coherent : registry.Coherent) (olderCoherent : older.Coherent) {superType subType : String}
    {handle : MediaTypeId} (named : older.lookup? superType subType = some handle) :
    registry.lookup? superType subType = some handle := by
  obtain ⟨media, stored, name⟩ := (olderCoherent.byName_iff _ handle).mp named
  exact (coherent.byName_iff _ handle).mpr ⟨media, extension handle media stored, name⟩

end TypeRegistry

namespace FilterGraph

/-- All that the graph has more than an older one are types, filters into `target`, which the
older graph does not know, and slots without a filter. -/
structure GrownInto (graph older : FilterGraph) (target : MediaTypeId) : Prop where
  types : graph.types.Extends older.types
  unregistered : older.types.contains target = false
  slots : ∃ added, graph.slots.toList = older.slots.toList ++ added ∧
    ∀ filter, some filter ∈ added → filter.dest = target

variable {graph older : FilterGraph} {target : MediaTypeId}

theorem GrownInto.ne_target (grown : graph.GrownInto older target) {place : MediaTypeId}
    (registered : older.types.contains place = true) : place ≠ target := by
  rintro rfl
  rw [grown.unregistered] at registered
  contradiction

/-- A registry that is extended is the beginning of such growth. -/
theorem GrownInto.of_extends {types : TypeRegistry} (extension : types.Extends older.types)
    (unregistered : older.types.contains target = false) :
    GrownInto { older with types } older target where
  types := extension
  unregistered := unregistered
  slots := ⟨[], (List.append_nil _).symm, fun _ member => absurd member List.not_mem_nil⟩

/-- Building the tables on both sides changes nothing. -/
theorem GrownInto.indexed (grown : graph.GrownInto older target) :
    graph.indexed.GrownInto older.indexed target :=
  ⟨grown.types, grown.unregistered, grown.slots⟩

/-! ## Filters by handle -/

/-- Every handle that the older graph has given out stands for what it stood for. -/
theorem GrownInto.filter?_eq (grown : graph.GrownInto older target) {handle : FilterId}
    (old : handle.index < older.slots.size) : graph.filter? handle = older.filter? handle := by
  obtain ⟨added, slots, _⟩ := grown.slots
  rw [← Array.length_toList] at old
  rw [filter?, filter?, ← Array.getElem?_toList, ← Array.getElem?_toList, slots,
    List.getElem?_append_left old]

theorem GrownInto.filter?_of_live (grown : graph.GrownInto older target) {handle : FilterId}
    {filter : Filter} (live : older.filter? handle = some filter) :
    graph.filter? handle = some filter := by
  rw [grown.filter?_eq (index_lt_of_filter? live), live]

/-- A filter in a new slot leads into the new type. -/
theorem GrownInto.dest_eq (grown : graph.GrownInto older target) {handle : FilterId}
    {filter : Filter} (live : graph.filter? handle = some filter)
    (new : older.slots.size ≤ handle.index) : filter.dest = target := by
  obtain ⟨added, slots, into⟩ := grown.slots
  have stored := filter?_eq_some_iff.mp live
  rw [← Array.length_toList] at new
  rw [← Array.getElem?_toList, slots, List.getElem?_append_right new] at stored
  exact into filter (List.mem_of_getElem? stored)

/-- Filters into any other type are old. -/
theorem GrownInto.filter?_iff (grown : graph.GrownInto older target) {handle : FilterId}
    {filter : Filter} (apart : filter.dest ≠ target) :
    graph.filter? handle = some filter ↔ older.filter? handle = some filter := by
  constructor
  · intro live
    by_cases old : handle.index < older.slots.size
    · rwa [← grown.filter?_eq old]
    · exact absurd (grown.dest_eq live (Nat.le_of_not_lt old)) apart
  · exact grown.filter?_of_live

/-! ## Further filters -/

/-- The filter of a new pair lies in a new slot, for the older graph has no filter into a type
that it does not know. -/
theorem GrownInto.size_le_index (grown : graph.GrownInto older target)
    (olderCoherent : older.Coherent) {handle : FilterId} {filter : Filter}
    (live : graph.filter? handle = some filter) (into : filter.dest = target) :
    older.slots.size ≤ handle.index := by
  by_contra old
  rw [grown.filter?_eq (Nat.lt_of_not_le old)] at live
  exact grown.ne_target (olderCoherent.registered handle filter live).2 into

/-- **A further filter into the new type is growth of the same kind,** whether it fills a slot or
improves a filter. -/
theorem GrownInto.offerFilter (grown : graph.GrownInto older target) (coherent : graph.Coherent)
    (olderCoherent : older.Coherent) {changed : FilterGraph} {source : MediaTypeId}
    {cost : UInt32} {limit : Option UInt64} {program : String} {handle : FilterId}
    (offered : graph.offerFilter source target cost limit program = .ok (handle, changed)) :
    changed.GrownInto older target := by
  obtain ⟨added, slots, into⟩ := grown.slots
  obtain ⟨_, ⟨filter, live, _, sameDest, rfl⟩ | ⟨_, _, _, rfl⟩⟩ :=
    coherent.offerFilter_cases offered
  · have new : older.slots.toList.length ≤ handle.index := by
      rw [Array.length_toList]
      exact grown.size_le_index olderCoherent live sameDest
    refine ⟨grown.types, grown.unregistered, added.set (handle.index - older.slots.toList.length)
      (some (filter.improve cost limit program)), ?_, ?_⟩
    · rw [setSlot, Array.toList_setIfInBounds, slots, List.set_append_right _ _ new]
    · intro other member
      rcases List.mem_or_eq_of_mem_set member with before | same
      · exact into other before
      · rw [Option.some.inj same, Filter.dest_improve, sameDest]
  · refine ⟨grown.types, grown.unregistered,
      added ++ [some ⟨source, target, cost, limit.getD 0, program⟩], ?_, ?_⟩
    · rw [pushSlot, Array.toList_push, slots, List.append_assoc]
    · intro other member
      rcases List.mem_append.mp member with before | last
      · exact into other before
      · rw [Option.some.inj (List.mem_singleton.mp last)]

/-! ## The list of filters -/

/-- **The filters are the old ones, followed by filters into the new type.** -/
theorem GrownInto.exists_filters (grown : graph.GrownInto older target) :
    ∃ added, graph.filters = older.filters ++ added ∧ ∀ entry ∈ added, entry.2.dest = target := by
  obtain ⟨added, slots, into⟩ := grown.slots
  refine ⟨(added.zipIdx older.slots.toList.length).filterMap fun place =>
    place.1.map fun filter => (FilterId.ofIndex place.2, filter), ?_, ?_⟩
  · rw [filters, filters, slots, List.zipIdx_append, List.filterMap_append, Nat.zero_add]
  · intro entry member
    obtain ⟨⟨slot, position⟩, stored, made⟩ := List.mem_filterMap.mp member
    obtain ⟨filter, rfl, rfl⟩ := Option.map_eq_some_iff.mp made
    exact into filter (List.fst_mem_of_mem_zipIdx stored)

/-- What passes over the filters into the new type finds the old filters alone. -/
theorem GrownInto.filter_filters (grown : graph.GrownInto older target)
    {test : FilterId × Filter → Bool} (misses : ∀ entry, entry.2.dest = target → ¬ test entry) :
    graph.filters.filter test = older.filters.filter test := by
  obtain ⟨added, same, into⟩ := grown.exists_filters
  rw [same, List.filter_append]
  rw [List.filter_eq_nil_iff.mpr fun entry member => misses entry (into entry member)]
  exact List.append_nil _

section Coherent

variable (grown : graph.GrownInto older target) (coherent : graph.Coherent)
  (olderCoherent : older.Coherent) {source dest : MediaTypeId} (apart : dest ≠ target)
include grown coherent olderCoherent apart

theorem GrownInto.lookupDirect?_eq :
    graph.lookupDirect? source dest = older.lookupDirect? source dest := by
  apply Option.ext
  intro handle
  rw [coherent.lookupDirect?_eq_some_iff, olderCoherent.lookupDirect?_eq_some_iff]
  refine exists_congr fun filter => ?_
  constructor
  · rintro ⟨live, start, rfl⟩
    exact ⟨(grown.filter?_iff apart).mp live, start, rfl⟩
  · rintro ⟨live, start, rfl⟩
    exact ⟨grown.filter?_of_live live, start, rfl⟩

theorem GrownInto.filtersInto_eq : graph.filtersInto dest = older.filtersInto dest := by
  rw [coherent.filtersInto_eq, olderCoherent.filtersInto_eq]
  apply grown.filter_filters
  intro entry into
  simpa [into] using apart.symm

theorem GrownInto.producersOf_eq : graph.producersOf dest = older.producersOf dest := by
  rw [coherent.tablesAgree.producersOf_eq, olderCoherent.tablesAgree.producersOf_eq,
    grown.filtersInto_eq coherent olderCoherent apart]

end Coherent

end FilterGraph

end PrintPlanner
