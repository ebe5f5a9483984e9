import PrintPlanner.Graph.History

/-!
# Slots of filters

What a graph answers about its filters after a slot has been filled, improved or emptied.
The list of all filters is read off the slots, so its changes follow: a new filter comes
last, and an improved one keeps its place and its two types.
-/

set_option autoImplicit false

namespace PrintPlanner

@[simp] theorem Filter.source_improve (filter : Filter) (cost : UInt32) (limit : Option UInt64)
    (program : String) : (filter.improve cost limit program).source = filter.source := by
  unfold improve
  split <;> rfl

@[simp] theorem Filter.dest_improve (filter : Filter) (cost : UInt32) (limit : Option UInt64)
    (program : String) : (filter.improve cost limit program).dest = filter.dest := by
  unfold improve
  split <;> rfl

@[simp] theorem Filter.endpoints_improve (filter : Filter) (cost : UInt32)
    (limit : Option UInt64) (program : String) :
    (filter.improve cost limit program).endpoints = filter.endpoints := by
  simp [endpoints]

/-- A document of unknown size suits every filter. -/
@[simp] theorem Filter.accepts_zero (filter : Filter) : filter.accepts 0 = true := by
  simp [accepts]

theorem Filter.endpoints_eq_iff {filter : Filter} {source dest : MediaTypeId} :
    filter.endpoints = ⟨source, dest⟩ ↔ filter.source = source ∧ filter.dest = dest := by
  simp [endpoints]

namespace FilterGraph

/-! ## Filters by handle -/

theorem filter?_eq_some_iff {graph : FilterGraph} {handle : FilterId} {filter : Filter} :
    graph.filter? handle = some filter ↔ graph.slots[handle.index]? = some (some filter) := by
  simp [filter?, Option.join_eq_some_iff]

/-- A live filter lies within the slots. -/
theorem index_lt_of_filter? {graph : FilterGraph} {handle : FilterId} {filter : Filter}
    (live : graph.filter? handle = some filter) : handle.index < graph.slots.size :=
  (Array.getElem?_eq_some_iff.mp (filter?_eq_some_iff.mp live)).1

/-- The graph with something else in the slot of a handle. -/
def setSlot (graph : FilterGraph) (handle : FilterId) (slot : Option Filter) : FilterGraph :=
  { graph with slots := graph.slots.setIfInBounds handle.index slot }

theorem filter?_setSlot {graph : FilterGraph} {handle : FilterId}
    (inside : handle.index < graph.slots.size) (slot : Option Filter) (other : FilterId) :
    (graph.setSlot handle slot).filter? other =
      if other = handle then slot else graph.filter? other := by
  simp only [filter?, setSlot, Array.getElem?_setIfInBounds]
  by_cases same : other = handle
  · simp [same, inside]
  · rw [if_neg (fun equal => same (FilterId.index_inj.mp equal).symm), if_neg same]

/-- The graph with a filter in the next slot, under the next handle. -/
def pushSlot (graph : FilterGraph) (filter : Filter) : FilterGraph :=
  { graph with
    slots := graph.slots.push (some filter)
    direct := graph.direct.insert filter.endpoints (.ofIndex graph.slots.size)
    adjacency? := graph.adjacency?.map (·.insert (.ofIndex graph.slots.size) filter.endpoints) }

theorem filter?_pushSlot {graph : FilterGraph} (room : graph.slots.size < handleCount)
    (filter : Filter) (other : FilterId) :
    (graph.pushSlot filter).filter? other =
      if other = .ofIndex graph.slots.size then some filter else graph.filter? other := by
  have last : other = .ofIndex graph.slots.size ↔ other.index = graph.slots.size := by
    rw [← FilterId.index_inj, FilterId.index_ofIndex room]
  simp only [filter?, pushSlot, Array.getElem?_push, last]
  split <;> rfl

theorem removeFilter_fst (graph : FilterGraph) (handle : FilterId) :
    (graph.removeFilter handle).1 = graph.filter? handle := by
  unfold removeFilter
  split
  · rename_i nothing
    exact nothing.symm
  · rename_i filter live
    exact live.symm

theorem filter?_removeFilter (graph : FilterGraph) (handle other : FilterId) :
    (graph.removeFilter handle).2.filter? other =
      if other = handle then none else graph.filter? other := by
  unfold removeFilter
  split
  · rename_i nothing
    split
    · rename_i here
      rw [here, nothing]
    · rfl
  · rename_i filter live
    exact filter?_setSlot (index_lt_of_filter? live) none other

/-! ## The list of filters -/

theorem mem_filters {graph : FilterGraph} (small : graph.slots.size ≤ handleCount)
    {handle : FilterId} {filter : Filter} :
    (handle, filter) ∈ graph.filters ↔ graph.filter? handle = some filter := by
  rw [filter?_eq_some_iff, filters, List.mem_filterMap]
  constructor
  · rintro ⟨⟨slot, position⟩, stored, entry⟩
    rw [List.mem_zipIdx_iff_getElem?, Array.getElem?_toList] at stored
    obtain ⟨kept, rfl, pair⟩ := Option.map_eq_some_iff.mp entry
    cases pair
    have below := (Array.getElem?_eq_some_iff.mp stored).1
    rwa [FilterId.index_ofIndex (Nat.lt_of_lt_of_le below small)]
  · intro stored
    refine ⟨(some filter, handle.index), ?_, by simp⟩
    rwa [List.mem_zipIdx_iff_getElem?, Array.getElem?_toList]

theorem filters_pushSlot (graph : FilterGraph) (filter : Filter) :
    (graph.pushSlot filter).filters =
      graph.filters ++ [(.ofIndex graph.slots.size, filter)] := by
  simp [filters, pushSlot, List.zipIdx_append]

/-- The handles and the two types of all filters, in order of creation. -/
def links (graph : FilterGraph) : List (FilterId × Endpoints) :=
  graph.filters.map fun entry => (entry.1, entry.2.endpoints)

theorem links_eq (graph : FilterGraph) :
    graph.links = (graph.slots.toList.map (Option.map Filter.endpoints)).zipIdx.filterMap
      fun entry => entry.1.map fun ends => (FilterId.ofIndex entry.2, ends) := by
  rw [links, filters, List.map_filterMap, List.zipIdx_map, List.filterMap_map]
  congr 1
  funext entry
  simp [Function.comp_def]

/-- Putting a filter between the same two types into a slot keeps all links. -/
theorem links_setSlot {graph : FilterGraph} {handle : FilterId} {old new : Filter}
    (live : graph.filter? handle = some old) (same : new.endpoints = old.endpoints) :
    (graph.setSlot handle (some new)).links = graph.links := by
  have stored : graph.slots.toList[handle.index]? = some (some old) := by
    rw [Array.getElem?_toList]
    exact filter?_eq_some_iff.mp live
  have unchanged : (graph.slots.toList.set handle.index (some new)).map
      (Option.map Filter.endpoints) = graph.slots.toList.map (Option.map Filter.endpoints) := by
    apply List.ext_getElem?
    intro position
    rw [List.getElem?_map, List.getElem?_map, List.getElem?_set]
    split
    · rename_i here
      subst here
      split
      · simp [stored, same]
      · rename_i outside
        rw [List.getElem?_eq_none (Nat.le_of_not_lt outside)]
    · rfl
  rw [links_eq, links_eq, setSlot, Array.toList_setIfInBounds, unchanged]

/-- The adjacency tables depend on the links alone. -/
theorem ofFilters_eq_foldl_links (graph : FilterGraph) :
    Adjacency.ofFilters graph.filters =
      graph.links.foldl (fun adjacency entry => adjacency.insert entry.1 entry.2) .empty := by
  rw [links, List.foldl_map, Adjacency.ofFilters]

end FilterGraph

end PrintPlanner
