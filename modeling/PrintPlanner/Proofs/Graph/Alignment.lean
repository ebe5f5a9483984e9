import Mathlib.Data.List.Basic
import PrintPlanner.Proofs.Graph.Slots

/-!
# Tables of filters against slots

The slots are the only original data about filters.  In an aligned graph the table of pairs and
the adjacency tables say exactly what the slots say.  This has nothing to do with the registry,
so it holds however a graph was built, even after its registry has been replaced
(`FilterGraph.Built.aligned`).  What leads into a type is then read off the list of all filters
(`FilterGraph.Aligned.filtersInto_eq`).
-/

set_option autoImplicit false

namespace PrintPlanner.FilterGraph

/-- The tables of filters agree with the slots. -/
structure Aligned (graph : FilterGraph) : Prop where
  slots_size_le : graph.slots.size ≤ handleCount
  /-- The table of pairs holds every filter under its own pair. -/
  direct_iff : ∀ ends handle, graph.direct[ends]? = some handle ↔
    ∃ filter, graph.filter? handle = some filter ∧ filter.endpoints = ends
  /-- Adjacency tables, where they are carried, are those of the filters. -/
  adjacency?_eq : ∀ tables, graph.adjacency? = some tables →
    tables = Adjacency.ofFilters graph.filters

/-! ## What a change does -/

/-- Every way of registering a type is an insertion into the registry. -/
theorem insertType_cases {graph changed : FilterGraph} {media : MediaType}
    {handle : MediaTypeId} (inserted : graph.insertType media = .ok (handle, changed)) :
    ∃ types, graph.types.insert media = .ok (handle, types) ∧ changed = { graph with types } := by
  unfold insertType at inserted
  cases result : graph.types.insert media with
  | error fault =>
      rw [result] at inserted
      cases inserted
  | ok pair =>
      rw [result] at inserted
      cases inserted
      exact ⟨pair.2, rfl, rfl⟩

/-- Adding a type by its parts inserts the media type that they name. -/
theorem addType_cases {graph changed : FilterGraph} {superType subType : String}
    {handle : MediaTypeId} (added : graph.addType superType subType = .ok (handle, changed)) :
    ∃ media, MediaType.ofParts superType subType = .ok media ∧
      graph.insertType media = .ok (handle, changed) := by
  unfold addType TypeRegistry.addType at added
  cases parts : MediaType.ofParts superType subType with
  | error fault =>
      rw [parts] at added
      cases added
  | ok media =>
      rw [parts] at added
      exact ⟨media, rfl, added⟩

theorem addSinkType_eq_addType (graph : FilterGraph) (printer : String) :
    graph.addSinkType printer = graph.addType MediaType.sinkSuperType printer := rfl

theorem checkType_eq_ok_iff {graph : FilterGraph} {handle checked : MediaTypeId} :
    graph.checkType handle = .ok checked ↔
      graph.types.contains handle = true ∧ checked = handle := by
  unfold checkType
  split
  · rename_i known
    simp [known, eq_comm]
  · rename_i unknown
    simp [unknown]

theorem Aligned.lookupDirect?_eq_some_iff {graph : FilterGraph} (aligned : graph.Aligned)
    {source dest : MediaTypeId} {handle : FilterId} :
    graph.lookupDirect? source dest = some handle ↔
      ∃ filter, graph.filter? handle = some filter ∧ filter.source = source ∧
        filter.dest = dest := by
  rw [lookupDirect?, aligned.direct_iff]
  simp only [Filter.endpoints_eq_iff]

/-- A successful offer connects registered types.  It improves the filter of the pair, or
fills the next slot if the pair has no filter. -/
theorem Aligned.offerFilter_cases {graph changed : FilterGraph} (aligned : graph.Aligned)
    {source dest : MediaTypeId} {cost : UInt32} {limit : Option UInt64} {program : String}
    {handle : FilterId}
    (offered : graph.offerFilter source dest cost limit program = .ok (handle, changed)) :
    (graph.types.contains source = true ∧ graph.types.contains dest = true) ∧
      ((∃ filter, graph.filter? handle = some filter ∧ filter.source = source ∧
          filter.dest = dest ∧
          changed = graph.setSlot handle (some (filter.improve cost limit program))) ∨
        (graph.lookupDirect? source dest = none ∧ graph.slots.size < handleCount ∧
          handle = .ofIndex graph.slots.size ∧
          changed = graph.pushSlot ⟨source, dest, cost, limit.getD 0, program⟩)) := by
  unfold offerFilter at offered
  cases sourceCheck : graph.checkType source with
  | error fault =>
      rw [sourceCheck] at offered
      cases offered
  | ok checkedSource =>
      obtain ⟨sourceKnown, rfl⟩ := checkType_eq_ok_iff.mp sourceCheck
      cases destCheck : graph.checkType dest with
      | error fault =>
          rw [sourceCheck, destCheck] at offered
          cases offered
      | ok checkedDest =>
          obtain ⟨destKnown, rfl⟩ := checkType_eq_ok_iff.mp destCheck
          rw [sourceCheck, destCheck] at offered
          refine ⟨⟨sourceKnown, destKnown⟩, ?_⟩
          cases pair : graph.lookupDirect? checkedSource checkedDest with
          | some known =>
              obtain ⟨filter, live, sameSource, sameDest⟩ :=
                aligned.lookupDirect?_eq_some_iff.mp pair
              simp only [pair, live, bind, Except.bind, pure, Except.pure, Except.ok.injEq,
                Prod.mk.injEq] at offered
              obtain ⟨rfl, rfl⟩ := offered
              exact .inl ⟨filter, live, sameSource, sameDest, rfl⟩
          | none =>
              simp only [pair, bind, Except.bind, appendFilter] at offered
              split at offered
              · rename_i room
                cases offered
                exact .inr ⟨rfl, room, rfl, rfl⟩
              · cases offered

/-- An offered filter registers no type. -/
theorem Aligned.types_offerFilter {graph changed : FilterGraph} (aligned : graph.Aligned)
    {source dest : MediaTypeId} {cost : UInt32} {limit : Option UInt64} {program : String}
    {handle : FilterId}
    (offered : graph.offerFilter source dest cost limit program = .ok (handle, changed)) :
    changed.types = graph.types := by
  obtain ⟨_, ⟨_, _, _, _, rfl⟩ | ⟨_, _, _, rfl⟩⟩ := aligned.offerFilter_cases offered
  · rfl
  · rfl

/-- An offer succeeds if it connects registered types and there is a filter of the pair or a slot
for it. -/
theorem Aligned.exists_offerFilter {graph : FilterGraph} (aligned : graph.Aligned)
    {source dest : MediaTypeId} (known : graph.types.contains source = true ∧
      graph.types.contains dest = true)
    (room : graph.lookupDirect? source dest = none → graph.slots.size < handleCount)
    (cost : UInt32) (limit : Option UInt64) (program : String) :
    ∃ handle changed, graph.offerFilter source dest cost limit program = .ok (handle, changed) := by
  have sourceCheck : graph.checkType source = .ok source :=
    checkType_eq_ok_iff.mpr ⟨known.1, rfl⟩
  have destCheck : graph.checkType dest = .ok dest := checkType_eq_ok_iff.mpr ⟨known.2, rfl⟩
  simp only [offerFilter, sourceCheck, destCheck, bind, Except.bind]
  cases pair : graph.lookupDirect? source dest with
  | some handle =>
      obtain ⟨filter, live, _⟩ := aligned.lookupDirect?_eq_some_iff.mp pair
      simp only [live]
      exact ⟨_, _, rfl⟩
  | none =>
      simp only [appendFilter, if_pos (room pair)]
      exact ⟨_, _, rfl⟩

/-! ## Every change keeps a graph aligned -/

theorem aligned_ofTypes (types : TypeRegistry) : (ofTypes types).Aligned where
  slots_size_le := Nat.zero_le _
  direct_iff := by
    intro ends handle
    have noPair : (ofTypes types).direct[ends]? = none := Std.TreeMap.getElem?_emptyc
    have noFilter : (ofTypes types).filter? handle = none := by simp [filter?, ofTypes]
    simp [noPair, noFilter]
  adjacency?_eq := by
    intro tables carried
    cases carried

/-- The registry has no part in it. -/
theorem Aligned.withTypes {graph : FilterGraph} (aligned : graph.Aligned)
    (types : TypeRegistry) : Aligned { graph with types } :=
  ⟨aligned.slots_size_le, aligned.direct_iff, aligned.adjacency?_eq⟩

/-- Improving a filter in its slot changes no table. -/
theorem Aligned.setSlot {graph : FilterGraph} (aligned : graph.Aligned) {handle : FilterId}
    {old new : Filter} (live : graph.filter? handle = some old)
    (same : new.endpoints = old.endpoints) : (graph.setSlot handle (some new)).Aligned where
  slots_size_le := by simpa [FilterGraph.setSlot] using aligned.slots_size_le
  direct_iff := by
    intro ends other
    rw [filter?_setSlot (index_lt_of_filter? live)]
    refine (aligned.direct_iff ends other).trans ?_
    split
    · rename_i here
      subst here
      simp [live, same]
    · rfl
  adjacency?_eq := by
    intro tables carried
    rw [ofFilters_eq_foldl_links, links_setSlot live same, ← ofFilters_eq_foldl_links]
    exact aligned.adjacency?_eq tables carried

/-- A filter for a new pair extends every table. -/
theorem Aligned.pushSlot {graph : FilterGraph} (aligned : graph.Aligned) {filter : Filter}
    (room : graph.slots.size < handleCount)
    (fresh : graph.direct[filter.endpoints]? = none) : (graph.pushSlot filter).Aligned where
  slots_size_le := by simpa [FilterGraph.pushSlot] using Nat.succ_le_of_lt room
  direct_iff := by
    intro ends other
    have unused : graph.filter? (.ofIndex graph.slots.size) = none := by
      simp [filter?, FilterId.index_ofIndex room]
    rw [filter?_pushSlot room, FilterGraph.pushSlot, Std.TreeMap.getElem?_insert]
    by_cases pair : filter.endpoints = ends
    · subst pair
      rw [if_pos (by simp)]
      split
      · rename_i last
        simp [last]
      · rename_i earlier
        rw [← aligned.direct_iff, fresh]
        simpa using fun same => earlier same.symm
    · rw [if_neg (by simpa using pair), aligned.direct_iff]
      split
      · rename_i last
        simp [last, unused, pair]
      · rfl
  adjacency?_eq := by
    intro tables carried
    obtain ⟨before, held, rfl⟩ := Option.map_eq_some_iff.mp carried
    rw [filters_pushSlot, Adjacency.ofFilters_append_single,
      ← aligned.adjacency?_eq before held]

theorem Aligned.offerFilter {graph changed : FilterGraph} (aligned : graph.Aligned)
    {source dest : MediaTypeId} {cost : UInt32} {limit : Option UInt64} {program : String}
    {handle : FilterId}
    (offered : graph.offerFilter source dest cost limit program = .ok (handle, changed)) :
    changed.Aligned := by
  obtain ⟨_, ⟨filter, live, _, _, rfl⟩ | ⟨fresh, room, _, rfl⟩⟩ :=
    aligned.offerFilter_cases offered
  · exact aligned.setSlot live (filter.endpoints_improve cost limit program)
  · exact aligned.pushSlot room fresh

/-- Removing a filter takes it out of the table of pairs and drops the adjacency tables. -/
theorem Aligned.removeFilter {graph : FilterGraph} (aligned : graph.Aligned)
    (handle : FilterId) : (graph.removeFilter handle).2.Aligned := by
  unfold FilterGraph.removeFilter
  split
  · exact aligned
  · rename_i old live
    have emptied := filter?_setSlot (index_lt_of_filter? live) none
    refine ⟨?_, ?_, ?_⟩
    · simpa using aligned.slots_size_le
    · intro ends other
      have slots : (∃ filter, (graph.setSlot handle none).filter? other = some filter ∧
          filter.endpoints = ends) ↔ other ≠ handle ∧ graph.direct[ends]? = some other := by
        rw [emptied, aligned.direct_iff]
        split
        · rename_i here
          simp [here]
        · rename_i elsewhere
          simp [elsewhere]
      refine Iff.trans ?_ slots.symm
      rw [Std.TreeMap.getElem?_erase]
      by_cases pair : old.endpoints = ends
      · subst pair
        have held := (aligned.direct_iff _ handle).mpr ⟨old, live, rfl⟩
        rw [if_pos (by simp), held]
        simpa using fun different same => different same.symm
      · rw [if_neg (by simpa using pair)]
        refine ⟨fun found => ⟨?_, found⟩, And.right⟩
        rintro rfl
        obtain ⟨filter, sameSlot, sameEnds⟩ := (aligned.direct_iff _ _).mp found
        rw [live] at sameSlot
        cases sameSlot
        exact pair sameEnds
    · intro tables carried
      cases carried

/-- The tables of an aligned graph are those of its filters, carried or not. -/
theorem Aligned.adjacency_eq {graph : FilterGraph} (aligned : graph.Aligned) :
    graph.adjacency = Adjacency.ofFilters graph.filters := by
  unfold adjacency
  cases carried : graph.adjacency? with
  | none => rfl
  | some tables => exact aligned.adjacency?_eq tables carried

theorem Aligned.indexed {graph : FilterGraph} (aligned : graph.Aligned) :
    graph.indexed.Aligned where
  slots_size_le := aligned.slots_size_le
  direct_iff := aligned.direct_iff
  adjacency?_eq := by
    intro tables carried
    cases carried
    exact aligned.adjacency_eq

/-- What holds of a graph and of every graph that a change may leave holds afterwards. -/
theorem settle_keeps {Handle : Type} {graph : FilterGraph} {motive : FilterGraph → Prop}
    {result : Except PlanError (Handle × FilterGraph)} (before : motive graph)
    (after : ∀ handle changed, result = .ok (handle, changed) → motive changed) :
    motive (graph.settle result).2 := by
  unfold settle
  split
  · exact after _ _ rfl
  · exact before

theorem Aligned.insertType {graph changed : FilterGraph} (aligned : graph.Aligned)
    {media : MediaType} {handle : MediaTypeId}
    (inserted : graph.insertType media = .ok (handle, changed)) : changed.Aligned := by
  obtain ⟨types, _, rfl⟩ := insertType_cases inserted
  exact aligned.withTypes types

theorem Aligned.addType {graph changed : FilterGraph} (aligned : graph.Aligned)
    {superType subType : String} {handle : MediaTypeId}
    (added : graph.addType superType subType = .ok (handle, changed)) : changed.Aligned := by
  obtain ⟨media, _, inserted⟩ := addType_cases added
  exact aligned.insertType inserted

/-- Every change keeps a graph aligned. -/
theorem Aligned.perform {graph : FilterGraph} (aligned : graph.Aligned) (edit : GraphEdit) :
    (graph.perform edit).2.Aligned := by
  cases edit with
  | addType superType subType =>
      exact settle_keeps aligned fun _ _ added => aligned.addType added
  | addSinkType printer => exact settle_keeps aligned fun _ _ added => aligned.addType added
  | insertType media =>
      exact settle_keeps aligned fun _ _ inserted => aligned.insertType inserted
  | addFilter source dest cost program =>
      exact settle_keeps aligned fun _ _ offered => aligned.offerFilter offered
  | addLimitedFilter source dest cost maxSize program =>
      exact settle_keeps aligned fun _ _ offered => aligned.offerFilter offered
  | removeFilter handle => exact aligned.removeFilter handle
  | query => exact aligned.indexed

/-- **However a graph was built, it is aligned.** -/
theorem Built.aligned {graph : FilterGraph} (built : graph.Built) : graph.Aligned := by
  induction built with
  | ofTypes registrations => exact aligned_ofTypes _
  | perform _ edit ih => exact ih.perform edit
  | replaceTypes _ registrations ih => exact ih.withTypes _

/-! ## Queries of an aligned graph -/

section Queries

variable {graph : FilterGraph} (aligned : graph.Aligned)
include aligned

theorem Aligned.mem_filters {handle : FilterId} {filter : Filter} :
    (handle, filter) ∈ graph.filters ↔ graph.filter? handle = some filter :=
  FilterGraph.mem_filters aligned.slots_size_le

/-- The filters that leave a type are all filters with that source, in the same order. -/
theorem Aligned.filtersFrom_eq (source : MediaTypeId) :
    graph.filtersFrom source = graph.filters.filter (·.2.source = source) := by
  rw [filtersFrom, aligned.adjacency_eq, Adjacency.outgoingOf_ofFilters, List.filterMap_map]
  refine (List.filterMap_congr fun entry member => ?_).trans List.filterMap_some
  have live := aligned.mem_filters.mp (List.mem_of_mem_filter member)
  simp [live]

theorem Aligned.producersOf_eq (dest : MediaTypeId) :
    graph.producersOf dest = (graph.filters.filter (·.2.dest = dest)).map (·.2.source) := by
  rw [producersOf, aligned.adjacency_eq, Adjacency.producersOf_ofFilters]

/-- The filters into a type are all filters with that destination, in the same order. -/
theorem Aligned.filtersInto_eq (dest : MediaTypeId) :
    graph.filtersInto dest = graph.filters.filter (·.2.dest = dest) := by
  rw [filtersInto, aligned.producersOf_eq, List.filterMap_map]
  refine (List.filterMap_congr fun entry member => ?_).trans List.filterMap_some
  obtain ⟨stored, here⟩ := List.mem_filter.mp member
  have live := aligned.mem_filters.mp stored
  have pair : graph.lookupDirect? entry.2.source dest = some entry.1 :=
    aligned.lookupDirect?_eq_some_iff.mpr ⟨entry.2, live, rfl, by simpa using here⟩
  simp [pair, live]

theorem Aligned.mem_filtersFrom {source : MediaTypeId} {handle : FilterId} {filter : Filter} :
    (handle, filter) ∈ graph.filtersFrom source ↔
      graph.filter? handle = some filter ∧ filter.source = source := by
  rw [aligned.filtersFrom_eq, List.mem_filter, aligned.mem_filters]
  simp

theorem Aligned.mem_filtersInto {dest : MediaTypeId} {handle : FilterId} {filter : Filter} :
    (handle, filter) ∈ graph.filtersInto dest ↔
      graph.filter? handle = some filter ∧ filter.dest = dest := by
  rw [aligned.filtersInto_eq, List.mem_filter, aligned.mem_filters]
  simp

theorem Aligned.mem_producersOf {source dest : MediaTypeId} :
    source ∈ graph.producersOf dest ↔
      ∃ handle filter, graph.filter? handle = some filter ∧ filter.source = source ∧
        filter.dest = dest := by
  simp only [aligned.producersOf_eq, List.mem_map, List.mem_filter, decide_eq_true_eq]
  constructor
  · rintro ⟨⟨handle, filter⟩, ⟨stored, here⟩, start⟩
    exact ⟨handle, filter, aligned.mem_filters.mp stored, start, here⟩
  · rintro ⟨handle, filter, live, start, here⟩
    exact ⟨(handle, filter), ⟨aligned.mem_filters.mpr live, here⟩, start⟩

end Queries

end PrintPlanner.FilterGraph
