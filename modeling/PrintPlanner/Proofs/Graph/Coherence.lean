import PrintPlanner.Proofs.Graph.Alignment
import PrintPlanner.Proofs.Registry.Coherence

/-!
# Coherence of the graph

A coherent graph is aligned, its registry is coherent, and every filter connects registered
types.  Every change keeps a graph coherent (`FilterGraph.Coherent.perform`), so every reachable
graph is (`FilterGraph.Reachable.coherent`).  What is known of the queries of an aligned graph
is then known of all reachable graphs.
-/

set_option autoImplicit false

namespace PrintPlanner.FilterGraph

/-- All tables of the graph agree with its slots, and the registry with the filters. -/
structure Coherent (graph : FilterGraph) : Prop extends graph.Aligned where
  types : graph.types.Coherent
  /-- Filters connect registered types. -/
  registered : ∀ handle filter, graph.filter? handle = some filter →
    graph.types.contains filter.source = true ∧ graph.types.contains filter.dest = true

/-! ## Every change keeps a graph coherent -/

/-- A coherent registry is a coherent graph without filters. -/
theorem coherent_ofTypes {types : TypeRegistry} (coherent : types.Coherent) :
    (ofTypes types).Coherent where
  toAligned := aligned_ofTypes types
  types := coherent
  registered := by
    intro handle filter live
    cases index_lt_of_filter? live

theorem coherent_empty : empty.Coherent := coherent_ofTypes TypeRegistry.coherent_empty

theorem Coherent.withTypes {graph : FilterGraph} (coherent : graph.Coherent)
    {types : TypeRegistry} (registry : types.Coherent) (extension : types.Extends graph.types) :
    Coherent { graph with types } where
  toAligned := coherent.toAligned.withTypes types
  types := registry
  registered := by
    intro handle filter live
    obtain ⟨source, dest⟩ := coherent.registered handle filter live
    exact ⟨extension.contains source, extension.contains dest⟩

theorem Coherent.insertType {graph changed : FilterGraph} (coherent : graph.Coherent)
    {media : MediaType} {handle : MediaTypeId}
    (inserted : graph.insertType media = .ok (handle, changed)) : changed.Coherent := by
  obtain ⟨types, stored, rfl⟩ := insertType_cases inserted
  exact coherent.withTypes (coherent.types.insert stored) (TypeRegistry.insert_extends stored)

theorem Coherent.addType {graph changed : FilterGraph} (coherent : graph.Coherent)
    {superType subType : String} {handle : MediaTypeId}
    (added : graph.addType superType subType = .ok (handle, changed)) : changed.Coherent := by
  obtain ⟨media, _, inserted⟩ := addType_cases added
  exact coherent.insertType inserted

/-- Improving a filter in its slot changes no table. -/
theorem Coherent.setSlot {graph : FilterGraph} (coherent : graph.Coherent) {handle : FilterId}
    {old new : Filter} (live : graph.filter? handle = some old)
    (same : new.endpoints = old.endpoints) : (graph.setSlot handle (some new)).Coherent where
  toAligned := coherent.toAligned.setSlot live same
  types := coherent.types
  registered := by
    intro other filter found
    rw [filter?_setSlot (index_lt_of_filter? live)] at found
    split at found
    · cases found
      have ends := coherent.registered handle old live
      obtain ⟨sameSource, sameDest⟩ := Filter.endpoints_eq_iff.mp same
      rwa [← sameSource, ← sameDest] at ends
    · exact coherent.registered other filter found

/-- A filter for a new pair extends every table. -/
theorem Coherent.pushSlot {graph : FilterGraph} (coherent : graph.Coherent) {filter : Filter}
    (room : graph.slots.size < handleCount)
    (known : graph.types.contains filter.source = true ∧ graph.types.contains filter.dest = true)
    (fresh : graph.direct[filter.endpoints]? = none) : (graph.pushSlot filter).Coherent where
  toAligned := coherent.toAligned.pushSlot room fresh
  types := coherent.types
  registered := by
    intro other stored found
    rw [filter?_pushSlot room] at found
    split at found
    · cases found
      exact known
    · exact coherent.registered other stored found

theorem Coherent.offerFilter {graph changed : FilterGraph} (coherent : graph.Coherent)
    {source dest : MediaTypeId} {cost : UInt32} {limit : Option UInt64} {program : String}
    {handle : FilterId}
    (offered : graph.offerFilter source dest cost limit program = .ok (handle, changed)) :
    changed.Coherent := by
  obtain ⟨known, ⟨filter, live, _, _, rfl⟩ | ⟨fresh, room, _, rfl⟩⟩ :=
    coherent.offerFilter_cases offered
  · exact coherent.setSlot live (filter.endpoints_improve cost limit program)
  · exact coherent.pushSlot room known fresh

theorem types_removeFilter (graph : FilterGraph) (handle : FilterId) :
    (graph.removeFilter handle).2.types = graph.types := by
  unfold removeFilter
  split <;> rfl

/-- Removing a filter leaves the others between registered types. -/
theorem Coherent.removeFilter {graph : FilterGraph} (coherent : graph.Coherent)
    (handle : FilterId) : (graph.removeFilter handle).2.Coherent where
  toAligned := coherent.toAligned.removeFilter handle
  types := by
    rw [types_removeFilter]
    exact coherent.types
  registered := by
    intro other filter found
    rw [filter?_removeFilter] at found
    split at found
    · cases found
    · rw [types_removeFilter]
      exact coherent.registered other filter found

theorem Coherent.indexed {graph : FilterGraph} (coherent : graph.Coherent) :
    graph.indexed.Coherent where
  toAligned := coherent.toAligned.indexed
  types := coherent.types
  registered := coherent.registered

/-- Every change keeps a graph coherent. -/
theorem Coherent.perform {graph : FilterGraph} (coherent : graph.Coherent) (edit : GraphEdit) :
    (graph.perform edit).2.Coherent := by
  cases edit with
  | addType superType subType =>
      exact settle_keeps coherent fun _ _ added => coherent.addType added
  | addSinkType printer =>
      exact settle_keeps coherent fun _ _ added => coherent.addType added
  | insertType media =>
      exact settle_keeps coherent fun _ _ inserted => coherent.insertType inserted
  | addFilter source dest cost program =>
      exact settle_keeps coherent fun _ _ offered => coherent.offerFilter offered
  | addLimitedFilter source dest cost maxSize program =>
      exact settle_keeps coherent fun _ _ offered => coherent.offerFilter offered
  | removeFilter handle => exact coherent.removeFilter handle
  | query => exact coherent.indexed

theorem extends_of_insertType {graph changed : FilterGraph} {media : MediaType}
    {handle : MediaTypeId} (inserted : graph.insertType media = .ok (handle, changed)) :
    changed.types.Extends graph.types := by
  obtain ⟨types, stored, rfl⟩ := insertType_cases inserted
  exact TypeRegistry.insert_extends stored

theorem extends_of_addType {graph changed : FilterGraph} {superType subType : String}
    {handle : MediaTypeId} (added : graph.addType superType subType = .ok (handle, changed)) :
    changed.types.Extends graph.types := by
  obtain ⟨media, _, inserted⟩ := addType_cases added
  exact extends_of_insertType inserted

theorem Coherent.extends_of_offerFilter {graph changed : FilterGraph} (coherent : graph.Coherent)
    {source dest : MediaTypeId} {cost : UInt32} {limit : Option UInt64} {program : String}
    {handle : FilterId}
    (offered : graph.offerFilter source dest cost limit program = .ok (handle, changed)) :
    changed.types.Extends graph.types := by
  rw [coherent.types_offerFilter offered]
  exact .refl graph.types

/-- Every change keeps all types under their handles. -/
theorem Coherent.extends_perform {graph : FilterGraph} (coherent : graph.Coherent)
    (edit : GraphEdit) : (graph.perform edit).2.types.Extends graph.types := by
  have same := TypeRegistry.Extends.refl graph.types
  cases edit with
  | addType superType subType => exact settle_keeps same fun _ _ added => extends_of_addType added
  | addSinkType printer => exact settle_keeps same fun _ _ added => extends_of_addType added
  | insertType media =>
      exact settle_keeps same fun _ _ inserted => extends_of_insertType inserted
  | addFilter source dest cost program =>
      exact settle_keeps same fun _ _ offered => coherent.extends_of_offerFilter offered
  | addLimitedFilter source dest cost maxSize program =>
      exact settle_keeps same fun _ _ offered => coherent.extends_of_offerFilter offered
  | removeFilter handle =>
      show (graph.removeFilter handle).2.types.Extends graph.types
      rw [types_removeFilter]
      exact same
  | query => exact same

/-- **Every reachable graph is coherent.** -/
theorem Reachable.coherent {graph : FilterGraph} (reachable : graph.Reachable) :
    graph.Coherent :=
  reachable.induction coherent_empty fun _ edit coherent => coherent.perform edit

/-- The handles of a coherent graph are the registered ones. -/
theorem Coherent.mem_handles {graph : FilterGraph} (coherent : graph.Coherent)
    {handle : MediaTypeId} :
    handle ∈ graph.types.handles ↔ graph.types.contains handle = true :=
  TypeRegistry.mem_handles coherent.types.size_le

end PrintPlanner.FilterGraph
