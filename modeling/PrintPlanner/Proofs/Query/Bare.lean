import PrintPlanner.Proofs.Graph.Coherence
import PrintPlanner.Query.Basic

/-!
# Graphs without their adjacency tables

Whether a graph carries its adjacency tables depends on the queries that it has answered.
What a graph is without them determines the reply to every change and what the change leaves
(`FilterGraph.perform_bare`), and if the graph is coherent, the answer to every query
(`FilterGraph.Coherent.answer_congr`).
-/

set_option autoImplicit false

namespace PrintPlanner.FilterGraph

/-- The graph as it is without adjacency tables. -/
def bare (graph : FilterGraph) : FilterGraph := { graph with adjacency? := none }

@[simp] theorem bare_indexed (graph : FilterGraph) : graph.indexed.bare = graph.bare := rfl

/-! ## Changes -/

/-- The result of a change as it is without adjacency tables. -/
def bareResult {Handle : Type} (result : Except PlanError (Handle × FilterGraph)) :
    Except PlanError (Handle × FilterGraph) :=
  result.map fun (handle, changed) => (handle, changed.bare)

theorem insertType_bare (graph : FilterGraph) (media : MediaType) :
    graph.bare.insertType media = bareResult (graph.insertType media) := by
  show (graph.types.insert media).map _ = bareResult ((graph.types.insert media).map _)
  cases graph.types.insert media <;> rfl

theorem addType_bare (graph : FilterGraph) (superType subType : String) :
    graph.bare.addType superType subType = bareResult (graph.addType superType subType) := by
  show (graph.types.addType superType subType).map _ =
    bareResult ((graph.types.addType superType subType).map _)
  cases graph.types.addType superType subType <;> rfl

theorem appendFilter_bare (graph : FilterGraph) (filter : Filter) :
    graph.bare.appendFilter filter = bareResult (graph.appendFilter filter) := by
  unfold appendFilter
  show (if graph.slots.size < handleCount then _ else _) = _
  split <;> rfl

theorem offerFilter_bare (graph : FilterGraph) (source dest : MediaTypeId) (cost : UInt32)
    (limit : Option UInt64) (program : String) :
    graph.bare.offerFilter source dest cost limit program =
      bareResult (graph.offerFilter source dest cost limit program) := by
  unfold offerFilter
  show (graph.checkType source >>= _) = _
  cases graph.checkType source with
  | error fault => rfl
  | ok source =>
      show (graph.checkType dest >>= _) = bareResult (graph.checkType dest >>= _)
      cases graph.checkType dest with
      | error fault => rfl
      | ok dest =>
          have samePair : graph.bare.lookupDirect? source dest = graph.lookupDirect? source dest :=
            rfl
          simp only [bind, Except.bind, samePair]
          cases graph.lookupDirect? source dest with
          | none => exact appendFilter_bare graph _
          | some handle =>
              have sameFilter : graph.bare.filter? handle = graph.filter? handle := rfl
              simp only [sameFilter]
              cases graph.filter? handle with
              | none => exact appendFilter_bare graph _
              | some filter => rfl

theorem removeFilter_bare (graph : FilterGraph) (handle : FilterId) :
    graph.bare.removeFilter handle =
      ((graph.removeFilter handle).1, (graph.removeFilter handle).2.bare) := by
  unfold removeFilter
  have sameFilter : graph.bare.filter? handle = graph.filter? handle := rfl
  rw [sameFilter]
  split <;> rfl

theorem settle_bare {Handle : Type} (graph : FilterGraph)
    (result : Except PlanError (Handle × FilterGraph)) :
    graph.bare.settle (bareResult result) =
      ((graph.settle result).1, (graph.settle result).2.bare) := by
  cases result <;> rfl

/-- **A change has the same reply without the tables, and leaves the same but for them.** -/
theorem perform_bare (graph : FilterGraph) (edit : GraphEdit) :
    (graph.bare.perform edit).1 = (graph.perform edit).1 ∧
      (graph.bare.perform edit).2.bare = (graph.perform edit).2.bare := by
  cases edit with
  | addType superType subType =>
      simp only [perform, addType_bare, settle_bare]
      exact ⟨rfl, rfl⟩
  | addSinkType printer =>
      simp only [perform, addSinkType_eq_addType, addType_bare, settle_bare]
      exact ⟨rfl, rfl⟩
  | insertType media =>
      simp only [perform, insertType_bare, settle_bare]
      exact ⟨rfl, rfl⟩
  | addFilter source dest cost program =>
      simp only [perform, addFilter, offerFilter_bare, settle_bare]
      exact ⟨rfl, rfl⟩
  | addLimitedFilter source dest cost maxSize program =>
      simp only [perform, addLimitedFilter, offerFilter_bare, settle_bare]
      exact ⟨rfl, rfl⟩
  | removeFilter handle =>
      simp only [perform, removeFilter_bare]
      exact ⟨rfl, rfl⟩
  | query => exact ⟨rfl, rfl⟩

/-- Graphs that differ in their tables alone reply alike and still differ in their tables alone
afterwards. -/
theorem perform_congr {first second : FilterGraph} (same : first.bare = second.bare)
    (edit : GraphEdit) :
    (first.perform edit).1 = (second.perform edit).1 ∧
      (first.perform edit).2.bare = (second.perform edit).2.bare := by
  obtain ⟨firstReply, firstLeft⟩ := first.perform_bare edit
  obtain ⟨secondReply, secondLeft⟩ := second.perform_bare edit
  rw [← firstReply, ← firstLeft, same]
  exact ⟨secondReply, secondLeft⟩

/-! ## Queries -/

/-- Coherent graphs that differ in their tables alone do not differ once these are built. -/
theorem Coherent.indexed_congr {first second : FilterGraph} (firstCoherent : first.Coherent)
    (secondCoherent : second.Coherent) (same : first.bare = second.bare) :
    first.indexed = second.indexed := by
  have indexed_eq : ∀ {graph : FilterGraph}, graph.Coherent → graph.indexed =
      { graph.bare with adjacency? := some (Adjacency.ofFilters graph.bare.filters) } := by
    intro graph coherent
    rw [FilterGraph.indexed, coherent.adjacency_eq]
    rfl
  rw [indexed_eq firstCoherent, indexed_eq secondCoherent, same]

/-- Building the tables changes no answer. -/
theorem answer_indexed (graph : FilterGraph) (query : GraphQuery) :
    graph.indexed.answer query = graph.answer query := by
  cases query <;> rfl

/-- **Coherent graphs that differ in their tables alone answer every question alike.** -/
theorem Coherent.answer_congr {first second : FilterGraph} (firstCoherent : first.Coherent)
    (secondCoherent : second.Coherent) (same : first.bare = second.bare) (query : GraphQuery) :
    first.answer query = second.answer query := by
  rw [← answer_indexed first, ← answer_indexed second,
    firstCoherent.indexed_congr secondCoherent same]

/-- A question leaves everything but the tables as it is. -/
theorem bare_ask (graph : FilterGraph) (query : GraphQuery) :
    (graph.ask query).2.bare = graph.bare := by
  unfold ask
  split <;> rfl

/-- A question leaves the graph reachable. -/
theorem Reachable.ask {graph : FilterGraph} (reachable : graph.Reachable) (query : GraphQuery) :
    (graph.ask query).2.Reachable := by
  unfold FilterGraph.ask
  split
  · exact reachable.perform .query
  · exact reachable

end PrintPlanner.FilterGraph
