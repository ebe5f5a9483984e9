import PrintPlanner.Graph.Basic
import PrintPlanner.Media.History

/-!
# Histories of a graph

The changes that a graph can undergo are written down as data, so that a graph's past
is a list.  Each change returns its answer with the graph it leaves; a refused change
leaves the graph as it was.  A query changes nothing that a caller can see, and only
leaves the adjacency tables built.

A graph is reachable if changes make it out of the empty graph.  More graphs can be
built by starting over some registry or by replacing the registry on the way, after
which filters may name types that the registry does not hold.
-/

set_option autoImplicit false

namespace PrintPlanner

/-- A change of a graph, or a query of it. -/
inductive GraphEdit where
  | addType (superType subType : String)
  | addSinkType (printer : String)
  | insertType (media : MediaType)
  | addFilter (source dest : MediaTypeId) (cost : UInt32) (program : String)
  | addLimitedFilter (source dest : MediaTypeId) (cost : UInt32) (maxSize : UInt64)
      (program : String)
  | removeFilter (handle : FilterId)
  | query
deriving DecidableEq

/-- What a change of a graph returns. -/
inductive EditAnswer where
  | type (result : Except PlanError MediaTypeId)
  | filter (result : Except PlanError FilterId)
  | removed (filter : Option Filter)
  | queried

namespace FilterGraph

/-- The answer of a change with the graph it leaves, which is the old one if it was refused. -/
def settle {Handle : Type} (graph : FilterGraph)
    (result : Except PlanError (Handle × FilterGraph)) : Except PlanError Handle × FilterGraph :=
  match result with
  | .ok (handle, changed) => (.ok handle, changed)
  | .error error => (.error error, graph)

/-- Carries out a change. -/
def perform (graph : FilterGraph) : GraphEdit → EditAnswer × FilterGraph
  | .addType superType subType =>
      (graph.settle (graph.addType superType subType)).map .type id
  | .addSinkType printer => (graph.settle (graph.addSinkType printer)).map .type id
  | .insertType media => (graph.settle (graph.insertType media)).map .type id
  | .addFilter source dest cost program =>
      (graph.settle (graph.addFilter source dest cost program)).map .filter id
  | .addLimitedFilter source dest cost maxSize program =>
      (graph.settle (graph.addLimitedFilter source dest cost maxSize program)).map .filter id
  | .removeFilter handle => (graph.removeFilter handle).map .removed id
  | .query => (.queried, graph.indexed)

/-- The graph after some changes. -/
def after (graph : FilterGraph) : List GraphEdit → FilterGraph
  | [] => graph
  | edit :: rest => (graph.perform edit).2.after rest

/-- The answers of some changes, each with its change. -/
def answers (graph : FilterGraph) : List GraphEdit → List (GraphEdit × EditAnswer)
  | [] => []
  | edit :: rest => (edit, (graph.perform edit).1) :: (graph.perform edit).2.answers rest

/-- A graph that changes have made out of the empty one. -/
def Reachable (graph : FilterGraph) : Prop := ∃ edits, empty.after edits = graph

/-- A graph that was begun over any registry and then changed, or given another registry, any
number of times. -/
inductive Built : FilterGraph → Prop where
  | ofTypes (registrations : List Registration) :
      Built (ofTypes ((∅ : TypeRegistry).after registrations))
  | perform {graph : FilterGraph} (built : Built graph) (edit : GraphEdit) :
      Built (graph.perform edit).2
  | replaceTypes {graph : FilterGraph} (built : Built graph) (registrations : List Registration) :
      Built (graph.replaceTypes ((∅ : TypeRegistry).after registrations))

@[simp] theorem after_nil (graph : FilterGraph) : graph.after [] = graph := rfl

@[simp] theorem after_cons (graph : FilterGraph) (edit : GraphEdit) (rest : List GraphEdit) :
    graph.after (edit :: rest) = (graph.perform edit).2.after rest := rfl

theorem after_append (graph : FilterGraph) (first second : List GraphEdit) :
    graph.after (first ++ second) = (graph.after first).after second := by
  induction first generalizing graph with
  | nil => rfl
  | cons edit rest induction => simp [induction]

/-- A further change keeps a graph reachable. -/
theorem Reachable.perform {graph : FilterGraph} (reachable : graph.Reachable)
    (edit : GraphEdit) : (graph.perform edit).2.Reachable := by
  obtain ⟨edits, rfl⟩ := reachable
  exact ⟨edits ++ [edit], by simp [after_append]⟩

/-- A property of the empty graph that every change keeps holds of every reachable graph. -/
theorem Reachable.induction {motive : FilterGraph → Prop} (start : motive empty)
    (step : ∀ graph edit, motive graph → motive (graph.perform edit).2)
    {graph : FilterGraph} (reachable : graph.Reachable) : motive graph := by
  obtain ⟨edits, rfl⟩ := reachable
  suffices ∀ edits graph, motive graph → motive (graph.after edits) from this edits empty start
  intro edits
  induction edits with
  | nil => exact fun _ holds => holds
  | cons edit rest induction =>
      exact fun graph holds => induction _ (step graph edit holds)

theorem Reachable.built {graph : FilterGraph} (reachable : graph.Reachable) : graph.Built :=
  reachable.induction (.ofTypes []) fun _ edit built => built.perform edit

end FilterGraph

end PrintPlanner
