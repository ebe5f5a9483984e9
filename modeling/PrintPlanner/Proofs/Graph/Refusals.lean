import PrintPlanner.Graph.History

/-!
# Refused changes

A change of a graph may be refused, and then changes nothing
(`FilterGraph.perform_of_isRefused`).  A list of changes is accepted as a whole if none of them is
refused when they are made one after the other (`FilterGraph.AcceptsAll`).
-/

set_option autoImplicit false

namespace PrintPlanner

/-- Whether a change was refused.  Removing what is not there is no failure. -/
def EditAnswer.isRefused : EditAnswer → Bool
  | .type result => !result.isOk
  | .filter result => !result.isOk
  | .removed _ | .queried => false

namespace FilterGraph

variable {graph : FilterGraph}

/-- None of the changes is refused. -/
def AcceptsAll (graph : FilterGraph) (edits : List GraphEdit) : Prop :=
  ∀ answered ∈ graph.answers edits, answered.2.isRefused = false

instance {edits : List GraphEdit} : Decidable (graph.AcceptsAll edits) :=
  inferInstanceAs (Decidable (∀ answered ∈ graph.answers edits, _))

theorem acceptsAll_nil : graph.AcceptsAll [] := by
  simp [AcceptsAll, answers]

theorem acceptsAll_cons {edit : GraphEdit} {rest : List GraphEdit} :
    graph.AcceptsAll (edit :: rest) ↔
      (graph.perform edit).1.isRefused = false ∧ (graph.perform edit).2.AcceptsAll rest := by
  simp [AcceptsAll, answers]

/-- A refused change changes nothing. -/
theorem perform_of_isRefused {edit : GraphEdit}
    (refused : (graph.perform edit).1.isRefused = true) : (graph.perform edit).2 = graph := by
  have settles : ∀ {Handle : Type} {result : Except PlanError (Handle × FilterGraph)},
      (!(graph.settle result).1.isOk) = true → (graph.settle result).2 = graph := by
    intro Handle result failed
    cases result with
    | error error => rfl
    | ok pair => cases failed
  cases edit with
  | addType superType subType => exact settles refused
  | addSinkType printer => exact settles refused
  | insertType media => exact settles refused
  | addFilter source dest cost program => exact settles refused
  | addLimitedFilter source dest cost maxSize program => exact settles refused
  | removeFilter handle => cases refused
  | query => cases refused

end FilterGraph

end PrintPlanner
