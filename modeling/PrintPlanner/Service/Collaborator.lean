import PrintPlanner.Chain.Basic
import PrintPlanner.Storage.Fault

/-!
# Collaborators of the planner

The planner only plans.  Declaring types and filters, recognising the type of a
document and running the programs of a chain are left to collaborators, which may
fail in ways of their own.
-/

set_option autoImplicit false

namespace PrintPlanner

/-- The failure of a collaborator. -/
inductive CollaboratorError where
  | storage (fault : StorageFault)
  | plan (error : PlanError)
  | other (text : String)
deriving DecidableEq, Repr

/-- The wording of a collaborator's failure. -/
def CollaboratorError.message : CollaboratorError → String
  | .storage fault => "io error: " ++ fault.message
  | .plan error => error.message
  | .other text => text

/-- Adds declared types and filters to a graph.  A failure leaves the graph as far as it
was filled. -/
structure DeclarationLoader where
  load : FilterGraph → Except CollaboratorError Unit × FilterGraph

/-- Recognises the registered type of the document at a path. -/
structure TypeClassifier where
  classify : TypeRegistry → String → Except CollaboratorError (Option MediaTypeId)

/-- Runs a chain over the document at a path and keeps a state of its own. -/
structure PipelineExecutor (State : Type) where
  execute : FilterGraph → FilterChain → String → State → Except CollaboratorError Unit × State

end PrintPlanner
