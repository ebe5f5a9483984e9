import PrintPlanner.Graph.History
import PrintPlanner.Query.Basic

/-!
# Histories of a graph and its copies

A graph can be copied at any time, and from then on each copy goes its own way.  The
calls that a graph and its copies receive, in the order in which they come, are written
down as data; every call names its graph by the number of graphs that there were before
that one.  A copy has the adjacency tables of its model, if those were built.
-/

set_option autoImplicit false

namespace PrintPlanner

/-- A graph with its copies, in order of creation. -/
structure GraphCopies where
  graphs : List FilterGraph

/-- What a graph can be asked to do. -/
inductive CopyRequest where
  | edit (edit : GraphEdit)
  | ask (query : GraphQuery)
  | clone
deriving DecidableEq

/-- Whether the request only reads, and so may at most build tables. -/
def CopyRequest.isRead : CopyRequest → Bool
  | edit .query | ask _ => true
  | _ => false

/-- A request to one of the graphs. -/
structure CopyCall where
  number : Nat
  request : CopyRequest
deriving DecidableEq

/-- What a call returns. -/
inductive CopyReply where
  | edited (answer : EditAnswer)
  | answered (answer : QueryAnswer)
  /-- The number of the new graph. -/
  | cloned (number : Nat)
  | noSuchGraph

namespace GraphCopies

/-- One empty graph. -/
def start : GraphCopies := ⟨[∅]⟩

/-- The graphs with another one under a number. -/
def replace (copies : GraphCopies) (number : Nat) (graph : FilterGraph) : GraphCopies :=
  ⟨copies.graphs.set number graph⟩

/-- Has the graph under a number do what is asked of it. -/
def serve (copies : GraphCopies) (number : Nat) (graph : FilterGraph) :
    CopyRequest → CopyReply × GraphCopies
  | .edit edit =>
      (.edited (graph.perform edit).1, copies.replace number (graph.perform edit).2)
  | .ask query => (.answered (graph.ask query).1, copies.replace number (graph.ask query).2)
  | .clone => (.cloned copies.graphs.length, ⟨copies.graphs ++ [graph]⟩)

/-- Carries out a call. -/
def perform (copies : GraphCopies) (call : CopyCall) : CopyReply × GraphCopies :=
  match copies.graphs[call.number]? with
  | none => (.noSuchGraph, copies)
  | some graph => copies.serve call.number graph call.request

/-- The graphs after some calls. -/
def after (copies : GraphCopies) : List CopyCall → GraphCopies
  | [] => copies
  | call :: rest => (copies.perform call).2.after rest

/-- The replies to some calls, in order. -/
def replies (copies : GraphCopies) : List CopyCall → List CopyReply
  | [] => []
  | call :: rest => (copies.perform call).1 :: (copies.perform call).2.replies rest

end GraphCopies

end PrintPlanner
