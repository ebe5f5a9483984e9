import PrintPlanner.Chain.Search

/-!
# Reachability sweep

The sweep walks backwards from a destination along the producers and lists every
document type that some chain converts into it.  Printer types are passed through
and never listed.  The walk goes four levels below the producers of the destination,
so it sees chains of at most five filters.  A type met again at a smaller depth is
expanded again, since more levels lie below it than before.
-/

set_option autoImplicit false

namespace PrintPlanner

/-- The number of levels that a sweep descends below the first producers. -/
def maxReachDepth : Nat := 4

/-- What a sweep has gathered. -/
structure SweepState where
  /-- The least depth at which each type has been expanded. -/
  expandedAt : Std.TreeMap MediaTypeId Nat
  /-- The listed types in order of discovery. -/
  found : List MediaTypeId

namespace SweepState

/-- The state in which a sweep starts: only the destination is expanded, at depth zero. -/
def initial (dest : MediaTypeId) : SweepState :=
  ⟨(∅ : Std.TreeMap MediaTypeId Nat).insert dest 0, []⟩

/-- Lists a type, unless it is listed already. -/
def list (state : SweepState) (source : MediaTypeId) : SweepState :=
  if source ∈ state.found then state else { state with found := state.found ++ [source] }

/-- Records the depth at which a type is expanded. -/
def expand (state : SweepState) (source : MediaTypeId) (depth : Nat) : SweepState :=
  { state with expandedAt := state.expandedAt.insert source depth }

/-- Whether a type has not been expanded at this depth or a smaller one. -/
def isShallower (state : SweepState) (source : MediaTypeId) (depth : Nat) : Bool :=
  state.expandedAt[source]?.all (depth < ·)

end SweepState

namespace FilterGraph

/-- Whether a producer belongs into the list of a query: it is a document type, and
the queried type itself only belongs through a filter to itself. -/
def isReportable (graph : FilterGraph) (query source : MediaTypeId) : Bool :=
  !graph.types.isSink source &&
    (source ≠ query || (graph.lookupDirect? source source).isSome)

/-- Visits the producers of a type.  `explore` visits the producers of a producer, and
is absent on the last level. -/
def visitProducers (graph : FilterGraph) (query : MediaTypeId) (depth : Nat)
    (explore : Option (MediaTypeId → SweepState → Except SearchFault SweepState)) :
    List MediaTypeId → SweepState → Except SearchFault SweepState
  | [], state => .ok state
  | source :: rest, state =>
      if !graph.types.contains source then .error (.unregistered source)
      else
        let state := if graph.isReportable query source then state.list source else state
        match explore with
        | none => visitProducers graph query depth explore rest state
        | some explore =>
            if state.isShallower source (depth + 1) then
              match explore source (state.expand source (depth + 1)) with
              | .error fault => .error fault
              | .ok state => visitProducers graph query depth (some explore) rest state
            else visitProducers graph query depth (some explore) rest state

/-- Sweeps from `target`, which lies at `depth`, with `levels` more levels below its
producers. -/
def sweepFrom (graph : FilterGraph) (query : MediaTypeId) :
    (levels depth : Nat) → MediaTypeId → SweepState → Except SearchFault SweepState
  | 0, depth, target, state =>
      graph.visitProducers query depth none (graph.producersOf target) state
  | levels + 1, depth, target, state =>
      graph.visitProducers query depth (some (sweepFrom graph query levels (depth + 1)))
        (graph.producersOf target) state

/-- The finished sweep of a registered destination. -/
def sweep (graph : FilterGraph) (dest : MediaTypeId) : Except SearchFault SweepState :=
  graph.indexed.sweepFrom dest maxReachDepth 0 dest (.initial dest)

/-- The document types that some chain converts into `dest`, in order of discovery. -/
def reachableSourceIds (graph : FilterGraph) (dest : MediaTypeId) :
    Except SearchFault (List MediaTypeId) :=
  if graph.types.contains dest then (graph.sweep dest).map SweepState.found else .ok []

/-- The set of the document types that some chain converts into `dest`. -/
def reachableSources (graph : FilterGraph) (dest : MediaTypeId) : Except SearchFault TypeSet :=
  (graph.reachableSourceIds dest).map fun handles =>
    Std.ExtTreeSet.ofList (handles.filterMap graph.types.get?)

end FilterGraph

end PrintPlanner
