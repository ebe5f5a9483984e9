import PrintPlanner.Reach.Sweep
import PrintPlanner.Signature.Basic

/-!
# Queries of a graph

The questions that a graph answers without changing are written down as data, as its
changes are.  A query whose answer is read off the adjacency tables leaves them built.
Others leave the graph alone: a search of which the outcome is clear before it looks at
any outgoing filter, or a sweep of an unknown destination, builds no tables.
-/

set_option autoImplicit false

namespace PrintPlanner

/-- A question to a graph. -/
inductive GraphQuery where
  | types
  | filter (handle : FilterId)
  | lookupDirect (source dest : MediaTypeId)
  | directFilter (source dest : MediaTypeId)
  | filters
  | filterCount
  | producersOf (dest : MediaTypeId)
  | filtersFrom (source : MediaTypeId)
  | filtersInto (dest : MediaTypeId)
  | chain (source : MediaTypeId) (size : UInt64) (dest : MediaTypeId) (mode : SearchMode)
  | programs (chain : FilterChain)
  | reachableSourceIds (dest : MediaTypeId)
  | reachableSources (dest : MediaTypeId)
  | signature (dest : MediaTypeId)
deriving DecidableEq

/-- What a graph answers. -/
inductive QueryAnswer where
  | types (types : TypeRegistry)
  | filter (filter : Option Filter)
  | handle (handle : Option FilterId)
  | filters (filters : List (FilterId × Filter))
  | count (count : Nat)
  | producers (sources : List MediaTypeId)
  | chain (result : Except SearchFault (Option FilterChain))
  | programs (programs : List String)
  | sourceIds (result : Except SearchFault (List MediaTypeId))
  | sources (result : Except SearchFault TypeSet)
  | signature (signature : SinkSignature)

namespace FilterGraph

/-- The answer to a question. -/
def answer (graph : FilterGraph) : GraphQuery → QueryAnswer
  | .types => .types graph.types
  | .filter handle => .filter (graph.filter? handle)
  | .lookupDirect source dest => .handle (graph.lookupDirect? source dest)
  | .directFilter source dest => .filter (graph.directFilter? source dest)
  | .filters => .filters graph.filters
  | .filterCount => .count graph.filterCount
  | .producersOf dest => .producers (graph.producersOf dest)
  | .filtersFrom source => .filters (graph.filtersFrom source)
  | .filtersInto dest => .filters (graph.filtersInto dest)
  | .chain source size dest mode => .chain (graph.resolveChain source size dest mode)
  | .programs chain => .programs (chain.programs graph)
  | .reachableSourceIds dest => .sourceIds (graph.reachableSourceIds dest)
  | .reachableSources dest => .sources (graph.reachableSources dest)
  | .signature dest => .signature (graph.signature dest)

/-- Whether the answer to a question is read off the adjacency tables. -/
def readsTables (graph : FilterGraph) : GraphQuery → Bool
  | .types | .filter _ | .lookupDirect _ _ | .directFilter _ _ | .filters | .filterCount
  | .programs _ => false
  | .producersOf _ | .filtersFrom _ | .filtersInto _ | .signature _ => true
  | .chain source size dest mode =>
      let query : ChainQuery := ⟨graph, size, dest, mode⟩
      graph.types.contains source && graph.types.contains dest && source ≠ dest &&
        !(mode = .firstFound && (query.direct? source).isSome)
  | .reachableSourceIds dest | .reachableSources dest => graph.types.contains dest

/-- Answers a question.  Tables that are looked at are built and stay. -/
def ask (graph : FilterGraph) (query : GraphQuery) : QueryAnswer × FilterGraph :=
  (graph.answer query, if graph.readsTables query then graph.indexed else graph)

end FilterGraph

end PrintPlanner
