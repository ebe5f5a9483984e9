import PrintPlanner.Chain.Basic

/-!
# Chain search

The search walks forward from the source, depth first, and never enters a type that
is already on its path or the destination before the end.  At each type it first
considers the direct filter to the destination and then every outgoing filter in
order of creation.  A filter that alone costs as much as the best chain so far is
not followed, and only a strictly cheaper chain replaces the best one.

A path holds every type at most once, so as many nested steps as there are types
suffice.  The search reports a filter that leads outside the registry, which happens
only after the registry has been replaced.
-/

set_option autoImplicit false

namespace PrintPlanner

/-- Why a search was broken off. -/
inductive SearchFault where
  /-- A filter names a type that the registry does not hold. -/
  | unregistered (handle : MediaTypeId)
  /-- More types lie on one path than there are types. -/
  | pathTooLong
deriving DecidableEq, Repr

/-- What to search for: a chain for a document of some size into a destination. -/
structure ChainQuery where
  graph : FilterGraph
  size : UInt64
  dest : MediaTypeId
  mode : SearchMode

namespace ChainQuery

/-- The chain of the direct filter from `current` to the destination. -/
def direct? (query : ChainQuery) (current : MediaTypeId) : Option FilterChain := do
  let handle ← query.graph.lookupDirect? current query.dest
  let filter ← query.graph.filter? handle
  if filter.accepts query.size then some (.single handle filter) else none

/-- Whether a filter alone costs at least as much as the best chain so far. -/
def prunes (best : Option FilterChain) (filter : Filter) : Bool :=
  best.any fun chain => chain.cost ≤ filter.cost.toUInt64

/-- Whether a chain costs less than the best chain so far. -/
def improves (best : Option FilterChain) (chain : FilterChain) : Bool :=
  best.all fun incumbent => chain.cost < incumbent.cost

/-- Tries the outgoing filters of a type in order.  `path` holds the types passed so
far, and `explore` searches on from a type that is put on the path. -/
def scan (query : ChainQuery)
    (explore : List MediaTypeId → MediaTypeId → Except SearchFault (Option FilterChain))
    (path : List MediaTypeId) :
    List (FilterId × Filter) → Option FilterChain → Except SearchFault (Option FilterChain)
  | [], best => .ok best
  | (handle, filter) :: rest, best =>
      let next := filter.dest
      if next = query.dest then scan query explore path rest best
      else if !query.graph.types.contains next then .error (.unregistered next)
      else if next ∈ path || !filter.accepts query.size || prunes best filter then
        scan query explore path rest best
      else
        match explore (next :: path) next with
        | .error fault => .error fault
        | .ok none => scan query explore path rest best
        | .ok (some tail) =>
            let chain := tail.cons handle filter
            if improves best chain then
              if query.mode = .firstFound then .ok (some chain)
              else scan query explore path rest (some chain)
            else scan query explore path rest best

/-- The best chain from `current`, which lies at the end of `path`, to the
destination, using at most `steps` nested steps. -/
def search (query : ChainQuery) :
    Nat → List MediaTypeId → MediaTypeId → Except SearchFault (Option FilterChain)
  | 0, _, _ => .error .pathTooLong
  | steps + 1, path, current =>
      let direct := query.direct? current
      if query.mode = .firstFound ∧ direct.isSome then .ok direct
      else query.scan (search query steps) path (query.graph.filtersFrom current) direct

end ChainQuery

namespace FilterGraph

/-- The chain that converts a document of the given size from `source` into `dest`, if
there is one; the size zero stands for an unknown size.  From a type to itself only
the filter between the two serves, for a chain never comes back to its source. -/
def resolveChain (graph : FilterGraph) (source : MediaTypeId) (size : UInt64)
    (dest : MediaTypeId) (mode : SearchMode) : Except SearchFault (Option FilterChain) :=
  let query : ChainQuery := ⟨graph.indexed, size, dest, mode⟩
  if !(graph.types.contains source && graph.types.contains dest) then .ok none
  else if source = dest then .ok (query.direct? source)
  else query.search graph.types.size [source] source

/-- The chain of least cost. -/
def cheapestChain (graph : FilterGraph) (source : MediaTypeId) (size : UInt64)
    (dest : MediaTypeId) : Except SearchFault (Option FilterChain) :=
  graph.resolveChain source size dest .cheapest

/-- Whether there is any chain. -/
def canConvert (graph : FilterGraph) (source : MediaTypeId) (size : UInt64)
    (dest : MediaTypeId) : Except SearchFault Bool :=
  (graph.resolveChain source size dest .firstFound).map Option.isSome

end FilterGraph

end PrintPlanner
