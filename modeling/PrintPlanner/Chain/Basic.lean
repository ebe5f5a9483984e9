import PrintPlanner.Graph.Basic

/-!
# Filter chains

A chain is the list of filters that a document passes through, with the sum of
their costs.  It refers to filters by handle, so its programs are looked up in a
graph, where a filter may have been removed since.
-/

set_option autoImplicit false

namespace PrintPlanner

/-- How hard a chain is searched for. -/
inductive SearchMode where
  /-- Take the chain of least cost, and of several the first one met. -/
  | cheapest
  /-- Take the first chain met. -/
  | firstFound
deriving DecidableEq, Repr

instance : Inhabited SearchMode := ⟨.cheapest⟩

/-- Filters to run one after the other, and what they cost together. -/
structure FilterChain where
  filters : List FilterId
  cost : UInt64
deriving DecidableEq, Repr

namespace FilterChain

/-- The chain of one filter. -/
def single (handle : FilterId) (filter : Filter) : FilterChain :=
  ⟨[handle], filter.cost.toUInt64⟩

/-- The chain that runs one filter before the others. -/
def cons (handle : FilterId) (filter : Filter) (tail : FilterChain) : FilterChain :=
  ⟨handle :: tail.filters, tail.cost + filter.cost.toUInt64⟩

/-- The number of filters. -/
def length (chain : FilterChain) : Nat := chain.filters.length

/-- The programs of a chain in the order of execution, without removed filters. -/
def programs (chain : FilterChain) (graph : FilterGraph) : List String :=
  chain.filters.filterMap fun handle => (graph.filter? handle).map Filter.program

end FilterChain

end PrintPlanner
