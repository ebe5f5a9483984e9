import PrintPlanner.Chain.Search

/-!
# A trace of the search

A chain search adds costs in one place only, where a filter is put in front of a chain from its
destination.  The searches here keep a record of these additions, of all that are performed and
not only of those that end up in an answer, and their chains cost what is recorded.  In everything
else they are the search.
-/

set_option autoImplicit false

namespace PrintPlanner

/-- The cost of a filter, added to that of the chain that goes on from it. -/
structure CostAddition where
  tail : FilterChain
  filter : Filter
deriving DecidableEq, Repr

namespace CostAddition

/-- The word that is computed. -/
def sum (addition : CostAddition) : UInt64 :=
  addition.tail.cost + addition.filter.cost.toUInt64

/-- The chain that begins with the filter and costs so much. -/
def chain (addition : CostAddition) (handle : FilterId) : FilterChain :=
  ⟨handle :: addition.tail.filters, addition.sum⟩

/-- The two costs add up to less than a long word can hold. -/
def Exact (addition : CostAddition) : Prop :=
  addition.tail.cost.toNat + addition.filter.cost.toNat < UInt64.size

end CostAddition

/-- The outcome of a search, and the additions on the way to it in the order in which they are
performed. -/
structure Traced where
  answer : Except SearchFault (Option FilterChain)
  additions : List CostAddition

namespace Traced

/-- The same outcome, with some additions that came before. -/
def after (traced : Traced) (earlier : List CostAddition) : Traced :=
  ⟨traced.answer, earlier ++ traced.additions⟩

@[simp] theorem answer_after (traced : Traced) (earlier : List CostAddition) :
    (traced.after earlier).answer = traced.answer := rfl

@[simp] theorem additions_after (traced : Traced) (earlier : List CostAddition) :
    (traced.after earlier).additions = earlier ++ traced.additions := rfl

end Traced

namespace ChainQuery

/-- `scan` with a record of its additions. -/
def tracedScan (query : ChainQuery) (explore : List MediaTypeId → MediaTypeId → Traced)
    (path : List MediaTypeId) : List (FilterId × Filter) → Option FilterChain → Traced
  | [], best => ⟨.ok best, []⟩
  | (handle, filter) :: rest, best =>
      let next := filter.dest
      if next = query.dest then tracedScan query explore path rest best
      else if !query.graph.types.contains next then ⟨.error (.unregistered next), []⟩
      else if next ∈ path || !filter.accepts query.size || prunes best filter then
        tracedScan query explore path rest best
      else
        let inner := explore (next :: path) next
        match inner.answer with
        | .error fault => ⟨.error fault, inner.additions⟩
        | .ok none => (tracedScan query explore path rest best).after inner.additions
        | .ok (some tail) =>
            let addition : CostAddition := ⟨tail, filter⟩
            let chain := addition.chain handle
            let later :=
              if improves best chain then
                if query.mode = .firstFound then ⟨.ok (some chain), []⟩
                else tracedScan query explore path rest (some chain)
              else tracedScan query explore path rest best
            later.after (inner.additions ++ [addition])

/-- `search` with a record of its additions. -/
def tracedSearch (query : ChainQuery) : Nat → List MediaTypeId → MediaTypeId → Traced
  | 0, _, _ => ⟨.error .pathTooLong, []⟩
  | steps + 1, path, current =>
      let direct := query.direct? current
      if query.mode = .firstFound ∧ direct.isSome then ⟨.ok direct, []⟩
      else query.tracedScan (tracedSearch query steps) path (query.graph.filtersFrom current) direct

end ChainQuery

/-- `resolveChain` with a record of its additions. -/
def FilterGraph.tracedChain (graph : FilterGraph) (source : MediaTypeId) (size : UInt64)
    (dest : MediaTypeId) (mode : SearchMode) : Traced :=
  let query : ChainQuery := ⟨graph.indexed, size, dest, mode⟩
  if !(graph.types.contains source && graph.types.contains dest) then ⟨.ok none, []⟩
  else if source = dest then ⟨.ok (query.direct? source), []⟩
  else query.tracedSearch graph.types.size [source] source

end PrintPlanner
