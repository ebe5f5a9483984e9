import PrintPlanner.Chain.Walk

/-!
# Exhaustive enumeration of chains

The enumeration lists every chain that visits no type twice, without pruning: first the
direct filter, then for each outgoing filter in order of creation the chains through
its destination.  A chain search has to agree with the first of the cheapest, or with
the first, of the chains listed here.
-/

set_option autoImplicit false

namespace PrintPlanner

namespace FilterGraph

/-- The registered types that are not visited yet. -/
def unvisited (graph : FilterGraph) (visited : List MediaTypeId) : List MediaTypeId :=
  graph.types.handles.filter (· ∉ visited)

/-- Visiting a registered type for the first time leaves fewer types unvisited. -/
theorem length_unvisited_cons {graph : FilterGraph} {visited : List MediaTypeId}
    {next : MediaTypeId} (registered : next ∈ graph.types.handles) (fresh : next ∉ visited) :
    (graph.unvisited (next :: visited)).length < (graph.unvisited visited).length := by
  have split : graph.unvisited (next :: visited) =
      (graph.unvisited visited).filter (· ≠ next) := by
    simp only [unvisited, List.filter_filter]
    apply List.filter_congr
    intro handle _
    simp
  have member : next ∈ graph.unvisited visited := by simp [unvisited, registered, fresh]
  rw [split]
  exact List.length_filter_lt_length_iff_exists.mpr ⟨next, member, by simp⟩

/-- The direct filter into `dest`, as a chain of its own, if it takes the size. -/
def directChains (graph : FilterGraph) (size : UInt64) (current dest : MediaTypeId) :
    List (List FilterId) :=
  match graph.lookupDirect? current dest with
  | none => []
  | some handle =>
      match graph.filter? handle with
      | none => []
      | some filter => if filter.accepts size then [[handle]] else []

/-- All chains from `current` to `dest` through types that are not visited yet. -/
def chainsFrom (graph : FilterGraph) (size : UInt64) (dest : MediaTypeId)
    (visited : List MediaTypeId) (current : MediaTypeId) : List (List FilterId) :=
  graph.directChains size current dest ++
    (graph.filtersFrom current).flatMap fun (handle, filter) =>
      if _onward : filter.dest ≠ dest ∧ filter.dest ∉ visited ∧ filter.accepts size ∧
          filter.dest ∈ graph.types.handles then
        (chainsFrom graph size dest (filter.dest :: visited) filter.dest).map (handle :: ·)
      else []
termination_by (graph.unvisited visited).length
decreasing_by exact length_unvisited_cons _onward.2.2.2 _onward.2.1

/-- The first of the chains that cost least. -/
def firstCheapest (graph : FilterGraph) : List (List FilterId) → Option (List FilterId)
  | [] => none
  | chain :: rest =>
      match firstCheapest graph rest with
      | none => some chain
      | some other => if graph.costOf chain ≤ graph.costOf other then some chain else some other

end FilterGraph

end PrintPlanner
