import PrintPlanner.Chain.Basic

/-!
# Walks

A walk is any finite sequence of filters of a graph in which each filter starts where
the one before it ends.  Types and filters may repeat.  Walks are what a chain search
is measured against: they know nothing of paths, pruning or the order of filters.
-/

set_option autoImplicit false

namespace PrintPlanner

namespace FilterGraph

/-- The filters lead from one type to another, and all of them take the given size. -/
inductive Walk (graph : FilterGraph) (size : UInt64) :
    MediaTypeId → List FilterId → MediaTypeId → Prop where
  | nil (place : MediaTypeId) : Walk graph size place [] place
  | cons {handle : FilterId} {filter : Filter} {rest : List FilterId} {dest : MediaTypeId}
      (live : graph.filter? handle = some filter) (takes : filter.accepts size = true)
      (tail : Walk graph size filter.dest rest dest) :
      Walk graph size filter.source (handle :: rest) dest

/-- The cost of a filter as a natural number, which is zero if there is none. -/
def filterCost (graph : FilterGraph) (handle : FilterId) : Nat :=
  match graph.filter? handle with
  | none => 0
  | some filter => filter.cost.toNat

/-- The sum of the costs of some filters, as a natural number. -/
def costOf (graph : FilterGraph) : List FilterId → Nat
  | [] => 0
  | handle :: rest => graph.filterCost handle + costOf graph rest

@[simp] theorem costOf_nil (graph : FilterGraph) : graph.costOf [] = 0 := rfl

theorem costOf_cons {graph : FilterGraph} {handle : FilterId} {filter : Filter}
    (live : graph.filter? handle = some filter) (rest : List FilterId) :
    graph.costOf (handle :: rest) = filter.cost.toNat + graph.costOf rest := by
  simp [costOf, filterCost, live]

/-- Walks that meet can be joined. -/
theorem Walk.append {graph : FilterGraph} {size : UInt64} {source middle dest : MediaTypeId}
    {first second : List FilterId} (front : graph.Walk size source first middle)
    (back : graph.Walk size middle second dest) :
    graph.Walk size source (first ++ second) dest := by
  induction front with
  | nil => exact back
  | cons live takes _ induction => exact .cons live takes (induction back)

end FilterGraph

end PrintPlanner
