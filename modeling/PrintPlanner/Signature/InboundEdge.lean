import PrintPlanner.Graph.Basic

/-!
# Inbound edges

What a destination's filters look like from outside: each is described by the text
of its source, its cost, its size limit and its program, without handles.  A source
that is itself a printer's type is described by a placeholder, so that the private
stages of different printers look alike.  The edges of a destination are listed in
ascending order, which makes the list depend on the filters alone.
-/

set_option autoImplicit false

namespace PrintPlanner

/-- A filter into some destination, described without handles. -/
structure InboundEdge where
  source : String
  cost : UInt32
  maxSize : UInt64
  program : String
deriving DecidableEq, Repr

namespace InboundEdge

/-- By source, cost, size limit and program, in this order. -/
instance : Ord InboundEdge :=
  ⟨compareLex (compareOn source)
    (compareLex (compareOn cost) (compareLex (compareOn maxSize) (compareOn program)))⟩

instance : Std.TransOrd InboundEdge :=
  inferInstanceAs (Std.TransCmp (compareLex (compareOn source)
    (compareLex (compareOn cost) (compareLex (compareOn maxSize) (compareOn program)))))

instance : Std.LawfulEqOrd InboundEdge where
  eq_of_compare := by
    intro left right equal
    have all : compareLex (compareOn source) (compareLex (compareOn cost)
      (compareLex (compareOn maxSize) (compareOn program))) left right = .eq := equal
    simp only [compareLex, compareOn, Ordering.then_eq_eq, Std.compare_eq_iff_eq] at all
    cases left
    cases right
    simp_all

/-- The ascending list with one more edge, which goes before its equals. -/
def insertSorted (edge : InboundEdge) : List InboundEdge → List InboundEdge
  | [] => [edge]
  | first :: rest =>
      if (compare edge first).isLE then edge :: first :: rest
      else first :: insertSorted edge rest

/-- The edges in ascending order. -/
def sorted (edges : List InboundEdge) : List InboundEdge := edges.foldr insertSorted []

theorem insertSorted_perm (edge : InboundEdge) (edges : List InboundEdge) :
    (insertSorted edge edges).Perm (edge :: edges) := by
  induction edges with
  | nil => exact .refl _
  | cons first rest induction =>
      unfold insertSorted
      split
      · exact .refl _
      · exact (induction.cons first).trans (.swap edge first rest)

/-- Sorting keeps every edge as often as it occurs. -/
theorem sorted_perm (edges : List InboundEdge) : (sorted edges).Perm edges := by
  induction edges with
  | nil => exact .refl _
  | cons edge rest induction =>
      exact (insertSorted_perm edge (sorted rest)).trans (induction.cons edge)

private theorem isLE_of_not_isLE {left right : InboundEdge}
    (above : ¬ (compare left right).isLE) : (compare right left).isLE := by
  rw [Std.OrientedOrd.eq_swap]
  cases order : compare left right <;> simp_all

theorem pairwise_insertSorted (edge : InboundEdge) {edges : List InboundEdge}
    (ascending : edges.Pairwise fun left right => (compare left right).isLE) :
    (insertSorted edge edges).Pairwise fun left right => (compare left right).isLE := by
  induction edges with
  | nil => simp [insertSorted]
  | cons first rest induction =>
      obtain ⟨below, ascendingRest⟩ := List.pairwise_cons.mp ascending
      unfold insertSorted
      split
      · rename_i small
        refine List.pairwise_cons.mpr ⟨fun other member => ?_, ascending⟩
        rcases List.mem_cons.mp member with rfl | later
        · exact small
        · exact Std.TransCmp.isLE_trans small (below other later)
      · rename_i large
        refine List.pairwise_cons.mpr ⟨fun other member => ?_, induction ascendingRest⟩
        rcases List.mem_cons.mp ((insertSorted_perm edge rest).mem_iff.mp member) with rfl | later
        · exact isLE_of_not_isLE large
        · exact below other later

/-- Sorting puts edges into ascending order. -/
theorem pairwise_sorted (edges : List InboundEdge) :
    (sorted edges).Pairwise fun left right => (compare left right).isLE := by
  induction edges with
  | nil => exact .nil
  | cons edge rest induction => exact pairwise_insertSorted edge induction

/-- The source text that stands for every printer's type. -/
def sinkPlaceholder : String := "printer/*"

/-- The text that describes a source; an unregistered source has none. -/
def sourceText (types : TypeRegistry) (source : MediaTypeId) : String :=
  match types.get? source with
  | none => ""
  | some media => if media.isSink then sinkPlaceholder else media.text

/-- The description of a filter. -/
def ofFilter (types : TypeRegistry) (filter : Filter) : InboundEdge :=
  ⟨sourceText types filter.source, filter.cost, filter.maxSize, filter.program⟩

end InboundEdge

/-- The filters into `dest`, described without handles, in ascending order. -/
def FilterGraph.inboundEdges (graph : FilterGraph) (dest : MediaTypeId) : List InboundEdge :=
  InboundEdge.sorted ((graph.filtersInto dest).map fun entry => .ofFilter graph.types entry.2)

end PrintPlanner
