import PrintPlanner.Handle

/-!
# Filters

A filter is an external program that converts documents of one media type into
another, at a fixed cost.  It may refuse documents above a size limit; the limit
zero stands for none.
-/

set_option autoImplicit false

namespace PrintPlanner

/-- A converter program between two media types. -/
structure Filter where
  source : MediaTypeId
  dest : MediaTypeId
  cost : UInt32
  /-- The greatest document size in bytes that the program takes, or zero for any. -/
  maxSize : UInt64
  program : String
deriving DecidableEq, Repr

/-- Whether the filter takes a document of the given size. -/
def Filter.accepts (filter : Filter) (size : UInt64) : Bool :=
  filter.maxSize == 0 || size ≤ filter.maxSize

/-- The filter of a pair after another offer for the same pair.  Only a strictly
lower cost replaces the cost and the program, and with them the size limit if the
offer states one. -/
def Filter.improve (filter : Filter) (cost : UInt32) (limit : Option UInt64)
    (program : String) : Filter :=
  if cost < filter.cost then { filter with cost, program, maxSize := limit.getD filter.maxSize }
  else filter

/-- The two types that a filter connects. -/
structure Endpoints where
  source : MediaTypeId
  dest : MediaTypeId
deriving DecidableEq, Repr

namespace Endpoints

instance : Ord Endpoints := ⟨compareLex (compareOn source) (compareOn dest)⟩

instance : Std.TransOrd Endpoints :=
  inferInstanceAs (Std.TransCmp (compareLex (compareOn source) (compareOn dest)))

instance : Std.LawfulEqOrd Endpoints where
  eq_of_compare := by
    intro left right equal
    have both : compareLex (compareOn source) (compareOn dest) left right = .eq := equal
    simp only [compareLex, compareOn, Ordering.then_eq_eq, Std.compare_eq_iff_eq] at both
    cases left
    cases right
    simp_all

end Endpoints

/-- The two types that the filter connects. -/
def Filter.endpoints (filter : Filter) : Endpoints := ⟨filter.source, filter.dest⟩

end PrintPlanner
