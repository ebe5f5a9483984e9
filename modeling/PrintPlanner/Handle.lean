import PrintPlanner.Media.Name

/-!
# Handles and planning errors

Types and filters are referred to by 32-bit handles.  A handle may be well formed
and still name nothing; building a graph reports that as an unknown reference,
beside refused names and exhausted memory.  A missing conversion is never an
error.
-/

set_option autoImplicit false

namespace PrintPlanner

/-- A handle of a media type, counted from zero in order of registration. -/
structure MediaTypeId where
  raw : UInt32
deriving DecidableEq, Repr

/-- A handle of a filter, counted from zero in order of creation. -/
structure FilterId where
  raw : UInt32
deriving DecidableEq, Repr

namespace MediaTypeId

/-- The position of the type among all registered types. -/
def index (handle : MediaTypeId) : Nat := handle.raw.toNat

/-- The handle of the type at a position. -/
def ofIndex (position : Nat) : MediaTypeId := ⟨UInt32.ofNat position⟩

instance : Ord MediaTypeId := ⟨compareOn raw⟩

instance : Std.TransOrd MediaTypeId := inferInstanceAs (Std.TransCmp (compareOn raw))

instance : Std.LawfulEqOrd MediaTypeId where
  eq_of_compare := by
    intro left right equal
    have raws : compare left.raw right.raw = .eq := equal
    cases left
    cases right
    simp_all

end MediaTypeId

namespace FilterId

/-- The position of the filter among all filters ever created. -/
def index (handle : FilterId) : Nat := handle.raw.toNat

/-- The handle of the filter at a position. -/
def ofIndex (position : Nat) : FilterId := ⟨UInt32.ofNat position⟩

end FilterId

/-- The number of handles of each kind. -/
def handleCount : Nat := UInt32.size

namespace MediaTypeId

@[simp] theorem ofIndex_index (handle : MediaTypeId) : ofIndex handle.index = handle := by
  cases handle
  simp [ofIndex, index]

theorem index_ofIndex {position : Nat} (small : position < handleCount) :
    (ofIndex position).index = position := UInt32.toNat_ofNat_of_lt small

theorem index_lt (handle : MediaTypeId) : handle.index < handleCount := handle.raw.toNat_lt

theorem index_inj {left right : MediaTypeId} : left.index = right.index ↔ left = right :=
  ⟨fun same => by rw [← ofIndex_index left, same, ofIndex_index], fun same => by rw [same]⟩

end MediaTypeId

namespace FilterId

@[simp] theorem ofIndex_index (handle : FilterId) : ofIndex handle.index = handle := by
  cases handle
  simp [ofIndex, index]

theorem index_ofIndex {position : Nat} (small : position < handleCount) :
    (ofIndex position).index = position := UInt32.toNat_ofNat_of_lt small

theorem index_lt (handle : FilterId) : handle.index < handleCount := handle.raw.toNat_lt

theorem index_inj {left right : FilterId} : left.index = right.index ↔ left = right :=
  ⟨fun same => by rw [← ofIndex_index left, same, ofIndex_index], fun same => by rw [same]⟩

end FilterId

/-- What a handle was meant to refer to. -/
inductive HandleKind where
  | mediaType
  | filter
deriving DecidableEq, Repr

/-- The words for a kind of handle in messages. -/
def HandleKind.label : HandleKind → String
  | mediaType => "media type"
  | filter => "filter"

/-- Why a type or a filter could not be added to a graph. -/
inductive PlanError where
  | unknownHandle (kind : HandleKind) (raw : UInt32)
  | invalidName (reason : NameError)
  /-- A table would have grown beyond the addressable memory. -/
  | capacityOverflow
deriving DecidableEq, Repr

/-- The wording of a planning error, led by its code in brackets. -/
def PlanError.message : PlanError → String
  | .unknownHandle kind raw =>
      "[PLAN_INVALID_REFERENCE] unknown " ++ kind.label ++ " #" ++ toString raw.toNat
  | .invalidName reason => "[PLAN_INVALID_NAME] " ++ reason.message
  | .capacityOverflow =>
      "[PLAN_ALLOCATION_FAILURE] memory allocation failed because the computed capacity " ++
        "exceeded the collection's maximum"

end PrintPlanner
