import Std.Data.ExtTreeSet
import PrintPlanner.Media.Name

/-!
# Media types

A media type is a pair of folded names.  The only ways to obtain one are to give
its two parts or its `super/type` text, and both refuse anything that is not a
name, so every value of the type is valid.  Types are ordered by the first part
and then by the second, which is not the order of their texts.
-/

set_option autoImplicit false

namespace PrintPlanner

open Text

/-- A pair of texts under which a media type may be looked up. -/
structure TypeName where
  superType : String
  subType : String
deriving DecidableEq, Repr

namespace TypeName

/-- The pair of two texts, both folded. -/
def folded (superType subType : String) : TypeName :=
  ⟨foldCase superType, foldCase subType⟩

/-- The two parts with a slash between them. -/
def text (name : TypeName) : String := name.superType ++ "/" ++ name.subType

/-- By the first part, then by the second, each by code points. -/
instance : Ord TypeName := ⟨compareLex (compareOn superType) (compareOn subType)⟩

instance : Std.TransOrd TypeName :=
  inferInstanceAs (Std.TransCmp (compareLex (compareOn superType) (compareOn subType)))

instance : Std.LawfulEqOrd TypeName where
  eq_of_compare := by
    intro left right equal
    have both : compareLex (compareOn superType) (compareOn subType) left right = .eq := equal
    simp only [compareLex, compareOn, Ordering.then_eq_eq, Std.compare_eq_iff_eq] at both
    cases left
    cases right
    simp_all

end TypeName

/-- A `(super, type)` pair of names in lower case. -/
structure MediaType extends TypeName where
  superType_isName : IsName .superType superType
  subType_isName : IsName .subType subType
  superType_folded : foldCase superType = superType
  subType_folded : foldCase subType = subType
deriving DecidableEq

namespace MediaType

/-- The first part reserved for the types of individual printers. -/
def sinkSuperType : String := "printer"

/-- The media type with the given parts, the first part being checked first. -/
def ofParts (superType subType : String) : Except NameError MediaType :=
  match superCheck : nameFault? .superType superType with
  | some fault => .error fault
  | none =>
      match subCheck : nameFault? .subType subType with
      | some fault => .error fault
      | none => .ok
          { TypeName.folded superType subType with
            superType_isName := isName_foldCase.mpr (nameFault?_eq_none_iff.mp superCheck)
            subType_isName := isName_foldCase.mpr (nameFault?_eq_none_iff.mp subCheck)
            superType_folded := foldCase_foldCase superType
            subType_folded := foldCase_foldCase subType }

/-- The media type named by a `super/type` text, which is cut at its first slash. -/
def parse (text : String) : Except NameError MediaType :=
  match cutAtFirst '/' text with
  | none => .error (.unsplit text)
  | some (superType, subType) => ofParts superType subType

/-- The media types named by some texts, or why the first refused one was refused. -/
def parseAll : List String → Except NameError (List MediaType)
  | [] => .ok []
  | text :: rest => do
      let media ← parse text
      let others ← parseAll rest
      .ok (media :: others)

/-- The `super/type` text of a media type. -/
def text (media : MediaType) : String := media.toTypeName.text

/-- Whether the type stands for one printer rather than for a document format. -/
def isSink (media : MediaType) : Bool := media.superType == sinkSuperType

theorem ext_toTypeName {left right : MediaType}
    (same : left.toTypeName = right.toTypeName) : left = right := by
  cases left
  cases right
  simp_all

/-- Media types are ordered as their names are. -/
instance : Ord MediaType := ⟨compareOn toTypeName⟩

instance : Std.TransOrd MediaType := inferInstanceAs (Std.TransCmp (compareOn toTypeName))

instance : Std.LawfulEqOrd MediaType where
  eq_of_compare := by
    intro left right equal
    have names : compare left.toTypeName right.toTypeName = .eq := equal
    exact ext_toTypeName (Std.compare_eq_iff_eq.mp names)

/-- What giving two parts succeeds on, and with what. -/
theorem ofParts_eq_ok_iff {superType subType : String} {media : MediaType} :
    ofParts superType subType = .ok media ↔
      IsName .superType superType ∧ IsName .subType subType ∧
        media.toTypeName = TypeName.folded superType subType := by
  unfold ofParts
  split
  · rename_i fault superCheck
    have refused : ¬ IsName .superType superType := fun valid => by
      rw [nameFault?_eq_none_iff.mpr valid] at superCheck
      simp at superCheck
    simp [refused]
  · rename_i superCheck
    have superValid := nameFault?_eq_none_iff.mp superCheck
    split
    · rename_i fault subCheck
      have refused : ¬ IsName .subType subType := fun valid => by
        rw [nameFault?_eq_none_iff.mpr valid] at subCheck
        simp at subCheck
      simp [refused]
    · rename_i subCheck
      have subValid := nameFault?_eq_none_iff.mp subCheck
      simp only [Except.ok.injEq, superValid, subValid, true_and]
      constructor
      · rintro rfl
        rfl
      · intro same
        exact ext_toTypeName same.symm

end MediaType

/-- A set of media types, listed in the order of the types. -/
abbrev TypeSet := Std.ExtTreeSet MediaType

/-- The texts of the types in a set, in the order of the types. -/
def TypeSet.texts (types : TypeSet) : List String := types.toList.map MediaType.text

end PrintPlanner
