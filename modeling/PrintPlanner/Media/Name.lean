import PrintPlanner.Text.Blank
import PrintPlanner.Text.Fold
import PrintPlanner.Text.Quoted

/-!
# Names of media types

A media type is named by two parts, such as `application` and `pdf`.  A part is a
nonempty text of bounded length without a slash, a blank or a control character.
This module states that rule, reports the first way in which a text breaks it, and
shows that folding the case of a text changes neither whether it is a name nor its
length.
-/

set_option autoImplicit false

namespace PrintPlanner

open Text

/-- The two parts of a media type's name. -/
inductive NamePart where
  | superType
  | subType
deriving DecidableEq, Repr

namespace NamePart

/-- The word for a part in messages. -/
def label : NamePart → String
  | superType => "super-type"
  | subType => "type"

/-- The greatest number of bytes a part may have. -/
def limit : NamePart → Nat
  | superType => 15
  | subType => 255

end NamePart

/-- Whether a character may occur in a part of a name. -/
def isNameChar (c : Char) : Bool := c != '/' && !isBlank c && !isControl c

/-- The texts that may stand as the given part of a name. -/
structure IsName (part : NamePart) (text : String) : Prop where
  nonempty : text ≠ ""
  fits : text.utf8ByteSize ≤ part.limit
  clean : ∀ c ∈ text.toList, isNameChar c = true

/-- Why a text was refused as the name of a media type. -/
inductive NameError where
  /-- The text has no slash between two parts. -/
  | unsplit (text : String)
  | empty (part : NamePart)
  | tooLong (part : NamePart) (text : String)
  /-- The first character of the text that may not occur in a name. -/
  | badCharacter (part : NamePart) (text : String) (char : Char)
  /-- Every handle is taken, so the named type cannot be registered. -/
  | registryFull (text : String)
  /-- A reason worded by another component. -/
  | reported (reason : String)
deriving DecidableEq, Repr

/-- The wording of a refused name. -/
def NameError.message : NameError → String
  | .unsplit text => quote text ++ " is not super/type"
  | .empty part => "empty " ++ part.label
  | .tooLong part text =>
      part.label ++ " " ++ quote text ++ " exceeds " ++ toString part.limit ++ " bytes"
  | .badCharacter part text char =>
      part.label ++ " " ++ quote text ++ " contains " ++ quoteChar char
  | .registryFull text => "registry full, cannot add " ++ text
  | .reported reason => reason

/-- The first rule that a text breaks as the given part of a name. -/
def nameFault? (part : NamePart) (text : String) : Option NameError :=
  if text = "" then some (.empty part)
  else if part.limit < text.utf8ByteSize then some (.tooLong part text)
  else (text.toList.find? (!isNameChar ·)).map (.badCharacter part text)

/-- A text breaks no rule exactly when it is a name. -/
theorem nameFault?_eq_none_iff {part : NamePart} {text : String} :
    nameFault? part text = none ↔ IsName part text := by
  unfold nameFault?
  constructor
  · intro faultless
    split at faultless
    · simp at faultless
    · rename_i nonempty
      split at faultless
      · simp at faultless
      · rename_i short
        refine ⟨nonempty, by omega, ?_⟩
        simpa using faultless
  · rintro ⟨nonempty, fits, clean⟩
    rw [if_neg nonempty, if_neg (by omega)]
    simpa using clean

/-! ## Names under folding -/

private theorem isNameChar_of_ascii {c : Char} (low : 0x21 ≤ c.toNat) (high : c.toNat ≤ 0x7e)
    (noSlash : c.toNat ≠ 0x2f) : isNameChar c = true := by
  have differs : c ≠ '/' := fun same => noSlash (by rw [same]; rfl)
  simp only [isNameChar, isBlank, isControl, Bool.and_eq_true, Bool.not_eq_true',
    Bool.or_eq_false_iff, Bool.and_eq_false_iff, decide_eq_false_iff_not, beq_eq_false_iff_ne,
    bne_iff_ne]
  refine ⟨⟨differs, ?_⟩, ?_⟩ <;> omega

/-- Folding a character does not change whether it may occur in a name. -/
@[simp] theorem isNameChar_toLower (c : Char) : isNameChar c.toLower = isNameChar c := by
  have moved := toNat_toLower c
  split at moved
  · rw [isNameChar_of_ascii (by omega) (by omega) (by omega),
      isNameChar_of_ascii (by omega) (by omega) (by omega)]
  · rw [Char.toNat_inj.mp moved]

@[simp] theorem foldCase_eq_empty_iff {text : String} : foldCase text = "" ↔ text = "" := by
  rw [← String.toList_inj, ← String.toList_inj, toList_foldCase]
  simp

/-- Folding does not change whether a text is a name. -/
theorem isName_foldCase {part : NamePart} {text : String} :
    IsName part (foldCase text) ↔ IsName part text := by
  constructor
  · rintro ⟨nonempty, fits, clean⟩
    refine ⟨by simpa using nonempty, by simpa using fits, ?_⟩
    simpa using clean
  · rintro ⟨nonempty, fits, clean⟩
    refine ⟨by simpa using nonempty, by simpa using fits, ?_⟩
    simpa using clean

end PrintPlanner
