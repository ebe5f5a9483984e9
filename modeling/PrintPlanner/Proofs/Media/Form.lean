import PrintPlanner.Proofs.Media.Text

/-!
# The form of a media type's text

A text is accepted if it is two names with a slash between them (`IsTypeText`).  No name holds a
slash, so the first slash is the only one, and whether a text is accepted can be read off its bytes
and characters without cutting it anywhere (`HasTypeForm`).  What an accepted text is read as is
shown as this text in lower case, and every media type is given back both by its text and by its
two parts (`MediaType.text_roundTrip`).
-/

set_option autoImplicit false

namespace PrintPlanner

open Text

/-- The text is two names with a slash between them.  The first name holds no slash, so it ends at
the first one, and the second must not hold one either. -/
def IsTypeText (text : String) : Prop :=
  ∃ superType subType, text = superType ++ "/" ++ subType ∧
    IsName .superType superType ∧ IsName .subType subType

namespace MediaType

/-- The first part is checked first. -/
theorem ofParts_eq_error_iff {superType subType : String} {fault : NameError} :
    ofParts superType subType = .error fault ↔
      (nameFault? .superType superType).or (nameFault? .subType subType) = some fault := by
  unfold ofParts
  split
  · rename_i superFault superCheck
    simp [superCheck]
  · rename_i superCheck
    split
    · rename_i subFault subCheck
      simp [superCheck, subCheck]
    · rename_i subCheck
      simp [superCheck, subCheck]

theorem exists_ofParts_iff {superType subType : String} :
    (∃ media, ofParts superType subType = .ok media) ↔
      IsName .superType superType ∧ IsName .subType subType := by
  constructor
  · rintro ⟨media, parts⟩
    obtain ⟨superValid, subValid, _⟩ := ofParts_eq_ok_iff.mp parts
    exact ⟨superValid, subValid⟩
  · rintro ⟨superValid, subValid⟩
    cases parts : ofParts superType subType with
    | ok media => exact ⟨media, rfl⟩
    | error fault =>
        have broken := ofParts_eq_error_iff.mp parts
        rw [nameFault?_eq_none_iff.mpr superValid, nameFault?_eq_none_iff.mpr subValid] at broken
        cases broken

theorem exists_parse_iff {text : String} :
    (∃ media, parse text = .ok media) ↔ IsTypeText text := by
  constructor
  · rintro ⟨media, parsed⟩
    obtain ⟨superType, subType, split, parts⟩ := parse_eq_ok_iff.mp parsed
    exact ⟨superType, subType, split, exists_ofParts_iff.mp ⟨media, parts⟩⟩
  · rintro ⟨superType, subType, split, valid⟩
    obtain ⟨media, parts⟩ := exists_ofParts_iff.mpr valid
    exact ⟨media, parse_eq_ok_iff.mpr ⟨superType, subType, split, parts⟩⟩

/-- A media type is given back by its own parts. -/
theorem ofParts_parts (media : MediaType) :
    ofParts media.superType media.subType = .ok media := by
  refine ofParts_eq_ok_iff.mpr ⟨media.superType_isName, media.subType_isName, ?_⟩
  rw [TypeName.folded, media.superType_folded, media.subType_folded]

/-- A media type is given back by its own text. -/
theorem parse_text (media : MediaType) : parse media.text = .ok media :=
  (parse_parts media.slash_notMem_superType media.subType).trans media.ofParts_parts

end MediaType

/-! ## Bytes and characters -/

/-- The text has between one byte and the limit, and no blank or control character. -/
structure IsPlainPart (limit : Nat) (text : String) : Prop where
  nonempty : 1 ≤ text.utf8ByteSize
  fits : text.utf8ByteSize ≤ limit
  clean : ∀ c ∈ text.toList, isBlank c = false ∧ isControl c = false

instance (limit : Nat) (text : String) : Decidable (IsPlainPart limit text) :=
  decidable_of_iff (1 ≤ text.utf8ByteSize ∧ text.utf8ByteSize ≤ limit ∧
      text.toList.all (fun c => !isBlank c && !isControl c) = true) <| by
    simp only [List.all_eq_true, Bool.and_eq_true, Bool.not_eq_true']
    exact ⟨fun ⟨nonempty, fits, clean⟩ => ⟨nonempty, fits, clean⟩,
      fun plain => ⟨plain.nonempty, plain.fits, plain.clean⟩⟩

/-- A name is a plain part without a slash. -/
theorem isName_iff {part : NamePart} {text : String} :
    IsName part text ↔ IsPlainPart part.limit text ∧ '/' ∉ text.toList := by
  have size : 1 ≤ text.utf8ByteSize ↔ text ≠ "" := by
    rw [Nat.one_le_iff_ne_zero, ne_eq, String.utf8ByteSize_eq_zero_iff]
  constructor
  · intro valid
    refine ⟨⟨size.mpr valid.nonempty, valid.fits, fun c member => ?_⟩, fun slash => ?_⟩
    · have clean := valid.clean c member
      simp only [isNameChar, Bool.and_eq_true, Bool.not_eq_true'] at clean
      exact ⟨clean.1.2, clean.2⟩
    · simpa [isNameChar] using valid.clean '/' slash
  · rintro ⟨plain, whole⟩
    refine ⟨size.mp plain.nonempty, plain.fits, fun c member => ?_⟩
    have differs : c ≠ '/' := fun same => whole (same ▸ member)
    simp [isNameChar, differs, plain.clean c member]

/-- The text has one slash, up to 15 bytes before it and up to 255 bytes after it, at least one on
either side, and no blank or control character. -/
structure HasTypeForm (text : String) : Prop where
  oneSlash : text.toList.count '/' = 1
  parts : ∃ before after, text = before ++ "/" ++ after ∧
    IsPlainPart 15 before ∧ IsPlainPart 255 after

theorem isTypeText_iff {text : String} : IsTypeText text ↔ HasTypeForm text := by
  have slashes : ∀ before after : String, (before ++ "/" ++ after).toList.count '/' = 1 ↔
      '/' ∉ before.toList ∧ '/' ∉ after.toList := by
    intro before after
    rw [← List.count_eq_zero, ← List.count_eq_zero]
    simp only [String.toList_append, List.count_append]
    have own : "/".toList.count '/' = 1 := rfl
    omega
  constructor
  · rintro ⟨before, after, rfl, superValid, subValid⟩
    obtain ⟨superPlain, superWhole⟩ := isName_iff.mp superValid
    obtain ⟨subPlain, subWhole⟩ := isName_iff.mp subValid
    exact ⟨(slashes before after).mpr ⟨superWhole, subWhole⟩, before, after, rfl, superPlain,
      subPlain⟩
  · rintro ⟨oneSlash, before, after, rfl, superPlain, subPlain⟩
    obtain ⟨superWhole, subWhole⟩ := (slashes before after).mp oneSlash
    exact ⟨before, after, rfl, isName_iff.mpr ⟨superPlain, superWhole⟩,
      isName_iff.mpr ⟨subPlain, subWhole⟩⟩

namespace MediaType

/-- **Texts and media types.**  A text is accepted exactly if it has the form of one, and is then
shown in lower case.  Every media type is given back by its text and by its parts, and by its text
it is told apart from any other. -/
theorem text_roundTrip :
    (∀ text, (∃ media, parse text = .ok media) ↔ HasTypeForm text) ∧
      (∀ text media, parse text = .ok media → media.text = foldCase text) ∧
      (∀ media, parse media.text = .ok media ∧
        ofParts media.superType media.subType = .ok media) ∧
      ∀ left right : MediaType, left.text = right.text → left = right :=
  ⟨fun _ => exists_parse_iff.trans isTypeText_iff, fun _ _ => text_of_parse,
    fun media => ⟨media.parse_text, media.ofParts_parts⟩, fun _ _ same => text_injective same⟩

/-- A first part of exactly 15 bytes, with capitals of which only the ASCII ones are folded.  With
one byte more the text is refused. -/
theorem text_roundTrip_limit :
    HasTypeForm "DRÜCKEN-ÀÉÎ/X\"\\Õ" ∧ ¬ HasTypeForm "DRÜCKEN-ÀÉÎS/X\"\\Õ" ∧
      ∃ media, parse "DRÜCKEN-ÀÉÎ/X\"\\Õ" = .ok media ∧ media.text = "drÜcken-ÀÉÎ/x\"\\Õ" ∧
        parse "drÜcken-ÀÉÎ/x\"\\Õ" = .ok media ∧
        ∀ other : MediaType, other.text = "drÜcken-ÀÉÎ/x\"\\Õ" → other = media := by
  obtain ⟨accepted, shown, given, apart⟩ := text_roundTrip
  have form : HasTypeForm "DRÜCKEN-ÀÉÎ/X\"\\Õ" :=
    ⟨by decide +kernel, "DRÜCKEN-ÀÉÎ", "X\"\\Õ", by decide +kernel, by decide +kernel,
      by decide +kernel⟩
  obtain ⟨media, parsed⟩ := (accepted _).mpr form
  have text : media.text = "drÜcken-ÀÉÎ/x\"\\Õ" := (shown _ media parsed).trans (by decide +kernel)
  have refused : (parse "DRÜCKEN-ÀÉÎS/X\"\\Õ").isOk = false := by decide +kernel
  refine ⟨form, fun longer => ?_, media, parsed, text, text ▸ (given media).1,
    fun other same => apart other media (same.trans text.symm)⟩
  obtain ⟨_, parsedLonger⟩ := (accepted _).mpr longer
  rw [parsedLonger] at refused
  cases refused

end MediaType

end PrintPlanner
