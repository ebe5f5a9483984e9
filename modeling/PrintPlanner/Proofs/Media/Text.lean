import PrintPlanner.Media.Basic

/-!
# Texts of media types

The first part of a media type holds no slash, so the text of the type falls apart at its
first slash in one way only: it is parsed as these parts (`MediaType.parse_parts`), and no two
media types have the same text (`MediaType.text_injective`).  Any text that is parsed is the text of
its type but for the case of its letters (`MediaType.text_of_parse`).
-/

set_option autoImplicit false

namespace PrintPlanner.MediaType

/-- The first part of a media type holds no slash. -/
theorem slash_notMem_superType (media : MediaType) : '/' ∉ media.superType.toList := by
  intro slash
  have clean := media.superType_isName.clean '/' slash
  simp [isNameChar] at clean

theorem bne_slash_of_notMem {part : String} (whole : '/' ∉ part.toList) :
    ∀ c ∈ part.toList, (c != '/') = true := by
  intro c member
  rw [bne_iff_ne]
  rintro rfl
  exact whole member

/-- A text that is cut at its first slash is made of the two parts. -/
theorem eq_of_cutAtFirst {text superType subType : String}
    (cut : Text.cutAtFirst '/' text = some (superType, subType)) :
    text = superType ++ "/" ++ subType := by
  unfold Text.cutAtFirst at cut
  split at cut
  · cases cut
  · rename_i mark after rest
    cases cut
    have stops := List.head?_dropWhile_not (· != '/') text.toList
    have whole := List.takeWhile_append_dropWhile (p := (· != '/')) (l := text.toList)
    rw [rest] at stops whole
    have slash : mark = '/' := by simpa using stops
    rw [slash] at whole
    refine String.toList_inj.mp (whole.symm.trans ?_)
    simp

theorem takeWhile_text (media : MediaType) :
    media.text.toList.takeWhile (· != '/') = media.superType.toList := by
  have clean := bne_slash_of_notMem media.slash_notMem_superType
  simp only [text, TypeName.text, String.toList_append, List.append_assoc]
  rw [List.takeWhile_append_of_pos clean]
  simp

/-- A text without a slash, a slash and any other text are parsed as these two parts. -/
theorem parse_parts {superType : String} (whole : '/' ∉ superType.toList) (subType : String) :
    parse (superType ++ "/" ++ subType) = ofParts superType subType := by
  have clean := bne_slash_of_notMem whole
  unfold parse Text.cutAtFirst
  simp only [String.toList_append, List.append_assoc]
  rw [List.dropWhile_append_of_pos clean, List.takeWhile_append_of_pos clean]
  simp

/-- A text that is parsed falls apart into two parts with a slash between them. -/
theorem parse_eq_ok_iff {text : String} {media : MediaType} :
    parse text = .ok media ↔
      ∃ superType subType, text = superType ++ "/" ++ subType ∧
        ofParts superType subType = .ok media := by
  constructor
  · intro parsed
    unfold parse at parsed
    split at parsed
    · cases parsed
    · rename_i superType subType cut
      exact ⟨superType, subType, eq_of_cutAtFirst cut, parsed⟩
  · rintro ⟨superType, subType, rfl, parts⟩
    have clean := (ofParts_eq_ok_iff.mp parts).1.clean
    have whole : '/' ∉ superType.toList := fun slash => by
      simpa [isNameChar] using clean '/' slash
    rw [parse_parts whole, parts]

theorem foldCase_parts (superType subType : String) :
    Text.foldCase (superType ++ "/" ++ subType) =
      Text.foldCase superType ++ "/" ++ Text.foldCase subType := by
  rw [← String.toList_inj]
  simp

theorem text_of_parse {text : String} {media : MediaType} (parsed : parse text = .ok media) :
    media.text = Text.foldCase text := by
  obtain ⟨superType, subType, rfl, parts⟩ := parse_eq_ok_iff.mp parsed
  rw [foldCase_parts, MediaType.text, (ofParts_eq_ok_iff.mp parts).2.2]
  rfl

/-- No two media types have the same text. -/
theorem text_injective : Function.Injective text := by
  intro left right same
  have heads : left.superType = right.superType := by
    rw [← String.toList_inj, ← takeWhile_text, ← takeWhile_text, same]
  have tails : left.subType = right.subType := by
    rw [text, text, TypeName.text, TypeName.text, heads] at same
    simpa [← String.toList_inj] using same
  refine ext_toTypeName ?_
  show TypeName.mk left.superType left.subType = TypeName.mk right.superType right.subType
  rw [heads, tails]

/-- The text of a document type does not start as those of printers do. -/
theorem takeWhile_text_of_not_isSink {media : MediaType} (document : media.isSink = false) :
    media.text.toList.takeWhile (· != '/') ≠ sinkSuperType.toList := by
  rw [takeWhile_text, Ne, String.toList_inj]
  simpa [isSink] using document

end PrintPlanner.MediaType
