/-!
# Case folding and cutting

Names are compared without regard to the case of ASCII letters, and a name in two
parts is cut at a separator.  Folding changes neither the number of bytes of a
text nor any character outside A to Z, and folding twice is folding once.
-/

set_option autoImplicit false

namespace PrintPlanner.Text

/-- The text with its ASCII letters in lower case and all else unchanged. -/
def foldCase (text : String) : String :=
  String.ofList (text.toList.map Char.toLower)

/-- The text before and after the first occurrence of `mark`, if there is one. -/
def cutAtFirst (mark : Char) (text : String) : Option (String × String) :=
  match text.toList.dropWhile (· != mark) with
  | [] => none
  | _ :: after => some (String.ofList (text.toList.takeWhile (· != mark)), String.ofList after)

/-- The UTF-8 bytes of a text. -/
def utf8 (text : String) : List UInt8 := text.toByteArray.data.toList

/-! ## Characters under folding -/

/-- Folding moves the codes from A to Z up by 32 and leaves the others alone. -/
theorem toNat_toLower (c : Char) :
    c.toLower.toNat = if 65 ≤ c.toNat ∧ c.toNat ≤ 90 then c.toNat + 32 else c.toNat := by
  have codes : (c.val ≥ 'A'.val ∧ c.val ≤ 'Z'.val) ↔ (65 ≤ c.toNat ∧ c.toNat ≤ 90) :=
    and_congr UInt32.le_iff_toNat_le UInt32.le_iff_toNat_le
  unfold Char.toLower
  by_cases upper : c.val ≥ 'A'.val ∧ c.val ≤ 'Z'.val
  · rw [dif_pos upper, if_pos (codes.mp upper)]
    show (c.val + ('a'.val - 'A'.val)).toNat = c.val.toNat + 32
    have gap : ('a'.val - 'A'.val).toNat = 32 := by decide
    have small : c.val.toNat ≤ 90 := (codes.mp upper).2
    rw [UInt32.toNat_add, gap, Nat.mod_eq_of_lt (by omega)]
  · rw [dif_neg upper, if_neg (mt codes.mpr upper)]

private theorem utf8Size_of_toNat_le {c : Char} (small : c.toNat ≤ 127) : c.utf8Size = 1 := by
  have small32 : c.val ≤ 127 := UInt32.le_iff_toNat_le.mpr small
  simp only [Char.utf8Size]
  exact if_pos small32

/-- Folding keeps the number of bytes of a character. -/
theorem utf8Size_toLower (c : Char) : c.toLower.utf8Size = c.utf8Size := by
  have moved := toNat_toLower c
  split at moved
  · rw [utf8Size_of_toNat_le (by omega), utf8Size_of_toNat_le (by omega)]
  · rw [Char.toNat_inj.mp moved]

/-- A folded character has no case left to fold. -/
theorem toLower_toLower (c : Char) : c.toLower.toLower = c.toLower := by
  apply Char.toNat_inj.mp
  rw [toNat_toLower c.toLower, if_neg]
  have moved := toNat_toLower c
  split at moved <;> omega

/-! ## Texts under folding -/

@[simp] theorem toList_foldCase (text : String) :
    (foldCase text).toList = text.toList.map Char.toLower := by
  simp [foldCase]

@[simp] theorem foldCase_foldCase (text : String) : foldCase (foldCase text) = foldCase text := by
  apply String.toList_inj.mp
  simp only [toList_foldCase, List.map_map]
  exact List.map_congr_left fun c _ => toLower_toLower c

/-- The bytes of a text are the bytes of its characters. -/
theorem utf8_eq_flatMap (text : String) :
    utf8 text = text.toList.flatMap String.utf8EncodeChar := by
  have bytes : text.toByteArray = text.toList.utf8Encode := by
    rw [← String.toByteArray_ofList, String.ofList_toList]
  simp [utf8, bytes, List.utf8Encode]

theorem length_utf8 (text : String) : (utf8 text).length = text.utf8ByteSize := by
  rw [utf8, Array.length_toList, ← String.size_toByteArray, ByteArray.size]

@[simp] theorem utf8ByteSize_foldCase (text : String) :
    (foldCase text).utf8ByteSize = text.utf8ByteSize := by
  rw [← length_utf8, ← length_utf8, utf8_eq_flatMap, utf8_eq_flatMap, toList_foldCase]
  induction text.toList with
  | nil => rfl
  | cons c rest induction =>
      simp only [List.map_cons, List.flatMap_cons, List.length_append,
        String.length_utf8EncodeChar, utf8Size_toLower, induction]

end PrintPlanner.Text
