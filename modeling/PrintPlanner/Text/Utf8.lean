import PrintPlanner.Text.Fold

/-!
# Decoding UTF-8

Bytes are decoded into characters one after the other.  A byte string that is not
UTF-8 is refused with the number of bytes from the first place where no character
can be read to the end, so that a caller can say where that place is.
-/

set_option autoImplicit false

namespace PrintPlanner.Text

/-- The character that the bytes start with. -/
def firstChar? (bytes : List UInt8) : Option Char :=
  (bytes.take 4).toByteArray.utf8DecodeChar? 0

/-- The characters of a byte string after `skip` bytes that belong to the character
before.  A failure counts the bytes from the first undecodable place on. -/
def decodeFrom : (skip : Nat) → List UInt8 → Except Nat (List Char)
  | _, [] => .ok []
  | skip + 1, _ :: rest => decodeFrom skip rest
  | 0, byte :: rest =>
      match firstChar? (byte :: rest) with
      | none => .error (rest.length + 1)
      | some c => (decodeFrom (c.utf8Size - 1) rest).map (c :: ·)

/-- The characters of a byte string. -/
def decode (bytes : List UInt8) : Except Nat (List Char) := decodeFrom 0 bytes

/-- The text of a byte string, if it is UTF-8. -/
def ofUtf8? (bytes : List UInt8) : Option String :=
  (decode bytes).toOption.map String.ofList

/-! ## Decoding what was encoded -/

/-- The bytes of a character are at the front of any bytes that start with them. -/
theorem firstChar?_append (c : Char) (rest : List UInt8) :
    firstChar? (String.utf8EncodeChar c ++ rest) = some c := by
  have short : (String.utf8EncodeChar c).length ≤ 4 := by
    rw [String.length_utf8EncodeChar]
    exact Char.utf8Size_le_four c
  rw [firstChar?, List.take_append, List.take_of_length_le short, List.toByteArray_append]
  exact ByteArray.utf8DecodeChar?_utf8EncodeChar_append

/-- Bytes that belong to the character before are passed over. -/
theorem decodeFrom_append (skipped rest : List UInt8) :
    decodeFrom skipped.length (skipped ++ rest) = decodeFrom 0 rest := by
  induction skipped with
  | nil => rfl
  | cons byte skipped induction => exact induction

/-- The bytes of characters are decoded into these characters. -/
theorem decode_flatMap (chars : List Char) :
    decode (chars.flatMap String.utf8EncodeChar) = .ok chars := by
  induction chars with
  | nil => rfl
  | cons c rest induction =>
      rw [List.flatMap_cons]
      have front := firstChar?_append c (rest.flatMap String.utf8EncodeChar)
      have size := String.length_utf8EncodeChar c
      cases encoded : String.utf8EncodeChar c with
      | nil =>
          rw [encoded] at size
          have positive := Char.utf8Size_pos c
          simp at size
          omega
      | cons byte others =>
          rw [encoded] at front size
          rw [decode] at induction ⊢
          rw [List.cons_append] at front ⊢
          have count : c.utf8Size - 1 = others.length := by
            rw [← size]
            simp
          rw [decodeFrom, front]
          simp only [count, decodeFrom_append, induction]
          rfl

/-- Decoding the bytes of a text gives the text back. -/
@[simp] theorem ofUtf8?_utf8 (text : String) : ofUtf8? (utf8 text) = some text := by
  rw [ofUtf8?, utf8_eq_flatMap, decode_flatMap]
  simp [Except.toOption]

/-- Different texts have different bytes. -/
theorem utf8_inj {left right : String} : utf8 left = utf8 right ↔ left = right := by
  refine ⟨fun same => ?_, fun same => by rw [same]⟩
  have decoded := congrArg ofUtf8? same
  rw [ofUtf8?_utf8, ofUtf8?_utf8] at decoded
  exact Option.some.inj decoded

/-- A character other than NUL has no byte zero, for all bytes of a longer character are at least
128. -/
theorem zero_mem_utf8EncodeChar_iff {c : Char} : 0 ∈ String.utf8EncodeChar c ↔ c = '\x00' := by
  have code : c = '\x00' ↔ c.val.toNat = 0 := Char.toNat_inj.symm
  have zero : (0 : UInt8).toNat = 0 := rfl
  rw [code, String.utf8EncodeChar]
  -- One case for each number of bytes.
  repeat' split
  all_goals
    simp only [List.mem_cons, List.not_mem_nil, or_false, ← UInt8.toNat_inj, zero,
      UInt8.toNat_ofNat']
    omega

/-- A text has the byte zero exactly if it has the character NUL. -/
theorem zero_mem_utf8_iff {text : String} : 0 ∈ utf8 text ↔ '\x00' ∈ text.toList := by
  simp only [utf8_eq_flatMap, List.mem_flatMap, zero_mem_utf8EncodeChar_iff, exists_eq_right]

end PrintPlanner.Text
