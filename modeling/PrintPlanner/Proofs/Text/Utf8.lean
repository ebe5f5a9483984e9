import PrintPlanner.Text.Utf8

/-!
# What is UTF-8

Only the bytes of a text are decoded, and into that text (`Text.decode_eq_ok_iff`).  The bytes of a
character are told from those of its neighbours, for the first one is of another kind than the
others (`Text.exists_utf8EncodeChar_eq_cons`).
-/

set_option autoImplicit false

namespace PrintPlanner.Text

theorem firstChar?_eq_some_iff {bytes : List UInt8} {c : Char} :
    firstChar? bytes = some c ↔ ∃ rest, bytes = String.utf8EncodeChar c ++ rest := by
  constructor
  · intro first
    obtain ⟨rest, front⟩ := ByteArray.exists_of_utf8DecodeChar?_eq_some first
    have listed := congrArg (fun array => array.data.toList) front
    simp only [List.data_toByteArray, ByteArray.data_append, Array.toList_append] at listed
    refine ⟨rest.data.toList ++ bytes.drop 4, ?_⟩
    rw [← List.append_assoc, ← listed, List.take_append_drop]
  · rintro ⟨rest, rfl⟩
    exact firstChar?_append c rest

theorem eq_of_decodeFrom {skip : Nat} {bytes : List UInt8} {chars : List Char}
    (decoded : decodeFrom skip bytes = .ok chars) :
    bytes.drop skip = chars.flatMap String.utf8EncodeChar := by
  induction bytes generalizing skip chars with
  | nil =>
      cases skip <;> cases decoded <;> rfl
  | cons byte rest ih =>
      cases skip with
      | succ skip => exact ih decoded
      | zero =>
          rw [decodeFrom] at decoded
          cases first : firstChar? (byte :: rest) with
          | none =>
              rw [first] at decoded
              cases decoded
          | some c =>
              rw [first] at decoded
              obtain ⟨after, split⟩ := firstChar?_eq_some_iff.mp first
              dsimp only at decoded
              cases later : decodeFrom (c.utf8Size - 1) rest with
              | error undecoded =>
                  rw [later] at decoded
                  cases decoded
              | ok others =>
                  rw [later] at decoded
                  cases decoded
                  have size := String.length_utf8EncodeChar c
                  have positive := c.utf8Size_pos
                  have behind : rest.drop (c.utf8Size - 1) = after := by
                    have front : (String.utf8EncodeChar c ++ after).drop c.utf8Size = after :=
                      List.drop_left' size
                    rwa [← split, List.drop_cons positive] at front
                  rw [List.drop_zero, split, List.flatMap_cons, ← ih later, behind]

/-- **Only the bytes of characters are decoded**, and into these characters. -/
theorem decode_eq_ok_iff {bytes : List UInt8} {chars : List Char} :
    decode bytes = .ok chars ↔ bytes = chars.flatMap String.utf8EncodeChar := by
  constructor
  · intro decoded
    exact eq_of_decodeFrom decoded
  · rintro rfl
    exact decode_flatMap chars

theorem ofUtf8?_eq_some_iff {bytes : List UInt8} {text : String} :
    ofUtf8? bytes = some text ↔ bytes = utf8 text := by
  constructor
  · intro decoded
    obtain ⟨chars, valid, rfl⟩ := Option.map_eq_some_iff.mp decoded
    cases whole : decode bytes with
    | error undecoded =>
        rw [whole] at valid
        cases valid
    | ok found =>
        rw [whole] at valid
        cases valid
        rw [utf8_eq_flatMap, String.toList_ofList]
        exact decode_eq_ok_iff.mp whole
  · rintro rfl
    exact ofUtf8?_utf8 text

/-- A byte that belongs to the character before. -/
def isContinuation (b : UInt8) : Bool := 0x80 ≤ b && b < 0xc0

theorem utf8EncodeChar_of_ascii {c : Char} (ascii : c.toNat < 128) :
    String.utf8EncodeChar c = [UInt8.ofNat c.toNat] := by
  rw [String.utf8EncodeChar]
  exact if_pos (Nat.le_of_lt_succ ascii)

/-- A character beyond ASCII has several bytes, of which the first one is at least 192 and the
others are continuations. -/
theorem utf8EncodeChar_of_not_ascii {c : Char} (wide : 128 ≤ c.toNat) :
    ∃ first others, String.utf8EncodeChar c = first :: others ∧ 0xc0 ≤ first ∧
      ∀ b ∈ others, isContinuation b = true := by
  have wide : 128 ≤ c.val.toNat := wide
  have lead : ∀ n, 192 ≤ n → n < 256 → 0xc0 ≤ UInt8.ofNat n := by
    intro n low high
    rw [UInt8.le_iff_toNat_le, UInt8.toNat_ofNat_of_lt' high]
    exact low
  have continues : ∀ n, isContinuation (UInt8.ofNat (n % 64 + 128)) = true := by
    intro n
    have small : n % 64 + 128 < 256 := by omega
    rw [isContinuation, Bool.and_eq_true, decide_eq_true_eq, decide_eq_true_eq,
      UInt8.le_iff_toNat_le, UInt8.lt_iff_toNat_lt, UInt8.toNat_ofNat_of_lt' small]
    exact ⟨Nat.le_add_left 128 _, by show _ < 192; omega⟩
  rw [String.utf8EncodeChar, if_neg (by omega)]
  -- One case for each number of bytes.
  repeat' split
  all_goals
    refine ⟨_, _, rfl, lead _ (by omega) (by omega), ?_⟩
    simp only [List.forall_mem_cons, List.not_mem_nil, false_implies, implies_true, and_true,
      continues]

/-- The first byte of a character is no continuation, and the others are. -/
theorem exists_utf8EncodeChar_eq_cons (c : Char) :
    ∃ first others, String.utf8EncodeChar c = first :: others ∧ isContinuation first = false ∧
      ∀ b ∈ others, isContinuation b = true := by
  by_cases ascii : c.toNat < 128
  · refine ⟨_, [], utf8EncodeChar_of_ascii ascii, ?_, by simp⟩
    have low : (UInt8.ofNat c.toNat).toNat = c.toNat :=
      UInt8.toNat_ofNat_of_lt' (Nat.lt_trans ascii (by decide))
    simp only [isContinuation, Bool.and_eq_false_iff, decide_eq_false_iff_not,
      UInt8.le_iff_toNat_le, low]
    exact .inl (Nat.not_le_of_lt ascii)
  · obtain ⟨first, others, bytes, wide, continues⟩ :=
      utf8EncodeChar_of_not_ascii (Nat.le_of_not_lt ascii)
    refine ⟨first, others, bytes, ?_, continues⟩
    simp only [isContinuation, Bool.and_eq_false_iff, decide_eq_false_iff_not, UInt8.not_lt]
    exact .inr wide

/-- The bytes of a character tell where they end. -/
theorem utf8EncodeChar_append_inj {c d : Char} {left right : List UInt8}
    (same : String.utf8EncodeChar c ++ left = String.utf8EncodeChar d ++ right) :
    c = d ∧ left = right := by
  have first := firstChar?_append c left
  rw [same, firstChar?_append d right] at first
  cases first
  exact ⟨rfl, List.append_cancel_left same⟩

end PrintPlanner.Text
