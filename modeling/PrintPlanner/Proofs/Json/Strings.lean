import PrintPlanner.Json.Writer
import PrintPlanner.Proofs.Json.Lexemes
import PrintPlanner.Proofs.Text.Utf8

/-!
# Reading strings

A string is read exactly if it is one of the grammar, and as the text that it stands for there
(`Json.readString_eq_ok_iff`).  The reader first gathers bytes, with those of a character in place
of each escape, and decodes them at the end.  So what it gathers is described as bytes first
(`Json.Gathers`), and then cut into characters, none of which is gathered in part from an escape.
What is written for a text is a string that stands for it (`Json.isString_writeText`).
-/

set_option autoImplicit false

namespace PrintPlanner.Json

open Text

/-! ## Escapes -/

theorem readCodeUnit_eq_ok_iff {bytes rest : List UInt8} {unit : Nat} :
    readCodeUnit bytes = .ok (unit, rest) ↔
      ∃ digits, bytes = digits ++ rest ∧ IsCodeUnit digits unit := by
  constructor
  · intro read
    unfold readCodeUnit at read
    split at read
    · split at read
      · rename_i first second third fourth
        cases read
        exact ⟨[_, _, _, _], rfl, .digits first second third fourth⟩
      · cases read
    · cases read
  · rintro ⟨_, rfl, digits⟩
    cases digits with
    | digits first second third fourth =>
        simp only [List.cons_append, List.nil_append, readCodeUnit, first, second, third, fourth]

theorem expectPairByte_eq_ok_iff {c : Char} {bytes rest : List UInt8} :
    expectPairByte c bytes = .ok rest ↔ bytes = byte c :: rest := by
  unfold expectPairByte
  cases bytes with
  | nil => simp
  | cons b others =>
      by_cases same : b = byte c
      · simp [same]
      · simp [same]

theorem hexValue?_lt {b : UInt8} {digit : Nat} (value : hexValue? b = some digit) : digit < 16 := by
  unfold hexValue? at value
  simp only [UInt8.le_iff_toNat_le] at value
  split at value
  · rename_i decimal
    cases value
    have high : b.toNat ≤ 57 := decimal.2
    omega
  · split at value
    · rename_i upper
      cases value
      have high : b.toNat ≤ 70 := upper.2
      omega
    · split at value
      · rename_i lower
        cases value
        have high : b.toNat ≤ 102 := lower.2
        omega
      · cases value

theorem IsCodeUnit.lt {digits : List UInt8} {unit : Nat} (units : IsCodeUnit digits unit) :
    unit < 0x10000 := by
  cases units with
  | digits first second third fourth =>
      have first := hexValue?_lt first
      have second := hexValue?_lt second
      have third := hexValue?_lt third
      have fourth := hexValue?_lt fourth
      omega

theorem isTrailing_iff {unit : Nat} :
    isTrailing unit = true ↔ 0xdc00 ≤ unit ∧ unit ≤ 0xdfff := by
  simp [isTrailing]

theorem isLeading_iff {unit : Nat} :
    isLeading unit = true ↔ 0xd800 ≤ unit ∧ unit ≤ 0xdbff := by
  simp [isLeading]

theorem toNat_ofNat_of_isValidChar {code : Nat} (valid : code.isValidChar) :
    (Char.ofNat code).toNat = code := by
  rw [Char.ofNat, dif_pos valid]
  rfl

/-- The code of a character is no half of a surrogate pair. -/
theorem isTrailing_isLeading_toNat (c : Char) :
    isTrailing c.toNat = false ∧ isLeading c.toNat = false := by
  have valid : c.toNat.isValidChar := c.valid
  rw [← Bool.not_eq_true, ← Bool.not_eq_true, isTrailing_iff, isLeading_iff]
  rcases valid with low | ⟨high, _⟩ <;> omega

theorem readUnicodeEscape_eq_ok_iff {bytes rest : List UInt8} {c : Char} :
    readUnicodeEscape bytes = .ok (c, rest) ↔
      ∃ escape, bytes = escape ++ rest ∧ IsEscape (byte 'u' :: escape) c := by
  constructor
  · intro read
    rw [readUnicodeEscape, bind_eq_ok_iff] at read
    obtain ⟨⟨unit, after⟩, first, read⟩ := read
    obtain ⟨digits, rfl, units⟩ := readCodeUnit_eq_ok_iff.mp first
    dsimp only at read
    split at read
    · cases read
    · rename_i notLow
      split at read
      · rename_i high
        simp only [bind_eq_ok_iff, expectPairByte_eq_ok_iff] at read
        obtain ⟨_, rfl, _, rfl, ⟨low, _⟩, second, read⟩ := read
        obtain ⟨others, rfl, lowUnits⟩ := readCodeUnit_eq_ok_iff.mp second
        split at read
        · rename_i isLow
          simp only [Except.ok.injEq, Prod.mk.injEq] at read
          obtain ⟨rfl, rfl⟩ := read
          refine ⟨digits ++ byte '\\' :: byte 'u' :: others, by simp,
            .pair units lowUnits high isLow ?_⟩
          rw [isLeading_iff] at high
          rw [isTrailing_iff] at isLow
          exact toNat_ofNat_of_isValidChar (.inr ⟨by omega, by omega⟩)
        · cases read
      · rename_i notHigh
        cases read
        refine ⟨digits, rfl, .codePoint ?_⟩
        have bound := units.lt
        rw [isTrailing_iff] at notLow
        rw [isLeading_iff] at notHigh
        rwa [toNat_ofNat_of_isValidChar (by unfold Nat.isValidChar; omega)]
  · rintro ⟨escape, rfl, stands⟩
    cases stands with
    | letter stands => cases stands
    | codePoint code =>
        obtain ⟨notLow, notHigh⟩ := isTrailing_isLeading_toNat c
        refine bind_eq_ok_iff.mpr ⟨_, readCodeUnit_eq_ok_iff.mpr ⟨escape, rfl, code⟩, ?_⟩
        simp [notLow, notHigh, Char.ofNat_toNat]
    | @pair leading trailing high low _ first second isHigh isLow code =>
        have notLow : isTrailing high = false := by
          rw [isLeading_iff] at isHigh
          rw [← Bool.not_eq_true, isTrailing_iff]
          omega
        have units : readCodeUnit (leading ++ byte '\\' :: byte 'u' :: trailing ++ rest) =
            .ok (high, byte '\\' :: byte 'u' :: (trailing ++ rest)) :=
          readCodeUnit_eq_ok_iff.mpr ⟨leading, by simp, first⟩
        have lowUnits : readCodeUnit (trailing ++ rest) = .ok (low, rest) :=
          readCodeUnit_eq_ok_iff.mpr ⟨trailing, rfl, second⟩
        refine bind_eq_ok_iff.mpr ⟨_, units, ?_⟩
        simp only [notLow, isHigh, Bool.false_eq_true, if_false, if_true]
        refine bind_eq_ok_iff.mpr ⟨_, expectPairByte_eq_ok_iff.mpr rfl, ?_⟩
        refine bind_eq_ok_iff.mpr ⟨_, expectPairByte_eq_ok_iff.mpr rfl, ?_⟩
        refine bind_eq_ok_iff.mpr ⟨_, lowUnits, ?_⟩
        simp only [isLow, if_true, ← code, Char.ofNat_toNat]

theorem shortEscape?_mark : shortEscape? (byte 'u') = none := by decide

/-- An escape is read exactly if it is one of the grammar. -/
theorem readEscape_eq_ok_iff {bytes rest : List UInt8} {c : Char} :
    readEscape bytes = .ok (c, rest) ↔ ∃ escape, bytes = escape ++ rest ∧ IsEscape escape c := by
  unfold readEscape
  cases bytes with
  | nil =>
      refine iff_of_false (by simp) ?_
      rintro ⟨escape, nothing, stands⟩
      obtain ⟨rfl, _⟩ := List.append_eq_nil_iff.mp nothing.symm
      cases stands
  | cons b others =>
      dsimp only
      cases letter : shortEscape? b with
      | some short =>
          constructor
          · intro read
            cases read
            exact ⟨[b], rfl, .letter letter⟩
          · rintro ⟨escape, split, stands⟩
            cases stands with
            | letter stands =>
                cases split
                cases letter.symm.trans stands
                rfl
            | codePoint | pair =>
                cases split
                cases shortEscape?_mark.symm.trans letter
      | none =>
          by_cases mark : b = byte 'u'
          · subst mark
            simp only [if_true, readUnicodeEscape_eq_ok_iff]
            constructor
            · rintro ⟨escape, rfl, stands⟩
              exact ⟨byte 'u' :: escape, rfl, stands⟩
            · rintro ⟨escape, split, stands⟩
              cases stands with
              | letter stands =>
                  cases split
                  cases letter.symm.trans stands
              | codePoint code =>
                  cases split
                  exact ⟨_, rfl, .codePoint code⟩
              | pair first second isHigh isLow code =>
                  cases split
                  exact ⟨_, rfl, .pair first second isHigh isLow code⟩
          · refine iff_of_false (by simp [mark]) ?_
            rintro ⟨escape, split, stands⟩
            cases stands with
            | letter stands =>
                cases split
                cases letter.symm.trans stands
            | codePoint | pair =>
                cases split
                exact mark rfl

/-! ## Contents as bytes -/

/-- The bytes between the quotes of a string, and the bytes that they are gathered as.  These are
not yet checked to be those of characters. -/
inductive Gathers : List UInt8 → List UInt8 → Prop where
  | nil : Gathers [] []
  | plain {b : UInt8} {body contents : List UInt8} (stands : isPlain b = true)
      (rest : Gathers body contents) : Gathers (b :: body) (b :: contents)
  | escaped {escape body contents : List UInt8} {c : Char} (stands : IsEscape escape c)
      (rest : Gathers body contents) :
      Gathers (byte '\\' :: (escape ++ body)) (String.utf8EncodeChar c ++ contents)

theorem Gathers.run {run body contents : List UInt8} (plain : ∀ b ∈ run, isPlain b = true)
    (rest : Gathers body contents) : Gathers (run ++ body) (run ++ contents) := by
  induction run with
  | nil => exact rest
  | cons b others ih =>
      obtain ⟨first, others⟩ := List.forall_mem_cons.mp plain
      exact .plain first (ih others)

theorem isPlain_quote : isPlain (byte '"') = false := by decide

theorem isPlain_backslash : isPlain (byte '\\') = false := by decide

/-- The contents of a string end at a quote, or go on behind an escape. -/
theorem readContents_eq_ok_iff {limit bytes contents rest : List UInt8} :
    readContents limit bytes = .ok (contents, rest) ↔
      ∃ run, (∀ b ∈ run, isPlain b = true) ∧
        ((bytes = run ++ byte '"' :: rest ∧ contents = run) ∨
          ∃ mark others escape c after more, limit = mark :: others ∧ IsEscape escape c ∧
            bytes = run ++ byte '\\' :: (escape ++ after) ∧
            readContents others after = .ok (more, rest) ∧
            contents = run ++ String.utf8EncodeChar c ++ more) := by
  constructor
  · intro read
    rw [readContents.eq_def] at read
    dsimp only at read
    have split := List.takeWhile_append_dropWhile (p := isPlain) (l := bytes)
    refine ⟨bytes.takeWhile isPlain, List.all_eq_true.mp List.all_takeWhile, ?_⟩
    cases behind : bytes.dropWhile isPlain with
    | nil =>
        rw [behind] at read
        cases read
    | cons b after =>
        rw [behind] at read split
        dsimp only at read
        split at read
        · rename_i quote
          cases read
          exact .inl ⟨by rw [← quote, split], rfl⟩
        · split at read
          · rename_i backslash
            cases limit with
            | nil => cases read
            | cons mark others =>
                dsimp only at read
                simp only [bind_eq_ok_iff] at read
                obtain ⟨⟨c, _⟩, taken, ⟨more, _⟩, later, read⟩ := read
                obtain ⟨escape, rfl, stands⟩ := readEscape_eq_ok_iff.mp taken
                cases read
                exact .inr ⟨mark, others, escape, c, _, more, rfl, stands,
                  by rw [← backslash, split], later, rfl⟩
          · cases read
  · rintro ⟨run, plain, ⟨rfl, rfl⟩ | ⟨mark, others, escape, c, after, more, rfl, stands, rfl,
      later, rfl⟩⟩
    · obtain ⟨taken, dropped⟩ := takeWhile_dropWhile_append_cons plain isPlain_quote rest
      rw [readContents.eq_def]
      simp only [taken, dropped, if_true]
    · obtain ⟨taken, dropped⟩ :=
        takeWhile_dropWhile_append_cons plain isPlain_backslash (escape ++ after)
      have taken' : readEscape (escape ++ after) = .ok (c, after) :=
        readEscape_eq_ok_iff.mpr ⟨escape, rfl, stands⟩
      have notQuote : byte '\\' ≠ byte '"' := by decide
      rw [readContents.eq_def]
      simp only [taken, dropped, if_neg notQuote, if_true]
      exact bind_eq_ok_iff.mpr ⟨_, taken', bind_eq_ok_iff.mpr ⟨_, later, rfl⟩⟩

/-- What is gathered up to the closing quote. -/
theorem Gathers.readContents {body contents : List UInt8} (gathers : Gathers body contents)
    (limit rest : List UInt8) (room : body.length ≤ limit.length) :
    Json.readContents limit (body ++ byte '"' :: rest) = .ok (contents, rest) := by
  induction gathers generalizing limit with
  | nil => exact readContents_eq_ok_iff.mpr ⟨[], by simp, .inl ⟨rfl, rfl⟩⟩
  | plain stands _ ih =>
      obtain ⟨run, plain, ends⟩ := readContents_eq_ok_iff.mp (ih limit (Nat.le_of_succ_le room))
      refine readContents_eq_ok_iff.mpr ⟨_ :: run, List.forall_mem_cons.mpr ⟨stands, plain⟩, ?_⟩
      obtain ⟨split, rfl⟩ | ⟨mark, others, escape, c, after, more, rfl, isEscape, split, later,
        rfl⟩ := ends
      · exact .inl ⟨by rw [List.cons_append, split]; rfl, rfl⟩
      · exact .inr ⟨mark, others, escape, c, after, more, rfl, isEscape,
          by rw [List.cons_append, split]; rfl, later, rfl⟩
  | @escaped escape body contents c stands _ ih =>
      cases limit with
      | nil => cases room
      | cons mark others =>
          simp only [List.length_cons, List.length_append] at room
          exact readContents_eq_ok_iff.mpr ⟨[], by simp, .inr ⟨mark, others, escape, c, _,
            contents, rfl, stands, by simp, ih others (by omega), rfl⟩⟩

theorem exists_gathers_of_readContents {limit bytes contents rest : List UInt8}
    (read : readContents limit bytes = .ok (contents, rest)) :
    ∃ body, bytes = body ++ byte '"' :: rest ∧ Gathers body contents := by
  induction limit generalizing bytes contents with
  | nil =>
      obtain ⟨run, plain, ⟨rfl, rfl⟩ | ⟨_, _, _, _, _, _, nothing, _⟩⟩ :=
        readContents_eq_ok_iff.mp read
      · exact ⟨contents, rfl, by simpa using Gathers.nil.run plain⟩
      · cases nothing
  | cons mark others ih =>
      obtain ⟨run, plain, ⟨rfl, rfl⟩ | ⟨_, _, escape, c, after, more, same, stands, rfl, later,
        rfl⟩⟩ := readContents_eq_ok_iff.mp read
      · exact ⟨contents, rfl, by simpa using Gathers.nil.run plain⟩
      · cases same
        obtain ⟨body, rfl, gathers⟩ := ih later
        refine ⟨run ++ byte '\\' :: (escape ++ body), by simp, ?_⟩
        rw [List.append_assoc]
        exact (gathers.escaped stands).run plain

/-! ## Contents as characters -/

theorem isPlain_iff {b : UInt8} :
    isPlain b = true ↔ b.toNat ≠ 34 ∧ b.toNat ≠ 92 ∧ 32 ≤ b.toNat := by
  have quote : (byte '"').toNat = 34 := rfl
  have backslash : (byte '\\').toNat = 92 := rfl
  rw [← quote, ← backslash]
  simp [isPlain, and_assoc, UInt8.le_iff_toNat_le, UInt8.toNat_inj]

theorem isUnescaped_iff {c : Char} :
    isUnescaped c = true ↔ c.toNat ≠ 34 ∧ c.toNat ≠ 92 ∧ 32 ≤ c.toNat := by
  have quote : '"'.toNat = 34 := rfl
  have backslash : '\\'.toNat = 92 := rfl
  rw [← quote, ← backslash]
  simp only [isUnescaped, Bool.and_eq_true, bne_iff_ne, decide_eq_true_eq, ne_eq, and_assoc,
    Char.toNat_inj]

theorem isPlain_of_isContinuation {b : UInt8} (continues : isContinuation b = true) :
    isPlain b = true := by
  simp only [isContinuation, Bool.and_eq_true, decide_eq_true_eq,
    UInt8.le_iff_toNat_le] at continues
  have wide : 128 ≤ b.toNat := continues.1
  rw [isPlain_iff]
  omega

/-- The bytes of a character stand for themselves exactly if the first one does. -/
theorem isPlain_head_utf8EncodeChar {c : Char} {first : UInt8} {others : List UInt8}
    (bytes : String.utf8EncodeChar c = first :: others) : isPlain first = isUnescaped c := by
  rw [Bool.eq_iff_iff, isPlain_iff, isUnescaped_iff]
  by_cases ascii : c.toNat < 128
  · rw [utf8EncodeChar_of_ascii ascii] at bytes
    cases bytes
    rw [UInt8.toNat_ofNat_of_lt' (Nat.lt_trans ascii (by decide))]
  · obtain ⟨_, _, split, wide, _⟩ := utf8EncodeChar_of_not_ascii (Nat.le_of_not_lt ascii)
    cases bytes.symm.trans split
    have wide : 192 ≤ first.toNat := UInt8.le_iff_toNat_le.mp wide
    omega

/-- What a body spells is gathered from it. -/
theorem Spells.gathers {body : List UInt8} {chars : List Char} (spells : Spells body chars) :
    Gathers body (chars.flatMap String.utf8EncodeChar) := by
  induction spells with
  | nil => exact .nil
  | @unescaped c body chars plain _ ih =>
      obtain ⟨first, others, bytes, _, continues⟩ := exists_utf8EncodeChar_eq_cons c
      have front := isPlain_head_utf8EncodeChar bytes
      refine ih.run fun b member => ?_
      rw [bytes, List.mem_cons] at member
      rcases member with rfl | member
      · rw [front, plain]
      · exact isPlain_of_isContinuation (continues b member)
  | escaped stands _ ih => exact ih.escaped stands

/-- Continuations are gathered from themselves, for an escape gathers whole characters. -/
theorem Gathers.exists_of_isContinuation {others body contents : List UInt8}
    (gathers : Gathers body (others ++ contents))
    (continues : ∀ b ∈ others, isContinuation b = true) :
    ∃ behind, body = others ++ behind ∧ Gathers behind contents := by
  induction others generalizing body with
  | nil => exact ⟨body, rfl, gathers⟩
  | cons b others ih =>
      obtain ⟨first, continues⟩ := List.forall_mem_cons.mp continues
      generalize whole : b :: others ++ contents = gathered at gathers
      cases gathers with
      | nil => cases whole
      | plain stands rest =>
          cases whole
          obtain ⟨behind, rfl, gathers⟩ := ih rest continues
          exact ⟨behind, rfl, gathers⟩
      | @escaped escape _ _ c stands rest =>
          obtain ⟨lead, _, bytes, starts, _⟩ := exists_utf8EncodeChar_eq_cons c
          rw [bytes] at whole
          obtain rfl : b = lead := (List.cons.inj whole).1
          rw [first] at starts
          cases starts

/-- A body that characters are gathered from spells them. -/
theorem Gathers.spells {body : List UInt8} {chars : List Char}
    (gathers : Gathers body (chars.flatMap String.utf8EncodeChar)) : Spells body chars := by
  induction chars generalizing body with
  | nil =>
      generalize whole : ([] : List Char).flatMap String.utf8EncodeChar = gathered at gathers
      cases gathers with
      | nil => exact .nil
      | plain => cases whole
      | @escaped _ _ _ c =>
          obtain ⟨_, _, bytes, _⟩ := exists_utf8EncodeChar_eq_cons c
          rw [bytes] at whole
          cases whole
  | cons c chars ih =>
      generalize whole : (c :: chars).flatMap String.utf8EncodeChar = gathered at gathers
      rw [List.flatMap_cons] at whole
      cases gathers with
      | nil =>
          obtain ⟨_, _, bytes, _⟩ := exists_utf8EncodeChar_eq_cons c
          rw [bytes] at whole
          cases whole
      | plain stands rest =>
          obtain ⟨first, others, bytes, _, continues⟩ := exists_utf8EncodeChar_eq_cons c
          have front := isPlain_head_utf8EncodeChar bytes
          rw [bytes] at whole
          cases whole
          obtain ⟨behind, rfl, gathers⟩ := rest.exists_of_isContinuation continues
          rw [← List.cons_append, ← bytes]
          exact .unescaped (front.symm.trans stands) (ih gathers)
      | escaped stands rest =>
          obtain ⟨rfl, rfl⟩ := utf8EncodeChar_append_inj whole
          exact .escaped stands (ih rest)

/-- **A string is read exactly if it is one**, and as the text that it stands for. -/
theorem readString_eq_ok_iff {bytes rest : List UInt8} {text : String} :
    readString bytes = .ok (text, rest) ↔
      ∃ body, bytes = body ++ byte '"' :: rest ∧ Spells body text.toList := by
  constructor
  · intro read
    simp only [readString, bind_eq_ok_iff] at read
    obtain ⟨⟨contents, _⟩, gathered, _, decoded, read⟩ := read
    dsimp only at decoded read
    cases read
    obtain ⟨body, rfl, gathers⟩ := exists_gathers_of_readContents gathered
    refine ⟨body, rfl, ?_⟩
    rw [decodeContents] at decoded
    cases whole : decode contents with
    | error undecoded =>
        rw [whole] at decoded
        cases decoded
    | ok chars =>
        rw [whole] at decoded
        cases decoded
        obtain rfl := decode_eq_ok_iff.mp whole
        rw [String.toList_ofList]
        exact gathers.spells
  · rintro ⟨body, rfl, spells⟩
    have gathered := spells.gathers.readContents (body ++ byte '"' :: rest) rest (by simp)
    refine bind_eq_ok_iff.mpr ⟨_, gathered, bind_eq_ok_iff.mpr ⟨text, ?_, rfl⟩⟩
    simp only [decodeContents, decode_flatMap, String.ofList_toList]

/-- **A string is read behind any blanks.** -/
theorem readText_eq_ok_iff {bytes rest : List UInt8} {text : String} :
    readText bytes = .ok (text, rest) ↔
      ∃ gap string, bytes = gap ++ (string ++ rest) ∧ IsGap gap ∧ IsString string text := by
  constructor
  · intro read
    unfold readText at read
    split at read
    · cases read
    · rename_i b others skipped
      obtain ⟨gap, rfl, blank, _⟩ := skipBlanks_eq_cons_iff.mp skipped
      split at read
      · rename_i quote
        obtain ⟨body, rfl, spells⟩ := readString_eq_ok_iff.mp read
        exact ⟨gap, b :: (body ++ [byte '"']), by simp, blank, body, by rw [quote], spells⟩
      · cases read
  · rintro ⟨gap, _, rfl, blank, body, rfl, spells⟩
    have notBlank : isBlankByte (byte '"') = false := by decide
    have taken : readString (body ++ [byte '"'] ++ rest) = .ok (text, rest) :=
      readString_eq_ok_iff.mpr ⟨body, by simp, spells⟩
    rw [readText, List.cons_append, blank.skipBlanks_append_cons notBlank]
    exact taken

/-! ## Writing -/

theorem hexValue?_digitChar {digit : Nat} (small : digit < 16) :
    hexValue? (byte (Nat.digitChar digit)) = some digit := by
  have all : ∀ digit : Fin 16, hexValue? (byte (Nat.digitChar digit)) = some digit.val := by decide
  exact all ⟨digit, small⟩

/-- The bytes of ASCII characters. -/
theorem flatMap_utf8EncodeChar_of_ascii {chars : List Char} (ascii : ∀ c ∈ chars, c.toNat < 128) :
    chars.flatMap String.utf8EncodeChar = chars.map byte := by
  induction chars with
  | nil => rfl
  | cons c chars ih =>
      obtain ⟨first, others⟩ := List.forall_mem_cons.mp ascii
      rw [List.flatMap_cons, List.map_cons, ih others, utf8EncodeChar_of_ascii first]
      rfl

/-- The characters with an escape by a letter, other than the slash. -/
def shortEscaped : List Char := ['"', '\\', '\x08', '\x0c', '\n', '\r', '\t']

theorem writtenChar_of_mem {c : Char} (short : c ∈ shortEscaped) :
    ∃ mark, writtenChar c = ['\\', mark] ∧ mark.toNat < 128 ∧
      shortEscape? (byte mark) = some c := by
  simp only [shortEscaped, List.mem_cons, List.not_mem_nil, or_false] at short
  rcases short with rfl | rfl | rfl | rfl | rfl | rfl | rfl
  all_goals exact ⟨_, rfl, by decide, rfl⟩

theorem writtenChar_of_not_mem {c : Char} (long : c ∉ shortEscaped) :
    writtenChar c = if c.toNat < 0x20 then
      ['\\', 'u', '0', '0', Nat.digitChar (c.toNat / 16), Nat.digitChar (c.toNat % 16)]
    else [c] := by
  simp only [shortEscaped, List.mem_cons, List.not_mem_nil, or_false, not_or] at long
  obtain ⟨quote, backslash, backspace, feed, line, carriage, tab⟩ := long
  simp only [writtenChar, quote, backslash, backspace, feed, line, carriage, tab, if_false]

/-- A written character is one that stands for itself, or an escape. -/
theorem Spells.writtenChar {body : List UInt8} {chars : List Char} (c : Char)
    (spells : Spells body chars) :
    Spells ((Json.writtenChar c).flatMap String.utf8EncodeChar ++ body) (c :: chars) := by
  by_cases short : c ∈ shortEscaped
  · obtain ⟨mark, written, ascii, stands⟩ := writtenChar_of_mem short
    rw [written, flatMap_utf8EncodeChar_of_ascii (by simpa using ascii)]
    exact .escaped (.letter stands) spells
  rw [writtenChar_of_not_mem short]
  split
  · rename_i control
    have high : c.toNat / 16 < 16 := by omega
    have low : c.toNat % 16 < 16 := Nat.mod_lt _ (by decide)
    have code : IsCodeUnit [byte '0', byte '0', byte (Nat.digitChar (c.toNat / 16)),
        byte (Nat.digitChar (c.toNat % 16))] c.toNat := by
      have units := IsCodeUnit.digits (hexValue?_digitChar (show 0 < 16 by decide))
        (hexValue?_digitChar (show 0 < 16 by decide)) (hexValue?_digitChar high)
        (hexValue?_digitChar low)
      rwa [show ((0 * 16 + 0) * 16 + c.toNat / 16) * 16 + c.toNat % 16 = c.toNat by omega] at units
    have ascii : ∀ digit < 16, (Nat.digitChar digit).toNat < 128 := by decide
    rw [flatMap_utf8EncodeChar_of_ascii (by simpa using ⟨ascii _ high, ascii _ low⟩)]
    exact .escaped (.codePoint code) spells
  · rename_i printable
    have plain : isUnescaped c = true := by
      simp only [shortEscaped, List.mem_cons, not_or] at short
      simp only [isUnescaped, Bool.and_eq_true, bne_iff_ne, decide_eq_true_eq]
      exact ⟨⟨short.1, short.2.1⟩, Nat.le_of_not_lt printable⟩
    rw [List.flatMap_cons, List.flatMap_nil, List.append_nil]
    exact .unescaped plain spells

/-- **A written text is a string that stands for it.** -/
theorem isString_writeText (text : String) : IsString (utf8 (writeText text)) text := by
  have body : ∀ chars : List Char,
      Spells ((chars.flatMap writtenChar).flatMap String.utf8EncodeChar) chars := by
    intro chars
    induction chars with
    | nil => exact .nil
    | cons c chars ih =>
        rw [List.flatMap_cons, List.flatMap_append]
        exact ih.writtenChar c
  refine ⟨_, ?_, body text.toList⟩
  have quote : String.utf8EncodeChar '"' = [byte '"'] := rfl
  simp [writeText, utf8_eq_flatMap, quote]

end PrintPlanner.Json
