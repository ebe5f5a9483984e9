import PrintPlanner.Proofs.Json.Strings

/-!
# Skipping strings, numbers and literals

A skipped scalar is one of the grammar.  Where a number ends is decided by the byte behind it, so a
scalar of the grammar is skipped as a whole if that byte could not be part of a number
(`Json.EndsNumber`).  Blanks, commas and closing bytes all end a number.
-/

set_option autoImplicit false

namespace PrintPlanner.Json

/-! ## Strings -/

theorem skipEscape_eq_ok_iff {bytes rest : List UInt8} :
    skipEscape bytes = .ok rest ↔ ∃ escape, bytes = escape ++ rest ∧ IsSkippedEscape escape := by
  unfold skipEscape
  cases bytes with
  | nil =>
      refine iff_of_false (by simp) ?_
      rintro ⟨escape, nothing, stands⟩
      obtain ⟨rfl, _⟩ := List.append_eq_nil_iff.mp nothing.symm
      cases stands
  | cons b others =>
      dsimp only
      split
      · rename_i letter
        constructor
        · rintro ⟨⟩
          exact ⟨[b], rfl, .letter letter⟩
        · rintro ⟨escape, split, stands⟩
          cases stands with
          | letter => cases split; rfl
          | codeUnit =>
              cases split
              cases letter
      · rename_i noLetter
        split
        · rename_i mark
          rw [map_eq_ok_iff]
          constructor
          · rintro ⟨⟨unit, after⟩, read, rfl⟩
            obtain ⟨digits, rfl, code⟩ := readCodeUnit_eq_ok_iff.mp read
            exact ⟨b :: digits, rfl, mark ▸ .codeUnit code⟩
          · rintro ⟨escape, split, stands⟩
            cases stands with
            | letter stands =>
                cases split
                exact absurd stands noLetter
            | codeUnit code =>
                cases split
                exact ⟨_, readCodeUnit_eq_ok_iff.mpr ⟨_, rfl, code⟩, rfl⟩
        · rename_i noMark
          refine iff_of_false (by simp) ?_
          rintro ⟨escape, split, stands⟩
          cases stands with
          | letter stands =>
              cases split
              exact noLetter stands
          | codeUnit =>
              cases split
              exact noMark rfl

/-- The rest of a string ends at a quote, or goes on behind an escape. -/
theorem skipChars_eq_ok_iff {limit bytes rest : List UInt8} :
    skipChars limit bytes = .ok rest ↔
      ∃ run, (∀ b ∈ run, isPlain b = true) ∧
        (bytes = run ++ byte '"' :: rest ∨
          ∃ mark others escape after, limit = mark :: others ∧ IsSkippedEscape escape ∧
            bytes = run ++ byte '\\' :: (escape ++ after) ∧ skipChars others after = .ok rest) := by
  constructor
  · intro skip
    rw [skipChars.eq_def] at skip
    dsimp only at skip
    cases behind : bytes.dropWhile isPlain with
    | nil =>
        rw [behind] at skip
        cases skip
    | cons b after =>
        obtain ⟨run, rfl, plain, _⟩ := dropWhile_eq_cons_iff.mp behind
        refine ⟨run, plain, ?_⟩
        rw [behind] at skip
        dsimp only at skip
        split at skip
        · rename_i quote
          cases skip
          exact .inl (by rw [quote])
        · split at skip
          · rename_i backslash
            cases limit with
            | nil => cases skip
            | cons mark others =>
                dsimp only at skip
                obtain ⟨_, taken, later⟩ := bind_eq_ok_iff.mp skip
                obtain ⟨escape, rfl, stands⟩ := skipEscape_eq_ok_iff.mp taken
                exact .inr ⟨mark, others, escape, _, rfl, stands, by rw [backslash], later⟩
          · cases skip
  · rintro ⟨run, plain, rfl | ⟨mark, others, escape, after, rfl, stands, rfl, later⟩⟩
    · obtain ⟨_, dropped⟩ := takeWhile_dropWhile_append_cons plain isPlain_quote rest
      rw [skipChars.eq_def]
      simp only [dropped, if_true]
    · obtain ⟨_, dropped⟩ :=
        takeWhile_dropWhile_append_cons plain isPlain_backslash (escape ++ after)
      have taken : skipEscape (escape ++ after) = .ok after :=
        skipEscape_eq_ok_iff.mpr ⟨escape, rfl, stands⟩
      have notQuote : byte '\\' ≠ byte '"' := by decide
      rw [skipChars.eq_def]
      simp only [dropped, if_neg notQuote, if_true]
      exact bind_eq_ok_iff.mpr ⟨_, taken, later⟩

theorem IsSkippedBody.run {run body : List UInt8} (plain : ∀ b ∈ run, isPlain b = true)
    (rest : IsSkippedBody body) : IsSkippedBody (run ++ body) := by
  induction run with
  | nil => exact rest
  | cons b others ih =>
      obtain ⟨first, others⟩ := List.forall_mem_cons.mp plain
      exact .plain first (ih others)

/-- As many escapes as the limit has bytes suffice for a body that is no longer than it. -/
theorem IsSkippedBody.skipChars {body : List UInt8} (skipped : IsSkippedBody body)
    (limit rest : List UInt8) (room : body.length ≤ limit.length) :
    Json.skipChars limit (body ++ byte '"' :: rest) = .ok rest := by
  induction skipped generalizing limit with
  | nil => exact skipChars_eq_ok_iff.mpr ⟨[], by simp, .inl rfl⟩
  | plain stands _ ih =>
      obtain ⟨run, plain, ends⟩ := skipChars_eq_ok_iff.mp (ih limit (Nat.le_of_succ_le room))
      refine skipChars_eq_ok_iff.mpr ⟨_ :: run, List.forall_mem_cons.mpr ⟨stands, plain⟩, ?_⟩
      obtain split | ⟨mark, others, escape, after, rfl, isEscape, split, later⟩ := ends
      · exact .inl (by rw [List.cons_append, split]; rfl)
      · exact .inr ⟨mark, others, escape, after, rfl, isEscape,
          by rw [List.cons_append, split]; rfl, later⟩
  | escaped stands _ ih =>
      cases limit with
      | nil => cases room
      | cons mark others =>
          simp only [List.length_cons, List.length_append] at room
          exact skipChars_eq_ok_iff.mpr ⟨[], by simp, .inr ⟨mark, others, _, _, rfl, stands,
            by simp, ih others (by omega)⟩⟩

theorem exists_isSkippedBody_of_skipChars {limit bytes rest : List UInt8}
    (skip : skipChars limit bytes = .ok rest) :
    ∃ body, bytes = body ++ byte '"' :: rest ∧ IsSkippedBody body := by
  induction limit generalizing bytes with
  | nil =>
      obtain ⟨run, plain, rfl | ⟨_, _, _, _, nothing, _⟩⟩ := skipChars_eq_ok_iff.mp skip
      · exact ⟨run, rfl, by simpa using IsSkippedBody.nil.run plain⟩
      · cases nothing
  | cons mark others ih =>
      obtain ⟨run, plain, rfl | ⟨_, _, escape, after, same, stands, rfl, later⟩⟩ :=
        skipChars_eq_ok_iff.mp skip
      · exact ⟨run, rfl, by simpa using IsSkippedBody.nil.run plain⟩
      · cases same
        obtain ⟨body, rfl, skipped⟩ := ih later
        refine ⟨run ++ byte '\\' :: (escape ++ body), by simp, ?_⟩
        exact (skipped.escaped stands).run plain

/-- A string is skipped exactly if it is one of the grammar. -/
theorem skipString_eq_ok_iff {bytes rest : List UInt8} :
    skipString bytes = .ok rest ↔
      ∃ body, bytes = body ++ byte '"' :: rest ∧ IsSkippedBody body := by
  refine ⟨exists_isSkippedBody_of_skipChars, ?_⟩
  rintro ⟨body, rfl, skipped⟩
  exact skipped.skipChars _ rest (by simp)

/-! ## Numbers -/

@[simp] theorem nextIs_cons (test : UInt8 → Bool) (b : UInt8) (rest : List UInt8) :
    nextIs test (b :: rest) = test b := rfl

@[simp] theorem nextIs_nil (test : UInt8 → Bool) : nextIs test [] = false := rfl

theorem dropWhile_append_of_nextIs {test : UInt8 → Bool} {run rest : List UInt8}
    (holds : ∀ b ∈ run, test b = true) (stop : nextIs test rest = false) :
    (run ++ rest).dropWhile test = rest := by
  rw [List.dropWhile_append_of_pos holds]
  cases rest with
  | nil => rfl
  | cons b others => exact List.dropWhile_cons_of_neg (by simpa using stop)

/-- The bytes that are left start with none that would continue a number. -/
structure EndsNumber (rest : List UInt8) : Prop where
  digit : nextIs isDigit rest = false
  point : nextIs (· == byte '.') rest = false
  mark : nextIs isExponentMark rest = false

/-- The digits that come next. -/
theorem exists_isDigits {bytes : List UInt8} (next : nextIs isDigit bytes = true) :
    ∃ digits, bytes = digits ++ bytes.dropWhile isDigit ∧ IsDigits digits := by
  cases bytes with
  | nil => cases next
  | cons b others =>
      refine ⟨b :: others.takeWhile isDigit, ?_, by simp, ?_⟩
      · have first : isDigit b = true := next
        rw [List.dropWhile_cons_of_pos first, List.cons_append, List.takeWhile_append_dropWhile]
      · exact List.forall_mem_cons.mpr ⟨next, List.all_eq_true.mp List.all_takeWhile⟩

theorem IsDigits.nextIs_append {digits : List UInt8} (isDigits : IsDigits digits)
    (rest : List UInt8) : nextIs isDigit (digits ++ rest) = true := by
  obtain ⟨nonempty, all⟩ := isDigits
  cases digits with
  | nil => exact absurd rfl nonempty
  | cons b others => exact all b List.mem_cons_self

theorem isDigit_of_isExponentMark {b : UInt8} (mark : isExponentMark b = true) :
    isDigit b = false := by
  simp only [isExponentMark, Bool.or_eq_true, beq_iff_eq] at mark
  rcases mark with rfl | rfl <;> decide

/-- Digits are dropped as far as they go. -/
theorem IsDigits.dropWhile_append {digits rest : List UInt8} (isDigits : IsDigits digits)
    (stop : nextIs isDigit rest = false) : (digits ++ rest).dropWhile isDigit = rest :=
  dropWhile_append_of_nextIs isDigits.2 stop

/-- Whether a byte is the sign of an exponent. -/
def isSign (b : UInt8) : Bool := b == byte '+' || b == byte '-'

theorem isSign_iff {b : UInt8} : isSign b = true ↔ b = byte '+' ∨ b = byte '-' := by
  simp [isSign]

theorem skipExponent_eq_ok_iff {bytes rest : List UInt8} :
    skipExponent bytes = .ok rest ↔
      ∃ unsigned, unsigned = (if nextIs isSign bytes then bytes.tail else bytes) ∧
        nextIs isDigit unsigned = true ∧ unsigned.dropWhile isDigit = rest := by
  have sign : (fun b => b == byte '+' || b == byte '-') = isSign := rfl
  rw [skipExponent, sign, exists_eq_left]
  generalize (if nextIs isSign bytes then bytes.tail else bytes) = unsigned
  split
  · rename_i next
    simp [next]
  · rename_i stop
    simp [stop]

theorem exists_of_skipExponent {bytes rest : List UInt8} (skip : skipExponent bytes = .ok rest) :
    ∃ sign digits, bytes = sign ++ (digits ++ rest) ∧
      (sign = [] ∨ sign = [byte '+'] ∨ sign = [byte '-']) ∧ IsDigits digits := by
  obtain ⟨unsigned, split, next, rfl⟩ := skipExponent_eq_ok_iff.mp skip
  obtain ⟨digits, front, isDigits⟩ := exists_isDigits next
  rw [front] at split
  cases bytes with
  | nil => exact ⟨[], digits, split.symm, .inl rfl, isDigits⟩
  | cons b others =>
      by_cases signed : isSign b = true
      · rw [nextIs_cons, if_pos signed] at split
        refine ⟨[b], digits, by rw [split]; rfl, ?_, isDigits⟩
        rcases isSign_iff.mp signed with rfl | rfl
        · exact .inr (.inl rfl)
        · exact .inr (.inr rfl)
      · rw [nextIs_cons, if_neg signed] at split
        exact ⟨[], digits, split.symm, .inl rfl, isDigits⟩

theorem skipExponent_append {sign digits rest : List UInt8}
    (signed : sign = [] ∨ sign = [byte '+'] ∨ sign = [byte '-']) (isDigits : IsDigits digits)
    (stop : nextIs isDigit rest = false) :
    skipExponent (sign ++ (digits ++ rest)) = .ok rest := by
  refine skipExponent_eq_ok_iff.mpr
    ⟨digits ++ rest, ?_, isDigits.nextIs_append rest, isDigits.dropWhile_append stop⟩
  rcases signed with rfl | rfl | rfl
  · have unsigned : nextIs isSign (digits ++ rest) = false := by
      rw [← Bool.not_eq_true]
      intro signed
      have digit := isDigits.nextIs_append rest
      cases whole : digits ++ rest with
      | nil =>
          rw [whole] at signed
          cases signed
      | cons b others =>
          rw [whole, nextIs_cons] at signed digit
          rcases isSign_iff.mp signed with rfl | rfl <;> cases digit
    simp [unsigned]
  · rfl
  · rfl

theorem exists_of_skipOptionalExponent {bytes rest : List UInt8}
    (skip : skipOptionalExponent bytes = .ok rest) :
    ∃ exponent, bytes = exponent ++ rest ∧ IsExponent exponent := by
  unfold skipOptionalExponent at skip
  split at skip
  · rename_i opens
    cases bytes with
    | nil => cases opens
    | cons mark after =>
        obtain ⟨sign, digits, rfl, signed, isDigits⟩ := exists_of_skipExponent skip
        exact ⟨mark :: (sign ++ digits), by simp, .present opens signed isDigits⟩
  · cases skip
    exact ⟨[], rfl, .absent⟩

theorem IsExponent.skip {exponent rest : List UInt8} (isExponent : IsExponent exponent)
    (ends : EndsNumber rest) : skipOptionalExponent (exponent ++ rest) = .ok rest := by
  cases isExponent with
  | absent =>
      rw [skipOptionalExponent, List.nil_append, ends.mark]
      rfl
  | present opens signed isDigits =>
      rw [List.cons_append, List.append_assoc, skipOptionalExponent, nextIs_cons, if_pos opens]
      exact skipExponent_append signed isDigits ends.digit

/-- No exponent starts with a digit or a point, and neither does what ends a number. -/
theorem IsExponent.nextIs_append {exponent rest : List UInt8} (isExponent : IsExponent exponent)
    (ends : EndsNumber rest) :
    nextIs isDigit (exponent ++ rest) = false ∧
      nextIs (· == byte '.') (exponent ++ rest) = false := by
  cases isExponent with
  | absent => exact ⟨ends.digit, ends.point⟩
  | present opens signed isDigits =>
      refine ⟨isDigit_of_isExponentMark opens, ?_⟩
      simp only [isExponentMark, Bool.or_eq_true, beq_iff_eq] at opens
      rcases opens with rfl | rfl <;> rfl

theorem exists_of_skipAfterWhole {bytes rest : List UInt8}
    (skip : skipAfterWhole bytes = .ok rest) :
    ∃ fraction exponent, bytes = fraction ++ (exponent ++ rest) ∧ IsFraction fraction ∧
      IsExponent exponent := by
  unfold skipAfterWhole at skip
  split at skip
  · rename_i point
    cases bytes with
    | nil => cases point
    | cons b after =>
        split at skip
        · rename_i next
          obtain ⟨digits, front, isDigits⟩ := exists_isDigits next
          obtain ⟨exponent, behind, isExponent⟩ := exists_of_skipOptionalExponent skip
          refine ⟨byte '.' :: digits, exponent, ?_, .present isDigits, isExponent⟩
          rw [← behind, List.cons_append, List.tail_cons, ← eq_of_beq point]
          exact congrArg _ front
        · cases skip
  · obtain ⟨exponent, rfl, isExponent⟩ := exists_of_skipOptionalExponent skip
    exact ⟨[], exponent, rfl, .absent, isExponent⟩

theorem IsFraction.skip {fraction exponent rest : List UInt8} (isFraction : IsFraction fraction)
    (isExponent : IsExponent exponent) (ends : EndsNumber rest) :
    skipAfterWhole (fraction ++ (exponent ++ rest)) = .ok rest := by
  obtain ⟨noDigit, noPoint⟩ := isExponent.nextIs_append ends
  cases isFraction with
  | absent =>
      rw [skipAfterWhole, List.nil_append, noPoint]
      exact isExponent.skip ends
  | present isDigits =>
      rw [List.cons_append, skipAfterWhole, nextIs_cons, List.tail_cons,
        if_pos (beq_self_eq_true _), if_pos (isDigits.nextIs_append _),
        isDigits.dropWhile_append noDigit]
      exact isExponent.skip ends

theorem IsFraction.nextIs_append {fraction exponent rest : List UInt8}
    (isFraction : IsFraction fraction) (isExponent : IsExponent exponent)
    (ends : EndsNumber rest) : nextIs isDigit (fraction ++ (exponent ++ rest)) = false := by
  cases isFraction with
  | absent => exact (isExponent.nextIs_append ends).1
  | present => rfl

theorem exists_of_skipNumber {bytes rest : List UInt8} (skip : skipNumber bytes = .ok rest) :
    ∃ number, bytes = number ++ rest ∧ IsUnsigned number := by
  unfold skipNumber at skip
  split at skip
  · cases skip
  · rename_i b others
    split at skip
    · rename_i zero
      split at skip
      · cases skip
      · obtain ⟨fraction, exponent, rfl, isFraction, isExponent⟩ := exists_of_skipAfterWhole skip
        exact ⟨b :: (fraction ++ exponent), by simp,
          [b], fraction, exponent, rfl, zero ▸ .zero, isFraction, isExponent⟩
    · rename_i nonzero
      split at skip
      · rename_i digit
        obtain ⟨fraction, exponent, behind, isFraction, isExponent⟩ := exists_of_skipAfterWhole skip
        have split := List.takeWhile_append_dropWhile (p := isDigit) (l := others)
        rw [behind] at split
        exact ⟨b :: others.takeWhile isDigit ++ (fraction ++ exponent), 
          by rw [List.append_assoc, List.append_assoc, List.cons_append, split],
          _, fraction, exponent, rfl,
          .digits digit nonzero (List.all_eq_true.mp List.all_takeWhile), isFraction, isExponent⟩
      · cases skip

theorem IsUnsigned.skip {number rest : List UInt8} (isNumber : IsUnsigned number)
    (ends : EndsNumber rest) : skipNumber (number ++ rest) = .ok rest := by
  obtain ⟨whole, fraction, exponent, rfl, isWhole, isFraction, isExponent⟩ := isNumber
  have noDigit := isFraction.nextIs_append isExponent ends
  have later := isFraction.skip isExponent ends
  rw [List.append_assoc, List.append_assoc]
  cases isWhole with
  | zero =>
      rw [List.singleton_append, skipNumber, if_pos rfl, noDigit]
      exact later
  | digits first nonzero further =>
      rw [List.cons_append, skipNumber, if_neg nonzero, if_pos first,
        dropWhile_append_of_nextIs further noDigit]
      exact later

/-! ## The start of a value -/

/-- A scalar, or the opening byte of a container. -/
inductive Starts : Option Container → List UInt8 → Prop where
  | scalar {lead : List UInt8} (scalar : IsScalar lead) : Starts none lead
  | opening (container : Container) : Starts (some container) [container.opener]

theorem exists_of_skipStart {bytes rest : List UInt8} {opened : Option Container}
    (skip : skipStart bytes = .ok (opened, rest)) :
    ∃ gap lead, bytes = gap ++ (lead ++ rest) ∧ IsGap gap ∧ Starts opened lead := by
  unfold skipStart at skip
  split at skip
  · cases skip
  rename_i b others skipped
  obtain ⟨gap, rfl, blank, _⟩ := skipBlanks_eq_cons_iff.mp skipped
  refine ⟨gap, ?_⟩
  have literal : ∀ {c : Char} {literal : List Char}, b = byte c →
      IsScalar ((c :: literal).map byte) →
      (readLiteral literal others).map (none, ·) = .ok (opened, rest) →
      ∃ lead, gap ++ b :: others = gap ++ (lead ++ rest) ∧ IsGap gap ∧ Starts opened lead := by
    rintro c literal rfl scalar read
    obtain ⟨_, read, same⟩ := map_eq_ok_iff.mp read
    cases same
    exact ⟨_, by rw [readLiteral_eq_ok_iff.mp read]; rfl, blank, .scalar scalar⟩
  split at skip
  · rename_i letter
    exact literal letter .null skip
  split at skip
  · rename_i letter
    exact literal letter (.bool true) skip
  split at skip
  · rename_i letter
    exact literal letter (.bool false) skip
  split at skip
  · rename_i minus
    obtain ⟨_, read, same⟩ := map_eq_ok_iff.mp skip
    cases same
    obtain ⟨number, rfl, digits⟩ := exists_of_skipNumber read
    exact ⟨b :: number, rfl, blank, minus ▸ .scalar (.negative digits)⟩
  split at skip
  · obtain ⟨_, read, same⟩ := map_eq_ok_iff.mp skip
    cases same
    obtain ⟨number, front, digits⟩ := exists_of_skipNumber read
    exact ⟨number, by rw [front], blank, .scalar (.positive digits)⟩
  split at skip
  · rename_i quote
    obtain ⟨_, read, same⟩ := map_eq_ok_iff.mp skip
    cases same
    obtain ⟨body, rfl, isBody⟩ := skipString_eq_ok_iff.mp read
    exact ⟨b :: (body ++ [byte '"']), by simp, blank,
      .scalar (.string ⟨body, by rw [quote], isBody⟩)⟩
  split at skip
  · rename_i bracket
    cases skip
    exact ⟨[b], rfl, blank, bracket ▸ .opening .list⟩
  split at skip
  · rename_i brace
    cases skip
    exact ⟨[b], rfl, blank, brace ▸ .opening .object⟩
  · cases skip

theorem ne_of_isDigit {b other : UInt8} (digit : isDigit b = true)
    (differs : isDigit other = false) : b ≠ other := by
  rintro rfl
  cases digit.symm.trans differs

theorem isBlankByte_of_isDigit {b : UInt8} (digit : isDigit b = true) : isBlankByte b = false := by
  have space := ne_of_isDigit digit (show isDigit 0x20 = false by decide)
  have line := ne_of_isDigit digit (show isDigit 0x0a = false by decide)
  have tab := ne_of_isDigit digit (show isDigit 0x09 = false by decide)
  have carriage := ne_of_isDigit digit (show isDigit 0x0d = false by decide)
  simp [isBlankByte, space, line, tab, carriage]

theorem IsUnsigned.exists_cons {number : List UInt8} (isNumber : IsUnsigned number) :
    ∃ b others, number = b :: others ∧ isDigit b = true := by
  obtain ⟨whole, fraction, exponent, rfl, isWhole, _⟩ := isNumber
  cases isWhole with
  | zero => exact ⟨_, _, rfl, rfl⟩
  | digits first => exact ⟨_, _, rfl, first⟩

theorem skipStart_append (gap : List UInt8) (blank : IsGap gap) (bytes : List UInt8) :
    skipStart (gap ++ bytes) = skipStart bytes := by
  rw [skipStart, skipStart, blank.skipBlanks_append]

theorem skipStart_of_isDigit {b : UInt8} (digit : isDigit b = true) (others : List UInt8) :
    skipStart (b :: others) = (skipNumber (b :: others)).map (none, ·) := by
  have skipped : skipBlanks (b :: others) = b :: others :=
    isGap_nil.skipBlanks_append_cons (isBlankByte_of_isDigit digit) others
  rw [skipStart, skipped]
  dsimp only
  rw [if_neg (ne_of_isDigit digit (by decide)), if_neg (ne_of_isDigit digit (by decide)),
    if_neg (ne_of_isDigit digit (by decide)), if_neg (ne_of_isDigit digit (by decide)),
    if_pos digit]

/-- What starts a value is passed over. -/
theorem Starts.skip {opened : Option Container} {lead : List UInt8} (starts : Starts opened lead)
    {gap rest : List UInt8} (blank : IsGap gap) (ends : opened = none → EndsNumber rest) :
    skipStart (gap ++ (lead ++ rest)) = .ok (opened, rest) := by
  rw [skipStart_append gap blank]
  cases starts with
  | scalar scalar =>
      cases scalar with
      | null => exact map_eq_ok_iff.mpr ⟨rest, readLiteral_append ['u', 'l', 'l'] rest, rfl⟩
      | bool value =>
          cases value with
          | true => exact map_eq_ok_iff.mpr ⟨rest, readLiteral_append ['r', 'u', 'e'] rest, rfl⟩
          | false =>
              exact map_eq_ok_iff.mpr ⟨rest, readLiteral_append ['a', 'l', 's', 'e'] rest, rfl⟩
      | positive digits =>
          have read := digits.skip (ends rfl)
          obtain ⟨b, others, rfl, digit⟩ := digits.exists_cons
          exact (skipStart_of_isDigit digit _).trans (map_eq_ok_iff.mpr ⟨rest, read, rfl⟩)
      | negative digits => exact map_eq_ok_iff.mpr ⟨rest, digits.skip (ends rfl), rfl⟩
      | string quoted =>
          obtain ⟨body, rfl, isBody⟩ := quoted
          have read : skipString (body ++ [byte '"'] ++ rest) = .ok rest :=
            skipString_eq_ok_iff.mpr ⟨body, by simp, isBody⟩
          exact map_eq_ok_iff.mpr ⟨rest, read, rfl⟩
  | opening container => cases container <;> rfl

end PrintPlanner.Json
