import Mathlib.Data.List.TakeWhile
import PrintPlanner.Json.Grammar
import PrintPlanner.Json.Reader

/-!
# Reading what stands between strings and numbers

Blanks are skipped as far as they go, so a reader that starts behind them knows that its first byte
is no blank (`Json.skipBlanks_eq_cons_iff`).  A whole text is read exactly if a value is and nothing
but blanks follows it (`Json.readWhole_eq_ok_iff`).
-/

set_option autoImplicit false

namespace PrintPlanner.Json

/-- A reader goes on with what another one has read. -/
theorem bind_eq_ok_iff {α β : Type} {first : Except Fault α} {next : α → Except Fault β}
    {value : β} :
    (first >>= next) = .ok value ↔ ∃ middle, first = .ok middle ∧ next middle = .ok value := by
  cases first with
  | error fault => simp [bind, Except.bind]
  | ok middle => simp [bind, Except.bind]

theorem map_eq_ok_iff {α β : Type} {read : Except Fault α} {change : α → β} {value : β} :
    read.map change = .ok value ↔ ∃ found, read = .ok found ∧ change found = value := by
  cases read with
  | error fault => simp [Except.map]
  | ok found => simp [Except.map]

/-- Bytes that a test holds for end at the first byte that it does not hold for. -/
theorem takeWhile_dropWhile_append_cons {test : UInt8 → Bool} {run : List UInt8} {b : UInt8}
    (holds : ∀ b ∈ run, test b = true) (stop : test b = false) (rest : List UInt8) :
    (run ++ b :: rest).takeWhile test = run ∧ (run ++ b :: rest).dropWhile test = b :: rest := by
  simp [List.takeWhile_append_of_pos holds, List.dropWhile_append_of_pos holds, stop]

/-- What is left starts with a byte that the test does not hold for. -/
theorem dropWhile_eq_cons_iff {test : UInt8 → Bool} {bytes rest : List UInt8} {b : UInt8} :
    bytes.dropWhile test = b :: rest ↔
      ∃ run, bytes = run ++ b :: rest ∧ (∀ b ∈ run, test b = true) ∧ test b = false := by
  constructor
  · intro dropped
    have split := List.takeWhile_append_dropWhile (p := test) (l := bytes)
    have stop := List.head?_dropWhile_not test bytes
    rw [dropped] at split stop
    exact ⟨_, split.symm, List.all_eq_true.mp List.all_takeWhile, stop⟩
  · rintro ⟨run, rfl, holds, stop⟩
    exact (takeWhile_dropWhile_append_cons holds stop rest).2

/-! ## Blanks -/

theorem skipBlanks_eq_nil_iff {bytes : List UInt8} : skipBlanks bytes = [] ↔ IsGap bytes :=
  List.dropWhile_eq_nil_iff

theorem isGap_nil : IsGap [] := fun _ member => absurd member List.not_mem_nil

theorem IsGap.append {left right : List UInt8} (first : IsGap left) (second : IsGap right) :
    IsGap (left ++ right) := by
  intro b member
  exact (List.mem_append.mp member).elim (first b) (second b)

theorem IsGap.skipBlanks_append {gap : List UInt8} (blank : IsGap gap) (bytes : List UInt8) :
    skipBlanks (gap ++ bytes) = skipBlanks bytes :=
  List.dropWhile_append_of_pos blank

theorem skipBlanks_eq_cons_iff {bytes rest : List UInt8} {b : UInt8} :
    skipBlanks bytes = b :: rest ↔
      ∃ gap, bytes = gap ++ b :: rest ∧ IsGap gap ∧ isBlankByte b = false :=
  dropWhile_eq_cons_iff

theorem IsGap.skipBlanks_append_cons {gap : List UInt8} {b : UInt8} (blank : IsGap gap)
    (stop : isBlankByte b = false) (rest : List UInt8) :
    skipBlanks (gap ++ b :: rest) = b :: rest :=
  skipBlanks_eq_cons_iff.mpr ⟨gap, rfl, blank, stop⟩

/-! ## Literals -/

theorem readLiteral_eq_ok_iff {literal : List Char} {bytes rest : List UInt8} :
    readLiteral literal bytes = .ok rest ↔ bytes = literal.map byte ++ rest := by
  induction literal generalizing bytes with
  | nil => simp [readLiteral]
  | cons c literal ih =>
      cases bytes with
      | nil => simp [readLiteral]
      | cons b others =>
          by_cases same : b = byte c
          · simp [readLiteral, same, ih]
          · simp [readLiteral, same]

theorem readLiteral_append (literal : List Char) (rest : List UInt8) :
    readLiteral literal (literal.map byte ++ rest) = .ok rest :=
  readLiteral_eq_ok_iff.mpr rfl

/-! ## Whole texts -/

/-- **A whole text is a value with nothing but blanks behind it.** -/
theorem readWhole_eq_ok_iff {α : Type} {read : List UInt8 → Except Fault (α × List UInt8)}
    {bytes : List UInt8} {value : α} :
    readWhole read bytes = .ok value ↔ ∃ rest, read bytes = .ok (value, rest) ∧ IsGap rest := by
  unfold readWhole
  cases read bytes with
  | error fault => simp
  | ok found =>
      obtain ⟨found, rest⟩ := found
      dsimp only
      cases behind : skipBlanks rest with
      | nil =>
          have blank := skipBlanks_eq_nil_iff.mp behind
          constructor
          · rintro ⟨⟩
            exact ⟨rest, rfl, blank⟩
          · rintro ⟨_, ⟨⟩, _⟩
            rfl
      | cons b others =>
          refine iff_of_false (by simp) ?_
          rintro ⟨_, ⟨⟩, blank⟩
          rw [skipBlanks_eq_nil_iff.mpr blank] at behind
          cases behind

end PrintPlanner.Json
