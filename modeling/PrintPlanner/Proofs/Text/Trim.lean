import Mathlib.Data.List.TakeWhile
import PrintPlanner.Text.Blank

/-!
# Texts without the blanks at their ends

A trimmed text is what lies between two runs of blanks and neither starts nor ends with one itself.
There is only one such part of a text (`Text.trim_eq_iff`).
-/

set_option autoImplicit false

namespace PrintPlanner.Text

/-- The word is the text without the blanks at its ends. -/
structure IsTrimmed (text word : String) : Prop where
  between : ∃ before after, text.toList = before ++ (word.toList ++ after) ∧
    (∀ c ∈ before, isBlank c = true) ∧ ∀ c ∈ after, isBlank c = true
  first : ∀ c ∈ word.toList.head?, isBlank c = false
  last : ∀ c ∈ word.toList.getLast?, isBlank c = false

theorem isBlank_of_mem_head?_dropWhile {chars : List Char} :
    ∀ c ∈ (chars.dropWhile isBlank).head?, isBlank c = false := by
  intro c first
  have stop := List.head?_dropWhile_not isBlank chars
  rwa [Option.mem_def.mp first] at stop

/-- Blanks are dropped up to the first character that is none. -/
theorem dropWhile_isBlank_append {before chars : List Char} (blank : ∀ c ∈ before, isBlank c = true)
    (front : ∀ c ∈ chars.head?, isBlank c = false) :
    (before ++ chars).dropWhile isBlank = chars := by
  rw [List.dropWhile_append_of_pos blank]
  cases chars with
  | nil => rfl
  | cons c rest => exact List.dropWhile_cons_of_neg (by simp [front c rfl])

theorem trim_isTrimmed (text : String) : IsTrimmed text (trim text) := by
  -- The characters are cut in three, of which the word is the one in the middle.
  have start := List.takeWhile_append_dropWhile (p := isBlank) (l := text.toList)
  generalize behind : text.toList.dropWhile isBlank = chars at start
  have finish := congrArg List.reverse
    (List.takeWhile_append_dropWhile (p := isBlank) (l := chars.reverse))
  rw [List.reverse_append, List.reverse_reverse] at finish
  have word : (trim text).toList = (chars.reverse.dropWhile isBlank).reverse := by
    rw [trim, String.toList_ofList, behind]
  have blank : ∀ {chars : List Char}, ∀ c ∈ chars.takeWhile isBlank, isBlank c = true :=
    fun c member => List.all_eq_true.mp List.all_takeWhile c member
  rw [← word] at finish
  refine ⟨⟨_, _, by rw [finish, start], blank, fun c member => ?_⟩, ?_, ?_⟩
  · exact blank c (List.mem_reverse.mp member)
  · intro c first
    have stop : ∀ c ∈ (text.toList.dropWhile isBlank).head?, isBlank c = false :=
      isBlank_of_mem_head?_dropWhile
    rw [behind, ← finish, List.head?_append, Option.mem_def.mp first] at stop
    exact stop c rfl
  · intro c last
    rw [word, List.getLast?_reverse] at last
    exact isBlank_of_mem_head?_dropWhile c last

/-- **Trimming finds the one part of a text without blanks at its ends.** -/
theorem trim_eq_iff {text word : String} : trim text = word ↔ IsTrimmed text word := by
  constructor
  · rintro rfl
    exact trim_isTrimmed text
  · rintro ⟨⟨before, after, split, front, behind⟩, first, last⟩
    rw [trim, split, ← String.toList_inj, String.toList_ofList]
    generalize word.toList = chars at first last
    cases chars with
    | nil =>
        have all : (before ++ ([] ++ after)).dropWhile isBlank = [] :=
          List.dropWhile_eq_nil_iff.mpr fun c member =>
            (List.mem_append.mp member).elim (front c) (behind c)
        rw [all]
        rfl
    | cons c rest =>
        have kept : (before ++ (c :: rest ++ after)).dropWhile isBlank = c :: rest ++ after :=
          dropWhile_isBlank_append front fun d same => first d same
        have blank : ∀ c ∈ after.reverse, isBlank c = true := fun d member =>
          behind d (List.mem_reverse.mp member)
        rw [kept, List.reverse_append, dropWhile_isBlank_append blank (by rwa [List.head?_reverse]),
          List.reverse_reverse]

end PrintPlanner.Text
