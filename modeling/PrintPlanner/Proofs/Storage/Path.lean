import Mathlib.Data.List.DropRight
import PrintPlanner.Storage.Path

/-!
# Names below a path

Joining a name without slashes to a path adds one component to those of the path
(`Path.components_join`).  The directory that the joined path lies in is the path again, without
the idle pieces at its end (`Path.parent_join`), and what is left out that way are steps from a
directory to itself (`Path.components_stem`).
-/

set_option autoImplicit false

namespace PrintPlanner.Path

open Text

variable {base name : String}

/-! ## Joining -/

theorem isAbsolute_of_notMem (plain : '/' ∉ name.toList) : isAbsolute name = false := by
  unfold isAbsolute
  rw [beq_eq_false_iff_ne]
  exact fun first => plain (List.mem_of_mem_head? first)

/-- Nothing but a slash may come between a path and a name. -/
theorem join_cases (base name : String) :
    join base name = name ∨ join base name = base ++ name ∨
      join base name = base ++ "/" ++ name := by
  unfold join
  split
  · exact .inl rfl
  · split
    · exact .inr (.inl rfl)
    · exact .inr (.inr rfl)

theorem mem_toList_join {c : Char} (member : c ∈ (join base name).toList) :
    c ∈ base.toList ∨ c = '/' ∨ c ∈ name.toList := by
  rcases join_cases base name with joined | joined | joined <;> rw [joined] at member
  · exact .inr (.inr member)
  · rw [String.toList_append, List.mem_append] at member
    exact member.imp_right .inr
  · rw [String.toList_append, String.toList_append, List.mem_append, List.mem_append] at member
    rcases member with (earlier | slash) | later
    · exact .inl earlier
    · exact .inr (.inl (by simpa using slash))
    · exact .inr (.inr later)

theorem utf8ByteSize_join_le (base name : String) :
    (join base name).utf8ByteSize ≤ base.utf8ByteSize + 1 + name.utf8ByteSize := by
  have slash : "/".utf8ByteSize = 1 := rfl
  rcases join_cases base name with joined | joined | joined <;> rw [joined]
  · omega
  · rw [String.utf8ByteSize_append]
    omega
  · rw [String.utf8ByteSize_append, String.utf8ByteSize_append]
    omega

/-- The name is the last piece.  The pieces before it are those of the path, of which an empty last
one is lost. -/
theorem exists_pieces_join (base : String) (plain : '/' ∉ name.toList) :
    ∃ above, pieces '/' (join base name) = above ++ [name] ∧
      (pieces '/' base = above ∨ pieces '/' base = above ++ [""]) := by
  have slash : String.singleton '/' = "/" := rfl
  unfold join
  rw [isAbsolute_of_notMem plain, if_neg Bool.false_ne_true]
  split
  · rename_i closed
    rcases closed with rfl | closed
    · exact ⟨[], by rw [String.empty_append, pieces_of_notMem plain, List.nil_append], .inr rfl⟩
    · -- The slash at the end of the path separates the name already.
      obtain ⟨front, ends⟩ := List.getLast?_eq_some_iff.mp closed
      have base_eq : base = String.ofList front ++ String.singleton '/' := by
        rw [← String.toList_inj, ends]
        simp
      refine ⟨pieces '/' (String.ofList front), ?_, .inr ?_⟩
      · rw [base_eq, pieces_append, pieces_of_notMem plain]
      · have cut := pieces_append '/' (String.ofList front) ""
        rwa [String.append_empty, ← base_eq] at cut
  · refine ⟨pieces '/' base, ?_, .inl rfl⟩
    rw [← slash, pieces_append, pieces_of_notMem plain]

/-- Joining a name adds a component. -/
theorem components_join (base : String) (plain : '/' ∉ name.toList) (nonempty : name ≠ "") :
    components (join base name) = components base ++ [name] := by
  obtain ⟨above, joined, whole | whole⟩ := exists_pieces_join base plain
  all_goals simp [components, joined, whole, nonempty]

/-! ## Parents -/

/-- A path without the idle pieces at its end. -/
def stem (path : String) : String :=
  joinPieces '/' ((pieces '/' path).rdropWhile isIdle)

/-- The nearest enclosing text ends before the idle pieces. -/
theorem head?_enclosing (reversed : List String) :
    (enclosing reversed).head?.getD "" = joinPieces '/' (reversed.dropWhile isIdle).reverse := by
  induction reversed with
  | nil => rfl
  | cons piece above ih =>
      unfold enclosing
      by_cases idle : isIdle piece = true
      · rw [if_pos idle, List.dropWhile_cons_of_pos idle, ih]
      · rw [if_neg idle, List.dropWhile_cons_of_neg idle]
        rfl

/-- The directory of a joined name is the path that it was joined to. -/
theorem parent_join (base : String) (plain : '/' ∉ name.toList) (proper : isIdle name = false) :
    parent (join base name) = stem base := by
  obtain ⟨above, joined, whole⟩ := exists_pieces_join base plain
  have kept : (pieces '/' base).rdropWhile isIdle = above.rdropWhile isIdle := by
    rcases whole with whole | whole
    · rw [whole]
    · rw [whole, List.rdropWhile_concat_pos _ _ _ rfl]
  rw [stem, kept, List.rdropWhile, ← head?_enclosing, parent, ancestors, joined,
    List.reverse_append, List.reverse_singleton, List.singleton_append, enclosing,
    if_neg (by simp [proper])]
  cases enclosing above.reverse <;> rfl

/-- Nothing but steps from a directory to itself is left out. -/
theorem components_stem (path : String) :
    ∃ dots, components path = components (stem path) ++ dots ∧ ∀ dot ∈ dots, dot = "." := by
  refine ⟨((pieces '/' path).rtakeWhile isIdle).filter (· ≠ ""), ?_, ?_⟩
  · have kept : components (stem path) =
        ((pieces '/' path).rdropWhile isIdle).filter (· ≠ "") := by
      by_cases nothing : (pieces '/' path).rdropWhile isIdle = []
      · rw [stem, nothing]
        rfl
      · have plain : ∀ piece ∈ (pieces '/' path).rdropWhile isIdle, '/' ∉ piece.toList :=
          fun piece member => notMem_of_mem_pieces ((List.rdropWhile_prefix _ _).mem member)
        rw [components, stem, pieces_joinPieces nothing plain]
    rw [kept, ← List.filter_append, List.rdropWhile_append_rtakeWhile]
    rfl
  · intro dot member
    obtain ⟨trailing, nonempty⟩ := List.mem_filter.mp member
    have idle : isIdle dot = true := List.mem_rtakeWhile_imp trailing
    simp_all [isIdle]

/-- A path continues its stem. -/
theorem exists_eq_stem_append (path : String) : ∃ rest, path = stem path ++ rest := by
  obtain ⟨rest, joined⟩ := exists_joinPieces_append '/' ((pieces '/' path).rdropWhile isIdle)
    ((pieces '/' path).rtakeWhile isIdle)
  rw [List.rdropWhile_append_rtakeWhile, joinPieces_pieces] at joined
  exact ⟨rest, joined⟩

end PrintPlanner.Path
