/-!
# Pieces of a text

A text is cut at every occurrence of a separator, so a text with n separators has
n + 1 pieces, of which some may be empty.  Putting the separator between the pieces
gives the text back.
-/

set_option autoImplicit false

namespace PrintPlanner.Text

/-- The runs between the occurrences of `mark`. -/
def cutAll (mark : Char) : List Char → List (List Char)
  | [] => [[]]
  | c :: rest =>
      if c = mark then [] :: cutAll mark rest
      else
        match cutAll mark rest with
        | [] => [[c]]
        | piece :: pieces => (c :: piece) :: pieces

/-- The pieces of a text between the occurrences of `mark`. -/
def pieces (mark : Char) (text : String) : List String :=
  (cutAll mark text.toList).map String.ofList

/-- The pieces with `mark` between them. -/
def joinPieces (mark : Char) (pieces : List String) : String :=
  String.ofList ([mark].intercalate (pieces.map String.toList))

theorem cutAll_eq_splitOn (mark : Char) (chars : List Char) :
    cutAll mark chars = chars.splitOn mark := by
  induction chars with
  | nil => rfl
  | cons c rest ih =>
      rw [cutAll, List.splitOn_cons_eq_if_modifyHead, ih]
      by_cases same : c = mark
      · rw [if_pos same, if_pos (beq_iff_eq.mpr same)]
      · rw [if_neg same, if_neg (same ∘ beq_iff_eq.mp)]
        cases cut : rest.splitOn mark with
        | nil => exact absurd cut (List.splitOn_ne_nil mark rest)
        | cons piece pieces => rfl

/-- Putting the separator between the pieces of a text gives the text back. -/
theorem joinPieces_pieces (mark : Char) (text : String) :
    joinPieces mark (pieces mark text) = text := by
  simp [joinPieces, pieces, List.map_map, Function.comp_def, cutAll_eq_splitOn,
    List.intercalate_splitOn]

/-- A text without separators is its only piece. -/
theorem pieces_of_notMem {mark : Char} {text : String} (plain : mark ∉ text.toList) :
    pieces mark text = [text] := by
  rw [pieces, cutAll_eq_splitOn, List.splitOn_eq_singleton plain, List.map_singleton,
    String.ofList_toList]

/-- A separator between two texts is cut away. -/
theorem pieces_append (mark : Char) (first second : String) :
    pieces mark (first ++ String.singleton mark ++ second) =
      pieces mark first ++ pieces mark second := by
  simp [pieces, cutAll_eq_splitOn, List.splitOn_append_cons_self]

theorem notMem_of_mem_cutAll (mark : Char) (chars : List Char) :
    ∀ piece ∈ cutAll mark chars, mark ∉ piece := by
  induction chars with
  | nil => simp [cutAll]
  | cons c rest ih =>
      unfold cutAll
      split
      · exact List.forall_mem_cons.mpr ⟨List.not_mem_nil, ih⟩
      rename_i different
      have apart : mark ≠ c := Ne.symm different
      split
      · simpa using apart
      · rename_i piece pieces cut
        rw [cut] at ih
        obtain ⟨first, others⟩ := List.forall_mem_cons.mp ih
        exact List.forall_mem_cons.mpr ⟨List.not_mem_cons_of_ne_of_not_mem apart first, others⟩

/-- No separator is left in a piece. -/
theorem notMem_of_mem_pieces {mark : Char} {text piece : String}
    (member : piece ∈ pieces mark text) : mark ∉ piece.toList := by
  obtain ⟨chars, cut, rfl⟩ := List.mem_map.mp member
  rw [String.toList_ofList]
  exact notMem_of_mem_cutAll mark text.toList chars cut

/-- Pieces without separators are found again. -/
theorem pieces_joinPieces {mark : Char} {parts : List String} (nonempty : parts ≠ [])
    (plain : ∀ part ∈ parts, mark ∉ part.toList) :
    pieces mark (joinPieces mark parts) = parts := by
  have unmarked : ∀ chars ∈ parts.map String.toList, mark ∉ chars := by
    simpa using plain
  rw [pieces, joinPieces, String.toList_ofList, cutAll_eq_splitOn,
    List.splitOn_intercalate mark unmarked (by simpa using nonempty)]
  simp [List.map_map, Function.comp_def]

private theorem exists_intercalate_append (separator : List Char) (front back : List (List Char)) :
    ∃ rest, separator.intercalate (front ++ back) = separator.intercalate front ++ rest := by
  induction front with
  | nil => exact ⟨_, rfl⟩
  | cons piece pieces ih =>
      obtain ⟨rest, joined⟩ := ih
      cases pieces with
      | nil =>
          cases back with
          | nil => exact ⟨[], by simp⟩
          | cons next later =>
              exact ⟨separator ++ separator.intercalate (next :: later), by simp⟩
      | cons next later =>
          refine ⟨rest, ?_⟩
          rw [List.cons_append, List.cons_append, List.intercalate_cons_cons, ← List.cons_append,
            joined, List.intercalate_cons_cons]
          simp only [List.append_assoc]

/-- Joining more pieces continues the text. -/
theorem exists_joinPieces_append (mark : Char) (front back : List String) :
    ∃ rest, joinPieces mark (front ++ back) = joinPieces mark front ++ rest := by
  obtain ⟨rest, joined⟩ :=
    exists_intercalate_append [mark] (front.map String.toList) (back.map String.toList)
  refine ⟨String.ofList rest, ?_⟩
  rw [joinPieces, List.map_append, joined, String.ofList_append, joinPieces]

end PrintPlanner.Text
