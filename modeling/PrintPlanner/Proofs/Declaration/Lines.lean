import PrintPlanner.Proofs.Declaration.Names
import PrintPlanner.Proofs.Graph.Offers

/-!
# What declarations say

Declarations speak of types by name, in letters of either case, and may declare any number of
filters for one pair of names.  What counts is the list of all names in order of mention, folded
(`Declaration.texts`), and the list of all filter lines (`Declaration.lines`).  Of both only the
first occurrences matter to the size of a graph: there is one type for each different name, and one
filter for each different pair.
-/

set_option autoImplicit false

namespace PrintPlanner

open Text

/-! ## First occurrences -/

section FirstOccurrences

variable {Item : Type} [BEq Item] [LawfulBEq Item]

theorem eraseDups_append_of_subset {items more : List Item} (old : more ⊆ items) :
    (items ++ more).eraseDups = items.eraseDups := by
  have nothing : more.removeAll items = [] := by
    rw [List.removeAll, List.filter_eq_nil_iff]
    intro item member
    simpa using old member
  rw [List.eraseDups_append, nothing, List.eraseDups_nil, List.append_nil]

theorem eraseDups_append_single_of_mem {items : List Item} {item : Item} (old : item ∈ items) :
    (items ++ [item]).eraseDups = items.eraseDups :=
  eraseDups_append_of_subset (by simpa using old)

theorem eraseDups_append_single_of_notMem {items : List Item} {item : Item} (new : item ∉ items) :
    (items ++ [item]).eraseDups = items.eraseDups ++ [item] := by
  have single : [item].removeAll items = [item] := by simp [List.cons_removeAll, new]
  rw [List.eraseDups_append, single, List.eraseDups_cons]
  rfl

theorem length_eraseDups_le_append (first second : List Item) :
    first.eraseDups.length ≤ (first ++ second).eraseDups.length := by
  rw [List.eraseDups_append, List.length_append]
  exact Nat.le_add_right _ _

end FirstOccurrences

/-! ## Filter lines -/

/-- A declared filter, by the names of its types in lower case. -/
structure FilterLine where
  source : String
  dest : String
  cost : UInt32
  /-- The size limit, if the declaration states one. -/
  limit : Option UInt64
  program : String
deriving DecidableEq

namespace FilterLine

/-- The two names that the line connects. -/
def pair (line : FilterLine) : String × String := (line.source, line.dest)

/-- The pairs of some lines, in order of first declaration. -/
def pairs (lines : List FilterLine) : List (String × String) := (lines.map pair).eraseDups

/-- The line as an offer that was answered with a handle. -/
def offer (handle : FilterId) (line : FilterLine) : Offer :=
  ⟨line.cost, line.limit, line.program, handle⟩

/-- The lines for a pair, as offers for the filter with a handle. -/
def offers (lines : List FilterLine) (ends : String × String) (handle : FilterId) : List Offer :=
  (lines.filter (·.pair = ends)).map (offer handle)

theorem mem_pairs {lines : List FilterLine} {ends : String × String} :
    ends ∈ pairs lines ↔ ends ∈ lines.map pair := List.mem_eraseDups

theorem pairs_append_of_mem {lines : List FilterLine} {line : FilterLine}
    (old : line.pair ∈ lines.map pair) : pairs (lines ++ [line]) = pairs lines := by
  rw [pairs, List.map_append]
  exact eraseDups_append_single_of_mem old

theorem pairs_append_of_notMem {lines : List FilterLine} {line : FilterLine}
    (new : line.pair ∉ lines.map pair) : pairs (lines ++ [line]) = pairs lines ++ [line.pair] := by
  rw [pairs, List.map_append]
  exact eraseDups_append_single_of_notMem new

theorem length_pairs_le_append (first second : List FilterLine) :
    (pairs first).length ≤ (pairs (first ++ second)).length := by
  rw [pairs, pairs, List.map_append]
  exact length_eraseDups_le_append _ _

theorem offers_append_of_eq (lines : List FilterLine) (line : FilterLine) (handle : FilterId) :
    offers (lines ++ [line]) line.pair handle =
      offers lines line.pair handle ++ [line.offer handle] := by
  simp [offers]

theorem offers_append_of_ne (lines : List FilterLine) {line : FilterLine}
    {ends : String × String} (other : line.pair ≠ ends) (handle : FilterId) :
    offers (lines ++ [line]) ends handle = offers lines ends handle := by
  simp [offers, other]

theorem offers_of_notMem {lines : List FilterLine} {ends : String × String}
    (new : ends ∉ lines.map pair) (handle : FilterId) : offers lines ends handle = [] := by
  rw [offers, List.map_eq_nil_iff, List.filter_eq_nil_iff]
  intro line member same
  exact new (List.mem_map.mpr ⟨line, member, of_decide_eq_true same⟩)

end FilterLine

/-! ## Declarations -/

namespace Declaration

/-- The filter that is declared, by the texts of its types. -/
def line? : Declaration → Option FilterLine
  | mediaType _ => none
  | filter source dest cost program =>
      some ⟨foldCase source, foldCase dest, cost, none, program⟩
  | limitedFilter source dest cost maxSize program =>
      some ⟨foldCase source, foldCase dest, cost, some maxSize, program⟩

/-- The texts of the types that some declarations mention, in order of mention. -/
def texts (declarations : List Declaration) : List String :=
  (declarations.flatMap names).map foldCase

/-- The filters that some declarations declare, in order. -/
def lines (declarations : List Declaration) : List FilterLine := declarations.filterMap line?

/-- All names of some declarations name media types. -/
def Valid (declarations : List Declaration) : Prop :=
  ∀ name ∈ declarations.flatMap names, IsTypeText name

/-- There are handles for all types and for all pairs of some declarations. -/
structure Fits (declarations : List Declaration) : Prop where
  types : (texts declarations).eraseDups.length ≤ handleCount
  pairs : (FilterLine.pairs (lines declarations)).length ≤ handleCount

instance {declarations : List Declaration} : Decidable (Valid declarations) :=
  inferInstanceAs (Decidable (∀ name ∈ declarations.flatMap names, IsTypeText name))

instance {declarations : List Declaration} : Decidable (Fits declarations) :=
  decidable_of_iff ((texts declarations).eraseDups.length ≤ handleCount ∧
      (FilterLine.pairs (lines declarations)).length ≤ handleCount)
    ⟨fun both => ⟨both.1, both.2⟩, fun fits => ⟨fits.types, fits.pairs⟩⟩

theorem texts_cons (declaration : Declaration) (rest : List Declaration) :
    texts (declaration :: rest) = declaration.names.map foldCase ++ texts rest := by
  rw [texts, List.flatMap_cons, List.map_append, texts]

theorem lines_cons (declaration : Declaration) (rest : List Declaration) :
    lines (declaration :: rest) = declaration.line?.toList ++ lines rest := by
  rw [lines, List.filterMap_cons, lines]
  cases declaration.line? <;> rfl

theorem valid_cons_iff {declaration : Declaration} {rest : List Declaration} :
    Valid (declaration :: rest) ↔ (∀ name ∈ declaration.names, IsTypeText name) ∧ Valid rest := by
  simp only [Valid, List.flatMap_cons, List.forall_mem_append]

end Declaration

end PrintPlanner
