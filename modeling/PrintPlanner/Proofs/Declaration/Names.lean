import PrintPlanner.Fixture.Basic
import PrintPlanner.Proofs.Graph.Alignment
import PrintPlanner.Proofs.Media.Form

/-!
# Declared names

A declared name is accepted if it is the text of a media type, in letters of either case
(`IsTypeText`).  Any other name is refused with the first rule that it breaks, whatever has been
declared before (`Declaration.addName_of_refusal?`).  Loaders and fixtures accept the same names and
register them in the same way (`Declaration.addName_eq_ok_iff`, `Fixture.addName_eq_ok_iff`).
-/

set_option autoImplicit false

namespace PrintPlanner

namespace FilterGraph

variable {graph changed : FilterGraph} {handle : MediaTypeId} {superType subType : String}

theorem addType_eq_ok_iff :
    graph.addType superType subType = .ok (handle, changed) ↔
      ∃ media, MediaType.ofParts superType subType = .ok media ∧
        graph.insertType media = .ok (handle, changed) := by
  constructor
  · exact addType_cases
  · rintro ⟨media, parts, inserted⟩
    rw [addType, TypeRegistry.addType, parts]
    exact inserted

theorem addType_of_fault {fault : NameError}
    (refused : MediaType.ofParts superType subType = .error fault) :
    graph.addType superType subType = .error (.invalidName fault) := by
  rw [addType, TypeRegistry.addType, refused]
  rfl

end FilterGraph

/-! ## Registering a name -/

variable {graph changed : FilterGraph} {handle : MediaTypeId} {name : String}

private theorem mapError_eq_ok_iff {Error Other Value : Type} {result : Except Error Value}
    {wrap : Error → Other} {value : Value} :
    result.mapError wrap = .ok value ↔ result = .ok value := by
  cases result <;> simp [Except.mapError]

theorem Fixture.addName_eq_ok_iff :
    addName graph name = .ok (handle, changed) ↔
      ∃ media, MediaType.parse name = .ok media ∧
        graph.insertType media = .ok (handle, changed) := by
  unfold addName MediaType.parse
  cases Text.cutAtFirst '/' name with
  | none => simp
  | some parts => rw [mapError_eq_ok_iff, FilterGraph.addType_eq_ok_iff]

namespace Declaration

theorem addName_eq_ok_iff :
    addName graph name = .ok (handle, changed) ↔
      Fixture.addName graph name = .ok (handle, changed) := by
  unfold addName Fixture.addName
  cases Text.cutAtFirst '/' name with
  | none => simp
  | some parts => rw [mapError_eq_ok_iff, mapError_eq_ok_iff]

/-- Why a declared name is refused, if it is: it has no slash, or else the first rule that one of
its two parts breaks. -/
def refusal? (name : String) : Option CollaboratorError :=
  match Text.cutAtFirst '/' name with
  | none => some (.other ("bad type name " ++ Text.quote name))
  | some (superType, subType) =>
      ((nameFault? .superType superType).or (nameFault? .subType subType)).map fun fault =>
        .plan (.invalidName fault)

/-- A name that is to be refused is refused by every graph. -/
theorem addName_of_refusal? {error : CollaboratorError} (refused : refusal? name = some error)
    (graph : FilterGraph) : addName graph name = .error error := by
  unfold refusal? at refused
  unfold addName
  cases cut : Text.cutAtFirst '/' name with
  | none =>
      rw [cut] at refused
      cases refused
      rfl
  | some parts =>
      rw [cut] at refused
      obtain ⟨fault, broken, rfl⟩ := Option.map_eq_some_iff.mp refused
      show (graph.addType parts.1 parts.2).mapError _ = _
      rw [FilterGraph.addType_of_fault (MediaType.ofParts_eq_error_iff.mpr broken)]
      rfl

theorem refusal?_eq_none_iff : refusal? name = none ↔ IsTypeText name := by
  rw [← MediaType.exists_parse_iff]
  unfold refusal? MediaType.parse
  cases Text.cutAtFirst '/' name with
  | none => simp
  | some parts =>
      simp only [Option.map_eq_none_iff, Option.or_eq_none_iff, nameFault?_eq_none_iff,
        MediaType.exists_ofParts_iff]

end Declaration

instance {text : String} : Decidable (IsTypeText text) :=
  decidable_of_iff ((Declaration.refusal? text).isNone = true)
    (by rw [Option.isNone_iff_eq_none, Declaration.refusal?_eq_none_iff])

end PrintPlanner
