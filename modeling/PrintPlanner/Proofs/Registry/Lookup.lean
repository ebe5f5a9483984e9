import PrintPlanner.Proofs.Registry.Registration

/-!
# Looking types up by name

A lookup folds what it is given and checks nothing.  It agrees all the same with reading a name
first and looking for its type then: only names of media types are ever stored, and folding turns no
other text into one.  So a text that is no name is never found, and what is found is the type that
the text names (`TypeRegistry.lookups_agree`).
-/

set_option autoImplicit false

namespace PrintPlanner.TypeRegistry

open Text

variable {registry : TypeRegistry}

/-- Two parts are found under a handle exactly if they name the type that is stored there. -/
theorem Coherent.lookup?_eq_some_iff_ofParts (coherent : registry.Coherent)
    {superType subType : String} {handle : MediaTypeId} :
    registry.lookup? superType subType = some handle ↔
      ∃ media, MediaType.ofParts superType subType = .ok media ∧
        registry.get? handle = some media := by
  have named : ∀ media, (Registration.addType superType subType).media = .ok media ↔
      media.toTypeName = TypeName.folded superType subType := fun _ => Registration.media_eq_ok_iff
  rw [lookup?, coherent.byName_iff]
  simp only [← named, and_comm]
  rfl

/-- A text is found under a handle exactly if it names the type that is stored there. -/
theorem Coherent.lookupText?_eq_some_iff (coherent : registry.Coherent) {text : String}
    {handle : MediaTypeId} :
    registry.lookupText? text = some handle ↔
      ∃ media, MediaType.parse text = .ok media ∧ registry.get? handle = some media := by
  unfold lookupText? MediaType.parse
  cases cutAtFirst '/' text with
  | none => simp
  | some parts => exact coherent.lookup?_eq_some_iff_ofParts

/-- Adding a type that is found changes nothing. -/
theorem addType_of_lookup? {superType subType : String} {media : MediaType} {handle : MediaTypeId}
    (named : MediaType.ofParts superType subType = .ok media)
    (found : registry.lookup? superType subType = some handle) :
    registry.addType superType subType = .ok (handle, registry) := by
  have known : registry.byName[media.toTypeName]? = some handle := by
    rw [(MediaType.ofParts_eq_ok_iff.mp named).2.2]
    exact found
  rw [addType, named]
  dsimp only
  rw [insert, known]

/-- **Looking up needs no check.**  After any registrations, a text that names a media type is found
under the handle of this type, if it has one, and a text that names none is not found.  Two parts
are found only if they name the type of the handle, and adding that type again returns the handle
and changes nothing. -/
theorem lookups_agree (calls : List Registration) :
    let registry := (∅ : TypeRegistry).after calls
    (∀ text media, MediaType.parse text = .ok media →
        (∀ handle, registry.get? handle = some media → registry.lookupText? text = some handle) ∧
          ((∀ handle, registry.get? handle ≠ some media) → registry.lookupText? text = none)) ∧
      (∀ text fault, MediaType.parse text = .error fault → registry.lookupText? text = none) ∧
      ∀ superType subType handle, registry.lookup? superType subType = some handle →
        ∃ media, MediaType.ofParts superType subType = .ok media ∧
          registry.get? handle = some media ∧
          registry.addType superType subType = .ok (handle, registry) := by
  intro registry
  have coherent : registry.Coherent := coherent_empty.after calls
  refine ⟨fun text media parsed => ⟨fun handle stored => ?_, fun missing => ?_⟩,
    fun text fault refused => ?_, fun superType subType handle found => ?_⟩
  · exact coherent.lookupText?_eq_some_iff.mpr ⟨media, parsed, stored⟩
  · refine Option.eq_none_iff_forall_ne_some.mpr fun handle found => ?_
    obtain ⟨other, parsedAs, stored⟩ := coherent.lookupText?_eq_some_iff.mp found
    cases parsed.symm.trans parsedAs
    exact missing handle stored
  · refine Option.eq_none_iff_forall_ne_some.mpr fun handle found => ?_
    obtain ⟨other, parsedAs, _⟩ := coherent.lookupText?_eq_some_iff.mp found
    cases refused.symm.trans parsedAs
  · obtain ⟨media, named, stored⟩ := coherent.lookup?_eq_some_iff_ofParts.mp found
    exact ⟨media, named, stored, addType_of_lookup? named found⟩

/-- A document type, a printer with a letter that is not folded, and a name that is refused. -/
def lookedUpRegistrations : List Registration := [
  .addType "Text" "Plain", .addSinkType "Ä-1", .addType "text" "plain/html"]

/-- The printer is found in its own spelling, but not under the small letter, and the refused name
is not found.  The document type is found in capitals and added again without a change. -/
theorem lookups_agree_spellings :
    let registry := (∅ : TypeRegistry).after lookedUpRegistrations
    registry.lookupText? "PRINTER/Ä-1" = some ⟨1⟩ ∧ registry.lookupText? "printer/ä-1" = none ∧
      registry.lookupText? "text/plain/html" = none ∧
      registry.lookup? "TEXT" "PLAIN" = some ⟨0⟩ ∧
      registry.addType "TEXT" "PLAIN" = .ok (⟨0⟩, registry) := by
  intro registry
  obtain ⟨named, unnamed, found⟩ := lookups_agree lookedUpRegistrations
  have capitals : (MediaType.parse "PRINTER/Ä-1").toOption = registry.get? ⟨1⟩ ∧
      (registry.get? ⟨1⟩).isSome = true := by decide +kernel
  have small : (MediaType.parse "printer/ä-1").isOk = true ∧
      ∀ stored ∈ registry.types.toList,
        (MediaType.parse "printer/ä-1").toOption ≠ some stored := by decide +kernel
  have slashes : (MediaType.parse "text/plain/html").isOk = false := by decide +kernel
  have plain : registry.lookup? "TEXT" "PLAIN" = some ⟨0⟩ := by decide +kernel
  obtain ⟨_, _, _, unchanged⟩ := found "TEXT" "PLAIN" ⟨0⟩ plain
  refine ⟨?_, ?_, ?_, plain, unchanged⟩
  · cases parsed : MediaType.parse "PRINTER/Ä-1" with
    | error fault =>
        rw [parsed] at capitals
        obtain ⟨missing, stored⟩ := capitals
        rw [← missing] at stored
        cases stored
    | ok media =>
        rw [parsed] at capitals
        exact (named _ media parsed).1 ⟨1⟩ capitals.1.symm
  · cases parsed : MediaType.parse "printer/ä-1" with
    | error fault =>
        rw [parsed] at small
        cases small.1
    | ok media =>
        rw [parsed] at small
        refine (named _ media parsed).2 fun handle stored => ?_
        exact small.2 media (Array.mem_toList_iff.mpr (Array.mem_of_getElem? stored)) rfl
  · cases parsed : MediaType.parse "text/plain/html" with
    | error fault => exact unnamed _ fault parsed
    | ok media =>
        rw [parsed] at slashes
        cases slashes

end PrintPlanner.TypeRegistry
