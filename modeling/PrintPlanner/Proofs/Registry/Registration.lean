import Mathlib.Data.List.Nodup
import PrintPlanner.Media.History
import PrintPlanner.Proofs.Registry.Coherence

/-!
# What a registry holds after any registrations

Whatever is registered, in whichever spelling and with however many refusals in between, handles
and stored types correspond one to one in order of registration (`TypeRegistry.OneToOne`), all
stored names are lower case and well formed (`IsStoredPart`), and the answer to the next
registration is settled by the successful ones before it (`TypeRegistry.Answers`).  A handle keeps
its type for ever.  `TypeRegistry.registrations_settle` states all of it for every run.
-/

set_option autoImplicit false

namespace PrintPlanner

open Text

/-- A registration succeeds in naming a type exactly if the type bears its name. -/
theorem Registration.media_eq_ok_iff {registration : Registration} {media : MediaType} :
    registration.media = .ok media ↔ media.toTypeName = registration.name := by
  have parts : ∀ superType subType : String, MediaType.ofParts superType subType = .ok media ↔
      media.toTypeName = TypeName.folded superType subType := by
    intro superType subType
    rw [MediaType.ofParts_eq_ok_iff]
    refine ⟨fun valid => valid.2.2, fun same => ?_⟩
    have superName : media.superType = foldCase superType := congrArg TypeName.superType same
    have subName : media.subType = foldCase subType := congrArg TypeName.subType same
    exact ⟨isName_foldCase.mp (superName ▸ media.superType_isName),
      isName_foldCase.mp (subName ▸ media.subType_isName), same⟩
  cases registration with
  | addType superType subType => exact parts superType subType
  | addSinkType printer => exact parts MediaType.sinkSuperType printer
  | insert stored =>
      show Except.ok stored = .ok media ↔ media.toTypeName = stored.toTypeName
      rw [Except.ok.injEq]
      exact ⟨fun same => same ▸ rfl, fun same => (MediaType.ext_toTypeName same).symm⟩

/-- A text that may be stored as a part of a name: it has between one byte and the limit, no
capital ASCII letter, and no slash, blank or control character. -/
structure IsStoredPart (limit : Nat) (text : String) : Prop where
  nonempty : 1 ≤ text.utf8ByteSize
  fits : text.utf8ByteSize ≤ limit
  lower : ∀ c ∈ text.toList, ¬ ('A' ≤ c ∧ c ≤ 'Z')
  clean : ∀ c ∈ text.toList, c ≠ '/' ∧ isBlank c = false ∧ isControl c = false

/-- A folded text has no capital letters. -/
theorem not_capital_of_folded {text : String} (folded : foldCase text = text) :
    ∀ c ∈ text.toList, ¬ ('A' ≤ c ∧ c ≤ 'Z') := by
  intro c member capital
  rw [← folded, toList_foldCase, List.mem_map] at member
  obtain ⟨original, _, rfl⟩ := member
  have low : 65 ≤ original.toLower.toNat := capital.1
  have high : original.toLower.toNat ≤ 90 := capital.2
  have moved := toNat_toLower original
  split at moved <;> omega

theorem IsName.isStoredPart {part : NamePart} {text : String} (valid : IsName part text)
    (folded : foldCase text = text) : IsStoredPart part.limit text where
  nonempty := by
    rw [Nat.one_le_iff_ne_zero, ne_eq, String.utf8ByteSize_eq_zero_iff]
    exact valid.nonempty
  fits := valid.fits
  lower := not_capital_of_folded folded
  clean := by
    intro c member
    simpa [isNameChar, and_assoc] using valid.clean c member

namespace TypeRegistry

variable {registry : TypeRegistry} {registration : Registration}

/-! ## What one registration does -/

theorem register_eq (registry : TypeRegistry) (registration : Registration) :
    registry.register registration =
      match registration.media with
      | .error fault => .error (.invalidName fault)
      | .ok media => registry.insert media := by
  cases registration <;> rfl

/-- A registration is refused, or finds the type of its name, or stores it under the next
handle. -/
inductive RegistrationStep (registry : TypeRegistry) (registration : Registration) :
    Except PlanError MediaTypeId × TypeRegistry → Prop where
  | refused (error : PlanError)
      (reason : (∀ media, registration.media ≠ .ok media) ∨
        registry.byName[registration.name]? = none ∧ registry.size = handleCount) :
      RegistrationStep registry registration (.error error, registry)
  | found {handle : MediaTypeId} (known : registry.byName[registration.name]? = some handle) :
      RegistrationStep registry registration (.ok handle, registry)
  | stored {media : MediaType} {changed : TypeRegistry}
      (named : registration.media = .ok media)
      (absent : registry.byName[registration.name]? = none)
      (room : registry.size < handleCount)
      (inserted : registry.insert media = .ok (.ofIndex registry.size, changed))
      (size : changed.size = registry.size + 1) :
      RegistrationStep registry registration (.ok (.ofIndex registry.size), changed)

theorem insert_eq_error {error : PlanError} {media : MediaType}
    (refused : registry.insert media = .error error) :
    registry.byName[media.toTypeName]? = none ∧ handleCount ≤ registry.size := by
  unfold insert at refused
  split at refused
  · cases refused
  · rename_i absent
    split at refused
    · cases refused
    · rename_i full
      exact ⟨absent, Nat.le_of_not_lt full⟩

/-- **What one registration does.** -/
theorem Coherent.registrationStep_perform (coherent : registry.Coherent)
    (registration : Registration) :
    RegistrationStep registry registration (registry.perform registration) := by
  unfold perform
  rw [register_eq]
  cases named : registration.media with
  | error fault => exact .refused _ (.inl (by simp [named]))
  | ok media =>
      have name := Registration.media_eq_ok_iff.mp named
      simp only
      cases inserted : registry.insert media with
      | error error =>
          obtain ⟨absent, full⟩ := insert_eq_error inserted
          exact .refused error (.inr ⟨name ▸ absent, Nat.le_antisymm coherent.size_le full⟩)
      | ok pair =>
          obtain ⟨handle, changed⟩ := pair
          rcases insert_cases inserted with ⟨known, rfl⟩ | ⟨absent, room, rfl, rfl⟩
          · exact .found (name ▸ known)
          · exact .stored named (name ▸ absent) room inserted (Array.size_push _)

theorem RegistrationStep.coherent {result : Except PlanError MediaTypeId × TypeRegistry}
    (step : RegistrationStep registry registration result) (coherent : registry.Coherent) :
    result.2.Coherent := by
  cases step with
  | refused error _ => exact coherent
  | found _ => exact coherent
  | stored _ _ _ inserted _ => exact coherent.insert inserted

theorem RegistrationStep.extends {result : Except PlanError MediaTypeId × TypeRegistry}
    (step : RegistrationStep registry registration result) : result.2.Extends registry := by
  cases step with
  | refused error _ => exact .refl registry
  | found _ => exact .refl registry
  | stored _ _ _ inserted _ => exact insert_extends inserted

theorem Coherent.after (coherent : registry.Coherent) (later : List Registration) :
    (registry.after later).Coherent := by
  induction later generalizing registry with
  | nil => exact coherent
  | cons registration rest ih =>
      exact ih ((coherent.registrationStep_perform registration).coherent coherent)

/-- **A handle keeps its type** whatever is registered later. -/
theorem Coherent.after_extends (coherent : registry.Coherent) (later : List Registration) :
    (registry.after later).Extends registry := by
  induction later generalizing registry with
  | nil => exact .refl registry
  | cons registration rest ih =>
      have step := coherent.registrationStep_perform registration
      exact (ih (step.coherent coherent)).trans step.extends

/-! ## Handles and types -/

/-- Handles and stored types correspond one to one, in order of registration. -/
structure OneToOne (registry : TypeRegistry) : Prop where
  stored_iff : ∀ handle, (∃ media, registry.get? handle = some media) ↔
    handle.index < registry.size
  numbered : registry.entries.map (·.1.index) = List.range registry.size
  mem_entries_iff : ∀ handle media, (handle, media) ∈ registry.entries ↔
    registry.get? handle = some media
  distinct : (registry.entries.map Prod.snd).Nodup
  lookup?_eq_some_iff : ∀ handle media,
    registry.lookup? media.superType media.subType = some handle ↔
      registry.get? handle = some media

theorem map_fst_entries (registry : TypeRegistry) :
    registry.entries.map Prod.fst = registry.handles :=
  List.map_fst_zip (by simp [size])

theorem map_snd_entries (registry : TypeRegistry) :
    registry.entries.map Prod.snd = registry.types.toList :=
  List.map_snd_zip (by simp [size])

theorem getElem?_handles (registry : TypeRegistry) {position : Nat}
    (below : position < registry.size) :
    registry.handles[position]? = some (.ofIndex position) := by
  simp [handles, below]

theorem Coherent.mem_entries (coherent : registry.Coherent) {handle : MediaTypeId}
    {media : MediaType} :
    (handle, media) ∈ registry.entries ↔ registry.get? handle = some media := by
  rw [List.mem_iff_getElem?]
  constructor
  · rintro ⟨position, entry⟩
    obtain ⟨atPosition, stored⟩ := List.getElem?_zip_eq_some.mp entry
    rw [Array.getElem?_toList] at stored
    have below : position < registry.size := (Array.getElem?_eq_some_iff.mp stored).1
    rw [registry.getElem?_handles below] at atPosition
    have here : MediaTypeId.ofIndex position = handle := Option.some.inj atPosition
    rw [get?, ← here, MediaTypeId.index_ofIndex (Nat.lt_of_lt_of_le below coherent.size_le)]
    exact stored
  · intro stored
    have below : handle.index < registry.size := (Array.getElem?_eq_some_iff.mp stored).1
    refine ⟨handle.index, List.getElem?_zip_eq_some.mpr ⟨?_, ?_⟩⟩
    · rw [registry.getElem?_handles below, MediaTypeId.ofIndex_index]
    · rw [Array.getElem?_toList]
      exact stored

/-- No type is stored twice. -/
theorem Coherent.nodup_types (coherent : registry.Coherent) : registry.types.toList.Nodup := by
  rw [List.nodup_iff_getElem?_ne_getElem?]
  intro first second less below same
  have belowSize : second < registry.size := by simpa [size] using below
  have secondSmall := Nat.lt_of_lt_of_le belowSize coherent.size_le
  have firstSmall := Nat.lt_trans less secondSmall
  obtain ⟨media, stored⟩ : ∃ media, registry.types[second]? = some media :=
    ⟨registry.types[second], Array.getElem?_eq_getElem belowSize⟩
  rw [Array.getElem?_toList, Array.getElem?_toList, stored] at same
  have atFirst : registry.get? (.ofIndex first) = some media := by
    rw [get?, MediaTypeId.index_ofIndex firstSmall, same]
  have atSecond : registry.get? (.ofIndex second) = some media := by
    rw [get?, MediaTypeId.index_ofIndex secondSmall, stored]
  have equal := congrArg MediaTypeId.index (coherent.get?_inj atFirst atSecond)
  rw [MediaTypeId.index_ofIndex firstSmall, MediaTypeId.index_ofIndex secondSmall] at equal
  exact Nat.ne_of_lt less equal

/-- A stored type is found under its own two parts. -/
theorem Coherent.lookup?_eq_some_iff (coherent : registry.Coherent) {handle : MediaTypeId}
    {media : MediaType} :
    registry.lookup? media.superType media.subType = some handle ↔
      registry.get? handle = some media := by
  have folded : TypeName.folded media.superType media.subType = media.toTypeName := by
    rw [TypeName.folded, media.superType_folded, media.subType_folded]
  rw [lookup?, folded, coherent.byName_iff]
  constructor
  · rintro ⟨stored, found, same⟩
    rw [found, MediaType.ext_toTypeName same]
  · intro found
    exact ⟨media, found, rfl⟩

theorem Coherent.oneToOne (coherent : registry.Coherent) : registry.OneToOne where
  stored_iff := by
    intro handle
    rw [← contains_iff_get?, contains, decide_eq_true_eq]
  numbered := by
    have positions : registry.handles.map MediaTypeId.index = List.range registry.size := by
      rw [handles, List.map_map]
      refine (List.map_congr_left fun position member => ?_).trans (List.map_id _)
      have below := List.mem_range.mp member
      exact MediaTypeId.index_ofIndex (Nat.lt_of_lt_of_le below coherent.size_le)
    rw [← positions, ← map_fst_entries, List.map_map]
    rfl
  mem_entries_iff := fun _ _ => coherent.mem_entries
  distinct := by
    rw [map_snd_entries]
    exact coherent.nodup_types
  lookup?_eq_some_iff := fun _ _ => coherent.lookup?_eq_some_iff

/-! ## Answers and the log -/

/-- A successful registration of a type of this name, whatever the case of its letters, returned
the handle. -/
def RegisteredAs (log : List AnsweredRegistration) (name : TypeName) (handle : MediaTypeId) :
    Prop :=
  ∃ call ∈ log, call.1.name = name ∧ call.2 = .ok handle

/-- The result of a registration is what the calls of a log make of it. -/
structure Answers (log : List AnsweredRegistration) (registry : TypeRegistry)
    (registration : Registration) (result : Except PlanError MediaTypeId × TypeRegistry) :
    Prop where
  /-- A handle that exists already is returned exactly if a type of the same name was registered
  under it. -/
  existing_iff : ∀ handle, registry.contains handle = true ∧ result.1 = .ok handle ↔
    RegisteredAs log registration.name handle
  /-- Registering a type again changes nothing. -/
  existing : ∀ handle, RegisteredAs log registration.name handle → result.2 = registry
  /-- Any other success returns the number of types before, and the type stands there now. -/
  fresh : ∀ handle, result.1 = .ok handle → ¬ RegisteredAs log registration.name handle →
    handle.index = registry.size ∧ result.2.size = registry.size + 1 ∧
      ∃ media, result.2.get? handle = some media ∧ media.toTypeName = registration.name
  /-- A registration is refused exactly if its name is, or if the type would be new and all
  handles are taken. -/
  refused_iff : (∃ error, result.1 = .error error) ↔
    (∀ media, registration.media ≠ .ok media) ∨
      (∀ handle, ¬ RegisteredAs log registration.name handle) ∧ registry.size = handleCount
  /-- A refused registration changes nothing. -/
  refused : ∀ error, result.1 = .error error → result.2 = registry

/-- The registry holds what the calls of the log have registered. -/
structure Recorded (registry : TypeRegistry) (log : List AnsweredRegistration) : Prop where
  coherent : registry.Coherent
  byName_iff : ∀ name handle, registry.byName[name]? = some handle ↔ RegisteredAs log name handle

variable {log : List AnsweredRegistration}

theorem registeredAs_append_single {call : AnsweredRegistration} {name : TypeName}
    {handle : MediaTypeId} :
    RegisteredAs (log ++ [call]) name handle ↔
      RegisteredAs log name handle ∨ call.1.name = name ∧ call.2 = .ok handle := by
  simp only [RegisteredAs, List.mem_append, List.mem_singleton, or_and_right, exists_or,
    exists_eq_left]

theorem recorded_empty : (∅ : TypeRegistry).Recorded [] where
  coherent := coherent_empty
  byName_iff := by
    intro name handle
    have noName : (∅ : TypeRegistry).byName[name]? = none := Std.TreeMap.getElem?_emptyc
    simp [noName, RegisteredAs]

/-- **Every registration is recorded** with its answer. -/
theorem Recorded.step (recorded : registry.Recorded log)
    {result : Except PlanError MediaTypeId × TypeRegistry}
    (step : RegistrationStep registry registration result) :
    result.2.Recorded (log ++ [(registration, result.1)]) := by
  refine ⟨step.coherent recorded.coherent, fun name handle => ?_⟩
  rw [registeredAs_append_single, ← recorded.byName_iff]
  cases step with
  | refused error reason => simp
  | @found known atName =>
      rw [Except.ok.injEq]
      refine ⟨.inl, ?_⟩
      rintro (old | ⟨rfl, rfl⟩)
      · exact old
      · exact atName
  | @stored media changed named absent room inserted _ =>
      have sameName := Registration.media_eq_ok_iff.mp named
      rcases insert_cases inserted with ⟨known, _⟩ | ⟨_, _, _, rfl⟩
      · rw [sameName, absent] at known
        cases known
      · rw [Std.TreeMap.getElem?_insert, sameName, Except.ok.injEq]
        by_cases same : registration.name = name
        · subst same
          simp [absent]
        · simp [same]

theorem Recorded.after (recorded : registry.Recorded log) (calls : List Registration) :
    (registry.after calls).Recorded (log ++ registry.answers calls) := by
  induction calls generalizing registry log with
  | nil => simpa [TypeRegistry.after, answers] using recorded
  | cons registration rest ih =>
      have step := recorded.coherent.registrationStep_perform registration
      have later := ih (recorded.step step)
      rwa [List.append_assoc, List.singleton_append] at later

/-- A registered name belongs to a stored type. -/
theorem Recorded.exists_media (recorded : registry.Recorded log) {name : TypeName}
    {handle : MediaTypeId} (registered : RegisteredAs log name handle) :
    ∃ media, registry.get? handle = some media ∧ media.toTypeName = name :=
  (recorded.coherent.byName_iff name handle).mp ((recorded.byName_iff name handle).mpr registered)

/-- A handle of a registered name exists, and the name is accepted again. -/
theorem Recorded.contains_of_registeredAs (recorded : registry.Recorded log)
    {handle : MediaTypeId} (registered : RegisteredAs log registration.name handle) :
    registry.contains handle = true ∧ ∃ media, registration.media = .ok media := by
  obtain ⟨media, stored, named⟩ := recorded.exists_media registered
  exact ⟨contains_iff_get?.mpr ⟨media, stored⟩, media,
    Registration.media_eq_ok_iff.mpr named⟩

/-- **The log settles the answer to the next registration.** -/
theorem Recorded.answers_perform (recorded : registry.Recorded log)
    (registration : Registration) :
    Answers log registry registration (registry.perform registration) := by
  have unregistered : registry.byName[registration.name]? = none →
      ∀ handle, ¬ RegisteredAs log registration.name handle := by
    intro absent handle registered
    rw [(recorded.byName_iff _ _).mpr registered] at absent
    cases absent
  have step := recorded.coherent.registrationStep_perform registration
  revert step
  generalize registry.perform registration = result
  intro step
  cases step with
  | refused error reason =>
      have never : ∀ handle, ¬ RegisteredAs log registration.name handle := by
        intro handle registered
        rcases reason with invalid | ⟨absent, _⟩
        · obtain ⟨media, named⟩ := (recorded.contains_of_registeredAs registered).2
          exact invalid media named
        · exact unregistered absent handle registered
      refine ⟨fun handle => iff_of_false (by simp) (never handle), fun _ _ => rfl, by simp,
        iff_of_true ⟨error, rfl⟩ ?_, fun _ _ => rfl⟩
      exact reason.imp_right fun full => ⟨never, full.2⟩
  | @found known atName =>
      have registered := (recorded.byName_iff _ _).mp atName
      obtain ⟨older, media, named⟩ := recorded.contains_of_registeredAs registered
      refine ⟨fun handle => ?_, fun _ _ => rfl, ?_, iff_of_false (by simp) ?_, fun _ _ => rfl⟩
      · rw [← recorded.byName_iff, atName, Except.ok.injEq, Option.some_inj]
        refine ⟨And.right, ?_⟩
        rintro rfl
        exact ⟨older, rfl⟩
      · rintro handle answered other
        cases answered
        exact absurd registered other
      · rintro (invalid | ⟨never, _⟩)
        · exact invalid media named
        · exact never known registered
  | @stored media changed named absent room inserted size =>
      have never := unregistered absent
      have last := MediaTypeId.index_ofIndex room
      refine ⟨fun handle => iff_of_false ?_ (never handle),
        fun handle registered => absurd registered (never handle), ?_, iff_of_false (by simp) ?_,
        by simp⟩
      · rintro ⟨older, answered⟩
        cases answered
        rw [contains, decide_eq_true_eq] at older
        exact Nat.ne_of_lt older last
      · rintro handle answered _
        cases answered
        exact ⟨last, size, media, recorded.coherent.get?_insert inserted,
          Registration.media_eq_ok_iff.mp named⟩
      · rintro (invalid | ⟨_, full⟩)
        · exact invalid media named
        · exact Nat.ne_of_lt room full

/-! ## Runs -/

/-- **Whatever is registered**, handles and types correspond one to one, stored names are in
lower case and well formed, the log settles the next answer, and handles keep their types. -/
theorem registrations_settle (calls later : List Registration) :
    let registry := (∅ : TypeRegistry).after calls
    registry.OneToOne ∧
      (∀ handle media, registry.get? handle = some media →
        IsStoredPart 15 media.superType ∧ IsStoredPart 255 media.subType) ∧
      (∀ registration, Answers ((∅ : TypeRegistry).answers calls) registry registration
        (registry.perform registration)) ∧
      (registry.after later).Extends registry := by
  intro registry
  have recorded : registry.Recorded ((∅ : TypeRegistry).answers calls) :=
    recorded_empty.after calls
  refine ⟨recorded.coherent.oneToOne, fun handle media _ => ?_, recorded.answers_perform,
    recorded.coherent.after_extends later⟩
  exact ⟨media.superType_isName.isStoredPart media.superType_folded,
    media.subType_isName.isStoredPart media.subType_folded⟩

/-- A type in two spellings, with a refused name and a printer in between. -/
def mixedRegistrations : List Registration := [
  .addType "Application" "PDF", .addType "text" "a/b", .addSinkType "Office",
  .addType "APPLICATION" "pdf"]

/-- The second spelling found the first type.  So a printer in capitals is found by the answers, and
a new one gets the number of stored types as its handle. -/
theorem registrations_settle_mixed :
    let log := (∅ : TypeRegistry).answers mixedRegistrations
    let registry := (∅ : TypeRegistry).after mixedRegistrations
    log.map Prod.snd = [.ok ⟨0⟩,
        .error (.invalidName (.badCharacter .subType "a/b" '/')), .ok ⟨1⟩, .ok ⟨0⟩] ∧
      RegisteredAs log (Registration.addSinkType "OFFICE").name ⟨1⟩ ∧
      (registry.perform (.addSinkType "OFFICE")).1 = .ok ⟨1⟩ ∧
      (registry.perform (.addSinkType "OFFICE")).2 = registry ∧
      (registry.perform (.addSinkType "lobby")).1 = .ok ⟨2⟩ ∧
      (registry.perform (.addSinkType "lobby")).2.size = 3 ∧
      (registry.perform (.addSinkType "lobby")).2.Extends registry := by
  intro log registry
  obtain ⟨_, _, settled, kept⟩ :=
    registrations_settle mixedRegistrations [.addSinkType "lobby"]
  have printer : RegisteredAs log (Registration.addSinkType "OFFICE").name ⟨1⟩ :=
    ⟨(.addSinkType "Office", .ok ⟨1⟩), by decide +kernel, by decide +kernel, rfl⟩
  have office := settled (.addSinkType "OFFICE")
  have lobby := settled (.addSinkType "lobby")
  have added : (registry.perform (.addSinkType "lobby")).1 = .ok ⟨2⟩ := by decide +kernel
  have unheard : ¬ RegisteredAs log (Registration.addSinkType "lobby").name ⟨2⟩ := by
    unfold RegisteredAs
    decide +kernel
  exact ⟨by decide +kernel, printer, ((office.existing_iff ⟨1⟩).mpr printer).2,
    office.existing ⟨1⟩ printer, added, (lobby.fresh ⟨2⟩ added unheard).2.1, kept⟩

end TypeRegistry

end PrintPlanner
