import PrintPlanner.Media.Registry

/-!
# Coherence of the registry

The stored types and the table of names describe each other: the table has exactly the
names of the stored types, each under the handle of its position.  Hence equal types have
equal handles (`TypeRegistry.Coherent.get?_inj`).  Registering a type keeps this, and keeps
what every earlier handle stands for (`TypeRegistry.insert_extends`).
-/

set_option autoImplicit false

namespace PrintPlanner.TypeRegistry

/-- The table of names is the inverse of the stored types, all of which have a handle. -/
structure Coherent (registry : TypeRegistry) : Prop where
  size_le : registry.size ≤ handleCount
  byName_iff : ∀ name handle, registry.byName[name]? = some handle ↔
    ∃ media, registry.get? handle = some media ∧ media.toTypeName = name

/-- Every handle that stands for a type in one registry stands for it in the other. -/
def Extends (registry older : TypeRegistry) : Prop :=
  ∀ handle media, older.get? handle = some media → registry.get? handle = some media

theorem Extends.refl (registry : TypeRegistry) : registry.Extends registry :=
  fun _ _ found => found

theorem Extends.trans {newest newer older : TypeRegistry} (second : newest.Extends newer)
    (first : newer.Extends older) : newest.Extends older :=
  fun handle media found => second handle media (first handle media found)

/-! ## Handles of registered types -/

theorem contains_iff_get? {registry : TypeRegistry} {handle : MediaTypeId} :
    registry.contains handle = true ↔ ∃ media, registry.get? handle = some media := by
  rw [contains, decide_eq_true_eq, ← Option.isSome_iff_exists, get?, isSome_getElem?]
  rfl

theorem Extends.contains {registry older : TypeRegistry} (extension : registry.Extends older)
    {handle : MediaTypeId} (registered : older.contains handle = true) :
    registry.contains handle = true := by
  obtain ⟨media, found⟩ := contains_iff_get?.mp registered
  exact contains_iff_get?.mpr ⟨media, extension handle media found⟩

/-- The handle stands for a document type. -/
def IsDocument (registry : TypeRegistry) (handle : MediaTypeId) : Prop :=
  ∃ media, registry.get? handle = some media ∧ media.isSink = false

theorem isDocument_iff {registry : TypeRegistry} {handle : MediaTypeId} :
    registry.IsDocument handle ↔
      registry.contains handle = true ∧ registry.isSink handle = false := by
  rw [contains_iff_get?]
  constructor
  · rintro ⟨media, found, document⟩
    exact ⟨⟨media, found⟩, by simp [isSink, found, document]⟩
  · rintro ⟨⟨media, found⟩, document⟩
    exact ⟨media, found, by simpa [isSink, found] using document⟩

instance {registry : TypeRegistry} {handle : MediaTypeId} :
    Decidable (registry.IsDocument handle) :=
  decidable_of_iff _ isDocument_iff.symm

theorem Extends.isDocument {registry older : TypeRegistry} (extension : registry.Extends older)
    {handle : MediaTypeId} (document : older.IsDocument handle) : registry.IsDocument handle := by
  obtain ⟨media, found, document⟩ := document
  exact ⟨media, extension handle media found, document⟩

theorem mem_handles {registry : TypeRegistry} (small : registry.size ≤ handleCount)
    {handle : MediaTypeId} : handle ∈ registry.handles ↔ registry.contains handle = true := by
  simp only [handles, List.mem_map, List.mem_range, contains, decide_eq_true_eq]
  constructor
  · rintro ⟨position, below, rfl⟩
    rwa [MediaTypeId.index_ofIndex (Nat.lt_of_lt_of_le below small)]
  · intro below
    exact ⟨handle.index, below, handle.ofIndex_index⟩

@[simp] theorem length_handles (registry : TypeRegistry) :
    registry.handles.length = registry.size := by
  simp [handles]

/-- A type is stored once. -/
theorem Coherent.get?_inj {registry : TypeRegistry} (coherent : registry.Coherent)
    {left right : MediaTypeId} {media : MediaType} (atLeft : registry.get? left = some media)
    (atRight : registry.get? right = some media) : left = right := by
  have leftNamed := (coherent.byName_iff media.toTypeName left).mpr ⟨media, atLeft, rfl⟩
  have rightNamed := (coherent.byName_iff media.toTypeName right).mpr ⟨media, atRight, rfl⟩
  rw [leftNamed] at rightNamed
  exact Option.some.inj rightNamed

/-! ## Registration -/

/-- Registering finds the type, or appends it under the next handle. -/
theorem insert_cases {registry changed : TypeRegistry} {media : MediaType}
    {handle : MediaTypeId} (inserted : registry.insert media = .ok (handle, changed)) :
    (registry.byName[media.toTypeName]? = some handle ∧ changed = registry) ∨
      (registry.byName[media.toTypeName]? = none ∧ registry.size < handleCount ∧
        handle = .ofIndex registry.size ∧
        changed = ⟨registry.types.push media, registry.byName.insert media.toTypeName handle⟩) := by
  unfold insert at inserted
  split at inserted
  · rename_i known found
    cases inserted
    exact .inl ⟨found, rfl⟩
  · rename_i absent
    split at inserted
    · rename_i room
      cases inserted
      exact .inr ⟨absent, room, rfl, rfl⟩
    · cases inserted

theorem get?_push {registry : TypeRegistry} {media : MediaType}
    {byName : Std.TreeMap TypeName MediaTypeId} {handle : MediaTypeId} :
    (TypeRegistry.mk (registry.types.push media) byName).get? handle =
      if handle.index = registry.size then some media else registry.get? handle :=
  Array.getElem?_push

theorem insert_extends {registry changed : TypeRegistry} {media : MediaType}
    {handle : MediaTypeId} (inserted : registry.insert media = .ok (handle, changed)) :
    changed.Extends registry := by
  rcases insert_cases inserted with ⟨_, rfl⟩ | ⟨_, _, _, rfl⟩
  · exact .refl changed
  · intro older found stored
    have below : older.index < registry.size := by
      simpa [contains] using contains_iff_get?.mpr ⟨found, stored⟩
    rw [get?_push, if_neg (Nat.ne_of_lt below), stored]

/-- Registering returns a handle of the type. -/
theorem Coherent.get?_insert {registry changed : TypeRegistry} (coherent : registry.Coherent)
    {media : MediaType} {handle : MediaTypeId}
    (inserted : registry.insert media = .ok (handle, changed)) :
    changed.get? handle = some media := by
  rcases insert_cases inserted with ⟨found, rfl⟩ | ⟨_, room, rfl, rfl⟩
  · obtain ⟨stored, atHandle, named⟩ := (coherent.byName_iff _ _).mp found
    rw [atHandle, MediaType.ext_toTypeName named]
  · rw [get?_push, MediaTypeId.index_ofIndex room, if_pos rfl]

theorem coherent_empty : (∅ : TypeRegistry).Coherent where
  size_le := Nat.zero_le _
  byName_iff := by
    intro name handle
    have noName : (∅ : TypeRegistry).byName[name]? = none := Std.TreeMap.getElem?_emptyc
    have noType : (∅ : TypeRegistry).get? handle = none := Array.getElem?_empty
    simp [noName, noType]

theorem Coherent.insert {registry changed : TypeRegistry} (coherent : registry.Coherent)
    {media : MediaType} {handle : MediaTypeId}
    (inserted : registry.insert media = .ok (handle, changed)) : changed.Coherent := by
  rcases insert_cases inserted with ⟨_, rfl⟩ | ⟨absent, room, rfl, rfl⟩
  · exact coherent
  · refine ⟨by simpa [size] using Nat.succ_le_of_lt room, fun name other => ?_⟩
    rw [Std.TreeMap.getElem?_insert, get?_push]
    by_cases named : media.toTypeName = name
    · subst named
      rw [if_pos (by simp)]
      constructor
      · intro same
        cases same
        exact ⟨media, by rw [MediaTypeId.index_ofIndex room, if_pos rfl], rfl⟩
      · rintro ⟨stored, found, sameName⟩
        split at found
        · rename_i last
          rw [← last, MediaTypeId.ofIndex_index]
        · have known := (coherent.byName_iff _ _).mpr ⟨stored, found, sameName⟩
          rw [absent] at known
          cases known
    · rw [if_neg (by simpa using named), coherent.byName_iff]
      by_cases last : other.index = registry.size
      · have unregistered : registry.get? other = none := by
          simp [get?, last, size]
        simp [last, unregistered, named]
      · rw [if_neg last]

end PrintPlanner.TypeRegistry
