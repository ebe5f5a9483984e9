import PrintPlanner.Settings.Memory
import PrintPlanner.Settings.Service

/-!
# Loading settings

A store is asked once for the bytes under a key, and its answer alone decides what is loaded
(`Loads`).  No bytes and an empty byte string both count as no value; other bytes have to be those
of one.
-/

set_option autoImplicit false

namespace PrintPlanner

/-- What is loaded, given the answer of the store. -/
inductive Loads (α : Type) [Stored α] :
    Except ConfigError (List UInt8) → Except ConfigError (Option α) → Prop where
  | absent : Loads α (.error .notFound) (.ok none)
  | failed {error : ConfigError} (other : error ≠ .notFound) : Loads α (.error error) (.error error)
  | empty : Loads α (.ok []) (.ok none)
  | read {bytes : List UInt8} {value : α} (nonempty : bytes ≠ [])
      (decoded : Stored.decode bytes = .ok value) : Loads α (.ok bytes) (.ok (some value))
  | unreadable {bytes : List UInt8} {error : Json.Error} (nonempty : bytes ≠ [])
      (refused : (Stored.decode bytes : Except Json.Error α) = .error error) :
      Loads α (.ok bytes) (.error (.json error))

variable {Store : Type} [ConfigStore Store]

theorem loadSetting_spec (α : Type) [Stored α] (store : Store) (key : String) :
    Loads α (ConfigStore.loadRaw store key).1 (loadSetting α store key).1 ∧
      (loadSetting α store key).2 = (ConfigStore.loadRaw store key).2 := by
  unfold loadSetting
  obtain ⟨answer, left⟩ := ConfigStore.loadRaw store key
  split
  · rename_i absent
    cases absent
    exact ⟨.absent, rfl⟩
  · rename_i other failed
    cases failed
    exact ⟨.failed other, rfl⟩
  · rename_i empty
    cases empty
    exact ⟨.empty, rfl⟩
  · rename_i nonempty found
    cases found
    split
    · rename_i decoded
      exact ⟨.read nonempty decoded, rfl⟩
    · rename_i refused
      exact ⟨.unreadable nonempty refused, rfl⟩

/-- What was saved in memory is loaded again, if its text is that of the value. -/
theorem MemoryStore.loadSetting_saveSetting {α : Type} [Stored α] {store : MemoryStore}
    (loads : store.failsOnLoad = false) (key : String) {value : α}
    (nonempty : Text.utf8 (Stored.encode value) ≠ [])
    (decoded : Stored.decode (Text.utf8 (Stored.encode value)) = .ok value) :
    (loadSetting α (saveSetting store key value).2 key).1 = .ok (some value) := by
  have found : (ConfigStore.loadRaw (saveSetting store key value).2 key).1 =
      .ok (Text.utf8 (Stored.encode value)) := by
    simp [ConfigStore.loadRaw, saveSetting, ConfigStore.saveRaw, insert, loads]
  have loaded := (loadSetting_spec α (saveSetting store key value).2 key).1
  rw [found] at loaded
  generalize (loadSetting α (saveSetting store key value).2 key).1 = result at loaded
  generalize Text.utf8 (Stored.encode value) = bytes at *
  cases loaded with
  | empty => exact absurd rfl nonempty
  | read _ again =>
      cases decoded.symm.trans again
      rfl
  | unreadable _ refused => cases decoded.symm.trans refused

end PrintPlanner
