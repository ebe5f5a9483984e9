import PrintPlanner.Proofs.Storage.Path
import PrintPlanner.Proofs.Storage.Tree
import PrintPlanner.Settings.Directory
import PrintPlanner.Settings.History
import PrintPlanner.Settings.Memory

/-!
# Settings in a directory and in memory

A store in a directory of its own cannot be told from a store in memory, whatever its keys look
like, as long as they can be part of a file name (`DirectoryStore.BasedAt.agreesWithMemory`).  The
file of such a key lies in the base directory itself and under a name that no other key has.  So a
save changes one entry of that directory and no way to it, and the files go on holding what the
store in memory holds (`DirectoryStore.Mirrors`).
-/

set_option autoImplicit false

namespace PrintPlanner

/-! ## Keys -/

/-- The key can be part of a file name. -/
structure IsFileKey (key : String) : Prop where
  noSlash : '/' ∉ key.toList
  noNul : '\x00' ∉ key.toList
  short : key.utf8ByteSize ≤ 250

instance (key : String) : Decidable (IsFileKey key) :=
  decidable_of_iff ('/' ∉ key.toList ∧ '\x00' ∉ key.toList ∧ key.utf8ByteSize ≤ 250)
    ⟨fun ⟨noSlash, noNul, short⟩ => ⟨noSlash, noNul, short⟩,
      fun fine => ⟨fine.noSlash, fine.noNul, fine.short⟩⟩

/-- The name of a key's file. -/
def fileNameOf (key : String) : String := key ++ ".json"

theorem toList_fileNameOf (key : String) :
    (fileNameOf key).toList = key.toList ++ ['.', 'j', 's', 'o', 'n'] := by
  rw [fileNameOf, String.toList_append]
  rfl

theorem fileNameOf_inj {key other : String} : fileNameOf key = fileNameOf other ↔ key = other := by
  rw [← String.toList_inj, toList_fileNameOf, toList_fileNameOf, List.append_left_inj,
    String.toList_inj]

/-- A file name ends as no step and no empty component does. -/
theorem fileNameOf_ne {key : String} {short : String} (brief : short.toList.length < 5) :
    fileNameOf key ≠ short := by
  rintro rfl
  rw [toList_fileNameOf, List.length_append] at brief
  exact absurd brief (by simp)

namespace IsFileKey

variable {key : String} (fine : IsFileKey key)
include fine

theorem isEntryName : DirectoryTree.IsEntryName (fileNameOf key) where
  ne_dot := fileNameOf_ne (by decide)
  ne_dots := fileNameOf_ne (by decide)
  short := by
    have suffix : ".json".utf8ByteSize = 5 := rfl
    have room := fine.short
    rw [fileNameOf, String.utf8ByteSize_append, DirectoryTree.nameLimit]
    omega

theorem noSlash_fileNameOf : '/' ∉ (fileNameOf key).toList := by
  simp [toList_fileNameOf, fine.noSlash]

theorem noNul_fileNameOf : '\x00' ∉ (fileNameOf key).toList := by
  simp [toList_fileNameOf, fine.noNul]

end IsFileKey

/-! ## A store in memory -/

/-- A store in memory holds what was saved last. -/
theorem MemoryStore.blobs_after (memory : MemoryStore) (calls : List StoreCall) (key : String) :
    (ConfigStore.after memory calls).blobs[key]? =
      (StoreCall.lastSaved? key calls).or memory.blobs[key]? := by
  induction calls generalizing memory with
  | nil => rfl
  | cons call rest ih =>
      rw [ConfigStore.after, ih]
      cases call with
      | load other => rfl
      | save other bytes =>
          have stored : (ConfigStore.perform memory (.save other bytes)).2.blobs =
              memory.blobs.insert other bytes := rfl
          rw [stored, Std.TreeMap.getElem?_insert]
          by_cases same : other = key
          · simp [StoreCall.lastSaved?, StoreCall.saved?, same, List.getLast?_cons]
          · simp [StoreCall.lastSaved?, StoreCall.saved?, same]

/-! ## The base directory -/

namespace DirectoryStore

variable {store : DirectoryStore} {number : Nat}

theorem components_pathOf (store : DirectoryStore) {key : String} (fine : IsFileKey key) :
    Path.components (store.pathOf key) = Path.components store.base ++ [fileNameOf key] :=
  Path.components_join store.base fine.noSlash_fileNameOf (fileNameOf_ne (by decide))

/-- The base path leads to the directory with the given number and is so short that every name can
be joined to it. -/
structure BasedAt (store : DirectoryStore) (number : Nat) : Prop where
  located : store.tree.locate store.base = .ok (.directory number)
  present : number < store.tree.directories.size
  roomy : ∀ name : String, name.utf8ByteSize ≤ DirectoryTree.nameLimit →
    (Path.join store.base name).utf8ByteSize ≤ DirectoryTree.pathLimit

namespace BasedAt

variable (based : store.BasedAt number) {key : String}
include based

theorem pathFault?_pathOf (fine : IsFileKey key) :
    DirectoryTree.pathFault? (store.pathOf key) = none := by
  obtain ⟨sound, _⟩ := DirectoryTree.pathFault?_of_locate based.located
  obtain ⟨noNul, _⟩ := DirectoryTree.pathFault?_eq_none_iff.mp sound
  refine DirectoryTree.pathFault?_eq_none_iff.mpr ⟨fun nul => ?_, ?_⟩
  · rcases Path.mem_toList_join nul with inBase | slash | inName
    · exact noNul inBase
    · exact absurd slash (by decide)
    · exact fine.noNul_fileNameOf inName
  · exact based.roomy (fileNameOf key) fine.isEntryName.short

theorem walk_base :
    store.tree.walk DirectoryTree.root (Path.components store.base) = .ok (.directory number) :=
  (DirectoryTree.pathFault?_of_locate based.located).2

/-- The file of a key lies in the base directory. -/
theorem locateNew_pathOf (fine : IsFileKey key) :
    store.tree.locateNew (store.pathOf key) = .ok (number, fileNameOf key) :=
  DirectoryTree.locateNew_of_walk (based.pathFault?_pathOf fine) (components_pathOf store fine)
    based.walk_base fine.isEntryName

theorem locate_pathOf (fine : IsFileKey key) :
    store.tree.locate (store.pathOf key) =
      match store.tree.entry? number (fileNameOf key) with
      | none => .error .noSuchFile
      | some entry => .ok entry :=
  DirectoryTree.locate_of_walk (based.pathFault?_pathOf fine) (components_pathOf store fine)
    based.walk_base fine.isEntryName

/-- The directory that the file of a key is to lie in is there. -/
theorem locate_parent (fine : IsFileKey key) :
    store.tree.locate (Path.parent (store.pathOf key)) = .ok (.directory number) := by
  have proper : Path.isIdle (fileNameOf key) = false := by
    have ne_empty : fileNameOf key ≠ "" := fileNameOf_ne (by decide)
    simp [Path.isIdle, ne_empty, fine.isEntryName.ne_dot]
  have parent : Path.parent (store.pathOf key) = Path.stem store.base :=
    Path.parent_join store.base fine.noSlash_fileNameOf proper
  obtain ⟨sound, leads⟩ := DirectoryTree.pathFault?_of_locate based.located
  obtain ⟨noNul, short⟩ := DirectoryTree.pathFault?_eq_none_iff.mp sound
  obtain ⟨rest, continued⟩ := Path.exists_eq_stem_append store.base
  obtain ⟨dots, ends, idle⟩ := Path.components_stem store.base
  have stemSound : DirectoryTree.pathFault? (Path.stem store.base) = none := by
    rw [continued, String.toList_append, List.mem_append, not_or] at noNul
    rw [continued, String.utf8ByteSize_append] at short
    exact DirectoryTree.pathFault?_eq_none_iff.mpr ⟨noNul.1, by omega⟩
  -- The base path may end in dots that its stem lacks, but these lead nowhere else.
  rw [ends] at leads
  obtain ⟨middle, before, after⟩ := DirectoryTree.exists_walk_of_append leads
  rw [DirectoryTree.walk_dots idle] at after
  rw [parent, DirectoryTree.locate_of_pathFault?_eq_none stemSound, before, after]

/-- A file that is put into the base directory moves neither of them. -/
theorem putFile {name : String} (bytes : List UInt8)
    (vacant : ∀ inner, store.tree.entry? number name ≠ some (.directory inner)) :
    BasedAt { store with tree := store.tree.put number name (.file bytes) } number where
  located := by
    obtain ⟨sound, leads⟩ := DirectoryTree.pathFault?_of_locate based.located
    exact (DirectoryTree.locate_of_pathFault?_eq_none sound).trans
      (DirectoryTree.walk_putFile based.present vacant leads)
  present := Nat.lt_of_lt_of_eq based.present (DirectoryTree.size_put _).symm
  roomy := based.roomy

end BasedAt

/-! ## Agreement with a store in memory -/

/-- The files in the base directory hold what the store in memory holds. -/
structure Mirrors (store : DirectoryStore) (number : Nat) (memory : MemoryStore) : Prop where
  based : store.BasedAt number
  files : ∀ key, IsFileKey key →
    store.tree.entry? number (fileNameOf key) = (memory.blobs[key]?).map TreeEntry.file
  loads : memory.failsOnLoad = false

namespace Mirrors

variable {memory : MemoryStore} (mirrors : store.Mirrors number memory) {key : String}
include mirrors

theorem load_eq (fine : IsFileKey key) :
    store.load key = (memory.blobs[key]?).elim (.error .notFound) .ok := by
  have located := mirrors.based.locate_pathOf fine
  rw [mirrors.files key fine] at located
  unfold load DirectoryTree.readFile
  cases held : memory.blobs[key]? with
  | none =>
      rw [held] at located
      rw [located]
      rfl
  | some bytes =>
      rw [held] at located
      rw [located]
      rfl

theorem entry?_ne_directory (fine : IsFileKey key) (inner : Nat) :
    store.tree.entry? number (fileNameOf key) ≠ some (.directory inner) := by
  rw [mirrors.files key fine]
  cases memory.blobs[key]? <;> simp

/-- Saving puts one file into the base directory. -/
theorem save_eq (fine : IsFileKey key) (bytes : List UInt8) :
    store.save key bytes = (.ok (), { store with
      tree := store.tree.put number (fileNameOf key) (.file bytes) }) := by
  have made := DirectoryTree.makeDirectories_of_locate (mirrors.based.locate_parent fine)
  have written := DirectoryTree.writeFile_of_locateNew (mirrors.based.locateNew_pathOf fine)
    (mirrors.entry?_ne_directory fine) bytes
  unfold DirectoryStore.save
  rw [made]
  dsimp only
  rw [written]

theorem save (fine : IsFileKey key) (bytes : List UInt8) :
    Mirrors { store with tree := store.tree.put number (fileNameOf key) (.file bytes) } number
      (ConfigStore.saveRaw memory key bytes).2 where
  based := mirrors.based.putFile bytes (mirrors.entry?_ne_directory fine)
  files := by
    intro other otherFine
    have stored : (ConfigStore.saveRaw memory key bytes).2.blobs = memory.blobs.insert key bytes :=
      rfl
    rw [DirectoryTree.entry?_put _ mirrors.based.present, stored, Std.TreeMap.getElem?_insert,
      mirrors.files other otherFine]
    by_cases same : key = other
    · simp [same]
    · rw [if_neg (fun both => same (fileNameOf_inj.mp both.2).symm),
        if_neg (same ∘ Std.compare_eq_iff_eq.mp)]
  loads := mirrors.loads

/-- Both stores reply alike to a call, and agree again. -/
theorem perform {call : StoreCall} (fine : IsFileKey call.key) :
    (ConfigStore.perform store call).1 = (ConfigStore.perform memory call).1 ∧
      (ConfigStore.perform store call).2.Mirrors number (ConfigStore.perform memory call).2 := by
  cases call with
  | load key =>
      refine ⟨?_, mirrors.based, mirrors.files, mirrors.loads⟩
      have answer : (ConfigStore.loadRaw memory key).1 =
          (memory.blobs[key]?).elim (.error .notFound) .ok := by
        simp only [ConfigStore.loadRaw, mirrors.loads, Bool.false_eq_true, if_false]
        cases memory.blobs[key]? <;> rfl
      exact congrArg StoreReply.loaded ((mirrors.load_eq fine).trans answer.symm)
  | save key bytes =>
      have saved : ConfigStore.saveRaw store key bytes = _ := mirrors.save_eq fine bytes
      simp only [ConfigStore.perform, saved]
      exact ⟨rfl, mirrors.save fine bytes⟩

theorem after {calls : List StoreCall} (fine : ∀ call ∈ calls, IsFileKey call.key) :
    (ConfigStore.after store calls).Mirrors number (ConfigStore.after memory calls) ∧
      ConfigStore.replies store calls = ConfigStore.replies memory calls := by
  induction calls generalizing store memory with
  | nil => exact ⟨mirrors, rfl⟩
  | cons call rest ih =>
      obtain ⟨first, others⟩ := List.forall_mem_cons.mp fine
      obtain ⟨reply, onward⟩ := mirrors.perform first
      obtain ⟨left, later⟩ := ih onward others
      exact ⟨left, congrArg₂ List.cons reply later⟩

end Mirrors

/-- A store in a directory, and what has become of it after some calls, next to a store in memory
that is given the same calls. -/
structure AgreesWithMemory (store : DirectoryStore) (number : Nat) (calls : List StoreCall) :
    Prop where
  /-- The store is what opening its base directory gives. -/
  opened : openAt store.tree store.base = (.ok store, store.tree)
  /-- No reply tells the stores apart. -/
  replies : ConfigStore.replies store calls = ConfigStore.replies (∅ : MemoryStore) calls
  /-- What was saved last under a key is loaded, and nothing if there is no such save. -/
  load : ∀ key, IsFileKey key → (ConfigStore.after store calls).load key =
    (StoreCall.lastSaved? key calls).elim (.error .notFound) .ok
  /-- Anything can be saved next. -/
  save : ∀ key, IsFileKey key → ∀ bytes, ((ConfigStore.after store calls).save key bytes).1 = .ok ()
  /-- A key has a file of its own in the base directory. -/
  place : ∀ key, IsFileKey key →
    (ConfigStore.after store calls).tree.locateNew ((ConfigStore.after store calls).pathOf key) =
      .ok (number, fileNameOf key)
  /-- No two keys share a file. -/
  distinct : ∀ key, IsFileKey key → ∀ other, IsFileKey other →
    (ConfigStore.after store calls).tree.locateNew ((ConfigStore.after store calls).pathOf key) =
      (ConfigStore.after store calls).tree.locateNew
        ((ConfigStore.after store calls).pathOf other) → key = other

/-- **A directory keeps settings as memory does.**  In a directory of its own, which was empty at
first, every sequence of loads and saves has the replies that it has in memory, whatever the keys
look like, as long as they can be part of a file name. -/
theorem BasedAt.agreesWithMemory (based : store.BasedAt number)
    (vacant : ∀ name, store.tree.entry? number name = none) {calls : List StoreCall}
    (fine : ∀ call ∈ calls, IsFileKey call.key) : store.AgreesWithMemory number calls := by
  have fresh : store.Mirrors number ∅ := ⟨based, fun key _ => vacant (fileNameOf key), rfl⟩
  obtain ⟨mirrors, replies⟩ := fresh.after fine
  have place := fun key (keyFine : IsFileKey key) => mirrors.based.locateNew_pathOf keyFine
  refine ⟨?_, replies, fun key keyFine => ?_, fun key keyFine bytes => ?_, place,
    fun key keyFine other otherFine same => ?_⟩
  · rw [openAt, DirectoryTree.makeDirectories_of_locate based.located]
  · have nothing : (∅ : MemoryStore).blobs[key]? = none := Std.TreeMap.getElem?_emptyc
    rw [mirrors.load_eq keyFine, MemoryStore.blobs_after, nothing, Option.or_none]
  · rw [mirrors.save_eq keyFine]
  · rw [place key keyFine, place other otherFine] at same
    exact fileNameOf_inj.mp (congrArg Prod.snd (Except.ok.inj same))

/-- A store in a directory that was made for it. -/
def spool : DirectoryStore := ⟨"/home/./spool/", (openAt ∅ "/home/./spool/").2⟩

/-- Keys that look like steps, like no name at all, and like each other's files. -/
def spoolCalls : List StoreCall := [
  .save "" [1], .save "." [2], .save ".." [3], .save "a" [4], .save "a.json" [5], .load "..",
  .save "a" [6], .load "b"]

/-- Each key keeps its own bytes, and a key that is saved again the new ones. -/
theorem agreesWithMemory_spoolCalls :
    (spool.BasedAt 2 ∧ (∀ name, spool.tree.entry? 2 name = none) ∧
        ∀ call ∈ spoolCalls, IsFileKey call.key) ∧
      spool.AgreesWithMemory 2 spoolCalls ∧
      ["", ".", "..", "a", "a.json", "b"].map (ConfigStore.after spool spoolCalls).load =
        [.ok [1], .ok [2], .ok [3], .ok [6], .ok [5], .error .notFound] := by
  have based : spool.BasedAt 2 := by
    refine ⟨by decide +kernel, by decide +kernel, fun name short => ?_⟩
    have brief :
        spool.base.utf8ByteSize + 1 + DirectoryTree.nameLimit ≤ DirectoryTree.pathLimit := by
      decide +kernel
    have joined := Path.utf8ByteSize_join_le spool.base name
    omega
  have vacant : ∀ name, spool.tree.entry? 2 name = none := by
    have empty : (spool.tree.directories[2]?).map (·.entries.isEmpty) = some true := by
      decide +kernel
    obtain ⟨directory, found, empty⟩ := Option.map_eq_some_iff.mp empty
    intro name
    unfold DirectoryTree.entry?
    rw [found, Option.bind_some, Std.TreeMap.getElem?_of_isEmpty empty]
  have fine : ∀ call ∈ spoolCalls, IsFileKey call.key := by decide +kernel
  exact ⟨⟨based, vacant, fine⟩, based.agreesWithMemory vacant fine, by decide +kernel⟩

end DirectoryStore

end PrintPlanner
