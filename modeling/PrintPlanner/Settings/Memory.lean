import Std.Data.TreeMap
import PrintPlanner.Settings.Codec
import PrintPlanner.Settings.Store

/-!
# Settings in memory

A store that keeps its byte strings in a table.  It counts the attempts to load and
to save, and loading can be made to fail.
-/

set_option autoImplicit false

namespace PrintPlanner

/-- Byte strings under keys, with the number of loads and saves so far. -/
structure MemoryStore where
  blobs : Std.TreeMap String (List UInt8)
  loads : Nat
  saves : Nat
  failsOnLoad : Bool

namespace MemoryStore

/-- The store without keys. -/
def empty : MemoryStore := ⟨∅, 0, 0, false⟩

instance : EmptyCollection MemoryStore := ⟨empty⟩

/-- Puts bytes under a key without counting a save. -/
def insert (store : MemoryStore) (key : String) (bytes : List UInt8) : MemoryStore :=
  { store with blobs := store.blobs.insert key bytes }

/-- The store that holds planner settings and nothing else. -/
def ofPlannerConfig (config : PlannerConfig) : MemoryStore :=
  empty.insert PlannerConfig.key (Text.utf8 config.writeCompact)

/-- Whether there are bytes under a key. -/
def contains (store : MemoryStore) (key : String) : Bool := store.blobs.contains key

/-- The error of every load while loading is made to fail. -/
def loadFailure : ConfigError := .other "simulated load failure"

instance : ConfigStore MemoryStore where
  loadRaw store key :=
    let answer :=
      if store.failsOnLoad then .error loadFailure
      else
        match store.blobs[key]? with
        | some bytes => .ok bytes
        | none => .error .notFound
    (answer, { store with loads := store.loads + 1 })
  saveRaw store key bytes :=
    (.ok (), { store.insert key bytes with saves := store.saves + 1 })

end MemoryStore

end PrintPlanner
