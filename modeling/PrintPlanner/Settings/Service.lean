import PrintPlanner.Settings.Codec
import PrintPlanner.Settings.Store

/-!
# Loading and saving settings

Values are kept in a store as JSON.  A key without bytes, or with none, holds no value.
The settings of the planner are the stored ones, or else the default, with the
environment applied last.
-/

set_option autoImplicit false

namespace PrintPlanner

variable {Store : Type} [ConfigStore Store] {α : Type} [Stored α]

/-- The value under a key, if there is one. -/
def loadSetting (α : Type) [Stored α] (store : Store) (key : String) :
    Except ConfigError (Option α) × Store :=
  match ConfigStore.loadRaw store key with
  | (.error .notFound, store) => (.ok none, store)
  | (.error error, store) => (.error error, store)
  | (.ok [], store) => (.ok none, store)
  | (.ok bytes, store) =>
      match Stored.decode bytes with
      | .ok value => (.ok (some value), store)
      | .error error => (.error (.json error), store)

/-- Puts a value under a key. -/
def saveSetting (store : Store) (key : String) (value : α) : Except ConfigError Unit × Store :=
  ConfigStore.saveRaw store key (Text.utf8 (Stored.encode value))

/-- The settings of the planner, given the bytes of the environment variable. -/
def loadPlannerConfig (store : Store) (environment : Option (List UInt8)) :
    Except ConfigError PlannerConfig × Store :=
  match loadSetting PlannerConfig store PlannerConfig.key with
  | (.error error, store) => (.error error, store)
  | (.ok stored, store) => (.ok ((stored.getD .default).withEnvironment environment), store)

end PrintPlanner
