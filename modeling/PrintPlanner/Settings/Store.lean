import PrintPlanner.Json.Fault
import PrintPlanner.Storage.Fault

/-!
# Stores of settings

A store keeps one byte string under each key.  Loading and saving may fail and may
change the store, so both return the store they leave.
-/

set_option autoImplicit false

namespace PrintPlanner

/-- Why settings could not be loaded or saved. -/
inductive ConfigError where
  | notFound
  | storage (fault : StorageFault)
  | json (error : Json.Error)
  | other (text : String)
deriving DecidableEq, Repr

/-- The wording of a settings error. -/
def ConfigError.message : ConfigError → String
  | .notFound => "not found"
  | .storage fault => "io error: " ++ fault.message
  | .json error => "serde error: " ++ error.message
  | .other text => "other: " ++ text

/-- A store of byte strings under keys. -/
class ConfigStore (Store : Type) where
  /-- The bytes under a key. -/
  loadRaw : Store → String → Except ConfigError (List UInt8) × Store
  /-- Puts bytes under a key. -/
  saveRaw : Store → String → List UInt8 → Except ConfigError Unit × Store

end PrintPlanner
