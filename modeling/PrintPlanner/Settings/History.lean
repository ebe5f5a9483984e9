import PrintPlanner.Settings.Store

/-!
# Histories of a store

The loads and saves that a store receives are written down as data, so that two stores of
different kinds can be given the same calls and their replies compared.
-/

set_option autoImplicit false

namespace PrintPlanner

/-- A call of a store. -/
inductive StoreCall where
  | load (key : String)
  | save (key : String) (bytes : List UInt8)
deriving DecidableEq, Repr

/-- What a call returns. -/
inductive StoreReply where
  | loaded (result : Except ConfigError (List UInt8))
  | saved (result : Except ConfigError Unit)

namespace StoreCall

/-- The key that a call is about. -/
def key : StoreCall → String
  | load key => key
  | save key _ => key

/-- The bytes that a call puts under a key. -/
def saved? (key : String) : StoreCall → Option (List UInt8)
  | load _ => none
  | save other bytes => if other = key then some bytes else none

/-- The bytes that calls put under a key last. -/
def lastSaved? (key : String) (calls : List StoreCall) : Option (List UInt8) :=
  (calls.filterMap (saved? key)).getLast?

end StoreCall

namespace ConfigStore

variable {Store : Type} [ConfigStore Store]

/-- Carries out a call. -/
def perform (store : Store) : StoreCall → StoreReply × Store
  | .load key =>
      let (result, store) := loadRaw store key
      (.loaded result, store)
  | .save key bytes =>
      let (result, store) := saveRaw store key bytes
      (.saved result, store)

/-- The store after some calls. -/
def after (store : Store) : List StoreCall → Store
  | [] => store
  | call :: rest => after (perform store call).2 rest

/-- The replies to some calls, in order. -/
def replies (store : Store) : List StoreCall → List StoreReply
  | [] => []
  | call :: rest => (perform store call).1 :: replies (perform store call).2 rest

end ConfigStore

end PrintPlanner
