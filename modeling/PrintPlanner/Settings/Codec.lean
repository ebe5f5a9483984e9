import PrintPlanner.Json.Reader
import PrintPlanner.Json.Writer
import PrintPlanner.Media.Basic
import PrintPlanner.Settings.Planner

/-!
# Settings as JSON

Planner settings, media types and lists of media types are stored as JSON.  Planner
settings are an object whose unknown fields are skipped, or a list of the field
values; what is missing takes its default.  A media type is its `super/type` text.
-/

set_option autoImplicit false

namespace PrintPlanner

/-- How values of a type are stored. -/
class Stored (α : Type) where
  /-- The value in a JSON text. -/
  decode : List UInt8 → Except Json.Error α
  /-- The JSON text of a value, spread over lines. -/
  encode : α → String

open Json

/-! ## Media types -/

namespace MediaType

/-- Reads a media type from its text.  A refused name has no place. -/
def read (bytes : List UInt8) : Except Fault (MediaType × List UInt8) := do
  let (text, rest) ← readText bytes
  match parse text with
  | .error reason => .error (.unplaced (.badName reason))
  | .ok media => .ok (media, rest)

/-- The JSON text of a media type. -/
def write (media : MediaType) : String := writeText media.text

instance : Stored MediaType where
  decode := readWhole read
  encode := write

/-- Reads an entry of a list.  A refused name is placed where closing the list behind it
leaves the text. -/
def readEntry (bytes : List UInt8) : Except Fault (MediaType × List UInt8) := do
  let (text, rest) ← readText bytes
  match parse text with
  | .error reason => .error ((Fault.unplaced (.badName reason)).placed (closeList rest).2)
  | .ok media => .ok (media, rest)

/-- Reads the entries of a list up to its end, at most `entries` of them. -/
def readEntries : (entries : Nat) → (first : Bool) → List UInt8 →
    Except Fault (List MediaType × List UInt8)
  | 0, _, _ => .error (.atNext .unfinishedList [])
  | entries + 1, first, bytes => do
      match ← nextEntry first bytes with
      | none => .ok ([], bytes)
      | some bytes =>
          let (media, rest) ← readEntry bytes
          let (others, rest) ← readEntries entries false rest
          .ok (media :: others, rest)

/-- Reads a list of media types. -/
def readList (bytes : List UInt8) : Except Fault (List MediaType × List UInt8) :=
  match skipBlanks bytes with
  | [] => .error (.atNext .unfinishedValue [])
  | b :: rest =>
      if b = byte '[' then do
        let (media, rest) ← readEntries (rest.length + 1) true rest
        match closeList rest with
        | (some fault, _) => .error fault
        | (none, rest) => .ok (media, rest)
      else .error (wrongKind "a sequence" (b :: rest))

/-- The JSON text of a list of media types, one to a line. -/
def writeList (media : List MediaType) : String := "[" ++ indentEntries (media.map write) ++ "]"

instance : Stored (List MediaType) where
  decode := readWhole readList
  encode := writeList

end MediaType

/-! ## Planner settings -/

namespace PlannerConfig

/-- The name of the setting in an object. -/
def fieldName : String := "sink_signature_cache"

/-- Reads the fields of an object up to its end, at most `fields` of them. -/
def readFields : (fields : Nat) → (first : Bool) → Option Bool → List UInt8 →
    Except Fault (Option Bool × List UInt8)
  | 0, _, _, _ => .error (.atNext .unfinishedObject [])
  | fields + 1, first, setting, bytes => do
      match ← nextKey first bytes with
      | (none, rest) => .ok (setting, rest)
      | (some name, rest) =>
          if name = fieldName then
            if setting.isSome then
              .error ((Fault.unplaced (.duplicateField name)).placed (closeObject rest).2)
            else do
              let (value, rest) ← readBool (← readColon rest)
              readFields fields false (some value) rest
          else do
            let rest ← skipValue (← readColon rest)
            readFields fields false setting rest

/-- Reads planner settings. -/
def read (bytes : List UInt8) : Except Fault (PlannerConfig × List UInt8) :=
  match skipBlanks bytes with
  | [] => .error (.atNext .unfinishedValue [])
  | b :: rest =>
      if b = byte '[' then do
        let (setting, rest) ←
          match ← nextEntry true rest with
          | none => pure (default.sinkSignatureCache, rest)
          | some entry => readBool entry
        match closeList rest with
        | (some fault, _) => .error fault
        | (none, rest) => .ok (⟨setting⟩, rest)
      else if b = 0x7b then do
        let (setting, rest) ← readFields (rest.length + 1) true none rest
        match closeObject rest with
        | (some fault, _) => .error fault
        | (none, rest) => .ok (⟨setting.getD default.sinkSignatureCache⟩, rest)
      else .error (wrongKind "struct PlannerConfig" (b :: rest))

/-- The JSON text of planner settings without line breaks. -/
def writeCompact (config : PlannerConfig) : String :=
  "\x7b" ++ writeText fieldName ++ ":" ++ writeBool config.sinkSignatureCache ++ "\x7d"

/-- The JSON text of planner settings, with the field on a line of its own. -/
def write (config : PlannerConfig) : String :=
  "\x7b" ++ indentEntries [writeText fieldName ++ ": " ++ writeBool config.sinkSignatureCache] ++
    "\x7d"

instance : Stored PlannerConfig where
  decode := readWhole read
  encode := write

end PlannerConfig

end PrintPlanner
