import PrintPlanner.Decimal.Shortest
import PrintPlanner.Handle

/-!
# Faults in JSON texts

A fault has a reason and, nearly always, a place.  While a text is read the place is
the number of bytes that were not yet taken in; a reported error counts lines from
one and the bytes of the last line.  A text that is well formed but denotes no
acceptable value may be refused without a place.
-/

set_option autoImplicit false

namespace PrintPlanner.Json

/-- What stands in a text where a value of another kind was wanted. -/
inductive Found where
  | null
  | boolean (value : Bool)
  | integer (value : Int)
  | decimal (value : Decimal)
  | string (value : String)
  | sequence
  | map
deriving DecidableEq, Repr

/-- The words for a found value. -/
def Found.describe : Found → String
  | .null => "null"
  | .boolean value => "boolean `" ++ (if value then "true" else "false") ++ "`"
  | .integer value => "integer `" ++ toString value ++ "`"
  | .decimal value => "floating point `" ++ value.text ++ "`"
  | .string value => "string " ++ Text.quote value
  | .sequence => "sequence"
  | .map => "map"

/-- Why a text was refused. -/
inductive Reason where
  | unfinishedValue
  | unfinishedString
  | unfinishedList
  | unfinishedObject
  | missingColon
  | missingListComma
  | missingObjectComma
  | missingLiteral
  | missingValue
  | keyNotString
  | trailingComma
  | trailingCharacters
  | badEscape
  | badNumber
  | numberOutOfRange
  | badCodePoint
  | controlCharacter
  | loneSurrogate
  | unfinishedSurrogatePair
  | wrongKind (found : Found) (wanted : String)
  | duplicateField (name : String)
  /-- The value is no acceptable name. -/
  | badName (reason : NameError)
deriving DecidableEq, Repr

/-- The wording of a reason. -/
def Reason.message : Reason → String
  | .unfinishedValue => "EOF while parsing a value"
  | .unfinishedString => "EOF while parsing a string"
  | .unfinishedList => "EOF while parsing a list"
  | .unfinishedObject => "EOF while parsing an object"
  | .missingColon => "expected `:`"
  | .missingListComma => "expected `,` or `]`"
  | .missingObjectComma => "expected `,` or `\x7d`"
  | .missingLiteral => "expected ident"
  | .missingValue => "expected value"
  | .keyNotString => "key must be a string"
  | .trailingComma => "trailing comma"
  | .trailingCharacters => "trailing characters"
  | .badEscape => "invalid escape"
  | .badNumber => "invalid number"
  | .numberOutOfRange => "number out of range"
  | .badCodePoint => "invalid unicode code point"
  | .controlCharacter => "control character (\\u0000-\\u001F) found while parsing a string"
  | .loneSurrogate => "lone leading surrogate in hex escape"
  | .unfinishedSurrogatePair => "unexpected end of hex escape"
  | .wrongKind found wanted => "invalid type: " ++ found.describe ++ ", expected " ++ wanted
  | .duplicateField name => "duplicate field `" ++ name ++ "`"
  | .badName reason => (PlanError.invalidName reason).message

/-- A reason with the number of bytes that lie beyond the place of the fault. -/
structure Fault where
  reason : Reason
  beyond? : Option Nat
deriving DecidableEq, Repr

namespace Fault

/-- A fault just before the bytes that are left. -/
def before (reason : Reason) (rest : List UInt8) : Fault := ⟨reason, some rest.length⟩

/-- A fault at the first of the bytes that are left, or at the end if none is. -/
def atNext (reason : Reason) (rest : List UInt8) : Fault := ⟨reason, some (rest.length - 1)⟩

/-- A fault that no place in the text explains. -/
def unplaced (reason : Reason) : Fault := ⟨reason, none⟩

/-- The fault with a place just before the bytes that are left, if it had none. -/
def placed (fault : Fault) (rest : List UInt8) : Fault :=
  { fault with beyond? := fault.beyond?.or (some rest.length) }

end Fault

/-- A place in a text: the line counted from one, and the bytes of it so far. -/
structure Place where
  line : Nat
  column : Nat
deriving DecidableEq, Repr

/-- The place after the given bytes. -/
def Place.after (bytes : List UInt8) : Place where
  line := bytes.count 10 + 1
  column := (bytes.reverse.takeWhile (· != 10)).length

/-- Why a whole text was refused, and where. -/
structure Error where
  reason : Reason
  place? : Option Place
deriving DecidableEq, Repr

/-- The wording of an error. -/
def Error.message (error : Error) : String :=
  match error.place? with
  | none => error.reason.message
  | some place =>
      error.reason.message ++ " at line " ++ toString place.line ++ " column " ++
        toString place.column

/-- The error that a fault is in the text of the given bytes. -/
def Fault.toError (fault : Fault) (bytes : List UInt8) : Error where
  reason := fault.reason
  place? := fault.beyond?.map fun beyond => .after (bytes.take (bytes.length - beyond))

end PrintPlanner.Json
