import PrintPlanner.Json.Skip

/-!
# Reading JSON values

Readers for the kinds of value that settings are made of: booleans, strings, lists and
objects.  A reader that finds a value of another kind reports that value, reading
scalars to their end first.

A reader of list entries or object fields may refuse what it has read although the
text is well formed.  The place of such a fault is where the text stands after an
attempt to close the list or the object.

Values are read as `serde_json` 1.0 reads them from a slice of bytes into a type with
derived fields: unknown fields are skipped, and a value of another kind is reported as an
invalid type.
-/

set_option autoImplicit false

namespace PrintPlanner.Json

/-! ## Values of another kind -/

/-- The value that stands first in the bytes, with what is left after it.  Lists and
objects are recognised by their opening byte, which is not taken in. -/
def readFound (bytes : List UInt8) : Except Fault (Found × List UInt8) :=
  match bytes with
  | [] => .error (.atNext .unfinishedValue [])
  | b :: rest =>
      if b = byte 'n' then (readLiteral ['u', 'l', 'l'] rest).map (.null, ·)
      else if b = byte 't' then (readLiteral ['r', 'u', 'e'] rest).map (.boolean true, ·)
      else if b = byte 'f' then (readLiteral ['a', 'l', 's', 'e'] rest).map (.boolean false, ·)
      else if b = byte '-' then readNumber true rest
      else if isDigit b then readNumber false (b :: rest)
      else if b = byte '"' then (readString rest).map fun (text, rest) => (.string text, rest)
      else if b = byte '[' then .ok (.sequence, b :: rest)
      else if b = 0x7b then .ok (.map, b :: rest)
      else .error (.atNext .missingValue (b :: rest))

/-- The fault of a value that stands where another kind of value is wanted. -/
def wrongKind (wanted : String) (bytes : List UInt8) : Fault :=
  match readFound bytes with
  | .error fault => fault
  | .ok (found, rest) => .before (.wrongKind found wanted) rest

/-! ## Scalars -/

/-- Reads a boolean. -/
def readBool (bytes : List UInt8) : Except Fault (Bool × List UInt8) :=
  match skipBlanks bytes with
  | [] => .error (.atNext .unfinishedValue [])
  | b :: rest =>
      if b = byte 't' then (readLiteral ['r', 'u', 'e'] rest).map (true, ·)
      else if b = byte 'f' then (readLiteral ['a', 'l', 's', 'e'] rest).map (false, ·)
      else .error (wrongKind "a boolean" (b :: rest))

/-- Reads a string. -/
def readText (bytes : List UInt8) : Except Fault (String × List UInt8) :=
  match skipBlanks bytes with
  | [] => .error (.atNext .unfinishedValue [])
  | b :: rest =>
      if b = byte '"' then readString rest else .error (wrongKind "a string" (b :: rest))

/-! ## Lists -/

/-- What is left before the next entry of a list, or nothing if the list ends here. -/
def nextEntry (first : Bool) (bytes : List UInt8) : Except Fault (Option (List UInt8)) :=
  match skipBlanks bytes with
  | [] => .error (.atNext .unfinishedList [])
  | b :: rest =>
      if b = byte ']' then .ok none
      else if first then .ok (some (b :: rest))
      else if b = byte ',' then
        match skipBlanks rest with
        | [] => .error (.atNext .unfinishedValue [])
        | b :: rest =>
            if b = byte ']' then .error (.atNext .trailingComma (b :: rest))
            else .ok (some (b :: rest))
      else .error (.atNext .missingListComma (b :: rest))

/-- Closes a list: the fault if that fails, and in any case what is left. -/
def closeList (bytes : List UInt8) : Option Fault × List UInt8 :=
  match skipBlanks bytes with
  | [] => (some (.atNext .unfinishedList []), [])
  | b :: rest =>
      if b = byte ']' then (none, rest)
      else if b = byte ',' then
        match skipBlanks rest with
        | [] => (some (.atNext .trailingCharacters []), [])
        | b :: rest =>
            if b = byte ']' then (some (.atNext .trailingComma (b :: rest)), b :: rest)
            else (some (.atNext .trailingCharacters (b :: rest)), b :: rest)
      else (some (.atNext .trailingCharacters (b :: rest)), b :: rest)

/-! ## Objects -/

/-- The key of the next field of an object, or nothing if the object ends here. -/
def nextKey (first : Bool) (bytes : List UInt8) :
    Except Fault (Option String × List UInt8) :=
  let key (bytes : List UInt8) (otherwise : Reason) : Except Fault (Option String × List UInt8) :=
    match bytes with
    | [] => .error (.atNext otherwise [])
    | b :: rest =>
        if b = byte '"' then (readString rest).map fun (text, rest) => (some text, rest)
        else .error (.atNext otherwise (b :: rest))
  match skipBlanks bytes with
  | [] => .error (.atNext .unfinishedObject [])
  | b :: rest =>
      if b = 0x7d then .ok (none, b :: rest)
      else if first then key (b :: rest) .keyNotString
      else if b = byte ',' then
        match skipBlanks rest with
        | [] => .error (.atNext .unfinishedValue [])
        | b :: rest =>
            if b = 0x7d then .error (.atNext .trailingComma (b :: rest))
            else key (b :: rest) .keyNotString
      else .error (.atNext .missingObjectComma (b :: rest))

/-- Closes an object: the fault if that fails, and in any case what is left. -/
def closeObject (bytes : List UInt8) : Option Fault × List UInt8 :=
  match skipBlanks bytes with
  | [] => (some (.atNext .unfinishedObject []), [])
  | b :: rest =>
      if b = 0x7d then (none, rest)
      else if b = byte ',' then (some (.atNext .trailingComma (b :: rest)), b :: rest)
      else (some (.atNext .trailingCharacters (b :: rest)), b :: rest)

/-! ## Whole texts -/

/-- Reads a text that is one value and blanks around it. -/
def readWhole {α : Type} (read : List UInt8 → Except Fault (α × List UInt8))
    (bytes : List UInt8) : Except Error α :=
  match read bytes with
  | .error fault => .error (fault.toError bytes)
  | .ok (value, rest) =>
      match skipBlanks rest with
      | [] => .ok value
      | b :: rest => .error ((Fault.atNext .trailingCharacters (b :: rest)).toError bytes)

end PrintPlanner.Json
