import PrintPlanner.Json.Number

/-!
# Skipping JSON values

A value that nobody asked for is passed over with a check of its form alone: nothing
is decoded, numbers may have any size, and lists and objects may be nested to any
depth.  The lists and objects that are still open are kept in a stack, the innermost
first.
-/

set_option autoImplicit false

namespace PrintPlanner.Json

/-! ## Strings and numbers -/

/-- What is left after an escape, of which the backslash has been taken in. -/
def skipEscape : List UInt8 → Except Fault (List UInt8)
  | [] => .error (.before .unfinishedString [])
  | b :: rest =>
      if (shortEscape? b).isSome then .ok rest
      else if b = byte 'u' then (readCodeUnit rest).map Prod.snd
      else .error (.before .badEscape rest)

/-- What is left after the closing quote of a string with at most as many escapes as
`limit` has bytes. -/
def skipChars : (limit : List UInt8) → List UInt8 → Except Fault (List UInt8)
  | limit, bytes =>
      match bytes.dropWhile isPlain, limit with
      | [], _ => .error (.before .unfinishedString [])
      | b :: rest, limit =>
          if b = byte '"' then .ok rest
          else if b = byte '\\' then
            match limit with
            | [] => .error (.before .unfinishedString [])
            | _ :: limit => do
                let rest ← skipEscape rest
                skipChars limit rest
          else .error (.before .controlCharacter (b :: rest))

/-- What is left after a string, of which the opening quote has been taken in. -/
def skipString (bytes : List UInt8) : Except Fault (List UInt8) := skipChars bytes bytes

/-- What is left after an exponent, of which the mark has been taken in. -/
def skipExponent (bytes : List UInt8) : Except Fault (List UInt8) :=
  let bytes := if nextIs (fun b => b == byte '+' || b == byte '-') bytes then bytes.tail else bytes
  if nextIs isDigit bytes then .ok (bytes.dropWhile isDigit)
  else .error (.before .badNumber bytes.tail)

/-- What is left after an exponent, if there is one. -/
def skipOptionalExponent (bytes : List UInt8) : Except Fault (List UInt8) :=
  if nextIs isExponentMark bytes then skipExponent bytes.tail else .ok bytes

/-- What is left after the fraction and the exponent of a number, if it has them. -/
def skipAfterWhole (bytes : List UInt8) : Except Fault (List UInt8) :=
  if nextIs (· == byte '.') bytes then
    if nextIs isDigit bytes.tail then skipOptionalExponent (bytes.tail.dropWhile isDigit)
    else .error (.atNext .badNumber bytes.tail)
  else skipOptionalExponent bytes

/-- What is left after a number, of which the sign has been taken in. -/
def skipNumber : List UInt8 → Except Fault (List UInt8)
  | [] => .error (.before .badNumber [])
  | b :: rest =>
      if b = byte '0' then
        if nextIs isDigit rest then .error (.atNext .badNumber rest) else skipAfterWhole rest
      else if isDigit b then skipAfterWhole (rest.dropWhile isDigit)
      else .error (.before .badNumber rest)

/-! ## Nesting -/

/-- A list or an object that has been opened. -/
inductive Container where
  | list
  | object
deriving DecidableEq, Repr

namespace Container

/-- The byte that ends a container. -/
def closer : Container → UInt8
  | list => byte ']'
  | object => 0x7d

/-- The fault of a text that ends within a container. -/
def unfinished : Container → Reason
  | list => .unfinishedList
  | object => .unfinishedObject

/-- The fault of two entries without a comma between them. -/
def missingComma : Container → Reason
  | list => .missingListComma
  | object => .missingObjectComma

end Container

/-- Closes the containers that end here.  The containers that stay open are returned
with what is left before the next entry of the innermost one; none is left open when
the value has ended.  An entry may follow at once only where none came before. -/
def closeContainers : (entered : Bool) → List Container → List UInt8 →
    Except Fault (List Container × List UInt8)
  | _, [], bytes => .ok ([], bytes)
  | entered, innermost :: outer, bytes =>
      match skipBlanks bytes with
      | [] => .error (.atNext innermost.unfinished [])
      | b :: rest =>
          if entered && b == byte ',' then .ok (innermost :: outer, rest)
          else if b = innermost.closer then closeContainers true outer rest
          else if entered then .error (.atNext innermost.missingComma (b :: rest))
          else .ok (innermost :: outer, b :: rest)

/-- What is left after the colon behind a key. -/
def readColon (bytes : List UInt8) : Except Fault (List UInt8) :=
  match skipBlanks bytes with
  | [] => .error (.atNext .unfinishedObject [])
  | b :: rest => if b = byte ':' then .ok rest else .error (.atNext .missingColon (b :: rest))

/-- What is left after the key of the next entry, if the innermost container has keys. -/
def skipKey : List Container → List UInt8 → Except Fault (List UInt8)
  | .object :: _, bytes =>
      match skipBlanks bytes with
      | [] => .error (.atNext .unfinishedObject [])
      | b :: rest =>
          if b = byte '"' then do
            let rest ← skipString rest
            readColon rest
          else .error (.atNext .keyNotString (b :: rest))
  | _, bytes => .ok bytes

/-- The start of a value: what is left after a scalar, or after the opening byte of a
container, which is then returned too. -/
def skipStart (bytes : List UInt8) : Except Fault (Option Container × List UInt8) :=
  match skipBlanks bytes with
  | [] => .error (.atNext .unfinishedValue [])
  | b :: rest =>
      if b = byte 'n' then (readLiteral ['u', 'l', 'l'] rest).map (none, ·)
      else if b = byte 't' then (readLiteral ['r', 'u', 'e'] rest).map (none, ·)
      else if b = byte 'f' then (readLiteral ['a', 'l', 's', 'e'] rest).map (none, ·)
      else if b = byte '-' then (skipNumber rest).map (none, ·)
      else if isDigit b then (skipNumber (b :: rest)).map (none, ·)
      else if b = byte '"' then (skipString rest).map (none, ·)
      else if b = byte '[' then .ok (some .list, rest)
      else if b = 0x7b then .ok (some .object, rest)
      else .error (.atNext .missingValue (b :: rest))

/-- What is left after a value within the open containers and their closing bytes.  There
are no more values in it than `limit` has bytes. -/
def skipNested : (limit : List UInt8) → List Container → List UInt8 → Except Fault (List UInt8)
  | [], _, _ => .error (.atNext .unfinishedValue [])
  | _ :: limit, containers, bytes => do
      let (opened, rest) ← skipStart bytes
      let (containers, rest) ←
        closeContainers opened.isNone (opened.toList ++ containers) rest
      if containers.isEmpty then .ok rest
      else do
        let rest ← skipKey containers rest
        skipNested limit containers rest

/-- What is left after a value, which takes up at least one byte for each value in it. -/
def skipValue (bytes : List UInt8) : Except Fault (List UInt8) := skipNested bytes [] bytes

end PrintPlanner.Json
