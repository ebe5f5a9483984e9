import PrintPlanner.Json.Fault
import PrintPlanner.Text.Utf8

/-!
# Lexemes of JSON

Readers for the pieces a JSON text is made of: blanks, the rest of a literal, and
strings.  Each reader takes the bytes that are left and returns what it read, if there is
anything to return, with the bytes that are then left, or a fault.

The contents of a string are gathered as bytes, with each escape replaced by the bytes of
its character, and decoded as a whole once the closing quote is found.  A string with any
other fault is refused for that one, whether or not its contents are UTF-8.

What is accepted is the JSON of RFC 8259.  Which of several faults is reported, and at which
byte, is as `serde_json` 1.0 documents it for reading from a slice of bytes.
-/

set_option autoImplicit false

namespace PrintPlanner.Json

/-- The byte of an ASCII character. -/
def byte (c : Char) : UInt8 := c.toNat.toUInt8

/-- Space, line feed, tab and carriage return. -/
def isBlankByte (b : UInt8) : Bool := b == 0x20 || b == 0x0a || b == 0x09 || b == 0x0d

/-- What is left after blanks. -/
def skipBlanks (bytes : List UInt8) : List UInt8 := bytes.dropWhile isBlankByte

/-- The rest of a literal, of which the first byte has been taken in. -/
def readLiteral : (literal : List Char) → List UInt8 → Except Fault (List UInt8)
  | [], bytes => .ok bytes
  | _ :: _, [] => .error (.before .unfinishedValue [])
  | c :: literal, b :: rest =>
      if b = byte c then readLiteral literal rest else .error (.before .missingLiteral rest)

/-! ## Escapes -/

/-- The value of a hexadecimal digit. -/
def hexValue? (b : UInt8) : Option Nat :=
  if 0x30 ≤ b ∧ b ≤ 0x39 then some (b.toNat - 0x30)
  else if 0x41 ≤ b ∧ b ≤ 0x46 then some (b.toNat - 0x41 + 10)
  else if 0x61 ≤ b ∧ b ≤ 0x66 then some (b.toNat - 0x61 + 10)
  else none

/-- The code unit of four hexadecimal digits. -/
def readCodeUnit : List UInt8 → Except Fault (Nat × List UInt8)
  | b₁ :: b₂ :: b₃ :: b₄ :: rest =>
      match hexValue? b₁, hexValue? b₂, hexValue? b₃, hexValue? b₄ with
      | some d₁, some d₂, some d₃, some d₄ => .ok (((d₁ * 16 + d₂) * 16 + d₃) * 16 + d₄, rest)
      | _, _, _, _ => .error (.before .badEscape rest)
  | _ => .error (.before .unfinishedString [])

/-- Whether a code unit is the second one of a surrogate pair. -/
def isTrailing (unit : Nat) : Bool := 0xdc00 ≤ unit && unit ≤ 0xdfff

/-- Whether a code unit is the first one of a surrogate pair. -/
def isLeading (unit : Nat) : Bool := 0xd800 ≤ unit && unit ≤ 0xdbff

/-- The byte that has to follow the first half of a surrogate pair. -/
def expectPairByte (c : Char) : List UInt8 → Except Fault (List UInt8)
  | [] => .error (.before .unfinishedString [])
  | b :: rest =>
      if b = byte c then .ok rest else .error (.before .unfinishedSurrogatePair rest)

/-- The character of an escape by code units, of which the `u` has been taken in. -/
def readUnicodeEscape (bytes : List UInt8) : Except Fault (Char × List UInt8) := do
  let (unit, rest) ← readCodeUnit bytes
  if isTrailing unit then .error (.before .loneSurrogate rest)
  else if isLeading unit then
    let rest ← expectPairByte '\\' rest
    let rest ← expectPairByte 'u' rest
    let (second, rest) ← readCodeUnit rest
    if isTrailing second then
      .ok (Char.ofNat ((unit - 0xd800) * 0x400 + (second - 0xdc00) + 0x10000), rest)
    else .error (.before .loneSurrogate rest)
  else .ok (Char.ofNat unit, rest)

/-- The character that a backslash and this byte stand for. -/
def shortEscape? (b : UInt8) : Option Char :=
  if b = byte '"' then some '"'
  else if b = byte '\\' then some '\\'
  else if b = byte '/' then some '/'
  else if b = byte 'b' then some '\x08'
  else if b = byte 'f' then some '\x0c'
  else if b = byte 'n' then some '\n'
  else if b = byte 'r' then some '\r'
  else if b = byte 't' then some '\t'
  else none

/-- The character of an escape, of which the backslash has been taken in. -/
def readEscape : List UInt8 → Except Fault (Char × List UInt8)
  | [] => .error (.before .unfinishedString [])
  | b :: rest =>
      match shortEscape? b with
      | some c => .ok (c, rest)
      | none =>
          if b = byte 'u' then readUnicodeEscape rest else .error (.before .badEscape rest)

/-! ## Strings -/

/-- Whether a byte stands for itself in a string. -/
def isPlain (b : UInt8) : Bool := b != byte '"' && b != byte '\\' && 0x20 ≤ b

/-- The contents of a string up to its closing quote, with at most as many escapes as
`limit` has bytes. -/
def readContents : (limit : List UInt8) → List UInt8 → Except Fault (List UInt8 × List UInt8)
  | limit, bytes =>
      let run := bytes.takeWhile isPlain
      match bytes.dropWhile isPlain, limit with
      | [], _ => .error (.before .unfinishedString [])
      | b :: rest, limit =>
          if b = byte '"' then .ok (run, rest)
          else if b = byte '\\' then
            match limit with
            | [] => .error (.before .unfinishedString [])
            | _ :: limit => do
                let (escaped, rest) ← readEscape rest
                let (more, rest) ← readContents limit rest
                .ok (run ++ String.utf8EncodeChar escaped ++ more, rest)
          else .error (.before .controlCharacter rest)

/-- The text of the contents of a string, which `rest` follows.  Contents that are no UTF-8
are refused as many bytes before the end of the string as they have from their first bad
place on; with escapes behind that place, this is not where it stands in the JSON text. -/
def decodeContents (contents rest : List UInt8) : Except Fault String :=
  match Text.decode contents with
  | .ok chars => .ok (String.ofList chars)
  | .error undecoded => .error ⟨.badCodePoint, some (undecoded + rest.length)⟩

/-- The text of a string, of which the opening quote has been taken in. -/
def readString (bytes : List UInt8) : Except Fault (String × List UInt8) := do
  let (contents, rest) ← readContents bytes bytes
  let text ← decodeContents contents rest
  .ok (text, rest)

end PrintPlanner.Json
