import PrintPlanner.Text.Fold

/-!
# Writing JSON values

Texts are written between double quotes.  The quote, the backslash and the control
characters below U+0020 are escaped; every other character stands for itself.  Which
escapes have a letter, and how lists and objects are laid out over several lines, is as
`serde_json` 1.0 writes them with its pretty formatter.
-/

set_option autoImplicit false

namespace PrintPlanner.Json

/-- One character as it is written in a string. -/
def writtenChar (c : Char) : List Char :=
  if c = '"' then ['\\', '"']
  else if c = '\\' then ['\\', '\\']
  else if c = '\x08' then ['\\', 'b']
  else if c = '\x0c' then ['\\', 'f']
  else if c = '\n' then ['\\', 'n']
  else if c = '\r' then ['\\', 'r']
  else if c = '\t' then ['\\', 't']
  else if c.toNat < 0x20 then
    ['\\', 'u', '0', '0', Nat.digitChar (c.toNat / 16), Nat.digitChar (c.toNat % 16)]
  else [c]

/-- A text as a JSON string. -/
def writeText (text : String) : String :=
  String.ofList (['"'] ++ text.toList.flatMap writtenChar ++ ['"'])

/-- A boolean as a JSON literal. -/
def writeBool (value : Bool) : String := if value then "true" else "false"

/-- Written entries with an entry on each line, indented by two spaces. -/
def indentEntries : List String → String
  | [] => ""
  | [entry] => "\n  " ++ entry ++ "\n"
  | entry :: rest => "\n  " ++ entry ++ "," ++ indentEntries rest

end PrintPlanner.Json
