import PrintPlanner.Text.Extending
import PrintPlanner.Text.Ignorable
import PrintPlanner.Text.Unprintable

/-!
# Quoted text in messages

A message shows a text between double quotes and a single character between single
quotes.  The quote that encloses it, the backslash, and the four controls with a
letter of their own are written with a backslash; an extending mark and an ignorable
or unprintable character are written by their code point in lowercase hexadecimal.
Everything else stands for itself.
-/

set_option autoImplicit false

namespace PrintPlanner.Text

/-- The code point of a character as `\u{…}`, without leading zeros. -/
def codePointEscape (c : Char) : List Char :=
  ['\\', 'u', '\x7b'] ++ Nat.toDigits 16 c.toNat ++ ['\x7d']

/-- One character as it is written between two `mark` quotes. -/
def quotedChar (mark : Char) (c : Char) : List Char :=
  if c = '\x00' then ['\\', '0']
  else if c = '\t' then ['\\', 't']
  else if c = '\r' then ['\\', 'r']
  else if c = '\n' then ['\\', 'n']
  else if c = '\\' ∨ c = mark then ['\\', c]
  else if isExtending c || isIgnorable c || isUnprintable c then codePointEscape c
  else [c]

/-- A text in double quotes, fit to stand in a one-line message. -/
def quote (text : String) : String :=
  String.ofList (['"'] ++ text.toList.flatMap (quotedChar '"') ++ ['"'])

/-- A character in single quotes, fit to stand in a one-line message. -/
def quoteChar (c : Char) : String :=
  String.ofList (['\''] ++ quotedChar '\'' c ++ ['\''])

end PrintPlanner.Text
