import PrintPlanner.Json.Skip

/-!
# The grammar of JSON

What the bytes of a JSON text have to look like, and what they stand for, said without a reader.
A phrase is described by the bytes that it is made of, from the first to the last.

A string stands for characters.  Each of them is written as itself, if it is neither a quote nor a
backslash nor a control character below U+0020, or else as an escape: by a letter, by its code
point in four hexadecimal digits, or by the two code units of a surrogate pair.

Where a value is skipped, less is asked of the strings in it: their bytes need not be UTF-8, and
any code unit may be escaped.
-/

set_option autoImplicit false

namespace PrintPlanner.Json

/-- Any number of blanks, which may stand between two lexemes. -/
def IsGap (bytes : List UInt8) : Prop := ∀ b ∈ bytes, isBlankByte b = true

/-- The bytes are a phrase of the given kind with blanks around it. -/
def InGaps (phrase : List UInt8 → Prop) (bytes : List UInt8) : Prop :=
  ∃ before lexeme after, bytes = before ++ (lexeme ++ after) ∧
    IsGap before ∧ phrase lexeme ∧ IsGap after

/-! ## Strings -/

/-- Four hexadecimal digits and the number that they are. -/
inductive IsCodeUnit : List UInt8 → Nat → Prop where
  | digits {b₁ b₂ b₃ b₄ : UInt8} {d₁ d₂ d₃ d₄ : Nat} (first : hexValue? b₁ = some d₁)
      (second : hexValue? b₂ = some d₂) (third : hexValue? b₃ = some d₃)
      (fourth : hexValue? b₄ = some d₄) :
      IsCodeUnit [b₁, b₂, b₃, b₄] (((d₁ * 16 + d₂) * 16 + d₃) * 16 + d₄)

/-- What may follow a backslash, and the character that it then stands for. -/
inductive IsEscape : List UInt8 → Char → Prop where
  | letter {b : UInt8} {c : Char} (stands : shortEscape? b = some c) : IsEscape [b] c
  | codePoint {digits : List UInt8} {c : Char} (code : IsCodeUnit digits c.toNat) :
      IsEscape (byte 'u' :: digits) c
  | pair {leading trailing : List UInt8} {high low : Nat} {c : Char}
      (first : IsCodeUnit leading high) (second : IsCodeUnit trailing low)
      (isHigh : isLeading high = true) (isLow : isTrailing low = true)
      (code : c.toNat = (high - 0xd800) * 0x400 + (low - 0xdc00) + 0x10000) :
      IsEscape (byte 'u' :: (leading ++ byte '\\' :: byte 'u' :: trailing)) c

/-- Whether a character may stand for itself in a string. -/
def isUnescaped (c : Char) : Bool := c != '"' && c != '\\' && 0x20 ≤ c.toNat

/-- The bytes between the quotes of a string, and the characters of its text. -/
inductive Spells : List UInt8 → List Char → Prop where
  | nil : Spells [] []
  | unescaped {c : Char} {body : List UInt8} {chars : List Char} (plain : isUnescaped c = true)
      (rest : Spells body chars) : Spells (String.utf8EncodeChar c ++ body) (c :: chars)
  | escaped {escape body : List UInt8} {c : Char} {chars : List Char} (stands : IsEscape escape c)
      (rest : Spells body chars) : Spells (byte '\\' :: (escape ++ body)) (c :: chars)

/-- The bytes are a string, with its quotes, that stands for the text. -/
def IsString (bytes : List UInt8) (text : String) : Prop :=
  ∃ body, bytes = byte '"' :: (body ++ [byte '"']) ∧ Spells body text.toList

/-- What may follow a backslash in a skipped string. -/
inductive IsSkippedEscape : List UInt8 → Prop where
  | letter {b : UInt8} (stands : (shortEscape? b).isSome = true) : IsSkippedEscape [b]
  | codeUnit {digits : List UInt8} {unit : Nat} (code : IsCodeUnit digits unit) :
      IsSkippedEscape (byte 'u' :: digits)

/-- The bytes between the quotes of a skipped string. -/
inductive IsSkippedBody : List UInt8 → Prop where
  | nil : IsSkippedBody []
  | plain {b : UInt8} {body : List UInt8} (stands : isPlain b = true) (rest : IsSkippedBody body) :
      IsSkippedBody (b :: body)
  | escaped {escape body : List UInt8} (stands : IsSkippedEscape escape)
      (rest : IsSkippedBody body) : IsSkippedBody (byte '\\' :: (escape ++ body))

/-- The bytes are a skipped string with its quotes. -/
def IsSkippedString (bytes : List UInt8) : Prop :=
  ∃ body, bytes = byte '"' :: (body ++ [byte '"']) ∧ IsSkippedBody body

/-! ## Numbers and literals -/

/-- One or more decimal digits. -/
def IsDigits (bytes : List UInt8) : Prop := bytes ≠ [] ∧ ∀ b ∈ bytes, isDigit b = true

/-- The digits of a number before its point: more than one only if the first is not zero. -/
inductive IsWholePart : List UInt8 → Prop where
  | zero : IsWholePart [byte '0']
  | digits {b : UInt8} {others : List UInt8} (first : isDigit b = true) (nonzero : b ≠ byte '0')
      (further : ∀ b ∈ others, isDigit b = true) : IsWholePart (b :: others)

/-- The fraction of a number, if it has one. -/
inductive IsFraction : List UInt8 → Prop where
  | absent : IsFraction []
  | present {digits : List UInt8} (isDigits : IsDigits digits) : IsFraction (byte '.' :: digits)

/-- The exponent of a number, if it has one. -/
inductive IsExponent : List UInt8 → Prop where
  | absent : IsExponent []
  | present {mark : UInt8} {sign digits : List UInt8} (opens : isExponentMark mark = true)
      (signed : sign = [] ∨ sign = [byte '+'] ∨ sign = [byte '-']) (isDigits : IsDigits digits) :
      IsExponent (mark :: (sign ++ digits))

/-- The bytes are a number without a sign. -/
def IsUnsigned (bytes : List UInt8) : Prop :=
  ∃ whole fraction exponent, bytes = whole ++ (fraction ++ exponent) ∧
    IsWholePart whole ∧ IsFraction fraction ∧ IsExponent exponent

/-- The characters of a boolean. -/
def boolLiteral : Bool → List Char
  | true => ['t', 'r', 'u', 'e']
  | false => ['f', 'a', 'l', 's', 'e']

/-- The bytes are a value that is no list and no object. -/
inductive IsScalar : List UInt8 → Prop where
  | null : IsScalar (['n', 'u', 'l', 'l'].map byte)
  | bool (value : Bool) : IsScalar ((boolLiteral value).map byte)
  | positive {number : List UInt8} (digits : IsUnsigned number) : IsScalar number
  | negative {number : List UInt8} (digits : IsUnsigned number) :
      IsScalar (byte '-' :: number)
  | string {string : List UInt8} (quoted : IsSkippedString string) : IsScalar string

/-! ## Lists and objects -/

/-- The byte that opens a container. -/
def Container.opener : Container → UInt8
  | list => byte '['
  | object => 0x7b

/-- What stands before an entry: blanks, and a comma if it is not the first. -/
inductive IsSeparator : (first : Bool) → List UInt8 → Prop where
  | first {gap : List UInt8} (blank : IsGap gap) : IsSeparator true gap
  | comma {before after : List UInt8} (front : IsGap before) (behind : IsGap after) :
      IsSeparator false (before ++ byte ',' :: after)

/-- What an entry has before its value: a key and a colon in an object. -/
inductive IsLabel : Container → List UInt8 → Prop where
  | list : IsLabel .list []
  | object {key gap : List UInt8} (quoted : IsSkippedString key) (blank : IsGap gap) :
      IsLabel .object (key ++ (gap ++ [byte ':']))

/-- A value, or the rest of a container up to its closing byte. -/
inductive Phrase where
  | value
  | entries (container : Container) (first : Bool)

/-- The bytes are a phrase in which nothing is decoded. -/
inductive IsPhrase : Phrase → List UInt8 → Prop where
  | scalar {bytes : List UInt8} (scalar : IsScalar bytes) : IsPhrase .value bytes
  | container {container : Container} {body : List UInt8}
      (entries : IsPhrase (.entries container true) body) :
      IsPhrase .value (container.opener :: (body ++ [container.closer]))
  | done {container : Container} {first : Bool} {gap : List UInt8} (blank : IsGap gap) :
      IsPhrase (.entries container first) gap
  | next {container : Container} {first : Bool} {separator label gap value rest : List UInt8}
      (separated : IsSeparator first separator) (labelled : IsLabel container label)
      (blank : IsGap gap) (isValue : IsPhrase .value value)
      (others : IsPhrase (.entries container false) rest) :
      IsPhrase (.entries container first) (separator ++ (label ++ (gap ++ (value ++ rest))))

/-- The bytes are a value that may be skipped. -/
def IsValue (bytes : List UInt8) : Prop := IsPhrase .value bytes

end PrintPlanner.Json
