import PrintPlanner.Json.Lexeme

/-!
# Numbers in JSON

A number without fraction and exponent is an integer as long as it fits 64 bits.  Any
other number is a floating-point one: the digits that fit 64 bits make the
significand, further digits before the point only raise the exponent, and the power of
ten is multiplied or divided in floating point.  So the value is that of this
computation, which need not be the number nearest to the written one.
-/

set_option autoImplicit false

namespace PrintPlanner.Json

/-- Whether a byte is a decimal digit. -/
def isDigit (b : UInt8) : Bool := 0x30 ≤ b && b ≤ 0x39

/-- The value of a decimal digit. -/
def digitValue (b : UInt8) : Nat := b.toNat - 0x30

/-- Whether a byte opens an exponent. -/
def isExponentMark (b : UInt8) : Bool := b == byte 'e' || b == byte 'E'

/-- Whether the next byte satisfies a test. -/
def nextIs (test : UInt8 → Bool) (bytes : List UInt8) : Bool := bytes.head?.any test

/-- Digits gathered into 64 bits, with a count of the digits that came after. -/
structure Significand where
  value : Nat
  /-- How many digits were taken into the value. -/
  taken : Nat
  /-- How many digits were left out, starting with the first that would not fit. -/
  leftOut : Nat

/-- The significand after one more digit. -/
def Significand.push (significand : Significand) (digit : UInt8) : Significand :=
  let value := significand.value * 10 + digitValue digit
  if significand.leftOut = 0 ∧ value < UInt64.size then
    { significand with value, taken := significand.taken + 1 }
  else { significand with leftOut := significand.leftOut + 1 }

/-- The significand after some more digits. -/
def Significand.pushAll (value : Nat) (digits : List UInt8) : Significand :=
  digits.foldl Significand.push ⟨value, 0, 0⟩

/-- The number `significand * 10 ^ exponent` as computed by one multiplication or by
divisions of at most `10 ^ 308` each, or nothing if that exceeds the largest number. -/
def floatOfParts : (divisions : Nat) → (significand : Float) → (exponent : Int) → Option Float
  | divisions, significand, exponent =>
      if exponent.natAbs ≤ 308 then
        let power := Float.ofScientific 1 false exponent.natAbs
        if 0 ≤ exponent then
          let product := significand * power
          if product.isInf then none else some product
        else some (significand / power)
      else if significand == 0 then some significand
      else if 0 ≤ exponent then none
      else
        match divisions with
        | 0 => some 0
        | divisions + 1 => floatOfParts divisions (significand / 1e308) (exponent + 308)

/-- The decimal that shows a floating-point number with the given parts. -/
def decimalOfParts? (negative : Bool) (significand : Nat) (exponent : Int) : Option Decimal :=
  (floatOfParts 4 (Float.ofNat significand) exponent).map fun number =>
    { Decimal.ofFloat number with negative }

/-- The reading of a floating-point number with the given parts. -/
def finishDecimal (negative : Bool) (significand : Nat) (exponent : Int) (rest : List UInt8) :
    Except Fault (Found × List UInt8) :=
  match decimalOfParts? negative significand exponent with
  | some decimal => .ok (.decimal decimal, rest)
  | none => .error (.before .numberOutOfRange rest)

/-- The greatest 32-bit exponent; a written one beyond it is not kept. -/
def exponentLimit : Nat := 2147483647

/-- Gathers the digits of an exponent; a failure returns what is left after the digit
with which the exponent exceeds its limit. -/
def gatherExponent : (value : Nat) → List UInt8 → Except (List UInt8) (Nat × List UInt8)
  | value, [] => .ok (value, [])
  | value, b :: rest =>
      if isDigit b then
        let value := value * 10 + digitValue b
        if exponentLimit < value then .error rest else gatherExponent value rest
      else .ok (value, b :: rest)

/-- A sum as far as it lies within the range of kept exponents. -/
def clampExponent (exponent : Int) : Int :=
  max (-(exponentLimit : Int) - 1) (min exponentLimit exponent)

/-- Reads an exponent, of which the mark has been taken in, and with it the number. -/
def readExponent (negative : Bool) (significand : Nat) (start : Int) (bytes : List UInt8) :
    Except Fault (Found × List UInt8) :=
  let (raises, bytes) :=
    match bytes with
    | [] => (true, [])
    | b :: rest =>
        if b = byte '+' then (true, rest) else if b = byte '-' then (false, rest)
        else (true, b :: rest)
  match bytes with
  | [] => .error (.before .unfinishedValue [])
  | b :: rest =>
      if !isDigit b then .error (.before .badNumber rest)
      else
        match gatherExponent 0 (b :: rest) with
        | .ok (value, rest) =>
            let exponent := if raises then start + value else start - value
            finishDecimal negative significand (clampExponent exponent) rest
        | .error rest =>
            if significand ≠ 0 ∧ raises then .error (.before .numberOutOfRange rest)
            else .ok (.decimal ⟨negative, 0, 0⟩, rest.dropWhile isDigit)

/-- Reads an exponent if there is one, and ends the number otherwise. -/
def readOptionalExponent (negative : Bool) (significand : Nat) (exponent : Int)
    (bytes : List UInt8) : Except Fault (Found × List UInt8) :=
  if nextIs isExponentMark bytes then readExponent negative significand exponent bytes.tail
  else finishDecimal negative significand exponent bytes

/-- Reads a fraction, of which the point has been taken in, and with it the number. -/
def readFraction (negative : Bool) (significand : Nat) (exponent : Int) (bytes : List UInt8) :
    Except Fault (Found × List UInt8) :=
  let gathered := Significand.pushAll significand (bytes.takeWhile isDigit)
  let rest := bytes.dropWhile isDigit
  if nextIs isDigit bytes then
    readOptionalExponent negative gathered.value (exponent - gathered.taken) rest
  else if rest.isEmpty then .error (.atNext .unfinishedValue rest)
  else .error (.atNext .badNumber rest)

/-- The integer with the given sign and absolute value.  Negative zero, and what does
not fit 64 bits with a sign, are floating-point numbers. -/
def integerOrDecimal (negative : Bool) (value : Nat) : Found :=
  if !negative then .integer value
  else if 0 < value ∧ value ≤ 9223372036854775808 then .integer (-value)
  else .decimal { Decimal.ofFloat (Float.ofNat value) with negative := true }

/-- Reads on after the digits before the point. -/
def readAfterWhole (negative : Bool) (whole : Significand) (rest : List UInt8) :
    Except Fault (Found × List UInt8) :=
  if nextIs (· == byte '.') rest then
    readFraction negative whole.value whole.leftOut rest.tail
  else if nextIs isExponentMark rest then
    readExponent negative whole.value whole.leftOut rest.tail
  else if 0 < whole.leftOut then finishDecimal negative whole.value whole.leftOut rest
  else .ok (integerOrDecimal negative whole.value, rest)

/-- Reads a number, of which the sign has been taken in. -/
def readNumber (negative : Bool) : List UInt8 → Except Fault (Found × List UInt8)
  | [] => .error (.before .unfinishedValue [])
  | b :: rest =>
      if b = byte '0' then
        if nextIs isDigit rest then .error (.atNext .badNumber rest)
        else readAfterWhole negative ⟨0, 1, 0⟩ rest
      else if isDigit b then
        readAfterWhole negative (.pushAll 0 ((b :: rest).takeWhile isDigit))
          (rest.dropWhile isDigit)
      else .error (.before .badNumber rest)

end PrintPlanner.Json
