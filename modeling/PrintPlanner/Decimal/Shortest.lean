/-!
# Shortest decimals

The decimal text of a binary floating-point number has the fewest digits from which
the number is read back.  For each number of digits the decimals on that grid just
below and just above the number are tried, in exact arithmetic; the first grid with
one that rounds to the number wins, and of two such decimals the nearer.
-/

set_option autoImplicit false

namespace PrintPlanner

/-- The number `digits * 10 ^ exponent`, with a sign that also zero has. -/
structure Decimal where
  negative : Bool
  digits : Nat
  exponent : Int
deriving DecidableEq, Repr

namespace Decimal

/-- A positive fraction. -/
structure Ratio where
  numerator : Nat
  denominator : Nat

/-- The fraction times `base ^ exponent`. -/
def Ratio.scale (ratio : Ratio) (base : Nat) (exponent : Int) : Ratio :=
  if 0 ≤ exponent then ⟨ratio.numerator * base.pow exponent.toNat, ratio.denominator⟩
  else ⟨ratio.numerator, ratio.denominator * base.pow (-exponent).toNat⟩

/-- A positive number with the bounds of the decimals that are read back as it. -/
structure Interval where
  value : Ratio
  low : Ratio
  high : Ratio
  /-- Whether the bounds themselves are read back as the number. -/
  closed : Bool

/-- Whether a natural number lies within the bounds. -/
def Interval.holds (interval : Interval) (point : Nat) : Bool :=
  let fromLow := point * interval.low.denominator
  let fromHigh := point * interval.high.denominator
  if interval.closed then
    interval.low.numerator ≤ fromLow && fromHigh ≤ interval.high.numerator
  else interval.low.numerator < fromLow && fromHigh < interval.high.numerator

/-- The interval in units of `10 ^ exponent`. -/
def Interval.inUnits (interval : Interval) (exponent : Int) : Interval :=
  { interval with
    value := interval.value.scale 10 (-exponent)
    low := interval.low.scale 10 (-exponent)
    high := interval.high.scale 10 (-exponent) }

/-- The interval of `significand * 2 ^ exponent`.  Below a power of two the next number
is only half as far away as above it. -/
def Interval.ofBinary (significand : Nat) (exponent : Int) (powerOfTwo : Bool) : Interval where
  value := (Ratio.mk (4 * significand) 1).scale 2 (exponent - 2)
  low := (Ratio.mk (4 * significand - if powerOfTwo then 1 else 2) 1).scale 2 (exponent - 2)
  high := (Ratio.mk (4 * significand + 2) 1).scale 2 (exponent - 2)
  closed := significand % 2 == 0

/-- The point on the grid of natural numbers that is read back as the value: of the
two neighbours the nearer one, and of two equally near the even one. -/
def Interval.gridPoint? (interval : Interval) : Option Nat :=
  let below := interval.value.numerator / interval.value.denominator
  let twiceRest := 2 * (interval.value.numerator % interval.value.denominator)
  let aboveIsNearer := interval.value.denominator < twiceRest ||
    (interval.value.denominator == twiceRest && below % 2 == 1)
  match interval.holds below, interval.holds (below + 1) with
  | true, true => some (if aboveIsNearer then below + 1 else below)
  | true, false => some below
  | false, true => some (below + 1)
  | false, false => none

/-- The least `shift` from `start` on for which the fraction times `10 ^ shift` reaches one. -/
def leadingShift (ratio : Ratio) : (fuel start : Nat) → Nat
  | 0, start => start
  | fuel + 1, start =>
      if ratio.denominator ≤ ratio.numerator * Nat.pow 10 start then start
      else leadingShift ratio fuel (start + 1)

/-- The exponent of the leading decimal digit of a fraction. -/
def leadingExponent (ratio : Ratio) : Int :=
  let whole := ratio.numerator / ratio.denominator
  if 0 < whole then (Nat.toDigits 10 whole).length - 1
  else -(leadingShift ratio 400 0 : Int)

/-- The first grid point over the numbers of digits `17 - fuel`, …, 17. -/
def firstGridPoint (interval : Interval) (leading : Int) : Nat → Nat × Int
  | 0 =>
      let exponent := leading - 16
      let value := (interval.inUnits exponent).value
      (value.numerator / value.denominator, exponent)
  | fuel + 1 =>
      let exponent := leading - (16 - fuel : Int)
      match (interval.inUnits exponent).gridPoint? with
      | some point => (point, exponent)
      | none => firstGridPoint interval leading fuel

/-- The bit above the stored fraction of a number, which is not stored itself. -/
def hiddenBit : Nat := 4503599627370496

/-- The shortest decimal that is read back as a finite floating-point number. -/
def ofFloat (number : Float) : Decimal :=
  let bits := number.toBits.toNat
  let negative := bits >>> 63 == 1
  let biased := (bits >>> 52) % 2048
  let fraction := bits % hiddenBit
  let significand := if biased == 0 then fraction else hiddenBit + fraction
  if significand == 0 then ⟨negative, 0, 0⟩
  else
    let exponent : Int := (max biased 1 : Nat) - 1075
    let interval := Interval.ofBinary significand exponent (fraction == 0 && 1 < biased)
    let (digits, exponent) := firstGridPoint interval (leadingExponent interval.value) 17
    ⟨negative, digits, exponent⟩

/-! ## Text -/

/-- The significant digits of a decimal, without trailing zeros. -/
def significant (decimal : Decimal) : List Char :=
  ((Nat.toDigits 10 decimal.digits).reverse.dropWhile (· == '0')).reverse

/-- The exponent of the leading digit. -/
def leading (decimal : Decimal) : Int :=
  (Nat.toDigits 10 decimal.digits).length - 1 + decimal.exponent

/-- The digits with a point before the place of `10 ^ (-1)`. -/
def positional (digits : List Char) (leading : Int) : List Char :=
  if leading < 0 then
    ['0', '.'] ++ List.replicate (-leading - 1).toNat '0' ++ digits
  else
    let places := leading.toNat + 1
    let whole := digits.take places ++ List.replicate (places - digits.length) '0'
    let fraction := digits.drop places
    whole ++ ['.'] ++ (if fraction.isEmpty then ['0'] else fraction)

/-- The digits with a point after the first one, and the exponent with its sign. -/
def scientific (digits : List Char) (leading : Int) : List Char :=
  let point := match digits with
    | [] => []
    | [digit] => [digit]
    | digit :: fraction => digit :: '.' :: fraction
  point ++ ['e', if leading < 0 then '-' else '+'] ++ Nat.toDigits 10 leading.natAbs

/-- The text of a decimal: positional with a leading exponent from -5 to 15, scientific
beyond. -/
def text (decimal : Decimal) : String :=
  let digits := decimal.significant
  let unsigned :=
    if digits.isEmpty then ['0', '.', '0']
    else if -5 ≤ decimal.leading ∧ decimal.leading ≤ 15 then positional digits decimal.leading
    else scientific digits decimal.leading
  String.ofList (if decimal.negative then '-' :: unsigned else unsigned)

end Decimal

end PrintPlanner
