import WoundWait.Decimal.Binary64

/-!
The fewest decimal digits that read back as a given double, and among those the nearest to it; and
the layouts in which such digits are written.

A decimal reads back as a double if it lies in the interval around it that rounds to it. The ends
belong to the interval if the significand is even. For each number of digits, only the two
neighbours of the double on the decimal grid of that size can be the nearest decimal in the
interval.
-/

namespace WoundWait

structure Decimal where
  digits : Nat
  exponent : Int
  deriving DecidableEq, Repr

inductive DecimalTie where
  | toEven
  | upward
  deriving DecidableEq, Repr

namespace Decimal

structure Interval where
  low : Nat
  value : Nat
  high : Nat
  denominator : Nat
  closed : Bool

/-- The interval of a positive double in quarters of its last place. Below a power of two the places
are half as far apart. -/
def interval (significand : Nat) (exponent : Int) : Interval :=
  let narrow := significand == Binary64.hiddenBit && Binary64.leastExponent < exponent
  let scale := Nat.pow 2 (exponent - 2).toNat
  { low := (4 * significand - if narrow then 1 else 2) * scale
    value := 4 * significand * scale
    high := (4 * significand + 2) * scale
    denominator := Nat.pow 2 (2 - exponent).toNat
    closed := significand % 2 == 0 }

def liftingPower : Nat → Nat → Nat → Nat
  | 0, _, _ => 0
  | bound + 1, numerator, denominator =>
      if denominator ≤ numerator then 0 else liftingPower bound (numerator * 10) denominator + 1

def leadingPower (numerator denominator : Nat) : Int :=
  if denominator ≤ numerator then
    ((Nat.toDigits 10 (numerator / denominator)).length : Int) - 1
  else
    -(liftingPower 400 numerator denominator : Int)

def onGrid? (tie : DecimalTie) (interval : Interval) (power : Int) : Option Decimal :=
  let up := Nat.pow 10 (-power).toNat
  let unit := interval.denominator * Nat.pow 10 power.toNat
  let value := interval.value * up
  let inside (digits : Nat) : Bool :=
    if interval.closed then
      interval.low * up ≤ digits * unit && digits * unit ≤ interval.high * up
    else
      interval.low * up < digits * unit && digits * unit < interval.high * up
  let below := value / unit
  let above := below + 1
  let nearerAbove :=
    let twice := 2 * (value % unit)
    unit < twice || (unit == twice &&
      match tie with
      | .toEven => below % 2 == 1
      | .upward => true)
  match inside below, inside above with
  | true, true => some { digits := if nearerAbove then above else below, exponent := power }
  | true, false => some { digits := below, exponent := power }
  | false, true => some { digits := above, exponent := power }
  | false, false => none

def searchGrids (tie : DecimalTie) (interval : Interval) : Nat → Int → Decimal
  | 0, power => { digits := interval.value / interval.denominator, exponent := power }
  | grids + 1, power =>
      match onGrid? tie interval power with
      | some decimal => decimal
      | none => searchGrids tie interval grids (power - 1)

def stripZeros : Nat → Decimal → Decimal
  | 0, decimal => decimal
  | places + 1, decimal =>
      if decimal.digits % 10 = 0 ∧ decimal.digits ≠ 0 then
        stripZeros places { digits := decimal.digits / 10, exponent := decimal.exponent + 1 }
      else decimal

/-- The shortest decimal that reads back as a positive double. Seventeen digits always do. -/
def shortest (tie : DecimalTie) (significand : Nat) (exponent : Int) : Decimal :=
  let around := interval significand exponent
  stripZeros 20 (searchGrids tie around 17 (leadingPower around.value around.denominator))

end Decimal

structure FloatLayout where
  tie : DecimalTie
  positional : Int → Bool
  wholeEnding : String

namespace FloatLayout

def zeros (count : Nat) : String :=
  String.ofList (List.replicate count '0')

def pointAfter (whole : Nat) (digits : String) : String :=
  (digits.take whole).toString ++ "." ++ (digits.drop whole).toString

def layDigits (layout : FloatLayout) (digits : String) (power : Int) : String :=
  let length : Int := digits.length
  if layout.positional power then
    if power < 0 then "0." ++ zeros (-power - 1).toNat ++ digits
    else if length ≤ power + 1 then
      digits ++ zeros (power + 1 - length).toNat ++ layout.wholeEnding
    else pointAfter (power + 1).toNat digits
  else
    (if digits.length = 1 then digits else pointAfter 1 digits) ++ "e" ++
      (if power < 0 then "-" else "+") ++ toString power.natAbs

def write (layout : FloatLayout) (value : Float) : String :=
  match Binary64.ofFloat value with
  | .nan => "NaN"
  | .infinite negative => if negative then "-inf" else "inf"
  | .finite negative significand exponent =>
      (if negative then "-" else "") ++
        if significand = 0 then "0" ++ layout.wholeEnding
        else
          let decimal := Decimal.shortest layout.tie significand exponent
          let digits := toString decimal.digits
          layout.layDigits digits (decimal.exponent + (digits.length : Int) - 1)

def message : FloatLayout :=
  { tie := .upward, positional := fun _ => true, wholeEnding := "" }

def document : FloatLayout :=
  { tie := .toEven
    positional := fun power => -5 ≤ power && power < 16
    wholeEnding := ".0" }

end FloatLayout

end WoundWait
