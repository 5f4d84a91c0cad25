import WoundWait.Decimal.Binary64
import WoundWait.Word

/-!
Number literals as they are written, and the numbers they stand for.

A literal without fraction and exponent, and without a sign, is a natural number. A literal read as
a double goes through a 64-bit significand: digits that no longer fit are left out, and the
significand is then multiplied or divided by a power of ten, both as doubles. The result is not
always the nearest double.
-/

namespace WoundWait

namespace Json

structure NumberLiteral where
  negative : Bool
  whole : List Char
  fraction : List Char
  exponent : Option (Bool × List Char)
  deriving DecidableEq, Repr

namespace NumberLiteral

def digitValue (digit : Char) : Nat :=
  digit.toNat - '0'.toNat

def digitsValue (digits : List Char) : Nat :=
  digits.foldl (fun value digit => value * 10 + digitValue digit) 0

def isNumberCharacter (character : Char) : Bool :=
  character.isDigit || character == '-' || character == '+' || character == '.' ||
    character == 'e' || character == 'E'

def exponent? (characters : List Char) : Option (Bool × List Char) :=
  let signed :=
    match characters with
    | '-' :: digits => (true, digits)
    | '+' :: digits => (false, digits)
    | digits => (false, digits)
  if signed.2.isEmpty || !signed.2.all Char.isDigit then none else some signed

def tail? (negative : Bool) (whole characters : List Char) : Option NumberLiteral :=
  let afterFraction (fraction : List Char) : List Char → Option NumberLiteral
    | [] => some { negative, whole, fraction, exponent := none }
    | mark :: rest =>
        if mark == 'e' || mark == 'E' then
          (exponent? rest).map fun exponent =>
            { negative, whole, fraction, exponent := some exponent }
        else none
  match characters with
  | '.' :: rest =>
      let fraction := rest.takeWhile Char.isDigit
      if fraction.isEmpty then none else afterFraction fraction (rest.dropWhile Char.isDigit)
  | rest => afterFraction [] rest

def ofCharacters? (characters : List Char) : Option NumberLiteral :=
  let signed :=
    match characters with
    | '-' :: rest => (true, rest)
    | rest => (false, rest)
  let whole := signed.2.takeWhile Char.isDigit
  if whole.isEmpty || (whole.head? == some '0' && 1 < whole.length) then none
  else tail? signed.1 whole (signed.2.dropWhile Char.isDigit)

def natural? (literal : NumberLiteral) : Option Nat :=
  if literal.negative || !literal.fraction.isEmpty || literal.exponent.isSome then none
  else some (digitsValue literal.whole)

structure Scaled where
  significand : Nat
  power : Int
  deriving DecidableEq, Repr

def takeWhole (scaled : Scaled) : List Char → Scaled
  | [] => scaled
  | digit :: rest =>
      let next := scaled.significand * 10 + digitValue digit
      if next ≤ Word.limit then takeWhole { scaled with significand := next } rest
      else { scaled with power := scaled.power + (rest.length + 1 : Nat) }

def takeFraction (scaled : Scaled) : List Char → Scaled
  | [] => scaled
  | digit :: rest =>
      let next := scaled.significand * 10 + digitValue digit
      if next ≤ Word.limit then
        takeFraction { significand := next, power := scaled.power - 1 } rest
      else scaled

def powerOfTen (power : Nat) : Float :=
  Binary64.ofDecimal false 1 power

/-- Scales a significand in steps of at most 308 powers of ten. An overflow fails, an underflow does
not. -/
def scale? : Nat → Float → Int → Option Float
  | 0, value, _ => some value
  | steps + 1, value, power =>
      if power.natAbs ≤ 308 then
        if 0 ≤ power then
          let scaled := value * powerOfTen power.toNat
          if scaled.isInf then none else some scaled
        else some (value / powerOfTen power.natAbs)
      else if value == 0.0 then some value
      else if 0 ≤ power then none
      else scale? steps (value / powerOfTen 308) (power + 308)

def scaledFloat? (scaled : Scaled) : Option Float :=
  scale? 8 (UInt64.ofNat scaled.significand).toFloat scaled.power

def exponentLimit : Nat := 2147483647

/-- Exponents are kept in 32 bits; one that does not fit makes the number zero, or fails. -/
def float? (literal : NumberLiteral) : Option Float :=
  let scaled := takeFraction (takeWhole { significand := 0, power := 0 } literal.whole)
    literal.fraction
  let magnitude? :=
    match literal.exponent with
    | none => scaledFloat? scaled
    | some (negative, digits) =>
        let exponent := digitsValue digits
        if exponentLimit < exponent then
          if scaled.significand = 0 || negative then some 0.0 else none
        else
          scaledFloat? { scaled with
            power := if negative then scaled.power - exponent else scaled.power + exponent }
  magnitude?.map fun magnitude => if literal.negative then -magnitude else magnitude

end NumberLiteral

end Json

end WoundWait
