/-!
Double-precision numbers taken apart into a sign and a natural number times a power of two, and the
double nearest to a quotient of natural numbers.
-/

namespace WoundWait

/-- A double: its value is `significand * 2 ^ exponent`, negated if it is negative. -/
inductive Binary64 where
  | nan
  | infinite (negative : Bool)
  | finite (negative : Bool) (significand : Nat) (exponent : Int)
  deriving DecidableEq, Repr

namespace Binary64

def hiddenBit : Nat := 4503599627370496

def signBit : Nat := 9223372036854775808

def leastExponent : Int := -1074

def ofFloat (value : Float) : Binary64 :=
  let bits := value.toBits.toNat
  let negative := bits / signBit == 1
  let biased := bits / hiddenBit % 2048
  let fraction := bits % hiddenBit
  if biased = 2047 then
    if fraction = 0 then infinite negative else nan
  else if biased = 0 then finite negative fraction leastExponent
  else finite negative (hiddenBit + fraction) (leastExponent + (biased - 1 : Nat))

def assemble (negative : Bool) (biased fraction : Nat) : Float :=
  Float.ofBits (.ofNat ((if negative then signBit else 0) + biased * hiddenBit + fraction))

def roundQuotient (numerator denominator : Nat) : Nat :=
  let quotient := numerator / denominator
  let twice := 2 * (numerator % denominator)
  if denominator < twice || (denominator == twice && quotient % 2 == 1) then quotient + 1
  else quotient

/-- The double nearest to `numerator / denominator`, for a positive denominator. A half goes to the
even neighbour, and what is too large becomes infinite. -/
def nearest (negative : Bool) (numerator denominator : Nat) : Float :=
  if numerator = 0 then assemble negative 0 0
  else
    let estimate : Int := (numerator.log2 : Int) - (denominator.log2 : Int)
    let magnitude :=
      if 0 ≤ estimate then
        if denominator * Nat.pow 2 estimate.toNat ≤ numerator then estimate else estimate - 1
      else
        if denominator ≤ numerator * Nat.pow 2 (-estimate).toNat then estimate else estimate - 1
    let exponent := max (magnitude - 52) leastExponent
    let significand :=
      if 0 ≤ exponent then roundQuotient numerator (denominator * Nat.pow 2 exponent.toNat)
      else roundQuotient (numerator * Nat.pow 2 (-exponent).toNat) denominator
    let biased := (exponent - leastExponent).toNat
    if significand < hiddenBit then assemble negative 0 significand
    else if significand = 2 * hiddenBit then
      if 2045 ≤ biased then assemble negative 2047 0 else assemble negative (biased + 2) 0
    else if 2046 ≤ biased then assemble negative 2047 0
    else assemble negative (biased + 1) (significand - hiddenBit)

def ofDecimal (negative : Bool) (digits : Nat) (exponent : Int) : Float :=
  let length : Int := digits.log2 / 3 + 1
  if digits = 0 || exponent + length < -400 then assemble negative 0 0
  else if 400 < exponent then assemble negative 2047 0
  else if 0 ≤ exponent then nearest negative (digits * Nat.pow 10 exponent.toNat) 1
  else nearest negative digits (Nat.pow 10 (-exponent).toNat)

end Binary64

end WoundWait
