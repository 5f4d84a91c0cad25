/-!
Hexadecimal digits. They are written in lower case and read in either.
-/

namespace WoundWait

namespace Hexadecimal

def digit (value : Nat) : Char :=
  if value < 10 then Char.ofNat ('0'.toNat + value) else Char.ofNat ('a'.toNat + (value - 10))

def digits : Nat → Nat → List Char
  | 0, _ => []
  | width + 1, value => digits width (value / 16) ++ [digit (value % 16)]

def value? (digit : Char) : Option Nat :=
  if '0' ≤ digit ∧ digit ≤ '9' then some (digit.toNat - '0'.toNat)
  else if 'a' ≤ digit ∧ digit ≤ 'f' then some (digit.toNat - 'a'.toNat + 10)
  else if 'A' ≤ digit ∧ digit ≤ 'F' then some (digit.toNat - 'A'.toNat + 10)
  else none

def ofDigits? (digits : List Char) : Option Nat :=
  digits.foldl
    (fun number? digit => number?.bind fun number =>
      (value? digit).map fun value => number * 16 + value)
    (some 0)

end Hexadecimal

end WoundWait
