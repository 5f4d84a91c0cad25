import WoundWait.Decimal.Binary64
import WoundWait.Word

/-!
Decimal numbers on their own: integers with a sign, and doubles in positional or scientific
notation.
-/

namespace WoundWait

namespace DecimalText

def digitsValue (digits : List Char) : Nat :=
  digits.foldl (fun value digit => value * 10 + (digit.toNat - '0'.toNat)) 0

def natural? (characters : List Char) : Option Nat :=
  if characters.isEmpty || !characters.all Char.isDigit then none
  else some (digitsValue characters)

def unsigned? (limit : Nat) (text : String) : Option Nat :=
  let digits :=
    match text.toList with
    | '+' :: rest => rest
    | characters => characters
  (natural? digits).bind (Word.within? limit)

def signed? (text : String) : Option Int :=
  let magnitude? : Option Int :=
    match text.toList with
    | '-' :: rest => (natural? rest).map fun value => -(value : Int)
    | '+' :: rest => (natural? rest).map fun value => (value : Int)
    | characters => (natural? characters).map fun value => (value : Int)
  magnitude?.bind Word.signed?

def exponent? : List Char → Option Int
  | '-' :: digits => (natural? digits).map fun value => -(value : Int)
  | '+' :: digits => (natural? digits).map fun value => (value : Int)
  | digits => (natural? digits).map fun value => (value : Int)

def magnitude? (negative : Bool) (characters : List Char) : Option Float :=
  let whole := characters.takeWhile Char.isDigit
  let afterWhole := characters.dropWhile Char.isDigit
  let split :=
    match afterWhole with
    | '.' :: rest => (rest.takeWhile Char.isDigit, rest.dropWhile Char.isDigit)
    | rest => ([], rest)
  let digits := whole ++ split.1
  let power? : Option Int :=
    match split.2 with
    | [] => some 0
    | mark :: rest => if mark == 'e' || mark == 'E' then exponent? rest else none
  if digits.isEmpty then none
  else power?.map fun power =>
    Binary64.ofDecimal negative (digitsValue digits) (power - (split.1.length : Nat))

def float? (text : String) : Option Float :=
  let signed :=
    match text.toList with
    | '-' :: rest => (true, rest)
    | '+' :: rest => (false, rest)
    | characters => (false, characters)
  let name := String.ofList (signed.2.map Char.toLower)
  if name = "inf" ∨ name = "infinity" then some (if signed.1 then -1.0 / 0.0 else 1.0 / 0.0)
  else if name = "nan" then some (0.0 / 0.0)
  else magnitude? signed.1 signed.2

end DecimalText

end WoundWait
