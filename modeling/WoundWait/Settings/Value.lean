import WoundWait.Decimal.Reader

/-!
Settings of a layer before it is known what they are for, and their conversion to numbers.
-/

namespace WoundWait

inductive SettingValue where
  | boolean (value : Bool)
  | integer (value : Int)
  | float (value : Float)
  | text (value : String)
  | composite

namespace SettingValue

/-- Lower case letters; the sign of the kelvin is a capital k. -/
def lowerCharacter (character : Char) : Char :=
  if character = '\u212a' then 'k' else character.toLower

def lower (text : String) : String :=
  String.ofList (text.toList.map lowerCharacter)

def roundHalfUp (significand : Nat) (exponent : Int) : Nat :=
  if 0 ≤ exponent then significand * Nat.pow 2 exponent.toNat
  else
    let unit := Nat.pow 2 (-exponent).toNat
    (2 * significand + unit) / (2 * unit)

def roundFloat (value : Float) : Nat :=
  match Binary64.ofFloat value with
  | .nan => 0
  | .infinite negative => if negative then 0 else Word.limit
  | .finite negative significand exponent =>
      if negative then 0 else min (roundHalfUp significand exponent) Word.limit

def textNumber? (text : String) : Option Nat :=
  let word := lower text
  if word = "true" ∨ word = "on" ∨ word = "yes" then some 1
  else if word = "false" ∨ word = "off" ∨ word = "no" then some 0
  else DecimalText.unsigned? Word.limit text

def number? : SettingValue → Option Nat
  | boolean value => some (if value then 1 else 0)
  | integer value => if 0 ≤ value then some value.toNat else none
  | float value => some (roundFloat value)
  | text value => textNumber? value
  | composite => none

def ofVariable (text : String) : SettingValue :=
  if lower text = "true" then boolean true
  else if lower text = "false" then boolean false
  else
    match DecimalText.signed? text with
    | some value => integer value
    | none =>
        match DecimalText.float? text with
        | some value => float value
        | none => .text text

end SettingValue

end WoundWait
