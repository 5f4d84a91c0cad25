import WoundWait.TransactionId

/-!
Written identities. Accepted are 32 hexadecimal digits, the hyphenated form, and the hyphenated form
in braces or after the name of the UUID namespace; case does not matter.
-/

namespace WoundWait

namespace TransactionId

def hyphenPlaces : List Nat := [8, 13, 18, 23]

def withoutHyphens? (characters : List Char) : Option (List Char) :=
  let placed := characters.zipIdx
  if characters.length = 36 ∧ hyphenPlaces.all fun place => characters[place]? == some '-' then
    some ((placed.filter fun entry => !hyphenPlaces.contains entry.2).map fun entry => entry.1)
  else none

def urnName : List Char := "urn:uuid:".toList

def unwrap (characters : List Char) : List Char :=
  if characters.length = 38 ∧ characters.head? = some '\x7b' ∧ characters.getLast? = some '\x7d' then
    (characters.drop 1).dropLast
  else if characters.length = 45 ∧ (characters.take 9).map Char.toLower = urnName then
    characters.drop 9
  else characters

def ofText? (text : String) : Option TransactionId :=
  let characters := text.toList
  let digits? :=
    if characters.length = 32 then some characters else withoutHyphens? (unwrap characters)
  (digits?.bind Hexadecimal.ofDigits?).map ofNat

end TransactionId

end WoundWait
