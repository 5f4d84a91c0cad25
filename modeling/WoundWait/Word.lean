/-!
The ranges of numbers that are kept in 32 and in 64 bits.
-/

namespace WoundWait

namespace Word

def halfLimit : Nat := 4294967295

def limit : Nat := 18446744073709551615

def signedLimit : Nat := 9223372036854775807

def holdsSigned (value : Int) : Bool :=
  -(signedLimit : Int) - 1 ≤ value && value ≤ signedLimit

def signed? (value : Int) : Option Int :=
  if holdsSigned value then some value else none

def within? (limit value : Nat) : Option Nat :=
  if value ≤ limit then some value else none

def truncate (value : Nat) : Nat :=
  value % (limit + 1)

end Word

end WoundWait
