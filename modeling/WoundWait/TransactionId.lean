import WoundWait.Hexadecimal

/-!
Transaction identities: 128-bit numbers, written as hyphenated lower-case UUIDs.
-/

namespace WoundWait

structure TransactionId where
  bits : BitVec 128
  deriving DecidableEq, Repr

namespace TransactionId

def ofNat (value : Nat) : TransactionId :=
  ⟨BitVec.ofNat 128 value⟩

def toNat (transaction : TransactionId) : Nat :=
  transaction.bits.toNat

instance : Inhabited TransactionId := ⟨ofNat 0⟩

instance : Ord TransactionId := ⟨fun first second => compare first.toNat second.toNat⟩

def uuid (transaction : TransactionId) : String :=
  let digits := Hexadecimal.digits 32 transaction.toNat
  let group (start size : Nat) := (digits.drop start).take size
  String.ofList <| List.intercalate ['-']
    [group 0 8, group 8 4, group 12 4, group 16 4, group 20 12]

def text (transaction : TransactionId) : String :=
  "tx:" ++ transaction.uuid

instance : ToString TransactionId := ⟨text⟩

end TransactionId

end WoundWait
