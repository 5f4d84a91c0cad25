import WoundWait.Lock.Record

/-!
A small account book as the state under a lock, and the work that transactions do on it.
-/

namespace WoundWait

structure Ledger where
  balance : Int64
  entries : UInt64
  deriving DecidableEq, Repr

inductive LedgerWork where
  | read
  | add (amount : Int64)
  | set (amount : Int64)
  | bump (amount : Int64)
  | take
  | peek
  | counts
  | fail (text : String)
  | addThenFail (amount : Int64) (text : String)
  deriving DecidableEq, Repr

inductive LedgerResult where
  | balance (amount : Option Int64)
  | ledger (ledger : Option Ledger)
  | counts (counter : AccessCounter)
  deriving DecidableEq, Repr

namespace Ledger

def empty : Ledger := ⟨0, 0⟩

instance : Inhabited Ledger := ⟨empty⟩

def post (ledger : Ledger) (amount : Int64) : Ledger :=
  { balance := ledger.balance + amount, entries := ledger.entries + 1 }

def readBalance : Operation Ledger Int64 := fun record =>
  let ledger := record.state.getD empty
  (.ok ledger.balance, some ledger)

def postEntry (amount : Int64) : Operation Ledger Int64 := fun record =>
  let ledger := (record.state.getD empty).post amount
  (.ok ledger.balance, some ledger)

end Ledger

namespace LedgerWork

def operation : LedgerWork → Operation Ledger LedgerResult
  | read => fun record =>
      let outcome := Ledger.readBalance record
      (outcome.1.map fun balance => .balance (some balance), outcome.2)
  | add amount => fun record =>
      let outcome := Ledger.postEntry amount record
      (outcome.1.map fun balance => .balance (some balance), outcome.2)
  | set amount => fun _ => (.ok (.balance (some amount)), some ⟨amount, 0⟩)
  | bump amount => fun record =>
      let ledger := record.state.map fun ledger =>
        { ledger with balance := ledger.balance + amount }
      (.ok (.balance (ledger.map Ledger.balance)), ledger)
  | take => fun record => (.ok (.ledger record.state), none)
  | peek => fun record => (.ok (.ledger record.state), record.state)
  | counts => fun record => (.ok (.counts record.accesses), record.state)
  | fail text => fun record => (.error (.plain text), record.state)
  | addThenFail amount text => fun record =>
      (.error (.plain text), (Ledger.postEntry amount record).2)

end LedgerWork

end WoundWait
