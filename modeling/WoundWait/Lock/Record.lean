import WoundWait.Instant
import WoundWait.TransactionId
import WoundWait.Priority
import WoundWait.AccessCounter
import WoundWait.Status
import WoundWait.Error

/-!
The lock's own view of one admitted transaction. Counts only grow while the record is resident; a
transaction that lost its record and comes back gets a fresh one.
-/

namespace WoundWait

abbrev Timestamp := Int

structure TransactionRecord (State : Type) where
  transaction : TransactionId
  -- How many records the lock had made before this one; it tells admissions of one transaction
  -- apart.
  serial : Nat
  priority : Priority
  accesses : AccessCounter
  deadline : Instant
  role : CommitRole
  timestamp : Option Timestamp
  state : Option State
  deriving DecidableEq, Repr

/-- Work on an admitted record. It sees the whole record, but leaves only a result and a new working
copy. That is an assumption on callers: they are handed a mutable reference, through which a whole
record could be put in the place of this one. -/
abbrev Operation (State Result : Type) :=
  TransactionRecord State → Except Failure Result × Option State

namespace TransactionRecord

variable {State Result : Type}

def fresh (serial : Nat) (transaction : TransactionId) (priority : Priority) (deadline : Instant) :
    TransactionRecord State :=
  { transaction, serial, priority
    accesses := .zero
    deadline
    role := .notYetDetermined
    timestamp := none
    state := none }

def hasWrites (record : TransactionRecord State) : Bool :=
  0 < record.accesses.writes

def withState (record : TransactionRecord State) (state : Option State) :
    TransactionRecord State :=
  { record with state }

def countAccess (record : TransactionRecord State) (mode : AccessMode) :
    TransactionRecord State :=
  { record with accesses := record.accesses.record mode }

def run (record : TransactionRecord State) (operation : Operation State Result) :
    Except Failure Result × TransactionRecord State :=
  let outcome := operation record
  (outcome.1, record.withState outcome.2)

/-- Notes what was decided about the transaction. A role that lets it leave renews its deadline. -/
def assignRole (record : TransactionRecord State) (role : CommitRole) (timestamp : Timestamp)
    (renewed : Instant) : TransactionRecord State :=
  { record with
    role
    timestamp := some timestamp
    deadline := if role.isExitReady then renewed else record.deadline }

def agesBefore (first second : TransactionRecord State) : Bool :=
  first.priority ≤ second.priority

def listsBefore (first second : TransactionRecord State) : Bool :=
  first.priority < second.priority ||
    (first.priority == second.priority &&
      first.transaction.toNat ≤ second.transaction.toNat)

/-- By commit timestamp, then by priority. A record without a timestamp goes first. -/
def commitsBefore (first second : TransactionRecord State) : Bool :=
  match first.timestamp, second.timestamp with
  | none, some _ => true
  | some _, none => false
  | none, none => first.priority ≤ second.priority
  | some earlier, some later =>
      earlier < later || (earlier == later && first.priority ≤ second.priority)

end TransactionRecord

end WoundWait
