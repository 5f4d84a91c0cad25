import WoundWait.Options
import WoundWait.Lock.Group

/-!
The lock as a value. Each function here is one indivisible piece of work: what is read and changed
together, without waiting. Telling the worker and the outcome queue about it is left to the system
around the lock.
-/

namespace WoundWait

structure Lock (State : Type) where
  options : Options
  -- Absent until the first admission and after the group was discarded.
  group : Option (LockGroup State)
  admissions : Nat

structure EntryRequest (State Result : Type) where
  transaction : TransactionId
  priority : Priority
  counter : AccessCounter
  mode : AccessMode
  operation : Operation State Result

structure Entry (State Result : Type) where
  lock : Lock State
  result : Except Failure Result
  wounded : List (TransactionRecord State)

inductive Validation (State : Type) where
  | notResident
  | confirmed (record : TransactionRecord State)
  | refuted (record : TransactionRecord State) (lock : Lock State)

inductive TickDecision (State : Type) where
  | idle
  | exit (records : List (TransactionRecord State))
  | breakLock (records : List (TransactionRecord State))
  | recheck (instant : Instant)

structure LockSnapshot where
  active : Bool
  members : List TransactionId
  fillCount : Nat
  deadline : Option Instant
  deriving DecidableEq, Repr

def LockSnapshot.isIdle (snapshot : LockSnapshot) : Bool :=
  snapshot.members.isEmpty

namespace Lock

variable {State Result : Type}

def new (options : Options) : Lock State :=
  { options, group := none, admissions := 0 }

def find? (lock : Lock State) (transaction : TransactionId) : Option (TransactionRecord State) :=
  lock.group.bind fun group => group.find? transaction

def resolveConflict (group : LockGroup State) (transaction : TransactionId) (mode : AccessMode)
    (priority : Priority) (atCapacity : Bool) :
    Except LockError (LockGroup State × List (TransactionRecord State)) :=
  match group.conflict transaction mode priority atCapacity with
  | .absent => .ok (group, [])
  | .unresolvable holder _ => .error (.upgradeConflict transaction holder)
  | .resolvable => .ok (group.eraseOthers transaction, group.others transaction)

def grant (lock : Lock State) (clock : Instant) (request : EntryRequest State Result) :
    Except LockError (Lock State × List (TransactionRecord State)) :=
  let group := lock.group.getD .empty
  match lock.find? request.transaction with
  | some record =>
      if request.counter.exceeds record.accesses then
        .error (.counterAhead request.transaction)
      else
        match resolveConflict group request.transaction request.mode request.priority false with
        | .error refusal => .error refusal
        | .ok (remaining, wounded) => .ok ({ lock with group := some remaining }, wounded)
  | none =>
      if request.counter.isEmpty then
        match resolveConflict group request.transaction request.mode request.priority
            (lock.options.maxLockGroupSize ≤ group.size) with
        | .error refusal => .error refusal
        | .ok (remaining, wounded) =>
            let record := TransactionRecord.fresh lock.admissions request.transaction
              request.priority (clock + lock.options.lockAcquireTimeout)
            .ok ({ lock with
                group := some (remaining.insert record)
                admissions := lock.admissions + 1 }, wounded)
      else
        .error (.notResident request.transaction)

def modify (lock : Lock State) (transaction : TransactionId)
    (change : TransactionRecord State → TransactionRecord State) : Lock State :=
  { lock with group := lock.group.map fun group => group.modify transaction change }

/-- Admits a transaction, runs its operation on its record and counts the access, also when the
operation failed. -/
def enter (lock : Lock State) (clock : Instant) (request : EntryRequest State Result) :
    Except LockError (Entry State Result) :=
  match lock.grant clock request with
  | .error refusal => .error refusal
  | .ok (granted, wounded) =>
      match granted.find? request.transaction with
      | none => .error (.recordMissing request.transaction)
      | some record =>
          let outcome := record.run request.operation
          .ok
            { lock := granted.modify request.transaction fun _ =>
                outcome.2.countAccess request.mode
              result := outcome.1
              wounded }

def remove (lock : Lock State) (transaction : TransactionId) : Lock State :=
  { lock with group := lock.group.map fun group => group.erase transaction }

/-- A caller whose counts differ from the recorded ones loses its record. -/
def validate (lock : Lock State) (transaction : TransactionId) (counter : AccessCounter) :
    Validation State :=
  match lock.find? transaction with
  | none => .notResident
  | some record =>
      if record.accesses = counter then .confirmed record
      else .refuted record (lock.remove transaction)

def residents (lock : Lock State) : List (TransactionRecord State) :=
  (lock.group.map LockGroup.drained).getD []

def emptied (lock : Lock State) : Lock State :=
  { lock with group := lock.group.map LockGroup.emptied }

def assignRole (lock : Lock State) (clock : Instant) (transaction : TransactionId)
    (role : CommitRole) (timestamp : Timestamp) : Lock State :=
  { lock with
    group := lock.group.map fun group =>
      (group.modify transaction fun record =>
        record.assignRole role timestamp (clock + lock.options.lockTimeout)).refreshDeadline }

def withRecord (lock : Lock State) (transaction : TransactionId)
    (operation : Operation State Result) : Option (Except Failure Result × Lock State) :=
  (lock.find? transaction).map fun record =>
    let outcome := record.run operation
    (outcome.1, lock.modify transaction fun _ => outcome.2)

/-- One look at the group: aborted members go without a word; an empty group is discarded; a group
that is ready leaves, even past its deadline; a group past its deadline is broken; else it is left
until its deadline. -/
def tick (lock : Lock State) (clock : Instant) : TickDecision State × Lock State :=
  match lock.group with
  | none => (.idle, lock)
  | some found =>
      let group := found.purgeAborted
      if group.isEmpty then
        (.idle, { lock with group := none })
      else if group.allExitReady then
        (.exit group.exiting, { lock with group := none })
      else if group.isExpired clock then
        (.breakLock group.drained, { lock with group := some group.emptied })
      else
        match group.deadline with
        | some deadline => (.recheck deadline, { lock with group := some group })
        | none => (.idle, { lock with group := some group })

def snapshot (lock : Lock State) : LockSnapshot :=
  match lock.group with
  | none => { active := false, members := [], fillCount := 0, deadline := none }
  | some group =>
      { active := true
        members := group.transactions
        fillCount := group.fillCount
        deadline := group.deadline }

end Lock

end WoundWait
