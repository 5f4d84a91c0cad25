import WoundWait.Lock.Record

/-!
The transactions that hold one lock together, and who has to give way to whom.

A write conflicts with every other member, a read with the members that wrote, and a newcomer to a
full group with every member. An entrant that is younger than some conflicting member is refused; if
every conflicting member is as young as the entrant or younger, they are wounded.
-/

namespace WoundWait

inductive Conflict where
  | absent
  | resolvable
  | unresolvable (holder : TransactionId) (holderPriority : Priority)
  deriving DecidableEq, Repr

def Conflict.note {State : Type} (priority : Priority) (outcome : Conflict)
    (member : TransactionRecord State) : Conflict :=
  if priority.isYoungerThan member.priority then
    match outcome with
    | unresolvable _ holderPriority =>
        if member.priority < holderPriority then
          unresolvable member.transaction member.priority
        else outcome
    | _ => unresolvable member.transaction member.priority
  else
    match outcome with
    | absent => resolvable
    | _ => outcome

structure LockGroup (State : Type) where
  members : List (TransactionRecord State)
  fillCount : Nat
  deadline : Option Instant
  deriving DecidableEq, Repr

namespace LockGroup

variable {State : Type}

def empty : LockGroup State :=
  { members := [], fillCount := 0, deadline := none }

instance : Inhabited (LockGroup State) := ⟨empty⟩

def size (group : LockGroup State) : Nat :=
  group.members.length

def isEmpty (group : LockGroup State) : Bool :=
  group.members.isEmpty

def find? (group : LockGroup State) (transaction : TransactionId) :
    Option (TransactionRecord State) :=
  group.members.find? fun member => member.transaction == transaction

def contains (group : LockGroup State) (transaction : TransactionId) : Bool :=
  (group.find? transaction).isSome

def isExpired (group : LockGroup State) (clock : Instant) : Bool :=
  isDue clock group.deadline

def transactions (group : LockGroup State) : List TransactionId :=
  (group.members.mergeSort TransactionRecord.listsBefore).map fun member => member.transaction

def conflictsWith (mode : AccessMode) (atCapacity : Bool) (member : TransactionRecord State) :
    Bool :=
  atCapacity || mode == .write || member.hasWrites

def conflict (group : LockGroup State) (transaction : TransactionId) (mode : AccessMode)
    (priority : Priority) (atCapacity : Bool) : Conflict :=
  (group.members.filter fun member =>
      member.transaction != transaction && conflictsWith mode atCapacity member).foldl
    (Conflict.note priority) .absent

def refreshDeadline (group : LockGroup State) : LockGroup State :=
  { group with deadline := earliest (group.members.map fun member => some member.deadline) }

def insert (group : LockGroup State) (record : TransactionRecord State) : LockGroup State :=
  refreshDeadline
    { group with
      members := group.members ++ [record]
      fillCount := group.fillCount + 1 }

-- The deadline is renewed only if somebody leaves.
def keepOnly (group : LockGroup State) (stays : TransactionRecord State → Bool) : LockGroup State :=
  if group.members.all stays then group
  else refreshDeadline { group with members := group.members.filter stays }

def erase (group : LockGroup State) (transaction : TransactionId) : LockGroup State :=
  group.keepOnly fun member => member.transaction != transaction

def others (group : LockGroup State) (transaction : TransactionId) :
    List (TransactionRecord State) :=
  group.members.filter fun member => member.transaction != transaction

def eraseOthers (group : LockGroup State) (transaction : TransactionId) : LockGroup State :=
  refreshDeadline
    { group with
      members := group.members.filter fun member => member.transaction == transaction }

def modify (group : LockGroup State) (transaction : TransactionId)
    (change : TransactionRecord State → TransactionRecord State) : LockGroup State :=
  { group with
    members := group.members.map fun member =>
      if member.transaction = transaction then change member else member }

def drained (group : LockGroup State) : List (TransactionRecord State) :=
  group.members.mergeSort TransactionRecord.agesBefore

def emptied (group : LockGroup State) : LockGroup State :=
  { group with members := [], deadline := none }

def purgeAborted (group : LockGroup State) : LockGroup State :=
  group.keepOnly fun member => member.role != .aborted

def allExitReady (group : LockGroup State) : Bool :=
  group.members.all fun member => member.role.isExitReady

def exiting (group : LockGroup State) : List (TransactionRecord State) :=
  group.members.mergeSort TransactionRecord.commitsBefore

end LockGroup

end WoundWait
