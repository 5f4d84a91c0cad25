import WoundWait.TransactionId
import WoundWait.Status

/-!
Failures of admissions, of the outcome queue and of workers, with their texts.
-/

namespace WoundWait

inductive Failure where
  | plain (text : String)
  | context (text : String) (cause : Failure)
  deriving DecidableEq, Repr

def Failure.message : Failure → String
  | plain text => text
  | context text _ => text

inductive LockError where
  | brokenLock (transaction : TransactionId) (context : String)
  | upgradeConflict (transaction holder : TransactionId)
  | operation (failure : Failure)
  deriving DecidableEq, Repr

namespace LockError

def notResident (transaction : TransactionId) : LockError :=
  brokenLock transaction "when trying to re-enter lock"

def counterAhead (transaction : TransactionId) : LockError :=
  brokenLock transaction "when re-entering lock"

def recordMissing (transaction : TransactionId) : LockError :=
  brokenLock transaction "after admission"

def message : LockError → String
  | brokenLock transaction context =>
      "broken transaction lock for " ++ transaction.text ++ " " ++ context
  | upgradeConflict transaction holder =>
      "transaction " ++ transaction.text ++ " cannot acquire lock held by older transaction " ++
        holder.text
  | operation failure => failure.message

def status : LockError → TransactionalStatus
  | brokenLock .. => .brokenLock
  | upgradeConflict .. => .upgradeConflict
  | operation _ => .unknownException

/-- Refusals by the lock can be tried again from the start; a failed operation is the caller's own.
-/
def isRetryable : LockError → Bool
  | operation _ => false
  | _ => true

def transaction? : LockError → Option TransactionId
  | brokenLock transaction _ => some transaction
  | upgradeConflict transaction _ => some transaction
  | operation _ => none

end LockError

inductive QueueError where
  | closed
  | rejected (reason : String)
  deriving DecidableEq, Repr

def QueueError.message : QueueError → String
  | closed => "transaction queue closed"
  | rejected reason => "transaction queue rejected request: " ++ reason

inductive WorkerError where
  | stopped (name : String)
  deriving DecidableEq, Repr

def WorkerError.message : WorkerError → String
  | stopped name => "worker '" ++ name ++ "' has stopped"

end WoundWait
