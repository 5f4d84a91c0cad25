/-!
What participants report about a transaction, and the role a participant gets once the fate of the
transaction is decided. The lock itself reports only `ok`, `brokenLock`, `lockValidationFailed` and
`upgradeConflict`; the commit protocol uses the others.
-/

namespace WoundWait

inductive TransactionalStatus where
  | ok
  | brokenLock
  | lockValidationFailed
  | upgradeConflict
  | prepareTimeout
  | cascadingAbort
  | participantResponseTimeout
  | tmResponseTimeout
  | storageConflict
  | presumedAbort
  | unknownException
  | assertionFailed
  | commitFailure
  deriving DecidableEq, Repr

namespace TransactionalStatus

def all : List TransactionalStatus :=
  [ok, brokenLock, lockValidationFailed, upgradeConflict, prepareTimeout, cascadingAbort,
    participantResponseTimeout, tmResponseTimeout, storageConflict, presumedAbort,
    unknownException, assertionFailed, commitFailure]

def isOk (status : TransactionalStatus) : Bool :=
  status == ok

def isLockFailure : TransactionalStatus → Bool
  | brokenLock | lockValidationFailed | upgradeConflict => true
  | _ => false

def code : TransactionalStatus → String
  | ok => "ok"
  | brokenLock => "broken_lock"
  | lockValidationFailed => "lock_validation_failed"
  | upgradeConflict => "upgrade_conflict"
  | prepareTimeout => "prepare_timeout"
  | cascadingAbort => "cascading_abort"
  | participantResponseTimeout => "participant_response_timeout"
  | tmResponseTimeout => "tm_response_timeout"
  | storageConflict => "storage_conflict"
  | presumedAbort => "presumed_abort"
  | unknownException => "unknown_exception"
  | assertionFailed => "assertion_failed"
  | commitFailure => "commit_failure"

def name : TransactionalStatus → String
  | ok => "Ok"
  | brokenLock => "BrokenLock"
  | lockValidationFailed => "LockValidationFailed"
  | upgradeConflict => "UpgradeConflict"
  | prepareTimeout => "PrepareTimeout"
  | cascadingAbort => "CascadingAbort"
  | participantResponseTimeout => "ParticipantResponseTimeout"
  | tmResponseTimeout => "TmResponseTimeout"
  | storageConflict => "StorageConflict"
  | presumedAbort => "PresumedAbort"
  | unknownException => "UnknownException"
  | assertionFailed => "AssertionFailed"
  | commitFailure => "CommitFailure"

def ofName? (text : String) : Option TransactionalStatus :=
  all.find? fun status => status.name == text

instance : ToString TransactionalStatus := ⟨code⟩

end TransactionalStatus

inductive CommitRole where
  | notYetDetermined
  | readOnly
  | localCommit
  | remoteCommit
  | aborted
  deriving DecidableEq, Repr

namespace CommitRole

instance : Inhabited CommitRole := ⟨notYetDetermined⟩

def all : List CommitRole :=
  [notYetDetermined, readOnly, localCommit, remoteCommit, aborted]

def isExitReady : CommitRole → Bool
  | readOnly | localCommit | remoteCommit => true
  | notYetDetermined | aborted => false

def isDetermined (role : CommitRole) : Bool :=
  role != notYetDetermined

def name : CommitRole → String
  | notYetDetermined => "NotYetDetermined"
  | readOnly => "ReadOnly"
  | localCommit => "LocalCommit"
  | remoteCommit => "RemoteCommit"
  | aborted => "Aborted"

def ofName? (text : String) : Option CommitRole :=
  all.find? fun role => role.name == text

end CommitRole

end WoundWait
