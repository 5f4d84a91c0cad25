import WoundWait.Lock.Record

/-!
The queue that takes over what leaves the lock. It keeps what it accepted in memory, can be told to
reject everything or single hand-offs, and holds newcomers back while its gate is closed. Each
hand-off takes the time that was set for its kind when it began, and longer if it lags.
-/

namespace WoundWait

inductive Outcome where
  | commit
  | abort (status : TransactionalStatus)
  deriving DecidableEq, Repr

/-- A hand-off that has begun and is over when the clock reaches its instant. -/
structure HandOff (State : Type) where
  record : TransactionRecord State
  outcome : Outcome
  due : Instant

structure OutcomeQueue (State : Type) where
  gateOpen : Bool
  rejecting : Bool
  refuses : Outcome → TransactionRecord State → Bool
  commitDelay : Nat
  abortDelay : Nat
  lag : Outcome → TransactionRecord State → Nat
  readyCalls : Nat
  commits : List (TransactionRecord State)
  aborts : List (TransactionId × TransactionalStatus)

namespace OutcomeQueue

variable {State : Type}

def new : OutcomeQueue State :=
  { gateOpen := true
    rejecting := false
    refuses := fun _ _ => false
    commitDelay := 0
    abortDelay := 0
    lag := fun _ _ => 0
    readyCalls := 0
    commits := []
    aborts := [] }

def committed (queue : OutcomeQueue State) : List (TransactionRecord State) :=
  queue.commits.reverse

def isCommitted (queue : OutcomeQueue State) (transaction : TransactionId) : Bool :=
  queue.commits.any fun record => record.transaction == transaction

def commitCount (queue : OutcomeQueue State) : Nat :=
  queue.commits.length

def aborted (queue : OutcomeQueue State) : List (TransactionId × TransactionalStatus) :=
  queue.aborts.reverse

def abortCount (queue : OutcomeQueue State) (transaction : TransactionId) : Nat :=
  queue.aborts.countP fun abort => abort.1 == transaction

def delay (queue : OutcomeQueue State) : Outcome → Nat
  | .commit => queue.commitDelay
  | .abort _ => queue.abortDelay

def handOff (queue : OutcomeQueue State) (clock : Instant) (outcome : Outcome)
    (record : TransactionRecord State) : HandOff State :=
  { record, outcome, due := clock + (queue.delay outcome + queue.lag outcome record : Nat) }

def rejects (queue : OutcomeQueue State) (handOff : HandOff State) : Bool :=
  queue.rejecting || queue.refuses handOff.outcome handOff.record

def receive (queue : OutcomeQueue State) (handOff : HandOff State) : OutcomeQueue State :=
  if queue.rejects handOff then queue
  else
    match handOff.outcome with
    | .commit => { queue with commits := handOff.record :: queue.commits }
    | .abort status =>
        { queue with aborts := (handOff.record.transaction, status) :: queue.aborts }

def reply (queue : OutcomeQueue State) (handOff : HandOff State) : Except QueueError Unit :=
  if queue.rejects handOff then .error (.rejected "injected failure") else .ok ()

end OutcomeQueue

end WoundWait
