import WoundWait.Cooperative
import WoundWait.Worker.Bench
import WoundWait.Lock.Basic
import WoundWait.System.Queue

/-!
A lock with everything around it: its worker, the storage worker, the outcome queue, and the calls
that could not finish at once. Calls and workers are tasks that take turns; what happens within a
turn is indivisible. Every transition is a total function of the system, so a run is a list of them.
-/

namespace WoundWait

inductive Task where
  | storage
  | lock
  | call (call : CallId)
  deriving DecidableEq, Repr

/-- What is left of a run of the lock's worker. Exits are handed over one after the other, broken
locks all at once. -/
inductive TickRun (State : Type) where
  | exiting (current : HandOff State) (rest : List (TransactionRecord State))
  | breaking (pending : List (HandOff State))

inductive Request (State Result : Type) where
  | enter (request : EntryRequest State Result)
  | validate (transaction : TransactionId) (counter : AccessCounter)
  | rollback (transaction : TransactionId) (notify : Bool)
  | abortAll
  | handOver (record : TransactionRecord State) (outcome : Outcome)
  | recover
  | flushStorage
  | sleep (milliseconds : Nat)

inductive Answer (State Result : Type) where
  | entered (result : Except LockError Result)
  | validated (status : TransactionalStatus) (record : Option (TransactionRecord State))
  | rolledBack
  | aborted (count : Nat)
  | handedOver (reply : Except QueueError Unit)
  | flushed (answer : FlushAnswer)
  | slept

inductive Stage (State Result : Type) where
  | atGate (request : EntryRequest State Result)
  | notifying (pending : List (HandOff State)) (answer : Answer State Result)
  | handing (handOff : HandOff State)
  | flushing (answer : Option FlushAnswer)
  | sleeping (due : Instant)

structure PendingCall (State Result : Type) where
  call : CallId
  stage : Stage State Result

inductive JournalEntry (State Result : Type) where
  | handed (clock : Instant) (record : TransactionRecord State) (outcome : Outcome)
      (accepted : Bool)
  | answered (clock : Instant) (call : CallId) (answer : Answer State Result)

structure System (State Result : Type) where
  clock : Instant
  lock : Lock State
  queue : OutcomeQueue State
  lockWorker : Worker (TickRun State) CallId
  storageWorker : Worker Unit CallId
  calls : List (PendingCall State Result)
  ready : List Task
  -- Newest first.
  journal : List (JournalEntry State Result)

namespace Stage

variable {State Result : Type}

def timer? : Stage State Result → Option Instant
  | notifying pending _ => earliest (pending.map fun handOff => some handOff.due)
  | handing handOff => some handOff.due
  | sleeping due => some due
  | atGate _ | flushing _ => none

def isAtGate : Stage State Result → Bool
  | atGate _ => true
  | _ => false

end Stage

namespace TickRun

variable {State : Type}

def timer? : TickRun State → Option Instant
  | exiting current _ => some current.due
  | breaking pending => earliest (pending.map fun handOff => some handOff.due)

end TickRun

namespace System

variable {State Result : Type}

def new (options : Options) : System State Result :=
  { clock := 0
    lock := .new options
    queue := .new
    lockWorker := .new
    storageWorker := .new
    calls := []
    ready := [.storage, .lock]
    journal := [] }

def wake (system : System State Result) (task : Task) : System State Result :=
  { system with ready := Cooperative.enqueue system.ready task }

def note (system : System State Result) (entry : JournalEntry State Result) :
    System State Result :=
  { system with journal := entry :: system.journal }

/-! Workers -/

def wakeLock (system : System State Result) : System State Result :=
  if system.lockWorker.isWaiting then system.wake .lock else system

def wakeStorage (system : System State Result) : System State Result :=
  if system.storageWorker.isWaiting then system.wake .storage else system

def notifyLock (system : System State Result) : System State Result :=
  { system with lockWorker := system.lockWorker.notify }.wakeLock

def notifyLockAt (system : System State Result) (instant : Instant) : System State Result :=
  { system with lockWorker := system.lockWorker.notifyAt instant }.wakeLock

def notifyStorage (system : System State Result) : System State Result :=
  { system with storageWorker := system.storageWorker.notify }.wakeStorage

def answerFlushes (system : System State Result) (waiters : List CallId) (answer : FlushAnswer) :
    System State Result :=
  let answered := waiters.filter fun waiter => system.calls.any fun call => call.call == waiter
  { system with
    calls := system.calls.map fun call =>
      if call.call ∈ answered then { call with stage := .flushing (some answer) } else call
    ready := Cooperative.enqueueAll system.ready (answered.map .call) }

def lockStopped : WorkerError := .stopped "rw-lock"

def storageStopped : WorkerError := .stopped "storage"

/-- Stops the lock's worker, also in the middle of hand-offs; these are never completed. -/
def stopLock (system : System State Result) : System State Result :=
  let waiters := system.lockWorker.waiters
  { system with lockWorker := system.lockWorker.stop }.answerFlushes waiters (.error lockStopped)

def stopStorage (system : System State Result) : System State Result :=
  let waiters := system.storageWorker.waiters
  { system with storageWorker := system.storageWorker.stop }.answerFlushes waiters
    (.error storageStopped)

/-! Hand-offs -/

def deliver (system : System State Result) (handOff : HandOff State) : System State Result :=
  { system with queue := system.queue.receive handOff }.note
    (.handed system.clock handOff.record handOff.outcome (!system.queue.rejects handOff))

def deliverDue (system : System State Result) :
    List (HandOff State) → System State Result × List (HandOff State)
  | [] => (system, [])
  | handOff :: rest =>
      if handOff.due ≤ system.clock then (system.deliver handOff).deliverDue rest
      else
        let later := system.deliverDue rest
        (later.1, handOff :: later.2)

def startNotifying (system : System State Result) (records : List (TransactionRecord State)) :
    System State Result × List (HandOff State) :=
  system.deliverDue (records.map (system.queue.handOff system.clock (.abort .brokenLock)))

def deliverExits (system : System State Result) :
    List (TransactionRecord State) → System State Result × Option (TickRun State)
  | [] => (system, none)
  | record :: rest =>
      let handOff := system.queue.handOff system.clock .commit record
      if handOff.due ≤ system.clock then (system.deliver handOff).deliverExits rest
      else (system, some (.exiting handOff rest))

/-! The lock's worker -/

def finishTick (system : System State Result) : System State Result :=
  let taken := system.lockWorker.taken
  let ended :=
    { system with lockWorker := system.lockWorker.finish }.answerFlushes taken (.ok ())
  { ended with ready := .lock :: ended.ready }

def concludeExits (progress : System State Result × Option (TickRun State)) :
    System State Result :=
  match progress with
  | (system, none) => system.notifyLock.notifyStorage.finishTick
  | (system, some run) => { system with lockWorker := system.lockWorker.continueRun run }

def concludeBreaks (progress : System State Result × List (HandOff State)) :
    System State Result :=
  match progress with
  | (system, []) => system.notifyLock.finishTick
  | (system, pending) =>
      { system with lockWorker := system.lockWorker.continueRun (.breaking pending) }

def startTick (system : System State Result) : System State Result :=
  let decision := system.lock.tick system.clock
  let looked :=
    { system with
      lock := decision.2
      lockWorker := system.lockWorker.start (.breaking []) }
  match decision.1 with
  | .idle => looked.finishTick
  | .recheck instant => (looked.notifyLockAt instant).finishTick
  | .exit records => concludeExits (looked.deliverExits records)
  | .breakLock records => concludeBreaks (looked.startNotifying records)

def continueTick (system : System State Result) : TickRun State → System State Result
  | .exiting current rest =>
      if current.due ≤ system.clock then
        concludeExits ((system.deliver current).deliverExits rest)
      else system
  | .breaking pending => concludeBreaks (system.deliverDue pending)

def lockTurn (system : System State Result) : System State Result :=
  match system.lockWorker.phase with
  | .stopped => system
  | .running run _ => system.continueTick run
  | .waiting =>
      let collected := { system with lockWorker := system.lockWorker.collect system.clock }
      if collected.lockWorker.pending.now then collected.startTick else collected

def storageTurn (system : System State Result) : System State Result :=
  match system.storageWorker.phase with
  | .waiting =>
      let worker := system.storageWorker.collect system.clock
      if worker.pending.now then
        let started := worker.start ()
        let ended :=
          { system with storageWorker := started.finish }.answerFlushes started.taken (.ok ())
        { ended with ready := .storage :: ended.ready }
      else { system with storageWorker := worker }
  | _ => system

/-! Calls -/

inductive Progress (State Result : Type) where
  | answered (answer : Answer State Result)
  | waits (stage : Stage State Result)

def notifyThen (system : System State Result) (records : List (TransactionRecord State))
    (answer : Answer State Result) : System State Result × Progress State Result :=
  match system.startNotifying records with
  | (notified, []) => (notified, .answered answer)
  | (notified, pending) => (notified, .waits (.notifying pending answer))

def notifyAfterEntry (system : System State Result)
    (wounded : List (TransactionRecord State)) : System State Result :=
  if wounded.isEmpty then
    match system.lock.group.bind LockGroup.deadline with
    | some deadline => system.notifyLockAt deadline
    | none => system
  else system.notifyLock

def enterLock (system : System State Result) (request : EntryRequest State Result) :
    System State Result × Progress State Result :=
  match system.lock.enter system.clock request with
  | .error refusal => (system, .answered (.entered (.error refusal)))
  | .ok entry =>
      ({ system with lock := entry.lock }.notifyAfterEntry entry.wounded).notifyThen entry.wounded
        (.entered (entry.result.mapError .operation))

def passGate (system : System State Result) (request : EntryRequest State Result) :
    System State Result × Progress State Result :=
  if system.queue.gateOpen then system.enterLock request else (system, .waits (.atGate request))

def validateLock (system : System State Result) (transaction : TransactionId)
    (counter : AccessCounter) : System State Result × Progress State Result :=
  match system.lock.validate transaction counter with
  | .notResident => (system, .answered (.validated .brokenLock none))
  | .confirmed record => (system, .answered (.validated .ok (some record)))
  | .refuted record lock =>
      { system with lock }.notifyLock.notifyThen [record]
        (.validated .lockValidationFailed (some record))

def rollback (system : System State Result) (transaction : TransactionId) (notify : Bool) :
    System State Result × Progress State Result :=
  match system.lock.find? transaction with
  | none => (system, .answered .rolledBack)
  | some record =>
      { system with lock := system.lock.remove transaction }.notifyLock.notifyThen
        (if notify then [record] else []) .rolledBack

def abortAll (system : System State Result) : System State Result × Progress State Result :=
  let records := system.lock.residents
  let emptied := { system with lock := system.lock.emptied }
  (if records.isEmpty then emptied else emptied.notifyLock).notifyThen records
    (.aborted records.length)

def handOver (system : System State Result) (handOff : HandOff State) :
    System State Result × Progress State Result :=
  if handOff.due ≤ system.clock then
    (system.deliver handOff, .answered (.handedOver (system.queue.reply handOff)))
  else (system, .waits (.handing handOff))

def recover (system : System State Result) (call : CallId) :
    System State Result × Progress State Result :=
  if system.lockWorker.isStopped then (system, .answered (.flushed (.error lockStopped)))
  else
    ({ system with lockWorker := system.lockWorker.send (.flush call) }.wakeLock,
      .waits (.flushing none))

def flushStorage (system : System State Result) (call : CallId) :
    System State Result × Progress State Result :=
  if system.storageWorker.isStopped then (system, .answered (.flushed (.error storageStopped)))
  else
    ({ system with storageWorker := system.storageWorker.send (.flush call) }.wakeStorage,
      .waits (.flushing none))

def start (system : System State Result) (call : CallId) :
    Request State Result → System State Result × Progress State Result
  | .enter request =>
      { system with
        queue := { system.queue with readyCalls := system.queue.readyCalls + 1 } }.passGate request
  | .validate transaction counter => system.validateLock transaction counter
  | .rollback transaction notify => system.rollback transaction notify
  | .abortAll => system.abortAll
  | .handOver record outcome => system.handOver (system.queue.handOff system.clock outcome record)
  | .recover => system.recover call
  | .flushStorage => system.flushStorage call
  | .sleep 0 => (system, .answered .slept)
  | .sleep (before + 1) => (system, .waits (.sleeping (system.clock + (before + 1 : Nat))))

def proceed (system : System State Result) :
    Stage State Result → System State Result × Progress State Result
  | .atGate request => system.passGate request
  | .notifying pending answer =>
      match system.deliverDue pending with
      | (notified, []) => (notified, .answered answer)
      | (notified, later) => (notified, .waits (.notifying later answer))
  | .handing handOff => system.handOver handOff
  | .flushing none => (system, .waits (.flushing none))
  | .flushing (some answer) => (system, .answered (.flushed answer))
  | .sleeping due =>
      if due ≤ system.clock then (system, .answered .slept)
      else (system, .waits (.sleeping due))

def begin (system : System State Result) (call : CallId) (request : Request State Result) :
    System State Result × Option (Answer State Result) :=
  match system.start call request with
  | (started, .answered answer) => (started, some answer)
  | (started, .waits stage) => ({ started with calls := started.calls ++ [{ call, stage }] }, none)

def findCall? (system : System State Result) (call : CallId) :
    Option (PendingCall State Result) :=
  system.calls.find? fun pending => pending.call == call

def resume (system : System State Result) (call : CallId) :
    System State Result × Option (Answer State Result) :=
  match system.findCall? call with
  | none => (system, none)
  | some pending =>
      match system.proceed pending.stage with
      | (proceeded, .answered answer) =>
          ({ proceeded with
              calls := proceeded.calls.filter fun other => other.call != call }, some answer)
      | (proceeded, .waits stage) =>
          ({ proceeded with
              calls := proceeded.calls.map fun other =>
                if other.call = call then { other with stage } else other }, none)

def noteAnswer (call : CallId) (progress : System State Result × Option (Answer State Result)) :
    System State Result :=
  match progress with
  | (system, some answer) => system.note (.answered system.clock call answer)
  | (system, none) => system

def spawn (system : System State Result) (call : CallId) (request : Request State Result) :
    System State Result :=
  match system.begin call request with
  | (begun, some answer) => begun.note (.answered begun.clock call answer)
  | (begun, none) => begun.wake (.call call)

def cancelCalls (system : System State Result) : System State Result :=
  { system with calls := [] }

/-! Work on the lock that never waits -/

def assignRole (system : System State Result) (transaction : TransactionId) (role : CommitRole)
    (timestamp : Timestamp) : System State Result :=
  if (system.lock.find? transaction).isSome then
    { system with
      lock := system.lock.assignRole system.clock transaction role timestamp }.notifyLock
  else system

def withRecord (system : System State Result) (transaction : TransactionId)
    (operation : Operation State Result) : System State Result × Option (Except Failure Result) :=
  match system.lock.withRecord transaction operation with
  | none => (system, none)
  | some (result, lock) => ({ system with lock }, some result)

/-! The queue -/

def setGate (system : System State Result) (gateOpen : Bool) : System State Result :=
  let waiting :=
    if gateOpen then
      (system.calls.filter fun pending => pending.stage.isAtGate).map fun pending =>
        Task.call pending.call
    else []
  { system with
    queue := { system.queue with gateOpen }
    ready := Cooperative.enqueueAll system.ready waiting }

def setRejecting (system : System State Result) (rejecting : Bool) : System State Result :=
  { system with queue := { system.queue with rejecting } }

def setRefusals (system : System State Result)
    (refuses : Outcome → TransactionRecord State → Bool) : System State Result :=
  { system with queue := { system.queue with refuses } }

def setDelays (system : System State Result) (abortDelay commitDelay : Nat) :
    System State Result :=
  { system with queue := { system.queue with abortDelay, commitDelay } }

def setLag (system : System State Result) (lag : Outcome → TransactionRecord State → Nat) :
    System State Result :=
  { system with queue := { system.queue with lag } }

/-! Turns and the clock -/

def turnOf (system : System State Result) (task : Task) : System State Result :=
  if task ∈ system.ready then
    let resumed := { system with ready := system.ready.erase task }
    match task with
    | .storage => resumed.storageTurn
    | .lock => resumed.lockTurn
    | .call call => noteAnswer call (resumed.resume call)
  else system

def turn? (system : System State Result) : Option (System State Result) :=
  system.ready.head?.map system.turnOf

def lockTimer? (system : System State Result) : Option Instant :=
  match system.lockWorker.phase with
  | .running run _ => run.timer?
  | _ => system.lockWorker.timer?

def timers (system : System State Result) : List (Task × Option Instant) :=
  (.storage, system.storageWorker.timer?) :: (.lock, system.lockTimer?) ::
    system.calls.map fun pending => (.call pending.call, pending.stage.timer?)

def timer? (system : System State Result) : Option Instant :=
  earliest (system.timers.map fun timer => timer.2)

def advance (target : Instant) (system : System State Result) : System State Result :=
  let clock := max system.clock target
  let due := system.timers.filter fun timer => isDue clock timer.2
  { system with
    clock
    ready := Cooperative.enqueueAll system.ready (due.map fun timer => timer.1) }

def tickLength (system : System State Result) : Nat :=
  match system.lockWorker.phase with
  | .running (.exiting _ rest) _ => rest.length + 1
  | .running (.breaking pending) _ => pending.length
  | _ => 0

/-- Every turn uses up a message, a place in the queue of ready tasks, a pending call, or a record
that leaves the lock; each of these is good for a few turns. -/
def patience (system : System State Result) : Nat :=
  64 * (system.ready.length + system.calls.length + system.lockWorker.mailbox.length +
    system.storageWorker.mailbox.length + system.lock.residents.length + system.tickLength + 4)

instance : Cooperative (System State Result) where
  clock := clock
  turn? := turn?
  timer? := timer?
  advance := advance
  patience := patience

def hasAnswered (call : CallId) (system : System State Result) : Bool :=
  system.journal.any fun
    | .answered _ answered _ => answered == call
    | _ => false

def callAndWait (system : System State Result) (call : CallId) (request : Request State Result) :
    System State Result :=
  let begun := system.spawn call request
  Cooperative.settle (Cooperative.awaitWithin (hasAnswered call) begun.patience begun)

end System

end WoundWait
