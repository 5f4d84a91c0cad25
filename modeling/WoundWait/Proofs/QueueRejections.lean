import Mathlib
import WoundWait.Proofs.CallAnswers

/-!
What the queue rejects makes no difference to anybody else. Two runs that differ only in what the
queue is told to reject take the same course: the lock, both workers with their messages, the calls,
the ready tasks, the hand-offs attempted and the answers given are the same after every event. Only
what the queue has recorded differs, and what it replied to those who handed a record over
themselves.
-/

namespace WoundWait

variable {State Result : Type}

def Event.judges : Event State Result → Bool
  | setRejecting _ | setRefusals _ => true
  | _ => false

def OutcomeQueue.unjudged (queue : OutcomeQueue State) : OutcomeQueue State :=
  { queue with rejecting := true, refuses := fun _ _ => false, commits := [], aborts := [] }

def Answer.unjudged : Answer State Result → Answer State Result
  | handedOver _ => handedOver (.error (.rejected "injected failure"))
  | other => other

def JournalEntry.unjudged : JournalEntry State Result → JournalEntry State Result
  | handed clock record outcome _ => handed clock record outcome false
  | answered clock call answer => answered clock call answer.unjudged

@[simp] theorem Answer.unjudged_unjudged (answer : Answer State Result) :
    answer.unjudged.unjudged = answer.unjudged := by
  cases answer <;> rfl

@[simp] theorem JournalEntry.unjudged_unjudged (entry : JournalEntry State Result) :
    entry.unjudged.unjudged = entry.unjudged := by
  cases entry <;> simp [unjudged]

namespace System

/-- The system but for the queue's judgement. -/
def unjudged (system : System State Result) : System State Result :=
  { system with
    queue := system.queue.unjudged
    journal := system.journal.map JournalEntry.unjudged }

@[simp] theorem unjudged_unjudged (system : System State Result) :
    system.unjudged.unjudged = system.unjudged := by
  simp [unjudged, OutcomeQueue.unjudged, List.map_map, Function.comp_def]

def Progress.unjudged : Progress State Result → Progress State Result
  | answered answer => answered answer.unjudged
  | waits stage => waits stage

/-! Nothing but the queue's own records depends on its judgement -/

variable (system : System State Result)

theorem unjudged_wakeLock : system.unjudged.wakeLock = system.wakeLock.unjudged :=
  (apply_ite unjudged (system.lockWorker.isWaiting = true) (system.wake .lock) system).symm

theorem unjudged_wakeStorage : system.unjudged.wakeStorage = system.wakeStorage.unjudged :=
  (apply_ite unjudged (system.storageWorker.isWaiting = true) (system.wake .storage) system).symm

theorem unjudged_notifyLock : system.unjudged.notifyLock = system.notifyLock.unjudged :=
  unjudged_wakeLock { system with lockWorker := system.lockWorker.notify }

theorem unjudged_notifyLockAt (instant : Instant) :
    system.unjudged.notifyLockAt instant = (system.notifyLockAt instant).unjudged :=
  unjudged_wakeLock { system with lockWorker := system.lockWorker.notifyAt instant }

theorem unjudged_notifyStorage : system.unjudged.notifyStorage = system.notifyStorage.unjudged :=
  unjudged_wakeStorage { system with storageWorker := system.storageWorker.notify }

theorem receive_unjudged (queue : OutcomeQueue State) (handOff : HandOff State) :
    (queue.receive handOff).unjudged = queue.unjudged := by
  unfold OutcomeQueue.receive
  split
  · rfl
  · cases handOff.outcome <;> rfl

/-- An accepted hand-off and a rejected one leave the same behind, but for the queue's own records.
-/
theorem unjudged_deliver (handOff : HandOff State) :
    system.unjudged.deliver handOff = (system.deliver handOff).unjudged := by
  have queue : (system.unjudged.deliver handOff).queue = (system.deliver handOff).unjudged.queue :=
    (receive_unjudged system.queue handOff).symm
  calc
    system.unjudged.deliver handOff
      = { (system.deliver handOff).unjudged with
          queue := (system.unjudged.deliver handOff).queue } := rfl
    _ = (system.deliver handOff).unjudged := by rw [queue]

theorem unjudged_deliverDue (pending : List (HandOff State)) :
    system.unjudged.deliverDue pending = (system.deliverDue pending).map unjudged id := by
  induction pending generalizing system with
  | nil => rfl
  | cons handOff rest ih =>
      have later := ih (system.deliver handOff)
      rw [← unjudged_deliver] at later
      simp only [deliverDue, apply_ite (Prod.map unjudged id), ih system]
      exact if_congr Iff.rfl later rfl

theorem unjudged_deliverExits (records : List (TransactionRecord State)) :
    system.unjudged.deliverExits records = (system.deliverExits records).map unjudged id := by
  induction records generalizing system with
  | nil => rfl
  | cons record rest ih =>
      have later := ih (system.deliver (system.queue.handOff system.clock .commit record))
      rw [← unjudged_deliver] at later
      simp only [deliverExits, apply_ite (Prod.map unjudged id)]
      exact if_congr Iff.rfl later rfl

theorem unjudged_startNotifying (records : List (TransactionRecord State)) :
    system.unjudged.startNotifying records = (system.startNotifying records).map unjudged id :=
  system.unjudged_deliverDue _

theorem unjudged_notifyThen (records : List (TransactionRecord State)) (answer : Answer State Result)
    (fair : answer.unjudged = answer) :
    system.unjudged.notifyThen records answer =
      (system.notifyThen records answer).map unjudged Progress.unjudged := by
  simp only [notifyThen, unjudged_startNotifying]
  rcases system.startNotifying records with ⟨notified, _ | _⟩
  · exact congrArg (notified.unjudged, Progress.answered ·) fair.symm
  · rfl

/-! The lock's worker and the storage worker -/

theorem unjudged_concludeExits (done : System State Result × Option (TickRun State)) :
    concludeExits (done.map unjudged id) = (concludeExits done).unjudged := by
  rcases done with ⟨system, _ | run⟩
  · simp only [concludeExits, Prod.map, id, unjudged_notifyLock, unjudged_notifyStorage]
    rfl
  · rfl

theorem unjudged_concludeBreaks (done : System State Result × List (HandOff State)) :
    concludeBreaks (done.map unjudged id) = (concludeBreaks done).unjudged := by
  rcases done with ⟨system, _ | ⟨handOff, rest⟩⟩
  · simp only [concludeBreaks, Prod.map, id, unjudged_notifyLock]
    rfl
  · rfl

theorem unjudged_startTick : system.unjudged.startTick = system.startTick.unjudged := by
  let looked : System State Result :=
    { system with
      lock := (system.lock.tick system.clock).2
      lockWorker := system.lockWorker.start (.breaking []) }
  have lock : system.unjudged.lock = system.lock := rfl
  have clock : system.unjudged.clock = system.clock := rfl
  simp only [startTick, lock, clock]
  cases (system.lock.tick system.clock).1 with
  | idle => rfl
  | recheck instant => exact congrArg finishTick (looked.unjudged_notifyLockAt instant)
  | exit records =>
      exact (congrArg concludeExits (looked.unjudged_deliverExits records)).trans
        (unjudged_concludeExits _)
  | breakLock records =>
      exact (congrArg concludeBreaks (looked.unjudged_startNotifying records)).trans
        (unjudged_concludeBreaks _)

theorem unjudged_continueTick (run : TickRun State) :
    system.unjudged.continueTick run = (system.continueTick run).unjudged := by
  cases run with
  | exiting current rest =>
      simp only [continueTick, apply_ite unjudged, unjudged_deliver, unjudged_deliverExits,
        unjudged_concludeExits]
      rfl
  | breaking pending => simp only [continueTick, unjudged_deliverDue, unjudged_concludeBreaks]

theorem unjudged_lockTurn : system.unjudged.lockTurn = system.lockTurn.unjudged := by
  have worker : system.unjudged.lockWorker = system.lockWorker := rfl
  have clock : system.unjudged.clock = system.clock := rfl
  simp only [lockTurn, worker, clock]
  cases system.lockWorker.phase with
  | waiting =>
      let lockWorker := system.lockWorker.collect system.clock
      cases (system.lockWorker.collect system.clock).pending.now with
      | true => exact unjudged_startTick { system with lockWorker }
      | false => rfl
  | running run taken => exact system.unjudged_continueTick run
  | stopped => rfl

theorem unjudged_storageTurn : system.unjudged.storageTurn = system.storageTurn.unjudged := by
  have worker : system.unjudged.storageWorker = system.storageWorker := rfl
  have clock : system.unjudged.clock = system.clock := rfl
  simp only [storageTurn, worker, clock]
  cases system.storageWorker.phase with
  | waiting =>
      dsimp only
      cases (system.storageWorker.collect system.clock).pending.now <;> rfl
  | running | stopped => rfl

/-! Calls -/

theorem unjudged_notifyAfterEntry (wounded : List (TransactionRecord State)) :
    system.unjudged.notifyAfterEntry wounded = (system.notifyAfterEntry wounded).unjudged := by
  have lock : system.unjudged.lock = system.lock := rfl
  simp only [notifyAfterEntry, lock]
  cases wounded.isEmpty with
  | true =>
      cases system.lock.group.bind LockGroup.deadline with
      | none => rfl
      | some deadline => exact system.unjudged_notifyLockAt deadline
  | false => exact system.unjudged_notifyLock

theorem unjudged_enterLock (request : EntryRequest State Result) :
    system.unjudged.enterLock request =
      (system.enterLock request).map unjudged Progress.unjudged := by
  have lock : system.unjudged.lock = system.lock := rfl
  have clock : system.unjudged.clock = system.clock := rfl
  simp only [enterLock, lock, clock]
  cases system.lock.enter system.clock request with
  | error refusal => rfl
  | ok entry =>
      let entered := { system with lock := entry.lock }
      have told := entered.unjudged_notifyAfterEntry entry.wounded
      have followed := (entered.notifyAfterEntry entry.wounded).unjudged_notifyThen entry.wounded
        (.entered (entry.result.mapError .operation)) rfl
      rw [← told] at followed
      exact followed

theorem unjudged_passGate (request : EntryRequest State Result) :
    system.unjudged.passGate request =
      (system.passGate request).map unjudged Progress.unjudged := by
  have gate : system.unjudged.queue.gateOpen = system.queue.gateOpen := rfl
  simp only [passGate, gate]
  cases system.queue.gateOpen with
  | true => exact system.unjudged_enterLock request
  | false => rfl

theorem unjudged_validateLock (transaction : TransactionId) (counter : AccessCounter) :
    system.unjudged.validateLock transaction counter =
      (system.validateLock transaction counter).map unjudged Progress.unjudged := by
  have lock : system.unjudged.lock = system.lock := rfl
  simp only [validateLock, lock]
  cases system.lock.validate transaction counter with
  | notResident | confirmed => rfl
  | refuted record lock =>
      let refuted := { system with lock }
      have followed := refuted.notifyLock.unjudged_notifyThen [record]
        (.validated .lockValidationFailed (some record)) rfl
      rw [← unjudged_notifyLock] at followed
      exact followed

theorem unjudged_rollback (transaction : TransactionId) (notify : Bool) :
    system.unjudged.rollback transaction notify =
      (system.rollback transaction notify).map unjudged Progress.unjudged := by
  have lock : system.unjudged.lock = system.lock := rfl
  simp only [rollback, lock]
  cases system.lock.find? transaction with
  | none => rfl
  | some record =>
      let removed := { system with lock := system.lock.remove transaction }
      have followed := removed.notifyLock.unjudged_notifyThen (if notify then [record] else [])
        .rolledBack rfl
      rw [← unjudged_notifyLock] at followed
      exact followed

theorem unjudged_abortAll :
    system.unjudged.abortAll = system.abortAll.map unjudged Progress.unjudged := by
  let emptied := { system with lock := system.lock.emptied }
  have lock : system.unjudged.lock = system.lock := rfl
  have woken : (if system.lock.residents.isEmpty then emptied.unjudged
      else emptied.unjudged.notifyLock) =
        (if system.lock.residents.isEmpty then emptied else emptied.notifyLock).unjudged := by
    rw [unjudged_notifyLock, apply_ite unjudged]
  simp only [abortAll, lock]
  rw [← unjudged_notifyThen _ _ _ rfl, ← woken]
  rfl

theorem unjudged_handOver (handOff : HandOff State) :
    system.unjudged.handOver handOff =
      (system.handOver handOff).map unjudged Progress.unjudged := by
  simp only [handOver, apply_ite (Prod.map unjudged Progress.unjudged), unjudged_deliver]
  rfl

theorem unjudged_recover (call : CallId) :
    system.unjudged.recover call = (system.recover call).map unjudged Progress.unjudged := by
  have worker : system.unjudged.lockWorker = system.lockWorker := rfl
  simp only [recover, worker]
  cases system.lockWorker.isStopped with
  | true => rfl
  | false =>
      exact congrArg (·, Progress.waits (.flushing none))
        (unjudged_wakeLock { system with lockWorker := system.lockWorker.send (.flush call) })

theorem unjudged_flushStorage (call : CallId) :
    system.unjudged.flushStorage call =
      (system.flushStorage call).map unjudged Progress.unjudged := by
  have worker : system.unjudged.storageWorker = system.storageWorker := rfl
  simp only [flushStorage, worker]
  cases system.storageWorker.isStopped with
  | true => rfl
  | false =>
      exact congrArg (·, Progress.waits (.flushing none))
        (unjudged_wakeStorage { system with storageWorker := system.storageWorker.send (.flush call) })

theorem unjudged_start (call : CallId) (request : Request State Result) :
    system.unjudged.start call request =
      (system.start call request).map unjudged Progress.unjudged := by
  cases request with
  | enter request =>
      let queue := { system.queue with readyCalls := system.queue.readyCalls + 1 }
      exact unjudged_passGate { system with queue } request
  | validate transaction counter => exact system.unjudged_validateLock transaction counter
  | rollback transaction notify => exact system.unjudged_rollback transaction notify
  | abortAll => exact system.unjudged_abortAll
  | handOver record outcome => exact system.unjudged_handOver _
  | recover => exact system.unjudged_recover call
  | flushStorage => exact system.unjudged_flushStorage call
  | sleep milliseconds => cases milliseconds <;> rfl

def KeepsNoReply (stage : Stage State Result) : Prop :=
  ∀ answer, stage.final? = some answer → answer.unjudged = answer

theorem unjudged_proceed (stage : Stage State Result) (fair : KeepsNoReply stage) :
    system.unjudged.proceed stage = (system.proceed stage).map unjudged Progress.unjudged := by
  cases stage with
  | atGate request => exact system.unjudged_passGate request
  | notifying pending answer =>
      simp only [proceed, unjudged_deliverDue]
      rcases system.deliverDue pending with ⟨notified, _ | _⟩
      · exact congrArg (notified.unjudged, Progress.answered ·) (fair answer rfl).symm
      · rfl
  | handing handOff => exact system.unjudged_handOver handOff
  | flushing answer => cases answer <;> rfl
  | sleeping due =>
      exact (apply_ite (Prod.map unjudged Progress.unjudged) (due ≤ system.clock)
        (system, Progress.answered .slept) (system, Progress.waits (.sleeping due))).symm

theorem unjudged_spawn (call : CallId) (request : Request State Result) :
    system.unjudged.spawn call request = (system.spawn call request).unjudged := by
  simp only [spawn, begin, unjudged_start]
  rcases system.start call request with ⟨begun, _ | _⟩ <;> rfl

theorem unjudged_resume (call : CallId)
    (fair : ∀ pending ∈ system.calls, KeepsNoReply pending.stage) :
    noteAnswer call (system.unjudged.resume call) =
      (noteAnswer call (system.resume call)).unjudged := by
  have pending : system.unjudged.findCall? call = system.findCall? call := rfl
  simp only [resume, pending]
  cases found : system.findCall? call with
  | none => rfl
  | some pending =>
      dsimp only
      rw [system.unjudged_proceed pending.stage (fair pending (List.mem_of_find?_eq_some found))]
      rcases system.proceed pending.stage with ⟨proceeded, _ | _⟩ <;> rfl

/-! Events -/

theorem unjudged_turnOf (task : Task)
    (fair : ∀ pending ∈ system.calls, KeepsNoReply pending.stage) :
    system.unjudged.turnOf task = (system.turnOf task).unjudged := by
  have ready : system.unjudged.ready = system.ready := rfl
  simp only [turnOf, ready]
  split
  · let resumed := { system with ready := system.ready.erase task }
    cases task with
    | storage => exact resumed.unjudged_storageTurn
    | lock => exact resumed.unjudged_lockTurn
    | call call => exact resumed.unjudged_resume call fair
  · rfl

theorem unjudged_assignRole (transaction : TransactionId) (role : CommitRole)
    (timestamp : Timestamp) :
    system.unjudged.assignRole transaction role timestamp =
      (system.assignRole transaction role timestamp).unjudged := by
  let assigned :=
    { system with lock := system.lock.assignRole system.clock transaction role timestamp }
  have lock : system.unjudged.lock = system.lock := rfl
  simp only [assignRole, lock]
  split
  · exact assigned.unjudged_notifyLock
  · rfl

theorem unjudged_withRecord (transaction : TransactionId) (operation : Operation State Result) :
    system.unjudged.withRecord transaction operation =
      (system.withRecord transaction operation).map unjudged id := by
  have lock : system.unjudged.lock = system.lock := rfl
  simp only [withRecord, lock]
  cases system.lock.withRecord transaction operation <;> rfl

/-- What the queue is told to reject is all that a judgement changes. -/
theorem step_judges (event : Event State Result) (judges : event.judges = true) :
    (system.step event).unjudged = system.unjudged := by
  cases event with
  | setRejecting | setRefusals => rfl
  | _ => cases judges

theorem unjudged_step (event : Event State Result) (plain : event.judges = false)
    (fair : ∀ pending ∈ system.calls, KeepsNoReply pending.stage) :
    system.unjudged.step event = (system.step event).unjudged := by
  cases event with
  | call call request =>
      have free : system.unjudged.isFree call = system.isFree call := rfl
      simp only [step, free]
      split
      · exact system.unjudged_spawn call request
      · rfl
  | turn task => exact system.unjudged_turnOf task fair
  | assignRole transaction role timestamp =>
      exact system.unjudged_assignRole transaction role timestamp
  | withRecord transaction operation =>
      exact congrArg Prod.fst (system.unjudged_withRecord transaction operation)
  | notifyLock => exact system.unjudged_notifyLock
  | notifyStorage => exact system.unjudged_notifyStorage
  | setRejecting | setRefusals => cases plain
  | giveUp | pass | setGate | setDelays | setLag | stopLock | stopStorage => rfl

/-! Answers that are still to be given -/

theorem notifyThen_keepsNoReply (records : List (TransactionRecord State))
    (answer : Answer State Result) (fair : answer.unjudged = answer) (stage : Stage State Result)
    (waits : (system.notifyThen records answer).2 = .waits stage) : KeepsNoReply stage := by
  intro final same
  have given := system.notifyThen_final? records answer
  rw [waits] at given
  cases same.symm.trans given
  exact fair

theorem passGate_keepsNoReply (request : EntryRequest State Result) (stage : Stage State Result)
    (waits : (system.passGate request).2 = .waits stage) : KeepsNoReply stage := by
  unfold passGate at waits
  split at waits
  · unfold enterLock at waits
    split at waits
    · cases waits
    · exact notifyThen_keepsNoReply _ _ _ rfl stage waits
  · cases waits
    intro answer final
    cases final

theorem handOver_keepsNoReply (handOff : HandOff State) (stage : Stage State Result)
    (waits : (system.handOver handOff).2 = .waits stage) : KeepsNoReply stage := by
  unfold handOver at waits
  split at waits <;> cases waits
  intro answer final
  cases final

theorem start_keepsNoReply (call : CallId) (request : Request State Result)
    (stage : Stage State Result) (waits : (system.start call request).2 = .waits stage) :
    KeepsNoReply stage := by
  cases request with
  | enter request => exact passGate_keepsNoReply _ request stage waits
  | validate transaction counter =>
      simp only [start, validateLock] at waits
      split at waits
      · cases waits
      · cases waits
      · exact notifyThen_keepsNoReply _ _ _ rfl stage waits
  | rollback transaction notify =>
      simp only [start, rollback] at waits
      split at waits
      · cases waits
      · exact notifyThen_keepsNoReply _ _ _ rfl stage waits
  | abortAll => exact notifyThen_keepsNoReply _ _ _ rfl stage waits
  | handOver record outcome => exact system.handOver_keepsNoReply _ stage waits
  | recover =>
      simp only [start, recover] at waits
      split at waits <;> cases waits
      intro answer final
      cases final
  | flushStorage =>
      simp only [start, flushStorage] at waits
      split at waits <;> cases waits
      intro answer final
      cases final
  | sleep milliseconds =>
      cases milliseconds <;> cases waits
      intro answer final
      cases final

theorem proceed_keepsNoReply (before after : Stage State Result) (fair : KeepsNoReply before)
    (waits : (system.proceed before).2 = .waits after) : KeepsNoReply after := by
  cases before with
  | atGate request => exact system.passGate_keepsNoReply request after waits
  | notifying pending answer =>
      simp only [proceed] at waits
      split at waits <;> cases waits
      exact fair
  | handing handOff => exact system.handOver_keepsNoReply handOff after waits
  | flushing answer =>
      cases answer <;> cases waits
      exact fair
  | sleeping due =>
      simp only [proceed] at waits
      split at waits <;> cases waits
      exact fair

theorem flushing_keepsNoReply (stage : Stage State Result) (flushing : stage.isFlushing = true) :
    KeepsNoReply stage := by
  cases stage <;> cases flushing
  intro answer final
  cases final

theorem step_keepsNoReply (event : Event State Result) (named : system.Named)
    (fair : ∀ pending ∈ system.calls, KeepsNoReply pending.stage) :
    ∀ pending ∈ (system.step event).calls, KeepsNoReply pending.stage := by
  intro pending present
  cases flushing : pending.stage.isFlushing with
  | true => exact flushing_keepsNoReply pending.stage flushing
  | false =>
      rcases system.step_pending event named pending present flushing with old | own
      · exact fair pending old
      · cases system.progress?_origin event pending.call _ own with
        | begun request event_eq free came =>
            exact system.start_keepsNoReply pending.call request pending.stage came.symm
        | resumed before event_eq ready found came =>
            exact proceed_keepsNoReply _ before.stage pending.stage
              (fair before (List.mem_of_find?_eq_some found)) came.symm

/-! Runs -/

def views (system : System State Result) :
    List (Event State Result) → List (System State Result)
  | [] => [system.unjudged]
  | event :: rest =>
      if event.judges then (system.step event).views rest
      else system.unjudged :: (system.step event).views rest

def assigns? (system : System State Result) : Event State Result → Option Bool
  | .assignRole transaction _ _ => some (system.lock.find? transaction).isSome
  | _ => none

def assignments (system : System State Result) : List (Event State Result) → List Bool
  | [] => []
  | event :: rest => (system.assigns? event).toList ++ (system.step event).assignments rest

/-- The run with a queue that rejects everything stands for every other. -/
theorem views_unjudged (events : List (Event State Result)) (named : system.Named)
    (fair : ∀ pending ∈ system.calls, KeepsNoReply pending.stage) :
    system.views events =
      system.unjudged.views (events.filter fun event => !event.judges) := by
  induction events generalizing system with
  | nil => simp [views]
  | cons event rest ih =>
      have later := ih (system.step event) (system.step_named event named)
        (system.step_keepsNoReply event named fair)
      cases judges : event.judges with
      | true =>
          rw [system.step_judges event judges] at later
          simpa [views, judges] using later
      | false =>
          rw [← system.unjudged_step event judges fair] at later
          simpa [views, judges] using later

theorem assignments_unjudged (events : List (Event State Result)) (named : system.Named)
    (fair : ∀ pending ∈ system.calls, KeepsNoReply pending.stage) :
    system.assignments events =
      system.unjudged.assignments (events.filter fun event => !event.judges) := by
  induction events generalizing system with
  | nil => rfl
  | cons event rest ih =>
      have later := ih (system.step event) (system.step_named event named)
        (system.step_keepsNoReply event named fair)
      have same : system.unjudged.assigns? event = system.assigns? event := by
        cases event <;> rfl
      cases judges : event.judges with
      | true =>
          have silent : system.assigns? event = none := by
            cases event <;> first | rfl | cases judges
          rw [system.step_judges event judges] at later
          simpa [assignments, judges, silent] using later
      | false =>
          rw [← system.unjudged_step event judges fair] at later
          simpa [assignments, judges, same] using later

/-- Two runs take the same course but for the queue's judgement. -/
structure SameCourse (options : Options) (first second : List (Event State Result)) : Prop where
  views : (new options).views first = (new options).views second
  assignments : (new options : System State Result).assignments first =
    (new options).assignments second

/-- What the queue is told to reject, and when, makes no difference to the course of a run. -/
theorem run_rejections_same_course (options : Options) (first second : List (Event State Result))
    (alike : first.filter (fun event => !event.judges) =
      second.filter fun event => !event.judges) :
    SameCourse options first second := by
  have named : (new options : System State Result).Named := new_named options
  have fair : ∀ pending ∈ (new options : System State Result).calls,
      KeepsNoReply pending.stage := by
    intro pending present
    cases present
  constructor
  · rw [views_unjudged _ first named fair, views_unjudged _ second named fair, alike]
  · rw [assignments_unjudged _ first named fair, assignments_unjudged _ second named fair, alike]

def exodus (rejected : List TransactionId) : List (Event Nat Unit) :=
  [.call 0 (.enter (.visit (.ofNat 1) ⟨1⟩ .zero .read)),
    .setRefusals fun _ record => record.transaction ∈ rejected,
    .call 1 (.enter (.visit (.ofNat 2) ⟨2⟩ .zero .read)),
    .assignRole (.ofNat 1) .localCommit (-3),
    .assignRole (.ofNat 2) .readOnly (-7),
    .turn .lock]

/-- A rejection in the middle of a batch changes what the queue has recorded and nothing else. -/
theorem exodus_rejections_same_course :
    (exodus [.ofNat 2]).filter (fun event => !event.judges) =
        (exodus []).filter (fun event => !event.judges) ∧
      (((new ⟨8000, 10000, 20000, 3⟩).run (exodus [.ofNat 2])).queue.committed.map
        fun record => record.transaction) = [.ofNat 1] ∧
      (((new ⟨8000, 10000, 20000, 3⟩).run (exodus [])).queue.committed.map
        fun record => record.transaction) = [.ofNat 2, .ofNat 1] ∧
      SameCourse ⟨8000, 10000, 20000, 3⟩ (exodus [.ofNat 2]) (exodus []) := by
  have alike : (exodus [.ofNat 2]).filter (fun event => !event.judges) =
      (exodus []).filter fun event => !event.judges := rfl
  refine ⟨alike, ?_, ?_, run_rejections_same_course ⟨8000, 10000, 20000, 3⟩ _ _ alike⟩
  · cbv
  · cbv

end System

end WoundWait
