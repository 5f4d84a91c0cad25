import WoundWait.Proofs.SlotLock
import WoundWait.System.Event

/-!
A slot with everything around it, as a system of its own: the same workers, calls and queue, driven
by the same events. Where a system works on its lock, this one works on its slot.
-/

namespace WoundWait

variable {State Result : Type}

def Request.worksOnLock : Request State Result → Bool
  | enter _ | validate .. | rollback .. | abortAll => true
  | handOver .. | recover | flushStorage | sleep _ => false

def Event.worksOnLock : Event State Result → Bool
  | call .. | turn _ | assignRole .. | withRecord .. => true
  | _ => false

namespace System

def sound (system : System State Result) : Alarm → System State Result
  | .silent => system
  | .now => system.notifyLock
  | .due instant => system.notifyLockAt instant

def react (system : System State Result) (reaction : Reaction State Result) :
    System State Result × Progress State Result :=
  (system.sound reaction.alarm).notifyThen reaction.lost reaction.answer

def followUp (looked : System State Result) : TickDecision State → System State Result
  | .idle => looked.finishTick
  | .recheck instant => (looked.notifyLockAt instant).finishTick
  | .exit records => concludeExits (looked.deliverExits records)
  | .breakLock records => concludeBreaks (looked.startNotifying records)

end System

/-- Of what is around the slot, the lock is never looked at. -/
structure SlotSystem (State Result : Type) where
  slot : Slot State
  around : System State Result

namespace SlotSystem

def new (options : Options) : SlotSystem State Result :=
  { slot := .new options, around := .new options }

def react (system : SlotSystem State Result) (done : Reaction State Result × Slot State) :
    SlotSystem State Result × System.Progress State Result :=
  let told := system.around.react done.1
  ({ slot := done.2, around := told.1 }, told.2)

def aside (system : SlotSystem State Result)
    (done : System State Result × System.Progress State Result) :
    SlotSystem State Result × System.Progress State Result :=
  ({ system with around := done.1 }, done.2)

def passGate (system : SlotSystem State Result) (request : EntryRequest State Result) :
    SlotSystem State Result × System.Progress State Result :=
  if system.around.queue.gateOpen then
    system.react (system.slot.enter system.around.clock request)
  else (system, .waits (.atGate request))

def asks (system : SlotSystem State Result) : SlotSystem State Result :=
  let queue := { system.around.queue with readyCalls := system.around.queue.readyCalls + 1 }
  { system with around := { system.around with queue } }

def start (system : SlotSystem State Result) (call : CallId) :
    Request State Result → SlotSystem State Result × System.Progress State Result
  | .enter request => system.asks.passGate request
  | .validate transaction counter => system.react (system.slot.validate transaction counter)
  | .rollback transaction notify => system.react (system.slot.rollback transaction notify)
  | .abortAll => system.react system.slot.abortAll
  | other => system.aside (system.around.start call other)

def proceed (system : SlotSystem State Result) :
    Stage State Result → SlotSystem State Result × System.Progress State Result
  | .atGate request => system.passGate request
  | other => system.aside (system.around.proceed other)

def spawn (system : SlotSystem State Result) (call : CallId) (request : Request State Result) :
    SlotSystem State Result :=
  match system.start call request with
  | (begun, .answered answer) =>
      { begun with around := begun.around.note (.answered begun.around.clock call answer) }
  | (begun, .waits stage) =>
      let calls := begun.around.calls ++ [{ call, stage }]
      { begun with around := { begun.around with calls }.wake (.call call) }

def resume (system : SlotSystem State Result) (call : CallId) : SlotSystem State Result :=
  match system.around.findCall? call with
  | none => system
  | some pending =>
      match system.proceed pending.stage with
      | (proceeded, .answered answer) =>
          let calls := proceeded.around.calls.filter fun other => other.call != call
          { proceeded with
            around := { proceeded.around with calls }.note
              (.answered proceeded.around.clock call answer) }
      | (proceeded, .waits stage) =>
          let calls := proceeded.around.calls.map fun other =>
            if other.call = call then { other with stage } else other
          { proceeded with around := { proceeded.around with calls } }

def startTick (system : SlotSystem State Result) : SlotSystem State Result :=
  let decision := system.slot.tick system.around.clock
  let lockWorker := system.around.lockWorker.start (.breaking [])
  { slot := decision.2, around := { system.around with lockWorker }.followUp decision.1 }

def lockTurn (system : SlotSystem State Result) : SlotSystem State Result :=
  match system.around.lockWorker.phase with
  | .waiting =>
      let lockWorker := system.around.lockWorker.collect system.around.clock
      let collected := { system with around := { system.around with lockWorker } }
      if lockWorker.pending.now then collected.startTick else collected
  | _ => { system with around := system.around.lockTurn }

def turnOf (system : SlotSystem State Result) (task : Task) : SlotSystem State Result :=
  if task ∈ system.around.ready then
    let ready := system.around.ready.erase task
    let resumed := { system with around := { system.around with ready } }
    match task with
    | .storage => { resumed with around := resumed.around.storageTurn }
    | .lock => resumed.lockTurn
    | .call call => resumed.resume call
  else system

def assignRole (system : SlotSystem State Result) (transaction : TransactionId) (role : CommitRole)
    (timestamp : Timestamp) : SlotSystem State Result :=
  if (system.slot.find? transaction).isSome then
    { slot := system.slot.assignRole system.around.clock transaction role timestamp
      around := system.around.notifyLock }
  else system

def withRecord (system : SlotSystem State Result) (transaction : TransactionId)
    (operation : Operation State Result) :
    SlotSystem State Result × Option (Except Failure Result) :=
  match system.slot.withRecord transaction operation with
  | none => (system, none)
  | some (result, slot) => ({ system with slot }, some result)

def step (system : SlotSystem State Result) : Event State Result → SlotSystem State Result
  | .call call request => if system.around.isFree call then system.spawn call request else system
  | .turn task => system.turnOf task
  | .assignRole transaction role timestamp => system.assignRole transaction role timestamp
  | .withRecord transaction operation => (system.withRecord transaction operation).1
  | other => { system with around := system.around.step other }

def run (system : SlotSystem State Result) (events : List (Event State Result)) :
    SlotSystem State Result :=
  events.foldl step system

end SlotSystem

/-! What has nothing to do with the lock is the same whatever lock there is -/

namespace System

def withLock (system : System State Result) (lock : Lock State) : System State Result :=
  { system with lock }

variable (system : System State Result) (lock : Lock State)

theorem withLock_wakeLock : (system.withLock lock).wakeLock = system.wakeLock.withLock lock :=
  (apply_ite (withLock · lock) (system.lockWorker.isWaiting = true) (system.wake .lock) system).symm

theorem withLock_wakeStorage :
    (system.withLock lock).wakeStorage = system.wakeStorage.withLock lock :=
  (apply_ite (withLock · lock) (system.storageWorker.isWaiting = true) (system.wake .storage)
    system).symm

theorem withLock_notifyLock : (system.withLock lock).notifyLock = system.notifyLock.withLock lock :=
  withLock_wakeLock { system with lockWorker := system.lockWorker.notify } lock

theorem withLock_notifyLockAt (instant : Instant) :
    (system.withLock lock).notifyLockAt instant = (system.notifyLockAt instant).withLock lock :=
  withLock_wakeLock { system with lockWorker := system.lockWorker.notifyAt instant } lock

theorem withLock_notifyStorage :
    (system.withLock lock).notifyStorage = system.notifyStorage.withLock lock :=
  withLock_wakeStorage { system with storageWorker := system.storageWorker.notify } lock

theorem withLock_sound (alarm : Alarm) :
    (system.withLock lock).sound alarm = (system.sound alarm).withLock lock := by
  cases alarm with
  | silent => rfl
  | now => exact system.withLock_notifyLock lock
  | due instant => exact system.withLock_notifyLockAt lock instant

theorem withLock_deliverDue (pending : List (HandOff State)) :
    (system.withLock lock).deliverDue pending =
      (system.deliverDue pending).map (withLock · lock) id := by
  induction pending generalizing system with
  | nil => rfl
  | cons handOff rest ih =>
      simp only [deliverDue, apply_ite (Prod.map (withLock · lock) id), ih system]
      exact if_congr Iff.rfl (ih (system.deliver handOff)) rfl

theorem withLock_deliverExits (records : List (TransactionRecord State)) :
    (system.withLock lock).deliverExits records =
      (system.deliverExits records).map (withLock · lock) id := by
  induction records generalizing system with
  | nil => rfl
  | cons record rest ih =>
      simp only [deliverExits, apply_ite (Prod.map (withLock · lock) id)]
      exact if_congr Iff.rfl (ih (system.deliver _)) rfl

theorem withLock_startNotifying (records : List (TransactionRecord State)) :
    (system.withLock lock).startNotifying records =
      (system.startNotifying records).map (withLock · lock) id :=
  system.withLock_deliverDue lock _

theorem withLock_notifyThen (records : List (TransactionRecord State)) (answer : Answer State Result) :
    (system.withLock lock).notifyThen records answer =
      (system.notifyThen records answer).map (withLock · lock) id := by
  simp only [notifyThen, withLock_startNotifying]
  rcases system.startNotifying records with ⟨notified, _ | _⟩ <;> rfl

theorem withLock_react (reaction : Reaction State Result) :
    (system.withLock lock).react reaction = (system.react reaction).map (withLock · lock) id := by
  rw [react, withLock_sound, withLock_notifyThen]
  rfl

theorem withLock_concludeExits (done : System State Result × Option (TickRun State)) :
    concludeExits (done.map (withLock · lock) id) = (concludeExits done).withLock lock := by
  rcases done with ⟨system, _ | run⟩
  · simp only [concludeExits, Prod.map, id, withLock_notifyLock, withLock_notifyStorage]
    rfl
  · rfl

theorem withLock_concludeBreaks (done : System State Result × List (HandOff State)) :
    concludeBreaks (done.map (withLock · lock) id) = (concludeBreaks done).withLock lock := by
  rcases done with ⟨system, _ | ⟨handOff, rest⟩⟩
  · simp only [concludeBreaks, Prod.map, id, withLock_notifyLock]
    rfl
  · rfl

theorem withLock_followUp (decision : TickDecision State) :
    (system.withLock lock).followUp decision = (system.followUp decision).withLock lock := by
  cases decision with
  | idle => rfl
  | recheck instant =>
      simp only [followUp, withLock_notifyLockAt]
      rfl
  | exit records => simp only [followUp, withLock_deliverExits, withLock_concludeExits]
  | breakLock records => simp only [followUp, withLock_startNotifying, withLock_concludeBreaks]

theorem withLock_continueTick (run : TickRun State) :
    (system.withLock lock).continueTick run = (system.continueTick run).withLock lock := by
  cases run with
  | exiting current rest =>
      simp only [continueTick, apply_ite (withLock · lock)]
      refine if_congr Iff.rfl ?_ rfl
      rw [← withLock_concludeExits, ← withLock_deliverExits]
      rfl
  | breaking pending => simp only [continueTick, withLock_deliverDue, withLock_concludeBreaks]

theorem withLock_storageTurn :
    (system.withLock lock).storageTurn = system.storageTurn.withLock lock := by
  have worker : (system.withLock lock).storageWorker = system.storageWorker := rfl
  have clock : (system.withLock lock).clock = system.clock := rfl
  simp only [storageTurn, worker, clock]
  cases system.storageWorker.phase with
  | waiting =>
      dsimp only
      cases (system.storageWorker.collect system.clock).pending.now <;> rfl
  | running | stopped => rfl

theorem withLock_handOver (handOff : HandOff State) :
    (system.withLock lock).handOver handOff =
      (system.handOver handOff).map (withLock · lock) id :=
  (apply_ite (Prod.map (withLock · lock) id) (handOff.due ≤ system.clock)
    (system.deliver handOff, Progress.answered (.handedOver (system.queue.reply handOff)))
    (system, Progress.waits (.handing handOff))).symm

theorem withLock_recover (call : CallId) :
    (system.withLock lock).recover call = (system.recover call).map (withLock · lock) id := by
  have worker : (system.withLock lock).lockWorker = system.lockWorker := rfl
  simp only [recover, worker]
  cases system.lockWorker.isStopped with
  | true => rfl
  | false =>
      exact congrArg (·, Progress.waits (.flushing none))
        (withLock_wakeLock { system with lockWorker := system.lockWorker.send (.flush call) } lock)

theorem withLock_flushStorage (call : CallId) :
    (system.withLock lock).flushStorage call =
      (system.flushStorage call).map (withLock · lock) id := by
  have worker : (system.withLock lock).storageWorker = system.storageWorker := rfl
  simp only [flushStorage, worker]
  cases system.storageWorker.isStopped with
  | true => rfl
  | false =>
      exact congrArg (·, Progress.waits (.flushing none))
        (withLock_wakeStorage { system with storageWorker := system.storageWorker.send (.flush call) }
          lock)

theorem withLock_start (call : CallId) (request : Request State Result)
    (aside : request.worksOnLock = false) :
    (system.withLock lock).start call request =
      (system.start call request).map (withLock · lock) id := by
  cases request with
  | enter | validate | rollback | abortAll => cases aside
  | handOver record outcome => exact system.withLock_handOver lock _
  | recover => exact system.withLock_recover lock call
  | flushStorage => exact system.withLock_flushStorage lock call
  | sleep milliseconds => cases milliseconds <;> rfl

theorem withLock_proceed (stage : Stage State Result) (inside : stage.isAtGate = false) :
    (system.withLock lock).proceed stage = (system.proceed stage).map (withLock · lock) id := by
  cases stage with
  | atGate => cases inside
  | notifying pending answer =>
      simp only [proceed, withLock_deliverDue]
      rcases system.deliverDue pending with ⟨notified, _ | _⟩ <;> rfl
  | handing handOff => exact system.withLock_handOver lock handOff
  | flushing answer => cases answer <;> rfl
  | sleeping due =>
      exact (apply_ite (Prod.map (withLock · lock) id) (due ≤ system.clock)
        (system, Progress.answered .slept) (system, Progress.waits (.sleeping due))).symm

theorem withLock_lockTurn (busy : system.lockWorker.phase ≠ .waiting) :
    (system.withLock lock).lockTurn = system.lockTurn.withLock lock := by
  have worker : (system.withLock lock).lockWorker = system.lockWorker := rfl
  simp only [lockTurn, worker]
  cases phase : system.lockWorker.phase with
  | waiting => exact absurd phase busy
  | running run taken => exact system.withLock_continueTick lock run
  | stopped => rfl

theorem withLock_step (event : Event State Result) (aside : event.worksOnLock = false) :
    (system.withLock lock).step event = (system.step event).withLock lock := by
  cases event with
  | call | turn | assignRole | withRecord => cases aside
  | notifyLock => exact system.withLock_notifyLock lock
  | notifyStorage => exact system.withLock_notifyStorage lock
  | giveUp | pass | setGate | setRejecting | setRefusals | setDelays | setLag | stopLock
  | stopStorage => rfl

end System

/-! Of what is around a slot, the lock is never looked at -/

namespace SlotSystem

def withLock (single : SlotSystem State Result) (lock : Lock State) : SlotSystem State Result :=
  { single with around := single.around.withLock lock }

variable (single : SlotSystem State Result) (lock : Lock State)

theorem withLock_react (done : Reaction State Result × Slot State) :
    (single.withLock lock).react done = (single.react done).map (withLock · lock) id := by
  simp only [react, withLock, System.withLock_react]
  rfl

theorem withLock_aside {done told : System State Result × System.Progress State Result}
    (same : told = done.map (System.withLock · lock) id) :
    (single.withLock lock).aside told = (single.aside done).map (withLock · lock) id := by
  rw [same]
  rfl

theorem withLock_passGate (request : EntryRequest State Result) :
    (single.withLock lock).passGate request = (single.passGate request).map (withLock · lock) id := by
  have gate : (single.withLock lock).around.queue.gateOpen = single.around.queue.gateOpen := rfl
  simp only [passGate, gate]
  cases single.around.queue.gateOpen with
  | true => exact single.withLock_react lock _
  | false => rfl

theorem withLock_start (call : CallId) (request : Request State Result) :
    (single.withLock lock).start call request =
      (single.start call request).map (withLock · lock) id := by
  cases request with
  | enter request => exact single.asks.withLock_passGate lock request
  | validate | rollback | abortAll => exact single.withLock_react lock _
  | handOver | recover | flushStorage | sleep =>
      exact single.withLock_aside lock (single.around.withLock_start lock call _ rfl)

theorem withLock_proceed (stage : Stage State Result) :
    (single.withLock lock).proceed stage = (single.proceed stage).map (withLock · lock) id := by
  cases stage with
  | atGate request => exact single.withLock_passGate lock request
  | notifying | handing | flushing | sleeping =>
      exact single.withLock_aside lock (single.around.withLock_proceed lock _ rfl)

theorem withLock_spawn (call : CallId) (request : Request State Result) :
    (single.withLock lock).spawn call request = (single.spawn call request).withLock lock := by
  simp only [spawn, withLock_start]
  rcases single.start call request with ⟨begun, _ | _⟩ <;> rfl

theorem withLock_resume (call : CallId) :
    (single.withLock lock).resume call = (single.resume call).withLock lock := by
  have pending : (single.withLock lock).around.findCall? call = single.around.findCall? call := rfl
  simp only [resume, pending, withLock_proceed]
  cases single.around.findCall? call with
  | none => rfl
  | some pending =>
      dsimp only
      rcases single.proceed pending.stage with ⟨proceeded, _ | _⟩ <;> rfl

theorem withLock_startTick : (single.withLock lock).startTick = single.startTick.withLock lock :=
  let lockWorker := single.around.lockWorker.start (.breaking [])
  congrArg (SlotSystem.mk (single.slot.tick single.around.clock).2)
    (System.withLock_followUp { single.around with lockWorker } lock _)

theorem withLock_lockTurn : (single.withLock lock).lockTurn = single.lockTurn.withLock lock := by
  have worker : (single.withLock lock).around.lockWorker = single.around.lockWorker := rfl
  have clock : (single.withLock lock).around.clock = single.around.clock := rfl
  simp only [lockTurn, worker, clock]
  cases phase : single.around.lockWorker.phase with
  | waiting =>
      let lockWorker := single.around.lockWorker.collect single.around.clock
      cases (single.around.lockWorker.collect single.around.clock).pending.now with
      | true => exact withLock_startTick ⟨single.slot, { single.around with lockWorker }⟩ lock
      | false => rfl
  | running | stopped =>
      exact congrArg (SlotSystem.mk single.slot)
        (single.around.withLock_lockTurn lock (by simp [phase]))

theorem withLock_turnOf (task : Task) :
    (single.withLock lock).turnOf task = (single.turnOf task).withLock lock := by
  have ready : (single.withLock lock).around.ready = single.around.ready := rfl
  simp only [turnOf, ready]
  split
  · let resumed := { single.around with ready := single.around.ready.erase task }
    cases task with
    | storage => exact congrArg (SlotSystem.mk single.slot) (resumed.withLock_storageTurn lock)
    | lock => exact withLock_lockTurn ⟨single.slot, resumed⟩ lock
    | call call => exact withLock_resume ⟨single.slot, resumed⟩ lock call
  · rfl

theorem withLock_assignRole (transaction : TransactionId) (role : CommitRole)
    (timestamp : Timestamp) :
    (single.withLock lock).assignRole transaction role timestamp =
      (single.assignRole transaction role timestamp).withLock lock := by
  have same : (single.withLock lock).slot = single.slot := rfl
  simp only [assignRole, same]
  split
  · exact congrArg (SlotSystem.mk (single.slot.assignRole single.around.clock transaction role
      timestamp)) (single.around.withLock_notifyLock lock)
  · rfl

theorem withLock_withRecord (transaction : TransactionId) (operation : Operation State Result) :
    (single.withLock lock).withRecord transaction operation =
      (single.withRecord transaction operation).map (withLock · lock) id := by
  have same : (single.withLock lock).slot = single.slot := rfl
  simp only [withRecord, same]
  cases single.slot.withRecord transaction operation <;> rfl

theorem withLock_step (event : Event State Result) :
    (single.withLock lock).step event = (single.step event).withLock lock := by
  cases event with
  | call call request =>
      have free : (single.withLock lock).around.isFree call = single.around.isFree call := rfl
      simp only [step, free]
      split
      · exact single.withLock_spawn lock call request
      · rfl
  | turn task => exact single.withLock_turnOf lock task
  | assignRole transaction role timestamp =>
      exact single.withLock_assignRole lock transaction role timestamp
  | withRecord transaction operation =>
      exact congrArg Prod.fst (single.withLock_withRecord lock transaction operation)
  | notifyLock | notifyStorage | giveUp | pass | setGate | setRejecting | setRefusals | setDelays
  | setLag | stopLock | stopStorage =>
      exact congrArg (SlotSystem.mk single.slot) (single.around.withLock_step lock _ rfl)

theorem run_withLock (events : List (Event State Result)) :
    (single.withLock lock).run events = (single.run events).withLock lock := by
  induction events generalizing single with
  | nil => rfl
  | cons event rest ih =>
      have next := ih (single.step event)
      rwa [← withLock_step] at next

end SlotSystem

end WoundWait
