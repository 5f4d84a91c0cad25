import WoundWait.Proofs.SlotSystem

/-!
A lock for groups of at most one transaction cannot be told from a slot. Whatever calls come,
whatever turns are taken and however the clock moves, both systems give the same answers at the same
time, hand the same records over, and are left with the same calls, messages and timers.
-/

namespace WoundWait

variable {State Result : Type}

namespace SlotSystem

structure Mirrors (single : SlotSystem State Result) (system : System State Result) : Prop where
  around : system = single.around.withLock system.lock
  fits : system.lock.Fits single.slot

structure Agrees (single : SlotSystem State Result × System.Progress State Result)
    (system : System State Result × System.Progress State Result) : Prop where
  mirrors : single.1.Mirrors system.1
  progress : system.2 = single.2

variable {slot : Slot State} {around : System State Result} {lock : Lock State}

theorem mirrors_withLock (fits : lock.Fits slot) :
    (SlotSystem.mk slot around).Mirrors (around.withLock lock) :=
  ⟨rfl, fits⟩

theorem mirrors_of {single : SlotSystem State Result} {system : System State Result}
    (same : system = single.around.withLock lock) (fits : lock.Fits single.slot) :
    single.Mirrors system := by
  subst same
  exact ⟨rfl, fits⟩

theorem Mirrors.exists_lock {single : SlotSystem State Result} {system : System State Result}
    (mirrors : single.Mirrors system) :
    ∃ lock : Lock State, lock.Fits single.slot ∧ system = single.around.withLock lock :=
  ⟨system.lock, mirrors.fits, mirrors.around⟩

theorem react_agrees (single : SlotSystem State Result)
    (done : Reaction State Result × Slot State) (fits : lock.Fits done.2) :
    Agrees (single.react done) ((single.around.withLock lock).react done.1) := by
  rw [System.withLock_react]
  exact ⟨mirrors_withLock fits, rfl⟩

theorem plain_agrees (answer : Answer State Result) (fits : lock.Fits slot) :
    Agrees (react ⟨slot, around⟩ (.plain answer, slot)) (around.withLock lock, .answered answer) :=
  react_agrees ⟨slot, around⟩ (.plain answer, slot) fits

theorem aside_agrees {done told : System State Result × System.Progress State Result}
    (fits : lock.Fits slot) (same : told = done.map (System.withLock · lock) id) :
    Agrees (aside ⟨slot, around⟩ done) told := by
  rw [same]
  exact ⟨mirrors_withLock fits, rfl⟩

/-! Work on the lock and on the slot -/

theorem wounds_eq (fits : lock.Fits slot) (request : EntryRequest State Result) :
    lock.wounds request = (slot.rival? request.transaction).toList := by
  rw [Lock.wounds, fits.rivals, fits.others]
  cases slot.rival? request.transaction <;> rfl

/-- Without a wounding the worker is told of the entrant's own deadline. -/
theorem notifyAfterEntry_sound {clock : Instant} {request : EntryRequest State Result}
    (fits : lock.Fits (slot.seat clock request).2) :
    (around.withLock lock).notifyAfterEntry (slot.rival? request.transaction).toList =
      (around.withLock lock).sound (slot.seat clock request).1.alarm := by
  have deadline := fits.deadline _ rfl
  cases rival : slot.rival? request.transaction with
  | some holder => simp [Slot.seat, rival, System.notifyAfterEntry, System.sound]
  | none =>
      simp only [System.notifyAfterEntry, Slot.seat, rival]
      rw [show (around.withLock lock).lock = lock from rfl, deadline]
      rfl

theorem enterLock_agrees (fits : lock.Fits slot) (request : EntryRequest State Result) :
    Agrees (react ⟨slot, around⟩ (slot.enter around.clock request))
      ((around.withLock lock).enterLock request) := by
  have clock : (around.withLock lock).clock = around.clock := rfl
  have own : (around.withLock lock).lock = lock := rfl
  cases refused : slot.refusal? request with
  | some refusal =>
      simp only [System.enterLock, own, clock, fits.refused around.clock request refusal refused,
        Slot.enter, refused]
      exact plain_agrees _ fits
  | none =>
      obtain ⟨entry, done, admits⟩ := fits.admitted around.clock request refused
      have after := fits.admits admits
      have wounded := admits.wounded.trans (wounds_eq fits request)
      simp only [System.enterLock, own, clock, done, Slot.enter, refused]
      have told : (around.withLock entry.lock).react (slot.seat around.clock request).1 =
          ((around.withLock entry.lock).notifyAfterEntry entry.wounded).notifyThen entry.wounded
            (.entered (entry.result.mapError .operation)) := by
        rw [System.react, ← notifyAfterEntry_sound after, wounded, admits.result, fits.entrant]
        rfl
      have agrees := react_agrees ⟨slot, around⟩ (slot.seat around.clock request) after
      rwa [told] at agrees

theorem validateLock_agrees (fits : lock.Fits slot) (transaction : TransactionId)
    (counter : AccessCounter) :
    Agrees (react ⟨slot, around⟩ (slot.validate transaction counter))
      ((around.withLock lock).validateLock transaction counter) := by
  have own : (around.withLock lock).lock = lock := rfl
  have resident := fits.find? transaction
  simp only [System.validateLock, own]
  cases found : slot.find? transaction with
  | none =>
      simp only [Lock.validate, resident, Slot.validate, found]
      exact plain_agrees _ fits
  | some record =>
      by_cases same : record.accesses = counter
      · simp only [Lock.validate, resident, Slot.validate, found, if_pos same]
        exact plain_agrees _ fits
      · simp only [Lock.validate, resident, Slot.validate, found, if_neg same]
        exact react_agrees ⟨slot, around⟩ (_, slot.cleared) (fits.removed found)

theorem rollback_agrees (fits : lock.Fits slot) (transaction : TransactionId) (notify : Bool) :
    Agrees (react ⟨slot, around⟩ (slot.rollback transaction notify))
      ((around.withLock lock).rollback transaction notify) := by
  have own : (around.withLock lock).lock = lock := rfl
  have resident := fits.find? transaction
  simp only [System.rollback, own]
  cases found : slot.find? transaction with
  | none =>
      simp only [resident, Slot.rollback, found]
      exact plain_agrees _ fits
  | some record =>
      simp only [resident, Slot.rollback, found]
      exact react_agrees ⟨slot, around⟩ (_, slot.cleared) (fits.removed found)

theorem abortAll_agrees (fits : lock.Fits slot) :
    Agrees (react ⟨slot, around⟩ slot.abortAll) ((around.withLock lock).abortAll) := by
  have own : (around.withLock lock).lock = lock := rfl
  simp only [System.abortAll, own, fits.residents]
  cases held : slot.holder with
  | none =>
      simp only [Slot.abortAll, held]
      exact react_agrees ⟨slot, around⟩ (_, slot.cleared) fits.emptied
  | some holder =>
      simp only [Slot.abortAll, held]
      exact react_agrees ⟨slot, around⟩ (_, slot.cleared) fits.emptied

/-! Pieces of a call -/

theorem passGate_agrees (fits : lock.Fits slot) (request : EntryRequest State Result) :
    Agrees (passGate ⟨slot, around⟩ request) ((around.withLock lock).passGate request) := by
  have gate : (around.withLock lock).queue.gateOpen = around.queue.gateOpen := rfl
  simp only [passGate, System.passGate, gate]
  split
  · exact enterLock_agrees fits request
  · exact ⟨mirrors_withLock fits, rfl⟩

theorem start_agrees (around : System State Result) (fits : lock.Fits slot) (call : CallId)
    (request : Request State Result) :
    Agrees (start ⟨slot, around⟩ call request) ((around.withLock lock).start call request) := by
  cases request with
  | enter request => exact passGate_agrees fits request
  | validate transaction counter => exact validateLock_agrees fits transaction counter
  | rollback transaction notify => exact rollback_agrees fits transaction notify
  | abortAll => exact abortAll_agrees fits
  | handOver | recover | flushStorage | sleep =>
      exact aside_agrees fits (around.withLock_start lock call _ rfl)

theorem proceed_agrees (around : System State Result) (fits : lock.Fits slot)
    (stage : Stage State Result) :
    Agrees (proceed ⟨slot, around⟩ stage) ((around.withLock lock).proceed stage) := by
  cases stage with
  | atGate request => exact passGate_agrees fits request
  | notifying | handing | flushing | sleeping =>
      exact aside_agrees fits (around.withLock_proceed lock _ rfl)

theorem spawn_mirrors (fits : lock.Fits slot) (call : CallId) (request : Request State Result) :
    (spawn ⟨slot, around⟩ call request).Mirrors ((around.withLock lock).spawn call request) := by
  have agrees := start_agrees around fits call request
  simp only [spawn, System.spawn, System.begin]
  generalize start ⟨slot, around⟩ call request = single,
    (around.withLock lock).start call request = system at agrees ⊢
  rcases single with ⟨begun, progress⟩
  rcases system with ⟨system, come⟩
  obtain ⟨mirrors, same : come = progress⟩ := agrees
  obtain ⟨after, fits, rfl : system = begun.around.withLock after⟩ := mirrors.exists_lock
  subst same
  cases come <;> exact mirrors_withLock fits

theorem resume_mirrors (fits : lock.Fits slot) (call : CallId) :
    (resume ⟨slot, around⟩ call).Mirrors
      (System.noteAnswer call ((around.withLock lock).resume call)) := by
  have pending : (around.withLock lock).findCall? call = around.findCall? call := rfl
  simp only [resume, System.resume, pending]
  cases found : around.findCall? call with
  | none => exact mirrors_withLock fits
  | some pending =>
      have agrees := proceed_agrees around fits pending.stage
      dsimp only
      generalize proceed ⟨slot, around⟩ pending.stage = single,
        (around.withLock lock).proceed pending.stage = system at agrees ⊢
      rcases single with ⟨proceeded, progress⟩
      rcases system with ⟨system, come⟩
      obtain ⟨mirrors, same : come = progress⟩ := agrees
      obtain ⟨after, fits, rfl : system = proceeded.around.withLock after⟩ := mirrors.exists_lock
      subst same
      cases come <;> exact mirrors_withLock fits

/-! Turns -/

theorem startTick_mirrors (fits : lock.Fits slot) :
    (startTick ⟨slot, around⟩).Mirrors (around.withLock lock).startTick := by
  have ticks := fits.tick around.clock
  have looked : (around.withLock lock).startTick =
      (System.withLock { around with lockWorker := around.lockWorker.start (.breaking []) }
        (lock.tick around.clock).2).followUp (lock.tick around.clock).1 := rfl
  rw [looked, System.withLock_followUp, ticks.1]
  exact mirrors_withLock ticks.2

theorem lockTurn_mirrors (fits : lock.Fits slot) :
    (lockTurn ⟨slot, around⟩).Mirrors (around.withLock lock).lockTurn := by
  have worker : (around.withLock lock).lockWorker = around.lockWorker := rfl
  have clock : (around.withLock lock).clock = around.clock := rfl
  cases phase : around.lockWorker.phase with
  | waiting =>
      simp only [lockTurn, System.lockTurn, worker, clock, phase]
      cases (around.lockWorker.collect around.clock).pending.now with
      | true => exact startTick_mirrors fits
      | false => exact mirrors_withLock fits
  | running | stopped =>
      simp only [lockTurn, phase]
      exact mirrors_of (around.withLock_lockTurn lock (by simp [phase])) fits

theorem turnOf_mirrors (fits : lock.Fits slot) (task : Task) :
    (turnOf ⟨slot, around⟩ task).Mirrors ((around.withLock lock).turnOf task) := by
  have ready : (around.withLock lock).ready = around.ready := rfl
  simp only [turnOf, System.turnOf, ready]
  split
  · let resumed := { around with ready := around.ready.erase task }
    cases task with
    | storage =>
        exact mirrors_of (resumed.withLock_storageTurn lock) fits
    | lock => exact lockTurn_mirrors fits
    | call call => exact resume_mirrors fits call
  · exact mirrors_withLock fits

/-! Runs -/

theorem assignRole_mirrors (fits : lock.Fits slot) (transaction : TransactionId) (role : CommitRole)
    (timestamp : Timestamp) :
    (assignRole ⟨slot, around⟩ transaction role timestamp).Mirrors
      ((around.withLock lock).assignRole transaction role timestamp) := by
  have own : (around.withLock lock).lock = lock := rfl
  simp only [assignRole, System.assignRole, own, fits.find?]
  cases found : slot.find? transaction with
  | none => exact mirrors_withLock fits
  | some record =>
      exact mirrors_of (around.withLock_notifyLock _)
        (fits.assignRole around.clock found role timestamp)

theorem withRecord_agrees (fits : lock.Fits slot) (transaction : TransactionId)
    (operation : Operation State Result) :
    (withRecord ⟨slot, around⟩ transaction operation).1.Mirrors
        ((around.withLock lock).withRecord transaction operation).1 ∧
      ((around.withLock lock).withRecord transaction operation).2 =
        (withRecord ⟨slot, around⟩ transaction operation).2 := by
  have own : (around.withLock lock).lock = lock := rfl
  simp only [withRecord, System.withRecord, own, Slot.withRecord, Lock.withRecord, fits.find?]
  cases found : slot.find? transaction with
  | none => exact ⟨mirrors_withLock fits, rfl⟩
  | some record => exact ⟨mirrors_withLock (fits.withRecord found operation), rfl⟩

theorem step_mirrors {single : SlotSystem State Result} {system : System State Result}
    (event : Event State Result) (mirrors : single.Mirrors system) :
    (single.step event).Mirrors (system.step event) := by
  rcases single with ⟨slot, around⟩
  obtain ⟨lock, fits, rfl : system = around.withLock lock⟩ := mirrors.exists_lock
  cases event with
  | call call request =>
      have free : (around.withLock lock).isFree call = around.isFree call := rfl
      simp only [step, System.step, free]
      split
      · exact spawn_mirrors fits call request
      · exact mirrors_withLock fits
  | turn task => exact turnOf_mirrors fits task
  | assignRole transaction role timestamp => exact assignRole_mirrors fits transaction role timestamp
  | withRecord transaction operation => exact (withRecord_agrees fits transaction operation).1
  | notifyLock | notifyStorage | giveUp | pass | setGate | setRejecting | setRefusals | setDelays
  | setLag | stopLock | stopStorage =>
      exact mirrors_of (around.withLock_step lock _ rfl) fits

theorem run_mirrors {single : SlotSystem State Result} {system : System State Result}
    (events : List (Event State Result)) (mirrors : single.Mirrors system) :
    (single.run events).Mirrors (system.run events) := by
  induction events generalizing single system with
  | nil => exact mirrors
  | cons event rest ih => exact ih (step_mirrors event mirrors)

end SlotSystem

namespace System

/-- The system cannot be told from one with a slot: all that has been answered and handed over, and
all that is still to come, is the same, and so is what the lock would do next. -/
structure MatchesSlot (system : System State Result) (single : SlotSystem State Result) : Prop where
  clock : system.clock = single.around.clock
  queue : system.queue = single.around.queue
  lockWorker : system.lockWorker = single.around.lockWorker
  storageWorker : system.storageWorker = single.around.storageWorker
  calls : system.calls = single.around.calls
  ready : system.ready = single.around.ready
  journal : system.journal = single.around.journal
  members : system.lock.members = single.slot.holder.toList
  alone : system.lock.members.length ≤ 1
  refused : ∀ (request : EntryRequest State Result) (refusal : LockError),
    system.lock.enter system.clock request = .error refusal ↔
      single.slot.refusal? request = some refusal
  looks : ∀ clock, (system.lock.tick clock).1 = (single.slot.tick clock).1
  edits : ∀ transaction operation,
    (system.withRecord transaction operation).2 = (single.withRecord transaction operation).2

/-- With room for at most one transaction at a time the lock is a slot, whatever happens. -/
theorem run_matches_slot (options : Options) (narrow : options.maxLockGroupSize ≤ 1)
    (events : List (Event State Result)) :
    ((new options).run events).MatchesSlot ((SlotSystem.new options).run events) := by
  have begun : (SlotSystem.new options : SlotSystem State Result).Mirrors (new options) :=
    ⟨rfl, Lock.new_fits options narrow⟩
  have mirrors := SlotSystem.run_mirrors events begun
  generalize (SlotSystem.new options).run events = single, (new options).run events = system
    at mirrors ⊢
  obtain ⟨lock, fits, rfl : system = single.around.withLock lock⟩ := mirrors.exists_lock
  constructor
  case members => exact fits.members
  case alone =>
    rw [show (single.around.withLock lock).lock = lock from rfl, fits.members]
    cases single.slot.holder <;> simp
  case refused => exact fits.refused_iff _
  case looks => exact fun clock => (fits.tick clock).1
  case edits => exact fun transaction operation =>
    (SlotSystem.withRecord_agrees fits transaction operation).2
  all_goals rfl

def crowd : List (Event Nat Unit) :=
  [.call 0 (.enter (.visit (.ofNat 2) ⟨2⟩ .zero .read)),
    .call 1 (.enter (.visit (.ofNat 1) ⟨1⟩ .zero .read)),
    .call 2 (.enter (.visit (.ofNat 3) ⟨3⟩ .zero .read))]

theorem crowd_matches_slot :
    (⟨8000, 10000, 20000, 0⟩ : Options).maxLockGroupSize ≤ 1 ∧
      (((SlotSystem.new ⟨8000, 10000, 20000, 0⟩).run crowd).slot.holder.map
        fun holder => holder.transaction) = some (.ofNat 1) ∧
      ((new ⟨8000, 10000, 20000, 0⟩).run crowd).queue.aborted = [(.ofNat 2, .brokenLock)] ∧
      ((new ⟨8000, 10000, 20000, 0⟩).run crowd).MatchesSlot
        ((SlotSystem.new ⟨8000, 10000, 20000, 0⟩).run crowd) := by
  have narrow : (⟨8000, 10000, 20000, 0⟩ : Options).maxLockGroupSize ≤ 1 := Nat.zero_le 1
  exact ⟨narrow, rfl, rfl, run_matches_slot ⟨8000, 10000, 20000, 0⟩ narrow crowd⟩

end System

end WoundWait
