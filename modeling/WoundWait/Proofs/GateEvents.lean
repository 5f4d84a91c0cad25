import WoundWait.Proofs.CallAnswers

/-!
What events mean for the gate of the queue. Nobody opens or closes it but who is asked to, it counts
the entries that are begun, and whatever happens meanwhile, a ready task stays ready until its turn.
-/

namespace WoundWait

variable {State Result : Type}

def Request.isEntry : Request State Result → Bool
  | .enter _ => true
  | _ => false

namespace System

def begun (system : System State Result) :
    Event State Result → List (CallId × Request State Result)
  | .call call request => if system.isFree call then [(call, request)] else []
  | _ => []

def entriesOf (history : List (CallId × Request State Result)) : Nat :=
  history.countP fun begun => begun.2.isEntry

def gateAfter (gateOpen : Bool) : Event State Result → Bool
  | .setGate wanted => wanted
  | _ => gateOpen

structure Bypasses (before after : System State Result) : Prop where
  gateOpen : after.queue.gateOpen = before.queue.gateOpen
  readyCalls : after.queue.readyCalls = before.queue.readyCalls
  ready : ∀ task ∈ before.ready, task ∈ after.ready

theorem Bypasses.trans {first second third : System State Result} (sooner : first.Bypasses second)
    (later : second.Bypasses third) : first.Bypasses third :=
  ⟨later.gateOpen.trans sooner.gateOpen, later.readyCalls.trans sooner.readyCalls,
    fun task ready => later.ready task (sooner.ready task ready)⟩

/-- Work that has nothing to do with the queue. -/
theorem bypasses_aside (before after : System State Result) (queue : after.queue = before.queue)
    (ready : ∀ task ∈ before.ready, task ∈ after.ready) : before.Bypasses after :=
  ⟨congrArg OutcomeQueue.gateOpen queue, congrArg OutcomeQueue.readyCalls queue, ready⟩

section

variable (system : System State Result)

theorem bypasses_refl : system.Bypasses system :=
  system.bypasses_aside system rfl fun _ ready => ready

/-! Messages -/

theorem wake_bypasses (task : Task) : system.Bypasses (system.wake task) :=
  bypasses_aside _ _ rfl fun other ready => (mem_enqueue system.ready task other).mpr (.inl ready)

theorem wakeLock_bypasses : system.Bypasses system.wakeLock := by
  unfold wakeLock
  split
  · exact system.wake_bypasses .lock
  · exact system.bypasses_refl

theorem wakeStorage_bypasses : system.Bypasses system.wakeStorage := by
  unfold wakeStorage
  split
  · exact system.wake_bypasses .storage
  · exact system.bypasses_refl

theorem mailLock_bypasses (lockWorker : Worker (TickRun State) CallId) :
    system.Bypasses { system with lockWorker }.wakeLock :=
  (bypasses_aside system { system with lockWorker } rfl fun _ ready => ready).trans
    { system with lockWorker }.wakeLock_bypasses

theorem mailStorage_bypasses (storageWorker : Worker Unit CallId) :
    system.Bypasses { system with storageWorker }.wakeStorage :=
  (bypasses_aside system { system with storageWorker } rfl fun _ ready => ready).trans
    { system with storageWorker }.wakeStorage_bypasses

theorem notifyLock_bypasses : system.Bypasses system.notifyLock :=
  system.mailLock_bypasses _

theorem notifyLockAt_bypasses (instant : Instant) : system.Bypasses (system.notifyLockAt instant) :=
  system.mailLock_bypasses _

theorem notifyStorage_bypasses : system.Bypasses system.notifyStorage :=
  system.mailStorage_bypasses _

theorem answerFlushes_bypasses (waiters : List CallId) (answer : FlushAnswer) :
    system.Bypasses (system.answerFlushes waiters answer) :=
  bypasses_aside _ _ rfl (system.answerFlushes_ready waiters answer)

/-! Hand-offs -/

theorem deliver_bypasses (handOff : HandOff State) : system.Bypasses (system.deliver handOff) := by
  have queue : (system.deliver handOff).queue = system.queue.receive handOff := rfl
  refine ⟨?_, ?_, fun _ ready => ready⟩ <;>
  · rw [queue, OutcomeQueue.receive]
    split
    · rfl
    · split <;> rfl

theorem deliverDue_bypasses (handOffs : List (HandOff State)) :
    system.Bypasses (system.deliverDue handOffs).1 := by
  induction handOffs generalizing system with
  | nil => exact system.bypasses_refl
  | cons handOff rest ih =>
      simp only [deliverDue]
      split
      · exact (system.deliver_bypasses handOff).trans (ih _)
      · exact ih system

theorem deliverExits_bypasses (records : List (TransactionRecord State)) :
    system.Bypasses (system.deliverExits records).1 := by
  induction records generalizing system with
  | nil => exact system.bypasses_refl
  | cons record rest ih =>
      simp only [deliverExits]
      split
      · exact (system.deliver_bypasses _).trans (ih _)
      · exact system.bypasses_refl

theorem notifyThen_bypasses (records : List (TransactionRecord State)) (answer : Answer State Result) :
    system.Bypasses (system.notifyThen records answer).1 := by
  have delivered := system.deliverDue_bypasses
    (records.map (system.queue.handOff system.clock (.abort .brokenLock)))
  unfold notifyThen startNotifying
  split <;> rename_i later <;> rwa [later] at delivered

/-! The workers -/

theorem finishTick_bypasses : system.Bypasses system.finishTick := by
  let ended := { system with lockWorker := system.lockWorker.finish }
  have answered : system.Bypasses (ended.answerFlushes system.lockWorker.taken (.ok ())) :=
    (bypasses_aside system ended rfl fun _ ready => ready).trans (ended.answerFlushes_bypasses _ _)
  exact answered.trans (bypasses_aside _ _ rfl fun _ ready => List.mem_cons_of_mem _ ready)

theorem concludeExits_bypasses (run : Option (TickRun State)) :
    system.Bypasses (concludeExits (system, run)) := by
  cases run with
  | none =>
      exact (system.notifyLock_bypasses.trans system.notifyLock.notifyStorage_bypasses).trans
        (finishTick_bypasses _)
  | some run => exact bypasses_aside _ _ rfl fun _ ready => ready

theorem concludeBreaks_bypasses (pending : List (HandOff State)) :
    system.Bypasses (concludeBreaks (system, pending)) := by
  cases pending with
  | nil => exact system.notifyLock_bypasses.trans (finishTick_bypasses _)
  | cons first rest => exact bypasses_aside _ _ rfl fun _ ready => ready

theorem startTick_bypasses : system.Bypasses system.startTick := by
  let looked := { system with
    lock := (system.lock.tick system.clock).2
    lockWorker := system.lockWorker.start (.breaking []) }
  have first : system.Bypasses looked := bypasses_aside _ _ rfl fun _ ready => ready
  simp only [startTick]
  split
  · exact first.trans looked.finishTick_bypasses
  · exact (first.trans (looked.notifyLockAt_bypasses _)).trans (finishTick_bypasses _)
  · exact (first.trans (looked.deliverExits_bypasses _)).trans (concludeExits_bypasses _ _)
  · exact (first.trans (looked.deliverDue_bypasses _)).trans (concludeBreaks_bypasses _ _)

theorem continueTick_bypasses (run : TickRun State) : system.Bypasses (system.continueTick run) := by
  cases run with
  | exiting current rest =>
      simp only [continueTick]
      split
      · exact ((system.deliver_bypasses current).trans (deliverExits_bypasses _ rest)).trans
          (concludeExits_bypasses _ _)
      · exact system.bypasses_refl
  | breaking pending => exact (system.deliverDue_bypasses pending).trans (concludeBreaks_bypasses _ _)

theorem lockTurn_bypasses : system.Bypasses system.lockTurn := by
  let collected := { system with lockWorker := system.lockWorker.collect system.clock }
  have first : system.Bypasses collected := bypasses_aside _ _ rfl fun _ ready => ready
  unfold lockTurn
  split
  · exact system.bypasses_refl
  · exact system.continueTick_bypasses _
  · simp only
    split
    · exact first.trans collected.startTick_bypasses
    · exact first

theorem storageTurn_bypasses : system.Bypasses system.storageTurn := by
  unfold storageTurn
  split
  · simp only
    split
    · let started := (system.storageWorker.collect system.clock).start ()
      let ended := { system with storageWorker := started.finish }
      have answered : system.Bypasses (ended.answerFlushes started.taken (.ok ())) :=
        (bypasses_aside system ended rfl fun _ ready => ready).trans (ended.answerFlushes_bypasses _ _)
      exact answered.trans (bypasses_aside _ _ rfl fun _ ready => List.mem_cons_of_mem _ ready)
    · exact bypasses_aside _ _ rfl fun _ ready => ready
  · exact system.bypasses_refl

/-! Pieces of calls -/

theorem relock_bypasses (lock : Lock State) : system.Bypasses { system with lock } :=
  bypasses_aside _ _ rfl fun _ ready => ready

theorem enterLock_bypasses (request : EntryRequest State Result) :
    system.Bypasses (system.enterLock request).1 := by
  unfold enterLock
  split
  · exact system.bypasses_refl
  · rename_i entry _
    have woken : system.Bypasses ({ system with lock := entry.lock }.notifyAfterEntry entry.wounded) := by
      apply (system.relock_bypasses entry.lock).trans
      unfold notifyAfterEntry
      split
      · split
        · exact notifyLockAt_bypasses _ _
        · exact bypasses_refl _
      · exact notifyLock_bypasses _
    exact woken.trans (notifyThen_bypasses _ _ _)

theorem passGate_bypasses (request : EntryRequest State Result) :
    system.Bypasses (system.passGate request).1 := by
  unfold passGate
  split
  · exact system.enterLock_bypasses request
  · exact system.bypasses_refl

theorem handOver_bypasses (handOff : HandOff State) : system.Bypasses (system.handOver handOff).1 := by
  unfold handOver
  split
  · exact system.deliver_bypasses handOff
  · exact system.bypasses_refl

theorem proceed_bypasses (stage : Stage State Result) : system.Bypasses (system.proceed stage).1 := by
  cases stage with
  | atGate request => exact system.passGate_bypasses request
  | notifying pending answer =>
      have delivered := system.deliverDue_bypasses pending
      simp only [proceed]
      split <;> rename_i later <;> rwa [later] at delivered
  | handing handOff => exact system.handOver_bypasses handOff
  | flushing answer => cases answer <;> exact system.bypasses_refl
  | sleeping due =>
      simp only [proceed]
      split <;> exact system.bypasses_refl

/-- An entry is counted as it comes to the gate. -/
theorem start_bypasses (call : CallId) (request : Request State Result) :
    { system with queue := { system.queue with
        readyCalls := system.queue.readyCalls + request.isEntry.toNat } }.Bypasses
      (system.start call request).1 := by
  cases request with
  | enter request => exact passGate_bypasses _ request
  | validate transaction counter =>
      simp only [start, validateLock]
      split
      · exact system.bypasses_refl
      · exact system.bypasses_refl
      · exact ((system.relock_bypasses _).trans (notifyLock_bypasses _)).trans (notifyThen_bypasses _ _ _)
  | rollback transaction notify =>
      simp only [start, rollback]
      split
      · exact system.bypasses_refl
      · exact ((system.relock_bypasses _).trans (notifyLock_bypasses _)).trans (notifyThen_bypasses _ _ _)
  | abortAll =>
      simp only [start, abortAll]
      split
      · exact (system.relock_bypasses _).trans (notifyThen_bypasses _ _ _)
      · exact ((system.relock_bypasses _).trans (notifyLock_bypasses _)).trans (notifyThen_bypasses _ _ _)
  | handOver record outcome => exact system.handOver_bypasses _
  | recover =>
      simp only [start, recover]
      split
      · exact system.bypasses_refl
      · exact system.mailLock_bypasses _
  | flushStorage =>
      simp only [start, flushStorage]
      split
      · exact system.bypasses_refl
      · exact system.mailStorage_bypasses _
  | sleep milliseconds => cases milliseconds <;> exact system.bypasses_refl

theorem spawn_bypasses (call : CallId) (request : Request State Result) :
    { system with queue := { system.queue with
        readyCalls := system.queue.readyCalls + request.isEntry.toNat } }.Bypasses
      (system.spawn call request) := by
  have started := system.start_bypasses call request
  cases progress : system.start call request with
  | mk after outcome =>
      rw [progress] at started
      cases outcome with
      | answered answer =>
          simp only [spawn, begin, progress]
          exact started.trans (bypasses_aside _ _ rfl fun _ ready => ready)
      | waits stage =>
          simp only [spawn, begin, progress]
          exact started.trans (bypasses_aside _ _ rfl fun other ready =>
            (mem_enqueue after.ready (.call call) other).mpr (.inl ready))

theorem resume_bypasses (call : CallId) :
    system.Bypasses (noteAnswer call (system.resume call)) := by
  cases found : system.findCall? call with
  | none =>
      simp only [resume, found, noteAnswer]
      exact system.bypasses_refl
  | some pending =>
      have proceeded := system.proceed_bypasses pending.stage
      cases progress : system.proceed pending.stage with
      | mk after outcome =>
          rw [progress] at proceeded
          cases outcome <;>
          · simp only [resume, found, progress, noteAnswer]
            exact proceeded.trans (bypasses_aside _ _ rfl fun _ ready => ready)

/-! Events -/

structure Attends (system : System State Result) (event : Event State Result) : Prop where
  gateOpen : (system.step event).queue.gateOpen = gateAfter system.queue.gateOpen event
  readyCalls : (system.step event).queue.readyCalls =
    system.queue.readyCalls + entriesOf (system.begun event)
  ready : ∀ task ∈ system.ready, event ≠ .turn task → task ∈ (system.step event).ready

theorem attends_of_bypasses (event : Event State Result)
    (unopened : ∀ gateOpen, gateAfter gateOpen event = gateOpen)
    (nobody : system.begun event = []) (bypasses : system.Bypasses (system.step event)) :
    system.Attends event := by
  refine ⟨?_, ?_, fun task ready _ => bypasses.ready task ready⟩
  · rw [unopened]
    exact bypasses.gateOpen
  · rw [nobody]
    exact bypasses.readyCalls

theorem turn_attends (task : Task) : system.Attends (.turn task) := by
  by_cases ready : task ∈ system.ready
  · let resumed := { system with ready := system.ready.erase task }
    have bypasses : resumed.Bypasses (system.step (.turn task)) := by
      cases task with
      | storage =>
          rw [system.step_turn_storage ready]
          exact resumed.storageTurn_bypasses
      | lock =>
          rw [system.step_turn_lock ready]
          exact resumed.lockTurn_bypasses
      | call call =>
          rw [system.step_turn_call call ready]
          exact resumed.resume_bypasses call
    refine ⟨bypasses.gateOpen, bypasses.readyCalls, ?_⟩
    intro other there different
    have foreign : other ≠ task := fun same => different (congrArg Event.turn same.symm)
    exact bypasses.ready other ((List.mem_erase_of_ne foreign).mpr there)
  · apply system.attends_of_bypasses _ (fun _ => rfl) rfl
    rw [system.step_unready task ready]
    exact system.bypasses_refl

theorem call_attends (call : CallId) (request : Request State Result) :
    system.Attends (.call call request) := by
  by_cases free : system.isFree call = true
  · have bypasses := system.spawn_bypasses call request
    have counted : entriesOf (system.begun (.call call request)) = request.isEntry.toNat := by
      simp only [begun, free, ↓reduceIte, entriesOf, List.countP_singleton]
      cases request.isEntry <;> rfl
    constructor
    · simpa [step, free, gateAfter] using bypasses.gateOpen
    · simpa [step, free, counted] using bypasses.readyCalls
    · intro task ready _
      simpa [step, free] using bypasses.ready task ready
  · apply system.attends_of_bypasses _ (fun _ => rfl)
    · simp [begun, free]
    · simpa [step, free] using system.bypasses_refl

theorem step_attends (event : Event State Result) : system.Attends event := by
  have aside (unopened : ∀ gateOpen, gateAfter gateOpen event = gateOpen)
      (nobody : system.begun event = []) (bypasses : system.Bypasses (system.step event)) :
      system.Attends event :=
    system.attends_of_bypasses event unopened nobody bypasses
  have kept : ∀ task ∈ system.ready, task ∈ system.ready := fun _ ready => ready
  cases event with
  | call call request => exact system.call_attends call request
  | giveUp call => exact aside (fun _ => rfl) rfl (bypasses_aside _ _ rfl kept)
  | turn task => exact system.turn_attends task
  | pass target =>
      exact aside (fun _ => rfl) rfl (bypasses_aside _ _ rfl fun task ready =>
        (mem_enqueueAll system.ready _ task).mpr (.inl ready))
  | assignRole transaction role timestamp =>
      apply aside (fun _ => rfl) rfl
      simp only [step, assignRole]
      split
      · exact (system.relock_bypasses _).trans (notifyLock_bypasses _)
      · exact system.bypasses_refl
  | withRecord transaction operation =>
      apply aside (fun _ => rfl) rfl
      simp only [step, withRecord]
      split
      · exact system.bypasses_refl
      · exact system.relock_bypasses _
  | notifyLock => exact aside (fun _ => rfl) rfl system.notifyLock_bypasses
  | notifyStorage => exact aside (fun _ => rfl) rfl system.notifyStorage_bypasses
  | setGate gateOpen =>
      exact ⟨rfl, rfl, fun task ready _ => (mem_enqueueAll system.ready _ task).mpr (.inl ready)⟩
  | setRejecting | setRefusals | setDelays | setLag =>
      exact aside (fun _ => rfl) rfl ⟨rfl, rfl, kept⟩
  | stopLock =>
      exact aside (fun _ => rfl) rfl ((bypasses_aside system
        { system with lockWorker := system.lockWorker.stop } rfl kept).trans (answerFlushes_bypasses _ _ _))
  | stopStorage =>
      exact aside (fun _ => rfl) rfl ((bypasses_aside system
        { system with storageWorker := system.storageWorker.stop } rfl kept).trans
          (answerFlushes_bypasses _ _ _))

end

end System

end WoundWait
