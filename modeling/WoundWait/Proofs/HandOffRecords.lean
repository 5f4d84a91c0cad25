import WoundWait.Proofs.WorkerRequests
import WoundWait.System.Event

/-!
Where the records are that have left the lock to be handed over: given to the queue, which the
journal tells, or still held by somebody who waits for the queue. A stretch of a turn that works on
neither the lock nor the calls only sends messages, readies tasks and completes hand-offs.
-/

namespace WoundWait

variable {State Result : Type}

/-- A record on its way to the queue, with what it is handed over for. -/
abbrev Parcel (State : Type) := Outcome × TransactionRecord State

def HandOff.parcel (handOff : HandOff State) : Parcel State :=
  (handOff.outcome, handOff.record)

def JournalEntry.parcel? : JournalEntry State Result → Option (Parcel State)
  | handed _ record outcome _ => some (outcome, record)
  | answered .. => none

namespace Stage

def held : Stage State Result → List (Parcel State)
  | notifying pending _ => pending.map HandOff.parcel
  | handing handOff => [handOff.parcel]
  | _ => []

def isFlushing : Stage State Result → Bool
  | flushing _ => true
  | _ => false

def entering? : Stage State Result → Option (EntryRequest State Result)
  | atGate request => some request
  | _ => none

end Stage

def TickRun.held : TickRun State → List (Parcel State)
  | exiting current rest => current.parcel :: rest.map fun record => (.commit, record)
  | breaking pending => pending.map HandOff.parcel

namespace System

def handed (system : System State Result) : List (Parcel State) :=
  system.journal.filterMap JournalEntry.parcel?

def workerHeld (system : System State Result) : List (Parcel State) :=
  match system.lockWorker.phase with
  | .running run _ => run.held
  | _ => []

def callsHeld (system : System State Result) : List (Parcel State) :=
  system.calls.flatMap fun pending => pending.stage.held

def gate (system : System State Result) : List (EntryRequest State Result) :=
  system.calls.filterMap fun pending => pending.stage.entering?

def held (system : System State Result) : List (Parcel State) :=
  system.callsHeld ++ system.workerHeld

/-- A piece of work that leaves the lock and the calls alone. The last list holds what it gave to
the queue, newest first. -/
structure Stretch (before after : System State Result) (toLock toStorage : List (WakeRequest CallId))
    (delivered : List (Parcel State)) : Prop where
  clock : after.clock = before.clock
  lock : after.lock = before.lock
  calls : after.calls = before.calls
  lockWorker : before.lockWorker.Receives after.lockWorker toLock
  storageWorker : before.storageWorker.Receives after.storageWorker toStorage
  ready : ∀ task ∈ before.ready, task ∈ after.ready
  woken : before.lockWorker.phase = .waiting → toLock ≠ [] → .lock ∈ after.ready
  handed : after.handed = delivered ++ before.handed

theorem stretch_refl (system : System State Result) : system.Stretch system [] [] [] :=
  ⟨rfl, rfl, rfl, system.lockWorker.receives_refl, system.storageWorker.receives_refl,
    fun _ member => member, fun _ none => absurd rfl none, rfl⟩

theorem Stretch.trans {first second third : System State Result}
    {toLock toLock' toStorage toStorage' : List (WakeRequest CallId)}
    {delivered delivered' : List (Parcel State)}
    (sooner : first.Stretch second toLock toStorage delivered)
    (later : second.Stretch third toLock' toStorage' delivered') :
    first.Stretch third (toLock ++ toLock') (toStorage ++ toStorage') (delivered' ++ delivered) := by
  refine ⟨later.clock.trans sooner.clock, later.lock.trans sooner.lock,
    later.calls.trans sooner.calls, sooner.lockWorker.trans later.lockWorker,
    sooner.storageWorker.trans later.storageWorker,
    fun task member => later.ready task (sooner.ready task member), ?_, ?_⟩
  · intro waiting sent
    by_cases early : toLock = []
    · have late : toLock' ≠ [] := by simpa [early] using sent
      exact later.woken (sooner.lockWorker.phase.trans waiting) late
    · exact later.ready .lock (sooner.woken waiting early)
  · rw [later.handed, sooner.handed, List.append_assoc]

theorem mem_enqueue (ready : List Task) (task other : Task) :
    other ∈ Cooperative.enqueue ready task ↔ other ∈ ready ∨ other = task := by
  unfold Cooperative.enqueue
  by_cases present : task ∈ ready
  · simp only [present, ↓reduceIte]
    constructor
    · exact .inl
    · rintro (old | same)
      · exact old
      · exact same ▸ present
  · simp [present]

theorem mem_enqueueAll (ready tasks : List Task) (other : Task) :
    other ∈ Cooperative.enqueueAll ready tasks ↔ other ∈ ready ∨ other ∈ tasks := by
  unfold Cooperative.enqueueAll
  induction tasks generalizing ready with
  | nil => simp
  | cons task rest ih =>
      rw [List.foldl_cons, ih, mem_enqueue, List.mem_cons, or_assoc]

theorem wake_stretch (system : System State Result) (task : Task) :
    system.Stretch (system.wake task) [] [] [] := by
  refine ⟨rfl, rfl, rfl, system.lockWorker.receives_refl, system.storageWorker.receives_refl,
    ?_, fun _ none => absurd rfl none, rfl⟩
  intro other member
  exact (mem_enqueue system.ready task other).mpr (.inl member)

theorem wakeLock_stretch (system : System State Result) :
    system.Stretch system.wakeLock [] [] [] := by
  unfold wakeLock
  split
  · exact system.wake_stretch .lock
  · exact system.stretch_refl

theorem wakeLock_queue (system : System State Result) : system.wakeLock.queue = system.queue := by
  unfold wakeLock
  split <;> rfl

theorem wakeStorage_stretch (system : System State Result) :
    system.Stretch system.wakeStorage [] [] [] := by
  unfold wakeStorage
  split
  · exact system.wake_stretch .storage
  · exact system.stretch_refl

/-- A message to a waiting worker readies its task. -/
theorem wakeLock_ready (system : System State Result)
    (waiting : system.lockWorker.phase = .waiting) : .lock ∈ system.wakeLock.ready := by
  have isWaiting : system.lockWorker.isWaiting = true := by simp [Worker.isWaiting, waiting]
  simp only [wakeLock, isWaiting, ↓reduceIte, wake]
  exact (mem_enqueue system.ready .lock .lock).mpr (.inr rfl)

theorem wakeStorage_queue (system : System State Result) :
    system.wakeStorage.queue = system.queue := by
  unfold wakeStorage
  split <;> rfl

theorem lockMail_stretch (system : System State Result)
    (worker : Worker (TickRun State) CallId) (sent : List (WakeRequest CallId))
    (receives : system.lockWorker.Receives worker sent) :
    system.Stretch { system with lockWorker := worker }.wakeLock sent [] [] := by
  have woken := { system with lockWorker := worker }.wakeLock_stretch
  refine ⟨woken.clock, woken.lock, woken.calls, ?_, woken.storageWorker, woken.ready, ?_,
    woken.handed⟩
  · simpa using receives.trans woken.lockWorker
  · intro waiting _
    exact wakeLock_ready _ (receives.phase.trans waiting)

theorem notifyLock_stretch (system : System State Result) :
    system.Stretch system.notifyLock [.immediate] [] [] :=
  system.lockMail_stretch _ _ system.lockWorker.notify_receives

theorem notifyLockAt_stretch (system : System State Result) (instant : Instant) :
    system.Stretch (system.notifyLockAt instant) [.deferred instant] [] [] :=
  system.lockMail_stretch _ _ (system.lockWorker.notifyAt_receives instant)

theorem storageMail_stretch (system : System State Result) (worker : Worker Unit CallId)
    (sent : List (WakeRequest CallId)) (receives : system.storageWorker.Receives worker sent) :
    system.Stretch { system with storageWorker := worker }.wakeStorage [] sent [] := by
  have woken := { system with storageWorker := worker }.wakeStorage_stretch
  refine ⟨woken.clock, woken.lock, woken.calls, woken.lockWorker, ?_, woken.ready,
    fun _ none => absurd rfl none, woken.handed⟩
  simpa using receives.trans woken.storageWorker

theorem notifyStorage_stretch (system : System State Result) :
    system.Stretch system.notifyStorage [] [.immediate] [] :=
  system.storageMail_stretch _ _ system.storageWorker.notify_receives

/-! Completed hand-offs -/

theorem deliver_stretch (system : System State Result) (handOff : HandOff State) :
    system.Stretch (system.deliver handOff) [] [] [handOff.parcel] :=
  ⟨rfl, rfl, rfl, system.lockWorker.receives_refl, system.storageWorker.receives_refl,
    fun _ member => member, fun _ none => absurd rfl none, rfl⟩

theorem deliverDue_stretch (system : System State Result) (handOffs : List (HandOff State)) :
    ∃ delivered, system.Stretch (system.deliverDue handOffs).1 [] [] delivered ∧
      (delivered ++ (system.deliverDue handOffs).2.map HandOff.parcel).Perm
        (handOffs.map HandOff.parcel) := by
  induction handOffs generalizing system with
  | nil => exact ⟨[], system.stretch_refl, List.Perm.refl _⟩
  | cons handOff rest ih =>
      by_cases due : handOff.due ≤ system.clock
      · obtain ⟨delivered, stretch, perm⟩ := ih (system.deliver handOff)
        have whole := (system.deliver_stretch handOff).trans stretch
        refine ⟨delivered ++ [handOff.parcel], by simpa [deliverDue, due] using whole, ?_⟩
        simp only [deliverDue, due, ↓reduceIte, List.map_cons, List.append_assoc,
          List.singleton_append]
        exact List.perm_middle.trans (perm.cons _)
      · obtain ⟨delivered, stretch, perm⟩ := ih system
        refine ⟨delivered, by simpa [deliverDue, due] using stretch, ?_⟩
        simp only [deliverDue, due, ↓reduceIte, List.map_cons]
        exact List.perm_middle.trans (perm.cons _)

/-- What is due is given to the queue in this order, and the rest is kept as it is. -/
theorem deliverDue_filter (system : System State Result) (handOffs : List (HandOff State)) :
    (system.deliverDue handOffs).1.handed =
        ((handOffs.filter fun handOff => handOff.due ≤ system.clock).map HandOff.parcel).reverse ++
          system.handed ∧
      (system.deliverDue handOffs).2 =
        handOffs.filter fun handOff => system.clock < handOff.due := by
  induction handOffs generalizing system with
  | nil => exact ⟨rfl, rfl⟩
  | cons handOff rest ih =>
      by_cases due : handOff.due ≤ system.clock
      · obtain ⟨handed, later⟩ := ih (system.deliver handOff)
        have first : (system.deliver handOff).handed = handOff.parcel :: system.handed := rfl
        have clock : (system.deliver handOff).clock = system.clock := rfl
        have early : ¬ system.clock < handOff.due := Int.not_lt.mpr due
        simp only [deliverDue, due, ↓reduceIte, handed, first, later, clock]
        simp [due, early]
      · obtain ⟨handed, later⟩ := ih system
        have early : system.clock < handOff.due := Int.not_le.mp due
        simp only [deliverDue, due, ↓reduceIte, handed, later]
        simp [due, early]

theorem startNotifying_stretch (system : System State Result)
    (records : List (TransactionRecord State)) :
    ∃ delivered, system.Stretch (system.startNotifying records).1 [] [] delivered ∧
      (delivered ++ (system.startNotifying records).2.map HandOff.parcel).Perm
        (records.map fun record => (.abort .brokenLock, record)) := by
  obtain ⟨delivered, stretch, perm⟩ := system.deliverDue_stretch
    (records.map (system.queue.handOff system.clock (.abort .brokenLock)))
  refine ⟨delivered, stretch, ?_⟩
  rw [List.map_map] at perm
  exact perm

theorem deliverExits_stretch (system : System State Result)
    (records : List (TransactionRecord State)) :
    ∃ delivered, system.Stretch (system.deliverExits records).1 [] [] delivered ∧
      (delivered ++ ((system.deliverExits records).2.map TickRun.held).getD []).Perm
        (records.map fun record => (.commit, record)) := by
  induction records generalizing system with
  | nil => exact ⟨[], system.stretch_refl, List.Perm.refl _⟩
  | cons record rest ih =>
      let handOff := system.queue.handOff system.clock .commit record
      by_cases due : handOff.due ≤ system.clock
      · obtain ⟨delivered, stretch, perm⟩ := ih (system.deliver handOff)
        have whole := (system.deliver_stretch handOff).trans stretch
        have opened : system.deliverExits (record :: rest) =
            (system.deliver handOff).deliverExits rest := by
          simp only [deliverExits]
          exact if_pos due
        rw [opened]
        refine ⟨delivered ++ [handOff.parcel], by simpa using whole, ?_⟩
        simp only [List.map_cons, List.append_assoc, List.singleton_append]
        exact List.perm_middle.trans (perm.cons _)
      · have opened : system.deliverExits (record :: rest) =
            (system, some (.exiting handOff rest)) := by
          simp only [deliverExits]
          exact if_neg due
        rw [opened]
        exact ⟨[], system.stretch_refl, List.Perm.refl _⟩

end System

end WoundWait
