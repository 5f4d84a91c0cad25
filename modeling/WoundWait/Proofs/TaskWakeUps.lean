import WoundWait.Proofs.PromptSystem
import WoundWait.Proofs.LockWakeUps

/-!
Nobody is forgotten in a responsive system. A worker's task is ready or has nothing to do; whoever
waits for a run is kept by the worker until the run has ended; and a call that has its answer, or
whose instant has come, is ready.
-/

namespace WoundWait

namespace Worker

variable {Run Waiter : Type}

structure NothingDue (worker : Worker Run Waiter) (clock : Instant) : Prop where
  mailbox : worker.mailbox = []
  unasked : worker.pending.now = false
  early : isDue clock worker.pending.deferred = false

structure Alert (worker : Worker Run Waiter) (clock : Instant) (ready : Prop) : Prop where
  served : worker.pending.waiters = []
  awake : ready ∨ worker.NothingDue clock

theorem Alert.receives {before after : Worker Run Waiter} {clock : Instant} {ready ready' : Prop}
    {sent : List (WakeRequest Waiter)} (alert : before.Alert clock ready)
    (receives : before.Receives after sent) (kept : ready → ready') (woken : sent ≠ [] → ready') :
    after.Alert clock ready' := by
  refine ⟨receives.pending ▸ alert.served, ?_⟩
  rcases alert.awake with there | nothingDue
  · exact .inl (kept there)
  · by_cases silent : sent = []
    · right
      constructor
      · simp [receives.mailbox, nothingDue.mailbox, silent]
      · rw [receives.pending]
        exact nothingDue.unasked
      · rw [receives.pending]
        exact nothingDue.early
    · exact .inl (woken silent)

/-- Whoever asks for a run asks for it at once. -/
theorem absorbAll_served (requests : List (WakeRequest Waiter)) (pending : PendingWake Waiter)
    (served : pending.waiters = [] ∨ pending.now = true)
    (unasked : (requests.foldl PendingWake.absorb pending).now = false) :
    (requests.foldl PendingWake.absorb pending).waiters = [] := by
  induction requests generalizing pending with
  | nil =>
      rcases served with nobody | asked
      · exact nobody
      · cases asked.symm.trans unasked
  | cons request rest ih =>
      refine ih (pending.absorb request) ?_ unasked
      cases request with
      | immediate => exact .inr rfl
      | deferred instant => exact served
      | flush waiter => exact .inr rfl

/-- A worker that has looked into its mail and was not asked for a run has nothing to do. -/
theorem Alert.collect {worker : Worker Run Waiter} {clock : Instant} {ready : Prop}
    (served : worker.pending.waiters = [])
    (unasked : (worker.collect clock).pending.now = false) :
    (worker.collect clock).Alert clock ready := by
  obtain ⟨same, idle, early⟩ := PendingWake.promote_idle worker.requests clock unasked
  refine ⟨?_, .inr ⟨rfl, unasked, ?_⟩⟩
  · rw [← absorbAll_served worker.mailbox worker.pending (.inl served) idle]
    exact congrArg PendingWake.waiters same
  · exact (congrArg (isDue clock ·.deferred) same).trans early

/-- Those who wait for a worker have all sent it a message. -/
theorem waiting_waiters (worker : Worker Run Waiter) (waiting : worker.phase = .waiting) :
    worker.waiters = worker.requests.waiters := by
  rw [waiters_split, taken, waiting, List.nil_append]

theorem Alert.nobody {worker : Worker Run Waiter} {clock : Instant} {ready : Prop}
    (alert : worker.Alert clock ready) (waiting : worker.phase = .waiting) (asleep : ¬ ready) :
    worker.waiters = [] := by
  have nothingDue := alert.awake.resolve_left asleep
  rw [worker.waiting_waiters waiting, requests, nothingDue.mailbox]
  exact alert.served

/-- A run takes all those who have asked for one. -/
theorem start_taken (worker : Worker Run Waiter) (waiting : worker.phase = .waiting)
    (clock : Instant) (run : Run) : ((worker.collect clock).start run).taken = worker.waiters := by
  rw [worker.waiting_waiters waiting]
  exact PendingWake.promote_waiters _ _

end Worker

variable {State Result : Type}

namespace System

inductive WillResume (system : System State Result) : PendingCall State Result → Prop where
  | asks (call : CallId)
      (kept : call ∈ system.lockWorker.waiters ∨ call ∈ system.storageWorker.waiters) :
      WillResume system ⟨call, .flushing none⟩
  | answered (call : CallId) (ready : .call call ∈ system.ready) :
      WillResume system ⟨call, .flushing (some (.ok ()))⟩
  | sleeps (call : CallId) (due : Instant)
      (awake : .call call ∈ system.ready ∨ system.clock < due) :
      WillResume system ⟨call, .sleeping due⟩

structure Wakeful (system : System State Result) : Prop where
  distinct : (system.calls.map fun pending => pending.call).Nodup
  lock : system.lockWorker.Alert system.clock (.lock ∈ system.ready)
  storage : system.storageWorker.Alert system.clock (.storage ∈ system.ready)
  willResume : ∀ pending ∈ system.calls, system.WillResume pending
  lockWaiters : ∀ waiter ∈ system.lockWorker.waiters, ⟨waiter, .flushing none⟩ ∈ system.calls
  storageWaiters : ∀ waiter ∈ system.storageWorker.waiters,
    ⟨waiter, .flushing none⟩ ∈ system.calls
  apart : ∀ waiter ∈ system.lockWorker.waiters, waiter ∉ system.storageWorker.waiters
  timed : system.lock.IsTimed
  guarded : system.lock.Guarded system.lockWorker.requests

theorem call_unique {calls : List (PendingCall State Result)}
    (distinct : (calls.map fun pending => pending.call).Nodup) (pending other : PendingCall State Result)
    (present : pending ∈ calls) (present' : other ∈ calls) (named : pending.call = other.call) :
    pending = other :=
  List.inj_on_of_nodup_map distinct present present' named

theorem Wakeful.named {system : System State Result} (wakeful : system.Wakeful) : system.Named := by
  refine ⟨wakeful.distinct, ?_, ?_⟩
  · intro pending present kept
    rw [call_unique wakeful.distinct pending _ present (wakeful.lockWaiters _ kept) rfl]
    rfl
  · intro pending present kept
    rw [call_unique wakeful.distinct pending _ present (wakeful.storageWaiters _ kept) rfl]
    rfl

theorem new_wakeful (options : Options) : (new options : System State Result).Wakeful := by
  refine ⟨List.nodup_nil, ⟨rfl, .inl (by simp [new])⟩, ⟨rfl, .inl (by simp [new])⟩, ?_, ?_, ?_, ?_, ?_,
    fun _ => .inl rfl⟩
  · intro pending present
    cases present
  · intro waiter kept
    cases kept
  · intro waiter kept
    cases kept
  · intro waiter kept
    cases kept
  · intro group present
    cases present

/-- More tasks may be ready. -/
theorem Wakeful.readied {system : System State Result} (wakeful : system.Wakeful) (ready : List Task)
    (more : ∀ task ∈ system.ready, task ∈ ready) : ({ system with ready } : System _ _).Wakeful := by
  refine ⟨wakeful.distinct, ⟨wakeful.lock.served, wakeful.lock.awake.imp_left (more _)⟩,
    ⟨wakeful.storage.served, wakeful.storage.awake.imp_left (more _)⟩, ?_, wakeful.lockWaiters,
    wakeful.storageWaiters, wakeful.apart, wakeful.timed, wakeful.guarded⟩
  intro pending present
  cases wakeful.willResume pending present with
  | asks call kept => exact .asks call kept
  | answered call there => exact .answered call (more _ there)
  | sleeps call due awake => exact .sleeps call due (awake.imp_left (more _))

def resumed (system : System State Result) (task : Task) : System State Result :=
  { system with ready := system.ready.erase task }

theorem resumed_responsive {system : System State Result} (responsive : system.Responsive) (task : Task) :
    (system.resumed task).Responsive :=
  ⟨responsive.prompt.congr rfl rfl, responsive.lock, responsive.storage⟩

theorem resumed_ready (system : System State Result) (task other : Task) (foreign : other ≠ task)
    (there : other ∈ system.ready) : other ∈ (system.resumed task).ready :=
  (List.mem_erase_of_ne foreign).mpr there

/-! Calls -/

inductive Wait where
  | nothing
  | look
  | storage
  | instant (due : Instant)

namespace Wait

def stage? : Wait → Option (Stage State Result)
  | nothing => none
  | look | storage => some (.flushing none)
  | instant due => some (.sleeping due)

def toLock (call : CallId) : Wait → List (WakeRequest CallId)
  | look => [.flush call]
  | _ => []

def toStorage (call : CallId) : Wait → List (WakeRequest CallId)
  | storage => [.flush call]
  | _ => []

end Wait

def waitOf (clock : Instant) : Request State Result → Wait
  | .recover => .look
  | .flushStorage => .storage
  | .sleep (before + 1) => .instant (clock + (before + 1 : Nat))
  | _ => .nothing

/-- What a task does for its call, which is over then or begins to wait: one action at most,
messages, and so many tasks at most that become ready. -/
structure Errand (before after : System State Result) (call : CallId)
    (action : Option (LockAction State Result)) (wait : Wait) (woken : Nat) : Prop where
  clock : after.clock = before.clock
  lock : after.lock = before.lockAfter action
  blind : action ≠ some .tick
  calls : after.calls = before.calls.filter (fun pending => pending.call != call) ++
    (wait.stage?.map (PendingCall.mk call)).toList
  ready : ∀ task ∈ before.ready, task ≠ .call call → task ∈ after.ready
  short : after.ready.length ≤ before.ready.length + woken
  toLock : before.lockWorker.Receives after.lockWorker (before.wakesOf action ++ wait.toLock call)
  lockWoken : before.wakesOf action ++ wait.toLock call ≠ [] → .lock ∈ after.ready
  toStorage : before.storageWorker.Receives after.storageWorker (wait.toStorage call)
  storageWoken : wait.toStorage call ≠ [] → .storage ∈ after.ready
  later : ∀ due, wait = .instant due → before.clock < due

section

variable {before after : System State Result} {call : CallId} {action : Option (LockAction State Result)}
  {wait : Wait} {woken : Nat}

theorem Errand.mem_calls (errand : before.Errand after call action wait woken)
    (pending : PendingCall State Result) :
    pending ∈ after.calls ↔
      (pending ∈ before.calls ∧ pending.call ≠ call) ∨
        (pending.call = call ∧ wait.stage? = some pending.stage) := by
  rw [errand.calls, List.mem_append, List.mem_filter, bne_iff_ne, Option.mem_toList,
    Option.map_eq_some_iff]
  apply or_congr_right
  constructor
  · rintro ⟨stage, begun, rfl⟩
    exact ⟨rfl, begun⟩
  · rintro ⟨rfl, begun⟩
    exact ⟨pending.stage, begun, rfl⟩

theorem Errand.lockWaiters (errand : before.Errand after call action wait woken)
    (responsive : before.Responsive) :
    after.lockWorker.waiters =
      before.lockWorker.waiters ++ (wait.toLock call).filterMap WakeRequest.waiter? := by
  have alive : before.lockWorker.isStopped = false := by simp [Worker.isStopped, responsive.lock]
  rw [errand.toLock.waiters, alive, List.filterMap_append, before.wakesOf_waiters action]
  rfl

theorem Errand.storageWaiters (errand : before.Errand after call action wait woken)
    (responsive : before.Responsive) :
    after.storageWorker.waiters =
      before.storageWorker.waiters ++ (wait.toStorage call).filterMap WakeRequest.waiter? := by
  have alive : before.storageWorker.isStopped = false := by simp [Worker.isStopped, responsive.storage]
  rw [errand.toStorage.waiters, alive]
  rfl

/-- An action asks for whatever look it makes necessary. -/
theorem Errand.guarded (errand : before.Errand after call action wait woken)
    (responsive : before.Responsive)
    (distinct : before.lock.HasDistinctNames) (wakeful : before.Wakeful) :
    after.lock.Guarded after.lockWorker.requests := by
  have alive : before.lockWorker.isStopped = false := by simp [Worker.isStopped, responsive.lock]
  rw [errand.lock, errand.toLock.requests alive, List.foldl_append]
  apply Lock.guarded_absorb
  cases action with
  | none => exact wakeful.guarded
  | some action =>
      exact before.lock.perform_guarded before.clock action _ distinct wakeful.timed wakeful.guarded
        fun look => errand.blind (congrArg some look)

theorem Errand.willResume (errand : before.Errand after call action wait woken)
    (responsive : before.Responsive)
    (wakeful : before.Wakeful) : ∀ pending ∈ after.calls, after.WillResume pending := by
  intro pending present
  rcases (errand.mem_calls pending).mp present with ⟨old, other⟩ | ⟨rfl, begun⟩
  · have kept (task : Task) (there : task ∈ before.ready) (foreign : task ≠ .call call) :=
      errand.ready task there foreign
    cases wakeful.willResume pending old with
    | asks place keeps =>
        refine .asks place ?_
        rw [errand.lockWaiters responsive, errand.storageWaiters responsive]
        exact keeps.imp (List.mem_append_left _) (List.mem_append_left _)
    | answered place there => exact .answered place (kept _ there (by simpa using other))
    | sleeps place due awake =>
        rw [← errand.clock] at awake
        exact .sleeps place due (awake.imp_left fun there => kept _ there (by simpa using other))
  · obtain ⟨call, stage⟩ := pending
    cases wait with
    | nothing => cases begun
    | look =>
        cases begun
        refine .asks call (.inl ?_)
        rw [errand.lockWaiters responsive]
        exact List.mem_append_right _ List.mem_cons_self
    | storage =>
        cases begun
        refine .asks call (.inr ?_)
        rw [errand.storageWaiters responsive]
        exact List.mem_append_right _ List.mem_cons_self
    | instant due =>
        cases begun
        exact .sleeps call due (.inr (errand.clock ▸ errand.later due rfl))

theorem Errand.distinct (errand : before.Errand after call action wait woken)
    (distinct : (before.calls.map fun pending => pending.call).Nodup) :
    (after.calls.map fun pending => pending.call).Nodup := by
  have kept : ((before.calls.filter fun pending => pending.call != call).map
      fun pending => pending.call).Nodup := (List.filter_sublist.map _).nodup distinct
  rw [errand.calls]
  cases wait.stage? with
  | none => simpa using kept
  | some stage =>
      rw [Option.map_some, Option.toList_some, List.map_append, List.map_singleton,
        ← List.concat_eq_append, List.nodup_concat]
      refine ⟨?_, kept⟩
      intro borne
      obtain ⟨pending, there, named⟩ := List.mem_map.mp borne
      simp [named] at there

/-- Whoever asks for a run under a name that was free is the only one of that name. -/
theorem Errand.waits (errand : before.Errand after call action wait woken)
    (responsive : before.Responsive)
    (free : ⟨call, .flushing none⟩ ∉ before.calls) (wakeful : before.Wakeful) (waiter : CallId)
    (kept : waiter ∈ after.lockWorker.waiters ∨ waiter ∈ after.storageWorker.waiters) :
    ⟨waiter, .flushing none⟩ ∈ after.calls := by
  have stays (there : ⟨waiter, .flushing none⟩ ∈ before.calls) :
      ⟨waiter, .flushing none⟩ ∈ after.calls := by
    refine (errand.mem_calls _).mpr (.inl ⟨there, ?_⟩)
    rintro rfl
    exact free there
  rw [errand.lockWaiters responsive, errand.storageWaiters responsive, List.mem_append,
    List.mem_append] at kept
  rcases kept with (old | new) | (old | new)
  · exact stays (wakeful.lockWaiters waiter old)
  · cases wait with
    | look =>
        rw [List.mem_singleton.mp new]
        exact (errand.mem_calls _).mpr (.inr ⟨rfl, rfl⟩)
    | _ => cases new
  · exact stays (wakeful.storageWaiters waiter old)
  · cases wait with
    | storage =>
        rw [List.mem_singleton.mp new]
        exact (errand.mem_calls _).mpr (.inr ⟨rfl, rfl⟩)
    | _ => cases new

theorem Errand.apart (errand : before.Errand after call action wait woken)
    (responsive : before.Responsive)
    (free : ⟨call, .flushing none⟩ ∉ before.calls) (wakeful : before.Wakeful) :
    ∀ waiter ∈ after.lockWorker.waiters, waiter ∉ after.storageWorker.waiters := by
  intro waiter kept
  rw [errand.lockWaiters responsive, List.mem_append] at kept
  rw [errand.storageWaiters responsive, List.mem_append]
  cases wait with
  | look =>
      rcases kept with old | new
      · exact fun kept' => wakeful.apart waiter old (kept'.resolve_right (by simp [Wait.toStorage]))
      · rw [List.mem_singleton.mp new]
        intro kept'
        exact free (wakeful.storageWaiters call (kept'.resolve_right (by simp [Wait.toStorage])))
  | storage =>
      have old := kept.resolve_right (by simp [Wait.toLock])
      rintro (kept' | new)
      · exact wakeful.apart waiter old kept'
      · rw [List.mem_singleton.mp new] at old
        exact free (wakeful.lockWaiters call old)
  | nothing | instant =>
      have old := kept.resolve_right (by simp [Wait.toLock])
      exact fun kept' => wakeful.apart waiter old (kept'.resolve_right (by simp [Wait.toStorage]))

theorem Errand.wakeful (errand : before.Errand after call action wait woken)
    (responsive : before.Responsive)
    (distinct : before.lock.HasDistinctNames) (free : ⟨call, .flushing none⟩ ∉ before.calls)
    (wakeful : before.Wakeful) : after.Wakeful := by
  refine ⟨errand.distinct wakeful.distinct, ?_, ?_, errand.willResume responsive wakeful,
    fun waiter kept => errand.waits responsive free wakeful waiter (.inl kept),
    fun waiter kept => errand.waits responsive free wakeful waiter (.inr kept),
    errand.apart responsive free wakeful, ?_, errand.guarded responsive distinct wakeful⟩
  · rw [errand.clock]
    exact wakeful.lock.receives errand.toLock (fun there => errand.ready _ there (by simp))
      errand.lockWoken
  · rw [errand.clock]
    exact wakeful.storage.receives errand.toStorage (fun there => errand.ready _ there (by simp))
      errand.storageWoken
  · rw [errand.lock]
    exact before.lockAfter_isTimed action distinct wakeful.timed

/-- What happens around the work itself: other tasks become ready, the call that went on is over,
the task has left the queue of those that are ready. -/
theorem Errand.readied (errand : before.Errand after call action wait woken) (ready : List Task)
    (more : ∀ task ∈ after.ready, task ∈ ready) (short : ready.length ≤ after.ready.length + 1) :
    before.Errand { after with ready } call action wait (woken + 1) :=
  { errand with
    ready := fun task there foreign => more task (errand.ready task there foreign)
    short := by have := errand.short; simp only; omega
    lockWoken := fun sent => more _ (errand.lockWoken sent)
    storageWoken := fun sent => more _ (errand.storageWoken sent) }

theorem Errand.recalled
    (errand : Errand
      { before with calls := before.calls.filter fun pending => pending.call != call }
      after call action wait woken) : before.Errand after call action wait woken := by
  have calls := errand.calls
  rw [List.filter_filter] at calls
  simp only [Bool.and_self] at calls
  exact ⟨errand.clock, errand.lock, errand.blind, calls, errand.ready, errand.short, errand.toLock,
    errand.lockWoken, errand.toStorage, errand.storageWoken, errand.later⟩

theorem Errand.since (ready : List Task)
    (kept : ∀ task ∈ before.ready, task ≠ .call call → task ∈ ready)
    (shorter : ready.length ≤ before.ready.length)
    (errand : Errand { before with ready } after call action wait woken) :
    before.Errand after call action wait woken := by
  refine ⟨errand.clock, errand.lock, errand.blind, errand.calls, ?_, ?_, errand.toLock,
    errand.lockWoken, errand.toStorage, errand.storageWoken, errand.later⟩
  · intro task there foreign
    exact errand.ready task (kept task there foreign) foreign
  · exact Nat.le_trans errand.short (Nat.add_le_add_right shorter woken)

end

/-! What becomes ready -/

theorem enqueue_length (ready : List Task) (task : Task) :
    (Cooperative.enqueue ready task).length ≤ ready.length + 1 := by
  unfold Cooperative.enqueue
  split
  · exact Nat.le_succ _
  · exact Nat.le_of_eq List.length_append

theorem enqueueAll_length (ready tasks : List Task) :
    (Cooperative.enqueueAll ready tasks).length ≤ ready.length + tasks.length := by
  unfold Cooperative.enqueueAll
  induction tasks generalizing ready with
  | nil => exact Nat.le_refl _
  | cons task rest ih =>
      have first := enqueue_length ready task
      have later := ih (Cooperative.enqueue ready task)
      rw [List.foldl_cons, List.length_cons]
      omega

section

variable (system : System State Result)

theorem wakeLock_short : system.wakeLock.ready.length ≤ system.ready.length + 1 := by
  unfold wakeLock
  split
  · exact enqueue_length _ _
  · exact Nat.le_succ _

theorem wakeStorage_short : system.wakeStorage.ready.length ≤ system.ready.length + 1 := by
  unfold wakeStorage
  split
  · exact enqueue_length _ _
  · exact Nat.le_succ _

theorem wakeStorage_ready (waiting : system.storageWorker.phase = .waiting) :
    .storage ∈ system.wakeStorage.ready := by
  have isWaiting : system.storageWorker.isWaiting = true := by simp [Worker.isWaiting, waiting]
  simp only [wakeStorage, isWaiting, ↓reduceIte, wake]
  exact (mem_enqueue system.ready .storage .storage).mpr (.inr rfl)

theorem deliverDue_ready (handOffs : List (HandOff State)) :
    (system.deliverDue handOffs).1.ready = system.ready := by
  induction handOffs generalizing system with
  | nil => rfl
  | cons handOff rest ih =>
      simp only [deliverDue]
      split
      · exact ih (system.deliver handOff)
      · exact ih system

theorem deliverExits_ready (records : List (TransactionRecord State)) :
    (system.deliverExits records).1.ready = system.ready := by
  induction records generalizing system with
  | nil => rfl
  | cons record rest ih =>
      simp only [deliverExits]
      split
      · exact ih (system.deliver _)
      · rfl

theorem notifyThen_ready (records : List (TransactionRecord State)) (answer : Answer State Result) :
    (system.notifyThen records answer).1.ready = system.ready := by
  have same : (system.startNotifying records).1.ready = system.ready := system.deliverDue_ready _
  unfold notifyThen
  split
  · rename_i notified started
    rw [started] at same
    exact same
  · rename_i notified pending started
    rw [started] at same
    exact same

theorem notifyAfterEntry_short (wounded : List (TransactionRecord State)) :
    (system.notifyAfterEntry wounded).ready.length ≤ system.ready.length + 1 := by
  unfold notifyAfterEntry
  split
  · split
    · exact wakeLock_short _
    · exact Nat.le_succ _
  · exact wakeLock_short _

theorem enterLock_short (request : EntryRequest State Result) :
    (system.enterLock request).1.ready.length ≤ system.ready.length + 1 := by
  unfold enterLock
  split
  · exact Nat.le_succ _
  · rename_i entry admitted
    rw [notifyThen_ready]
    exact notifyAfterEntry_short _ _

theorem start_short (call : CallId) (request : Request State Result) :
    (system.start call request).1.ready.length ≤ system.ready.length + 1 := by
  cases request with
  | enter request =>
      simp only [start, passGate]
      split
      · exact enterLock_short _ request
      · exact Nat.le_succ _
  | validate transaction counter =>
      simp only [start, validateLock]
      split
      · exact Nat.le_succ _
      · exact Nat.le_succ _
      · rw [notifyThen_ready]
        exact wakeLock_short _
  | rollback transaction notify =>
      simp only [start, rollback]
      split
      · exact Nat.le_succ _
      · rw [notifyThen_ready]
        exact wakeLock_short _
  | abortAll =>
      simp only [start, abortAll]
      rw [notifyThen_ready]
      split
      · exact Nat.le_succ _
      · exact wakeLock_short _
  | handOver record outcome =>
      simp only [start, handOver]
      split <;> exact Nat.le_succ _
  | recover =>
      simp only [start, recover]
      split
      · exact Nat.le_succ _
      · exact wakeLock_short _
  | flushStorage =>
      simp only [start, flushStorage]
      split
      · exact Nat.le_succ _
      · exact wakeStorage_short _
  | sleep milliseconds =>
      cases milliseconds <;> exact Nat.le_succ _

/-! Calls that begin -/

/-- What a call comes to at once, if it does not wait. -/
theorem start_waitOf (responsive : system.Responsive) (call : CallId) (request : Request State Result) :
    (∃ answer, (system.start call request).2 = .answered answer ∧
        ((waitOf system.clock request).stage? : Option (Stage State Result)) = none) ∨
      ∃ stage, (system.start call request).2 = .waits stage ∧
        (waitOf system.clock request).stage? = some stage := by
  cases request with
  | enter request => exact .inl ⟨_, (system.start_enter responsive.prompt call request).2, rfl⟩
  | validate transaction counter =>
      exact .inl ⟨_, (system.start_validate responsive.prompt call transaction counter).2, rfl⟩
  | rollback transaction notify =>
      exact .inl ⟨_, (system.start_rollback responsive.prompt call transaction notify).2, rfl⟩
  | abortAll => exact .inl ⟨_, (system.start_abortAll responsive.prompt call).2, rfl⟩
  | handOver record outcome =>
      have due := system.queue.handOff_due responsive.prompt.queue system.clock outcome record
      simp only [start, handOver, due, ↓reduceIte]
      exact .inl ⟨_, rfl, rfl⟩
  | recover => exact .inr ⟨_, (system.start_recover responsive call).2, rfl⟩
  | flushStorage => exact .inr ⟨_, (system.start_flushStorage responsive call).2, rfl⟩
  | sleep milliseconds =>
      cases milliseconds with
      | zero => exact .inl ⟨_, rfl, rfl⟩
      | succ before => exact .inr ⟨_, rfl, rfl⟩

theorem requestMail_waitOf (call : CallId) (request : Request State Result) :
    system.requestMail call request =
      system.wakesOf (system.requestAction? request) ++ (waitOf system.clock request).toLock call := by
  cases request with
  | sleep milliseconds => cases milliseconds <;> rfl
  | recover => rfl
  | _ => exact (List.append_nil _).symm

theorem storageMail_waitOf (clock : Instant) (call : CallId) (request : Request State Result) :
    storageMail call request = (waitOf clock request).toStorage call := by
  cases request with
  | sleep milliseconds => cases milliseconds <;> rfl
  | _ => rfl

theorem waitOf_later (clock : Instant) (request : Request State Result) (due : Instant)
    (waits : waitOf clock request = .instant due) : clock < due := by
  cases request with
  | sleep milliseconds =>
      cases milliseconds with
      | zero => cases waits
      | succ before =>
          cases waits
          exact Int.lt_add_of_pos_right clock (Int.natCast_pos.mpr before.succ_pos)
  | _ => cases waits

theorem begin_errand (responsive : system.Responsive) (call : CallId) (request : Request State Result)
    (clear : ∀ pending ∈ system.calls, pending.call ≠ call) :
    system.Errand (system.begin call request).1 call (system.requestAction? request)
      (waitOf system.clock request) 1 := by
  obtain ⟨delivered, stretch, _⟩ := system.start_does call request
  have short := system.start_short call request
  have outcome := system.start_waitOf responsive call request
  have all : system.calls.filter (fun pending => pending.call != call) = system.calls :=
    List.filter_eq_self.mpr fun pending present => bne_iff_ne.mpr (clear pending present)
  have storageWoken : (waitOf system.clock request).toStorage call ≠ [] →
      .storage ∈ (system.start call request).1.ready := by
    intro sent
    cases request with
    | flushStorage =>
        have alive : system.storageWorker.isStopped = false := by
          simp [Worker.isStopped, responsive.storage]
        simp only [start, flushStorage, alive, Bool.false_eq_true, ↓reduceIte]
        apply wakeStorage_ready
        rw [(system.storageWorker.send_receives (.flush call)).phase]
        exact responsive.storage
    | sleep milliseconds => cases milliseconds <;> exact absurd rfl sent
    | _ => exact absurd rfl sent
  have mail := stretch.lockWorker
  have mail' := stretch.storageWorker
  have woken := stretch.woken
  rw [requestMail_waitOf] at mail woken
  rw [storageMail_waitOf system.clock] at mail'
  -- Whether it waits or not, only the calls are still to be seen to.
  have errand (calls : List (PendingCall State Result))
      (begun : calls = system.calls ++
        ((waitOf system.clock request).stage?.map (PendingCall.mk call)).toList) :
      system.Errand { (system.start call request).1 with calls } call (system.requestAction? request)
        (waitOf system.clock request) 1 :=
    ⟨stretch.clock, stretch.lock, system.requestAction?_tick request, all.symm ▸ begun,
      fun task there _ => stretch.ready task there, short, mail, woken responsive.lock, mail', storageWoken,
      waitOf_later system.clock request⟩
  have kept := stretch.calls
  cases progress : system.start call request with
  | mk started outcome =>
      rw [progress] at errand kept
      rcases system.start_waitOf responsive call request with
        ⟨answer, answered, nothing⟩ | ⟨stage, waits, stage_eq⟩
      · rw [progress] at answered
        subst answered
        simp only [begin, progress]
        apply errand started.calls
        rw [nothing]
        simpa using kept
      · rw [progress] at waits
        subst waits
        simp only [begin, progress]
        apply errand
        rw [stage_eq]
        exact congrArg (· ++ _) kept

theorem begin_waitOf (responsive : system.Responsive) (call : CallId) (request : Request State Result) :
    (system.begin call request).2 = none ↔
      ((waitOf system.clock request).stage? : Option (Stage State Result)) ≠ none := by
  rw [begin_answer]
  rcases system.start_waitOf responsive call request with
    ⟨answer, answered, nothing⟩ | ⟨stage, waits, stage_eq⟩
  · simp [answered, nothing, Progress.answer?]
  · simp [waits, stage_eq, Progress.answer?]

/-- A role is noted before the call begins. -/
theorem Errand.assigned {system after : System State Result} {call : CallId} {wait : Wait}
    {woken : Nat} (responsive : system.Responsive) (transaction : TransactionId) (role : CommitRole)
    (timestamp : Timestamp) (resident : (system.lock.find? transaction).isSome = true)
    (errand : (system.assignRole transaction role timestamp).Errand after call none wait woken) :
    system.Errand after call (some (.assignRole transaction role timestamp)) wait (woken + 1) := by
  let assigned := { system with
    lock := system.lock.assignRole system.clock transaction role timestamp }
  have same : system.assignRole transaction role timestamp = assigned.notifyLock := by
    simp only [assignRole, resident, ↓reduceIte]
    rfl
  have told := assigned.notifyLock_stretch
  have short : assigned.notifyLock.ready.length ≤ system.ready.length + 1 := wakeLock_short _
  have lock : system.lockAfter (some (.assignRole transaction role timestamp)) = assigned.lock := by
    simp only [lockAfter, Option.elim_some, Lock.perform, resident, ↓reduceIte]
    rfl
  have wakes : system.wakesOf (some (.assignRole transaction role timestamp)) = [.immediate] := by
    simp only [wakesOf, Option.elim_some, Lock.wakes, resident, ↓reduceIte]
  rw [same] at errand
  constructor
  · exact errand.clock.trans told.clock
  · exact (errand.lock.trans told.lock).trans lock.symm
  · intro ticks
    cases ticks
  · rw [errand.calls, told.calls]
  · exact fun task there foreign => errand.ready task (told.ready task there) foreign
  · exact Nat.le_trans errand.short (by omega)
  · rw [wakes]
    exact told.lockWorker.trans errand.toLock
  · intro _
    exact errand.ready .lock (told.woken responsive.lock (by simp)) (by simp)
  · exact told.storageWorker.trans errand.toStorage
  · exact errand.storageWoken
  · rw [← told.clock]
    exact errand.later

end

/-! Calls that go on -/

section

variable {system : System State Result}

theorem WillResume.quiet {pending : PendingCall State Result} (willResume : system.WillResume pending) :
    pending.stage.isQuiet = true := by
  cases willResume <;> rfl

def Unanswered (system : System State Result) (call : CallId) : Prop :=
  ∀ pending ∈ system.calls, pending.call = call →
    pending.stage = .flushing none ∨ ∃ due, pending.stage = .sleeping due ∧ system.clock < due

inductive GoesOn (system : System State Result) (call : CallId) :
    System State Result × Option (Answer State Result) → Prop where
  | waits (unanswered : system.Unanswered call) : GoesOn system call (system, none)
  | passes (stage : Stage State Result) (answer : Answer State Result)
      (present : ⟨call, stage⟩ ∈ system.calls) (yields : Yields stage answer)
      (past : ∀ due, stage = .sleeping due → due ≤ system.clock) :
      GoesOn system call
        ({ system with calls := system.calls.filter fun pending => pending.call != call },
          some answer)

theorem resume_goesOn (distinct : (system.calls.map fun pending => pending.call).Nodup)
    (quiet : ∀ pending ∈ system.calls, pending.stage.isQuiet = true) (call : CallId) :
    system.GoesOn call (system.resume call) := by
  cases found : system.findCall? call with
  | none =>
      simp only [resume, found]
      refine .waits fun pending present named => ?_
      exact absurd (beq_iff_eq.mpr named) (List.find?_eq_none.mp found pending present)
  | some pending =>
      obtain ⟨present, named⟩ := named?_some system.calls call pending found
      have alone (other : PendingCall State Result) (there : other ∈ system.calls)
          (own : other.call = call) : other = pending :=
        call_unique distinct other pending there present (own.trans named.symm)
      have waits (same : system.proceed pending.stage = (system, .waits pending.stage)) :
          system.resume call = (system, none) := by
        have kept : (system.calls.map fun other =>
            if other.call = call then { other with stage := pending.stage } else other) =
            system.calls := by
          refine (List.map_congr_left fun other there => ?_).trans (List.map_id _)
          split
          · rename_i own
            rw [alone other there own]
            rfl
          · rfl
        simp only [resume, found, same, kept]
      have done (answer : Answer State Result) (yields : Yields pending.stage answer)
          (same : system.proceed pending.stage = (system, .answered answer))
          (past : ∀ due, pending.stage = .sleeping due → due ≤ system.clock) :
          system.GoesOn call (system.resume call) := by
        simp only [resume, found, same]
        subst named
        exact .passes pending.stage answer present yields past
      have still := quiet pending present
      cases stage : pending.stage with
      | flushing answer =>
          cases answer with
          | none =>
              rw [waits (by rw [stage]; rfl)]
              exact .waits fun other there own => .inl (alone other there own ▸ stage)
          | some answer =>
              cases answer with
              | ok nothing =>
                  exact done (.flushed (.ok nothing)) (by rw [stage]; exact .flushed)
                    (by rw [stage]; rfl) (by simp [stage])
              | error stopped =>
                  rw [stage] at still
                  cases still
      | sleeping due =>
          by_cases past : due ≤ system.clock
          · exact done .slept (by rw [stage]; exact .slept due)
              (by simp only [stage, proceed, past, ↓reduceIte]) (by simpa [stage] using past)
          · rw [waits (by simp only [stage, proceed, past, ↓reduceIte])]
            refine .waits fun other there own => .inr ⟨due, ?_, Int.lt_of_not_ge past⟩
            rw [alone other there own]
            exact stage
      | _ =>
          rw [stage] at still
          cases still

/-- Whoever goes on waiting need not be ready. -/
theorem Wakeful.rests (wakeful : system.Wakeful) (call : CallId)
    (unanswered : system.Unanswered call) (ready : List Task)
    (kept : ∀ task ∈ system.ready, task ≠ .call call → task ∈ ready) :
    ({ system with ready } : System State Result).Wakeful := by
  refine ⟨wakeful.distinct,
    ⟨wakeful.lock.served, wakeful.lock.awake.imp_left fun there => kept _ there (by simp)⟩,
    ⟨wakeful.storage.served, wakeful.storage.awake.imp_left fun there => kept _ there (by simp)⟩, ?_,
    wakeful.lockWaiters, wakeful.storageWaiters, wakeful.apart, wakeful.timed, wakeful.guarded⟩
  intro pending present
  by_cases own : pending.call = call
  · obtain ⟨place, stage⟩ := pending
    rcases unanswered _ present own with rfl | ⟨due, rfl, early⟩
    · cases wakeful.willResume _ present with
      | asks _ keeps => exact .asks place keeps
    · exact .sleeps place due (.inr early)
  · cases wakeful.willResume pending present with
    | asks place keeps => exact .asks place keeps
    | answered place there => exact .answered place (kept _ there (by simpa using own))
    | sleeps place due awake =>
        exact .sleeps place due (awake.imp_left fun there => kept _ there (by simpa using own))

end

end System

end WoundWait
