import WoundWait.Proofs.TaskWakeUps

/-!
Runs of the two workers in a responsive system. A run ends in the turn in which it began: it answers
all those who waited for it, and the worker goes round again. The clock only moves on, and readies
those whose instant has come.
-/

namespace WoundWait

variable {State Result : Type}

inductive Lock.LookSends (lock after : Lock State) (clock : Instant) :
    List (WakeRequest CallId) → List (WakeRequest CallId) → Prop where
  | idle : LookSends lock after clock [] []
  | later (instant : Instant) (early : clock < instant) :
      LookSends lock after clock [.deferred instant] []
  | broken (fewer : after.members.length < lock.members.length) :
      LookSends lock after clock [.immediate] []
  | exits (fewer : after.members.length < lock.members.length) :
      LookSends lock after clock [.immediate] [.immediate]

namespace Lock

theorem tick_recheck (lock : Lock State) (clock instant : Instant)
    (decision : (lock.tick clock).1 = .recheck instant) : clock < instant := by
  have looks := lock.tick_looks clock
  rw [decision] at looks
  generalize (lock.tick clock).2 = after at looks
  cases looks with
  | waiting group deadline present unready early next => exact early

/-- A look that hands records over leaves nobody behind. -/
theorem tick_fewer (lock : Lock State) (clock : Instant)
    (leaves : (∃ records, (lock.tick clock).1 = .exit records) ∨
      ∃ records, (lock.tick clock).1 = .breakLock records) :
    (lock.tick clock).2.members.length < lock.members.length := by
  have kept : lock.remaining.length ≤ lock.members.length := List.length_filter_le _ _
  have looks := lock.tick_looks clock
  generalize (lock.tick clock).1 = decision at looks leaves
  generalize (lock.tick clock).2 = after at looks ⊢
  cases looks with
  | exit somebody ready => exact Nat.lt_of_lt_of_le (List.length_pos_iff.mpr somebody) kept
  | broken group present unready =>
      obtain ⟨member, stays, _⟩ := unready
      exact Nat.lt_of_lt_of_le (List.length_pos_of_mem stays) kept
  | empty | waiting | untimed => rcases leaves with ⟨records, other⟩ | ⟨records, other⟩ <;> cases other

end Lock

namespace System

def reply (waiters : List CallId) (pending : PendingCall State Result) : PendingCall State Result :=
  if pending.call ∈ waiters then { pending with stage := .flushing (some (.ok ())) } else pending

structure Replies (before after : System State Result) (waiters : List CallId) : Prop where
  calls : after.calls = before.calls.map (reply waiters)
  ready : ∀ task ∈ before.ready, task ∈ after.ready
  replied : ∀ pending ∈ before.calls, pending.call ∈ waiters → .call pending.call ∈ after.ready

@[simp] theorem reply_call (waiters : List CallId) (pending : PendingCall State Result) :
    (reply waiters pending).call = pending.call := by
  unfold reply
  split <;> rfl

section

variable {before after : System State Result} {waiters : List CallId}

theorem Replies.mem_calls (replies : before.Replies after waiters)
    (pending : PendingCall State Result) (present : pending ∈ after.calls) :
    (pending ∈ before.calls ∧ pending.call ∉ waiters) ∨
      (pending.stage = .flushing (some (.ok ())) ∧ pending.call ∈ waiters ∧
        .call pending.call ∈ after.ready) := by
  rw [replies.calls] at present
  obtain ⟨asked, there, rfl⟩ := List.mem_map.mp present
  unfold reply
  split
  · rename_i waits
    exact .inr ⟨rfl, waits, replies.replied asked there waits⟩
  · rename_i aside
    exact .inl ⟨there, aside⟩

theorem Replies.keeps (replies : before.Replies after waiters)
    (pending : PendingCall State Result) (present : pending ∈ before.calls)
    (aside : pending.call ∉ waiters) : pending ∈ after.calls := by
  rw [replies.calls]
  exact List.mem_map.mpr ⟨pending, present, if_neg aside⟩

theorem Replies.distinct (replies : before.Replies after waiters)
    (distinct : (before.calls.map fun pending => pending.call).Nodup) :
    (after.calls.map fun pending => pending.call).Nodup := by
  rw [replies.calls, List.map_map]
  exact (List.map_congr_left fun pending _ => reply_call waiters pending) ▸ distinct

/-- Whoever is not answered is kept by its worker still. -/
theorem Replies.willResume (replies : before.Replies after waiters) (clock : after.clock = before.clock)
    (willResume : ∀ pending ∈ before.calls, before.WillResume pending)
    (kept : ∀ waiter, waiter ∈ before.lockWorker.waiters ∨ waiter ∈ before.storageWorker.waiters →
      waiter ∈ waiters ∨ waiter ∈ after.lockWorker.waiters ∨ waiter ∈ after.storageWorker.waiters) :
    ∀ pending ∈ after.calls, after.WillResume pending := by
  intro pending present
  rcases replies.mem_calls pending present with ⟨old, aside⟩ | ⟨good, _, ready⟩
  · cases willResume pending old with
    | asks call keeps => exact .asks call ((kept call keeps).resolve_left aside)
    | answered call there => exact .answered call (replies.ready _ there)
    | sleeps call due awake =>
        rw [← clock] at awake
        exact .sleeps call due (awake.imp_left (replies.ready _))
  · obtain ⟨call, stage⟩ := pending
    subst good
    exact .answered call ready

end

theorem answerFlushes_replies (system : System State Result) (waiters : List CallId) :
    system.Replies (system.answerFlushes waiters (.ok ())) waiters := by
  have borne (pending : PendingCall State Result) (present : pending ∈ system.calls) :
      pending.call ∈ waiters.filter (fun waiter => system.calls.any fun call => call.call == waiter) ↔
        pending.call ∈ waiters := by
    rw [List.mem_filter, and_iff_left]
    exact List.any_eq_true.mpr ⟨pending, present, beq_self_eq_true _⟩
  refine ⟨?_, system.answerFlushes_ready waiters (.ok ()), ?_⟩
  · refine List.map_congr_left fun pending present => ?_
    unfold reply
    simp only [borne pending present]
  · intro pending present waits
    exact (mem_enqueueAll system.ready _ _).mpr
      (.inr (List.mem_map_of_mem ((borne pending present).mpr waits)))

theorem answerFlushes_short (system : System State Result) (waiters : List CallId)
    (answer : FlushAnswer) :
    (system.answerFlushes waiters answer).ready.length ≤ system.ready.length + waiters.length := by
  have listed := enqueueAll_length system.ready
    ((waiters.filter fun waiter => system.calls.any fun call => call.call == waiter).map Task.call)
  have fewer := waiters.length_filter_le fun waiter => system.calls.any fun call => call.call == waiter
  rw [List.length_map] at listed
  exact Nat.le_trans listed (Nat.add_le_add_left fewer _)

/-! The lock's worker -/

structure LooksOnce (before after : System State Result) (toLock toStorage : List (WakeRequest CallId)) :
    Prop where
  clock : after.clock = before.clock
  lock : after.lock = before.lockAfter (some (.tick : LockAction State Result))
  lookSends : before.lock.LookSends after.lock before.clock toLock toStorage
  lockWorker : ∃ worker, ((before.lockWorker.collect before.clock).start (.breaking [])).Receives
    worker toLock ∧ after.lockWorker = worker.finish
  storageWorker : before.storageWorker.Receives after.storageWorker toStorage
  storageWoken : toStorage ≠ [] → .storage ∈ after.ready
  replies : before.Replies after before.lockWorker.waiters
  again : .lock ∈ after.ready
  short : after.ready.length ≤
    before.ready.length + before.lockWorker.waiters.length + toStorage.length + 1

section

variable {system : System State Result}

theorem finishTick_once (responsive : system.Responsive) (middle : System State Result)
    (toLock toStorage : List (WakeRequest CallId)) (delivered : List (Parcel State))
    (stretch : system.looked.Stretch middle toLock toStorage delivered)
    (lookSends : system.lock.LookSends (system.lock.tick system.clock).2 system.clock toLock toStorage)
    (woken : toStorage ≠ [] → .storage ∈ middle.ready)
    (short : middle.ready.length ≤ system.ready.length + toStorage.length) :
    system.LooksOnce middle.finishTick toLock toStorage := by
  let ended := { middle with lockWorker := middle.lockWorker.finish }
  have taken : middle.lockWorker.taken = system.lockWorker.waiters := by
    rw [← system.lockWorker.start_taken responsive.lock system.clock (.breaking [])]
    simp only [Worker.taken, stretch.lockWorker.phase]
    rfl
  have replies := ended.answerFlushes_replies middle.lockWorker.taken
  have listed := ended.answerFlushes_short middle.lockWorker.taken (.ok ())
  constructor
  · exact stretch.clock
  · exact stretch.lock
  · rw [show middle.finishTick.lock = (system.lock.tick system.clock).2 from stretch.lock]
    exact lookSends
  · exact ⟨middle.lockWorker, stretch.lockWorker, rfl⟩
  · exact stretch.storageWorker
  · exact fun sent => List.mem_cons_of_mem _ (replies.ready _ (woken sent))
  · rw [← taken]
    have calls : ended.calls = system.calls := stretch.calls
    refine ⟨?_, ?_, ?_⟩
    · rw [← calls]
      exact replies.calls
    · exact fun task there => List.mem_cons_of_mem _ (replies.ready task (stretch.ready task there))
    · exact fun pending present waits =>
        List.mem_cons_of_mem _ (replies.replied pending (calls ▸ present) waits)
  · exact List.mem_cons_self
  · rw [← taken]
    show (ended.answerFlushes middle.lockWorker.taken (.ok ())).ready.length + 1 ≤ _
    have same : ended.ready = middle.ready := rfl
    rw [same] at listed
    omega

/-- A worker in a run is not woken by what it sends itself. -/
theorem looked_notifyLock (middle : System State Result)
    (busy : middle.lockWorker.isWaiting = false) : middle.notifyLock.ready = middle.ready := by
  have same : middle.lockWorker.notify.isWaiting = middle.lockWorker.isWaiting := by
    simp [Worker.isWaiting, (middle.lockWorker.notify_receives).phase]
  simp only [notifyLock, wakeLock, same, busy, Bool.false_eq_true, ↓reduceIte]

theorem looked_busy {middle : System State Result} {sent sent' : List (WakeRequest CallId)}
    {delivered : List (Parcel State)}
    (stretch : system.looked.Stretch middle sent sent' delivered) :
    middle.lockWorker.isWaiting = false := by
  simp only [Worker.isWaiting, stretch.lockWorker.phase]
  rfl

theorem looked_prompt (responsive : system.Responsive) : system.looked.Prompt :=
  responsive.prompt.congr rfl rfl

theorem concludeBreaks_once (responsive : system.Responsive) (records : List (TransactionRecord State))
    (decision : (system.lock.tick system.clock).1 = .breakLock records) :
    ∃ toLock toStorage,
      system.LooksOnce (concludeBreaks (system.looked.startNotifying records)) toLock toStorage := by
  have fewer := system.lock.tick_fewer system.clock (.inr ⟨records, decision⟩)
  obtain ⟨delivered, stretch, _⟩ := system.looked.startNotifying_stretch records
  obtain ⟨nothing, _⟩ := system.looked.startNotifying_prompt (looked_prompt responsive) records
  have ready : (system.looked.startNotifying records).1.ready = system.ready :=
    system.looked.deliverDue_ready _
  generalize system.looked.startNotifying records = started at stretch nothing ready
  obtain ⟨middle, pending⟩ := started
  simp only at nothing
  subst nothing
  simp only [concludeBreaks]
  refine ⟨_, _, finishTick_once responsive _ [.immediate] [] delivered
    (stretch.trans middle.notifyLock_stretch) (.broken fewer) (fun none => absurd rfl none) ?_⟩
  rw [looked_notifyLock middle (looked_busy stretch)]
  exact Nat.le_of_eq (congrArg List.length ready)

theorem concludeExits_once (responsive : system.Responsive) (records : List (TransactionRecord State))
    (decision : (system.lock.tick system.clock).1 = .exit records) :
    ∃ toLock toStorage,
      system.LooksOnce (concludeExits (system.looked.deliverExits records)) toLock toStorage := by
  have fewer := system.lock.tick_fewer system.clock (.inl ⟨records, decision⟩)
  obtain ⟨delivered, stretch, _⟩ := system.looked.deliverExits_stretch records
  obtain ⟨nothing, _⟩ := system.looked.deliverExits_prompt (looked_prompt responsive) records
  have ready : (system.looked.deliverExits records).1.ready = system.ready :=
    system.looked.deliverExits_ready _
  generalize system.looked.deliverExits records = started at stretch nothing ready
  obtain ⟨middle, run⟩ := started
  simp only at nothing
  subst nothing
  simp only [concludeExits]
  have told := middle.notifyLock_stretch.trans middle.notifyLock.notifyStorage_stretch
  refine ⟨_, _, finishTick_once responsive _ [.immediate] [.immediate] delivered
    (stretch.trans told) (.exits fewer) ?_ ?_⟩
  · intro _
    apply wakeStorage_ready
    have phase := (stretch.trans middle.notifyLock_stretch).storageWorker.phase
    rw [(middle.notifyLock.storageWorker.notify_receives).phase, phase]
    exact responsive.storage
  · calc
      middle.notifyLock.notifyStorage.ready.length ≤ middle.notifyLock.ready.length + 1 :=
        wakeStorage_short _
      _ = middle.ready.length + 1 := by rw [looked_notifyLock middle (looked_busy stretch)]
      _ = system.ready.length + 1 := congrArg (·.length + 1) ready

theorem startTick_once (responsive : system.Responsive) :
    ∃ toLock toStorage, system.LooksOnce system.collected.startTick toLock toStorage := by
  rw [startTick_looked]
  cases decision : (system.lock.tick system.clock).1 with
  | idle =>
      exact ⟨[], [], finishTick_once responsive _ _ _ [] system.looked.stretch_refl .idle
        (fun none => absurd rfl none) (Nat.le_refl _)⟩
  | recheck instant =>
      have early := system.lock.tick_recheck system.clock instant decision
      exact ⟨[.deferred instant], [], finishTick_once responsive _ _ _ []
        (system.looked.notifyLockAt_stretch instant) (.later instant early)
        (fun none => absurd rfl none) (Nat.le_of_eq rfl)⟩
  | breakLock records => exact concludeBreaks_once responsive records decision
  | exit records => exact concludeExits_once responsive records decision

inductive LockTurns (system : System State Result) : System State Result → Prop where
  | idle (unasked : (system.lockWorker.collect system.clock).pending.now = false) :
      LockTurns system system.collected
  | looks (after : System State Result) (toLock toStorage : List (WakeRequest CallId))
      (asked : (system.lockWorker.collect system.clock).pending.now = true)
      (once : system.LooksOnce after toLock toStorage) : LockTurns system after

theorem lockTurn_turns (responsive : system.Responsive) : system.LockTurns system.lockTurn := by
  by_cases asked : (system.lockWorker.collect system.clock).pending.now = true
  · have same : system.lockTurn = system.collected.startTick := by
      simp only [lockTurn, responsive.lock]
      exact if_pos asked
    rw [same]
    obtain ⟨toLock, toStorage, once⟩ := startTick_once responsive
    exact .looks _ toLock toStorage asked once
  · have same : system.lockTurn = system.collected := by
      simp only [lockTurn, responsive.lock]
      exact if_neg asked
    rw [same]
    exact .idle (Bool.eq_false_iff.mpr asked)

theorem LooksOnce.lockWaiters {after : System State Result}
    {toLock toStorage : List (WakeRequest CallId)} (once : system.LooksOnce after toLock toStorage) :
    after.lockWorker.waiters = [] := by
  obtain ⟨worker, receives, ended⟩ := once.lockWorker
  have mailbox : worker.mailbox = toLock := receives.mailbox
  have served : worker.pending.waiters = [] := congrArg PendingWake.waiters receives.pending
  have nobody : toLock.filterMap WakeRequest.waiter? = [] := by
    cases once.lookSends <;> rfl
  rw [ended]
  simp [Worker.waiters, Worker.finish, Worker.taken, served, mailbox, nobody]

theorem LooksOnce.storageWaiters {after : System State Result}
    {toLock toStorage : List (WakeRequest CallId)} (once : system.LooksOnce after toLock toStorage) :
    after.storageWorker.waiters = system.storageWorker.waiters := by
  have nobody : toStorage.filterMap WakeRequest.waiter? = [] := by
    cases once.lookSends <;> rfl
  rw [once.storageWorker.waiters, nobody, ite_self, List.append_nil]

/-! The storage worker -/

inductive StorageTurns (system : System State Result) : System State Result → Prop where
  | idle (unasked : (system.storageWorker.collect system.clock).pending.now = false) :
      StorageTurns system
        { system with storageWorker := system.storageWorker.collect system.clock }
  | runs (calls : List (PendingCall State Result)) (ready : List Task)
      (asked : (system.storageWorker.collect system.clock).pending.now = true)
      (replies : system.Replies { system with calls, ready } system.storageWorker.waiters)
      (again : .storage ∈ ready)
      (short : ready.length ≤ system.ready.length + system.storageWorker.waiters.length + 1) :
      StorageTurns system
        { system with
          storageWorker := ((system.storageWorker.collect system.clock).start ()).finish, calls, ready }

theorem storageTurn_turns (responsive : system.Responsive) : system.StorageTurns system.storageTurn := by
  let worker := system.storageWorker.collect system.clock
  by_cases asked : worker.pending.now = true
  · let ended := { system with storageWorker := (worker.start ()).finish }
    have taken : (worker.start ()).taken = system.storageWorker.waiters :=
      system.storageWorker.start_taken responsive.storage system.clock ()
    have same : system.storageTurn =
        { ended.answerFlushes system.storageWorker.waiters (.ok ()) with
          ready := .storage :: (ended.answerFlushes system.storageWorker.waiters (.ok ())).ready } := by
      simp only [storageTurn, responsive.storage]
      rw [← taken]
      exact if_pos asked
    have replies := ended.answerFlushes_replies system.storageWorker.waiters
    rw [same]
    refine .runs _ _ asked ⟨replies.calls, ?_, ?_⟩ List.mem_cons_self ?_
    · exact fun task there => List.mem_cons_of_mem _ (replies.ready task there)
    · exact fun pending present waits =>
        List.mem_cons_of_mem _ (replies.replied pending present waits)
    · exact Nat.succ_le_succ (ended.answerFlushes_short system.storageWorker.waiters (.ok ()))
  · have same : system.storageTurn = { system with storageWorker := worker } := by
      simp only [storageTurn, responsive.storage]
      exact if_neg asked
    rw [same]
    exact .idle (Bool.eq_false_iff.mpr asked)

end

/-! Nobody is forgotten -/

section

variable {system : System State Result}

theorem WillResume.within {pending : PendingCall State Result} (willResume : system.WillResume pending)
    (ready : List Task) (kept : ∀ call, .call call ∈ system.ready → .call call ∈ ready) :
    ({ system with ready } : System State Result).WillResume pending := by
  cases willResume with
  | asks call keeps => exact .asks call keeps
  | answered call there => exact .answered call (kept call there)
  | sleeps call due awake => exact .sleeps call due (awake.imp_left (kept call))

theorem lockTurn_wakeful (responsive : system.Responsive) (distinct : system.lock.HasDistinctNames)
    (wakeful : system.Wakeful) :
    (system.resumed .lock).lockTurn.Wakeful := by
  let resumed := system.resumed .lock
  have kept := system.resumed_ready .lock
  have willResume : ∀ pending ∈ resumed.calls, resumed.WillResume pending :=
    fun pending present => (wakeful.willResume pending present).within _ fun call => kept _ (by simp)
  have storage : resumed.storageWorker.Alert resumed.clock (.storage ∈ resumed.ready) :=
    ⟨wakeful.storage.served, wakeful.storage.awake.imp_left (kept _ (by simp))⟩
  have named : resumed.Named := ⟨wakeful.named.distinct, wakeful.named.lock, wakeful.named.storage⟩
  have turn := resumed.lockTurn_turn named
  have guarded := turn_guarded _ _ _ turn
  have timed : resumed.lockTurn.lock.IsTimed := by
    rw [turn.lock]
    exact resumed.lockAfter_isTimed _ distinct wakeful.timed
  have turns := lockTurn_turns (resumed_responsive responsive .lock)
  show resumed.lockTurn.Wakeful
  generalize resumed.lockTurn = after at turns guarded timed
  cases turns with
  | idle unasked =>
      have same := resumed.lockWorker.collect_waiters resumed.clock
      refine ⟨wakeful.distinct, .collect wakeful.lock.served unasked, storage, ?_, ?_,
        wakeful.storageWaiters, ?_, timed, guarded responsive.lock wakeful.timed fun _ => wakeful.guarded⟩
      · intro pending present
        cases willResume pending present with
        | asks call keeps => exact .asks call (same.symm ▸ keeps)
        | answered call there => exact .answered call there
        | sleeps call due awake => exact .sleeps call due awake
      · exact same.symm ▸ wakeful.lockWaiters
      · exact same.symm ▸ wakeful.apart
  | looks _ toLock toStorage asked once =>
      obtain ⟨worker, receives, ended⟩ := once.lockWorker
      have waiting : after.lockWorker.phase = .waiting := by rw [ended]; rfl
      refine ⟨once.replies.distinct wakeful.distinct, ⟨?_, .inl once.again⟩, ?_, ?_, ?_, ?_, ?_, timed,
        guarded waiting wakeful.timed fun _ => wakeful.guarded⟩
      · rw [ended]
        exact congrArg PendingWake.waiters receives.pending
      · rw [once.clock]
        exact storage.receives once.storageWorker (once.replies.ready _) once.storageWoken
      · refine once.replies.willResume once.clock willResume fun waiter keeps => ?_
        rw [once.storageWaiters]
        exact keeps.imp_right .inr
      · rw [once.lockWaiters]
        intro waiter nobody
        cases nobody
      · rw [once.storageWaiters]
        exact fun waiter keeps => once.replies.keeps _ (wakeful.storageWaiters waiter keeps)
          fun keeps' => wakeful.apart waiter keeps' keeps
      · rw [once.lockWaiters]
        intro waiter nobody
        cases nobody

theorem storageTurn_wakeful (responsive : system.Responsive) (wakeful : system.Wakeful) :
    (system.resumed .storage).storageTurn.Wakeful := by
  let resumed := system.resumed .storage
  have kept := system.resumed_ready .storage
  have willResume : ∀ pending ∈ resumed.calls, resumed.WillResume pending :=
    fun pending present => (wakeful.willResume pending present).within _ fun call => kept _ (by simp)
  have lock : resumed.lockWorker.Alert resumed.clock (.lock ∈ resumed.ready) :=
    ⟨wakeful.lock.served, wakeful.lock.awake.imp_left (kept _ (by simp))⟩
  have turns := storageTurn_turns (resumed_responsive responsive .storage)
  show resumed.storageTurn.Wakeful
  generalize resumed.storageTurn = after at turns
  cases turns with
  | idle unasked =>
      have same := resumed.storageWorker.collect_waiters resumed.clock
      refine ⟨wakeful.distinct, lock, .collect wakeful.storage.served unasked, ?_, wakeful.lockWaiters,
        ?_, ?_, wakeful.timed, wakeful.guarded⟩
      · intro pending present
        cases willResume pending present with
        | asks call keeps => exact .asks call (same.symm ▸ keeps)
        | answered call there => exact .answered call there
        | sleeps call due awake => exact .sleeps call due awake
      · exact same.symm ▸ wakeful.storageWaiters
      · exact same.symm ▸ wakeful.apart
  | runs calls ready asked replies again short =>
      let ended := ((resumed.storageWorker.collect resumed.clock).start ()).finish
      have nobody : ended.waiters = [] := rfl
      let after : System State Result := { resumed with storageWorker := ended, calls, ready }
      have replied : resumed.Replies after resumed.storageWorker.waiters :=
        ⟨replies.calls, replies.ready, replies.replied⟩
      refine ⟨replied.distinct wakeful.distinct, ⟨lock.served, lock.awake.imp_left (replied.ready _)⟩,
        ⟨rfl, .inl again⟩, ?_, ?_, ?_, ?_, wakeful.timed, wakeful.guarded⟩
      · refine replied.willResume rfl willResume fun waiter keeps => ?_
        rcases keeps with asks | waits
        · exact .inr (.inl asks)
        · exact .inl waits
      · exact fun waiter keeps => replied.keeps _ (wakeful.lockWaiters waiter keeps)
          (wakeful.apart waiter keeps)
      · intro waiter none
        cases nobody ▸ none
      · intro waiter _ none
        cases nobody ▸ none

/-! The clock -/

theorem advance_ready (task : Task) (due : Option Instant) (timer : (task, due) ∈ system.timers)
    (target : Instant) (passed : isDue (max system.clock target) due = true) :
    task ∈ (system.advance target).ready := by
  refine (mem_enqueueAll system.ready _ task).mpr (.inr ?_)
  exact List.mem_map.mpr ⟨(task, due), List.mem_filter.mpr ⟨timer, passed⟩, rfl⟩

theorem advance_wakeful (responsive : system.Responsive) (wakeful : system.Wakeful) (target : Instant) :
    (system.advance target).Wakeful := by
  let clock := max system.clock target
  have kept (task : Task) (there : task ∈ system.ready) : task ∈ (system.advance target).ready :=
    (mem_enqueueAll system.ready _ task).mpr (.inl there)
  -- A worker with nothing due is woken when its timer has come.
  have alert {Run : Type} (worker : Worker Run CallId) (task : Task)
      (alert : worker.Alert system.clock (task ∈ system.ready))
      (timer : (task, worker.pending.deferred) ∈ system.timers) :
      worker.Alert clock (task ∈ (system.advance target).ready) := by
    refine ⟨alert.served, ?_⟩
    rcases alert.awake with there | nothingDue
    · exact .inl (kept task there)
    · by_cases passed : isDue clock worker.pending.deferred = true
      · exact .inl (advance_ready task _ timer target passed)
      · exact .inr ⟨nothingDue.mailbox, nothingDue.unasked, Bool.eq_false_iff.mpr passed⟩
  have lock : (.lock, system.lockWorker.pending.deferred) ∈ system.timers := by
    simp [timers, lockTimer?, Worker.timer?, responsive.lock]
  have storage : (.storage, system.storageWorker.pending.deferred) ∈ system.timers := by
    simp [timers, Worker.timer?, responsive.storage]
  refine ⟨wakeful.distinct, alert _ .lock wakeful.lock lock, alert _ .storage wakeful.storage storage,
    ?_, wakeful.lockWaiters, wakeful.storageWaiters, wakeful.apart, wakeful.timed, wakeful.guarded⟩
  intro pending present
  cases wakeful.willResume pending present with
  | asks call keeps => exact .asks call keeps
  | answered call there => exact .answered call (kept _ there)
  | sleeps call due awake =>
      refine .sleeps call due ?_
      by_cases passed : due ≤ clock
      · refine .inl (advance_ready _ (some due) ?_ target (decide_eq_true passed))
        simp only [timers, List.mem_cons]
        exact .inr (.inr (List.mem_map.mpr ⟨_, present, rfl⟩))
      · exact .inr (Int.lt_of_not_ge passed)

end

end System

end WoundWait
