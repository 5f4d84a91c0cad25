import WoundWait.Proofs.HandOffCustody

/-!
Turns of the workers. The lock's worker looks at the group when it is asked to, hands over what has
to leave, and goes round again when it has finished.
-/

namespace WoundWait

variable {State Result : Type}

namespace System

/-! Answers to those who wait for a run -/

theorem answerFlushes_callsHeld (system : System State Result) (waiters : List CallId)
    (answer : FlushAnswer)
    (flushing : ∀ pending ∈ system.calls, pending.call ∈ waiters → pending.stage.isFlushing = true) :
    (system.answerFlushes waiters answer).callsHeld = system.callsHeld := by
  simp only [callsHeld, answerFlushes, List.flatMap_map]
  apply List.flatMap_congr
  intro pending present
  split
  · rename_i answered
    have kept := List.mem_of_mem_filter answered
    rw [isFlushing_held pending.stage (flushing pending present kept)]
    rfl
  · rfl

theorem answerFlushes_named (system : System State Result) (waiters : List CallId)
    (answer : FlushAnswer) (named : system.Named) :
    (system.answerFlushes waiters answer).Named := by
  have origin : ∀ pending ∈ (system.answerFlushes waiters answer).calls,
      pending ∈ system.calls ∨ pending.stage.isFlushing = true := by
    intro pending present
    obtain ⟨before, there, same⟩ := List.mem_map.mp present
    split at same
    · exact .inr (same ▸ rfl)
    · exact .inl (same ▸ there)
  constructor
  · have names : (system.answerFlushes waiters answer).calls.map (fun pending => pending.call) =
        system.calls.map fun pending => pending.call := by
      simp only [answerFlushes, List.map_map]
      apply List.map_congr_left
      intro pending _
      simp only [Function.comp_apply]
      split <;> rfl
    rw [names]
    exact named.distinct
  · intro pending present kept
    rcases origin pending present with there | flushing
    · exact named.lock pending there kept
    · exact flushing
  · intro pending present kept
    rcases origin pending present with there | flushing
    · exact named.storage pending there kept
    · exact flushing

theorem answerFlushes_gate (system : System State Result) (waiters : List CallId)
    (answer : FlushAnswer) :
    ∀ entry ∈ (system.answerFlushes waiters answer).gate, entry ∈ system.gate := by
  intro entry waits
  obtain ⟨pending, there, same⟩ := List.mem_filterMap.mp waits
  obtain ⟨before, present, replaced⟩ := List.mem_map.mp there
  split at replaced
  · subst replaced
    cases same
  · subst replaced
    exact List.mem_filterMap.mpr ⟨before, present, same⟩

theorem answerFlushes_ready (system : System State Result) (waiters : List CallId)
    (answer : FlushAnswer) :
    ∀ task ∈ system.ready, task ∈ (system.answerFlushes waiters answer).ready :=
  fun task member => (mem_enqueueAll system.ready _ task).mpr (.inl member)

/-! Ends of runs -/

structure Concludes (before after : System State Result) (left : List (Parcel State)) : Prop where
  clock : after.clock = before.clock
  lock : after.lock = before.lock
  named : after.Named
  handed : after.handed = before.handed
  gate : ∀ entry ∈ after.gate, entry ∈ before.gate
  held : after.held = before.callsHeld ++ left
  again : after.lockWorker.phase = .waiting → .lock ∈ after.ready

theorem finishTick_concludes (system : System State Result) (named : system.Named) :
    system.Concludes system.finishTick [] := by
  let ended := { system with lockWorker := system.lockWorker.finish }
  have rested : ended.Named :=
    named_of_waiters system ended named rfl system.lockWorker.finish_waiters fun _ kept => kept
  have answered := ended.answerFlushes_named system.lockWorker.taken (.ok ()) rested
  refine ⟨rfl, rfl, ⟨answered.distinct, answered.lock, answered.storage⟩, rfl,
    ended.answerFlushes_gate system.lockWorker.taken (.ok ()), ?_, fun _ => List.mem_cons_self⟩
  have callsHeld := ended.answerFlushes_callsHeld system.lockWorker.taken (.ok ()) fun pending
    present kept => named.lock pending present (system.lockWorker.taken_waiters _ kept)
  rw [held, List.append_nil]
  exact (congrArg (· ++ []) callsHeld).trans (List.append_nil _)

theorem finishTick_requests (system : System State Result) :
    system.finishTick.lockWorker.requests = system.lockWorker.requests := rfl

theorem stretch_named (before after : System State Result)
    (delivered : List (Parcel State)) (toLock toStorage : List (WakeRequest CallId))
    (stretch : before.Stretch after toLock toStorage delivered)
    (lock : toLock.filterMap WakeRequest.waiter? = [])
    (storage : toStorage.filterMap WakeRequest.waiter? = []) (named : before.Named) :
    after.Named := by
  apply named_of_waiters before after named stretch.calls
  · intro waiter kept
    simpa [lock] using receives_waiters _ _ _ stretch.lockWorker waiter kept
  · intro waiter kept
    simpa [storage] using receives_waiters _ _ _ stretch.storageWorker waiter kept

/-- Messages that ask for another run come before the end of this one. -/
theorem concludes_after (before middle after : System State Result)
    (toLock toStorage : List (WakeRequest CallId))
    (left : List (Parcel State)) (stretch : before.Stretch middle toLock toStorage [])
    (concludes : middle.Concludes after left) : before.Concludes after left := by
  constructor
  · exact concludes.clock.trans stretch.clock
  · exact concludes.lock.trans stretch.lock
  · exact concludes.named
  · exact concludes.handed.trans stretch.handed
  · rw [← gate_congr before middle stretch.calls]
    exact concludes.gate
  · rw [concludes.held, callsHeld, callsHeld, stretch.calls]
  · exact concludes.again

theorem continueRun_concludes (system : System State Result) (run old : TickRun State)
    (taken : List CallId) (running : system.lockWorker.phase = .running old taken)
    (named : system.Named) :
    system.Concludes { system with lockWorker := system.lockWorker.continueRun run } run.held := by
  have phase : (system.lockWorker.continueRun run).phase = .running run taken := by
    simp [Worker.continueRun, running]
  refine ⟨rfl, rfl, ?_, rfl, fun _ waits => waits, by simp [held, callsHeld, workerHeld, phase],
    ?_⟩
  · refine named_of_waiters system _ named rfl ?_ fun _ kept => kept
    intro waiter kept
    rwa [system.lockWorker.continueRun_waiters run] at kept
  · intro waiting
    simp [phase] at waiting

theorem notifyLock_asks (system : System State Result)
    (alive : system.lockWorker.isStopped = false) :
    system.notifyLock.lockWorker.requests.now = true := by
  rw [system.notifyLock_stretch.lockWorker.requests alive]
  rfl

theorem concludeExits_concludes (system : System State Result) (old : TickRun State)
    (taken : List CallId) (running : system.lockWorker.phase = .running old taken)
    (named : system.Named) (run : Option (TickRun State)) :
    system.Concludes (concludeExits (system, run)) ((run.map TickRun.held).getD []) ∧
      ((concludeExits (system, run)).lockWorker.phase = .waiting →
        (concludeExits (system, run)).lockWorker.requests.now = true) := by
  cases run with
  | none =>
      have told := system.notifyLock_stretch.trans system.notifyLock.notifyStorage_stretch
      have kept := stretch_named _ _ _ _ _ told rfl rfl named
      refine ⟨concludes_after _ _ _ _ _ _ told (finishTick_concludes _ kept), ?_⟩
      intro _
      have alive : system.lockWorker.isStopped = false := by simp [Worker.isStopped, running]
      have same : system.notifyLock.notifyStorage.lockWorker = system.notifyLock.lockWorker := by
        simp only [notifyStorage, wakeStorage]
        split <;> rfl
      simp only [concludeExits, finishTick_requests, same]
      exact system.notifyLock_asks alive
  | some run =>
      refine ⟨system.continueRun_concludes run old taken running named, ?_⟩
      intro waiting
      simp [concludeExits, Worker.continueRun, running] at waiting

theorem concludeBreaks_concludes (system : System State Result) (old : TickRun State)
    (taken : List CallId) (running : system.lockWorker.phase = .running old taken)
    (named : system.Named) (pending : List (HandOff State)) :
    system.Concludes (concludeBreaks (system, pending)) (pending.map HandOff.parcel) ∧
      ((concludeBreaks (system, pending)).lockWorker.phase = .waiting →
        (concludeBreaks (system, pending)).lockWorker.requests.now = true) := by
  cases pending with
  | nil =>
      have told := system.notifyLock_stretch
      have kept := stretch_named _ _ _ _ _ told rfl rfl named
      refine ⟨concludes_after _ _ _ _ _ _ told (finishTick_concludes _ kept), ?_⟩
      intro _
      have alive : system.lockWorker.isStopped = false := by simp [Worker.isStopped, running]
      simp only [concludeBreaks, finishTick_requests]
      exact system.notifyLock_asks alive
  | cons first rest =>
      refine ⟨system.continueRun_concludes (.breaking (first :: rest)) old taken running named, ?_⟩
      intro waiting
      simp [concludeBreaks, Worker.continueRun, running] at waiting

/-! The turn of the lock's worker -/

/-- What a worker that waits again after its turn has seen to. -/
inductive Rests (before after : System State Result) : Prop where
  | asked (again : .lock ∈ after.ready) (now : after.lockWorker.requests.now = true)
  | discarded (again : .lock ∈ after.ready) (nobody : before.lock.IsTimed → after.lock.group = none)
  | armed (again : .lock ∈ after.ready) (deadline : Instant)
      (looked : before.lock.tick before.clock = (.recheck deadline, after.lock))
      (told : ComesBy after.lockWorker.requests.deferred (some deadline))
  | idle (lock : after.lock = before.lock)
      (collected : after.lockWorker = before.lockWorker.collect before.clock)
      (unasked : after.lockWorker.pending.now = false)

def lookAction? (system : System State Result) : Option (LockAction State Result) :=
  if system.lockWorker.isWaiting && (system.lockWorker.collect system.clock).pending.now then
    some .tick
  else none

structure LockTurn (before after : System State Result) (action : Option (LockAction State Result)) :
    Prop where
  clock : after.clock = before.clock
  lock : after.lock = before.lockAfter action
  named : after.Named
  gate : ∀ entry ∈ after.gate, entry ∈ before.gate
  custody : before.Custody after (before.parcelsOf action) []
  rests : after.lockWorker.phase = .waiting → before.Rests after

theorem concludes_gate (before middle after : System State Result)
    {left : List (Parcel State)} (calls : middle.calls = before.calls)
    (concludes : middle.Concludes after left) : ∀ entry ∈ after.gate, entry ∈ before.gate := by
  rw [← gate_congr before middle calls]
  exact concludes.gate

/-- The parcels of a run that were handed over at once, and those that are left. -/
theorem concludes_custody (before middle after : System State Result)
    (delivered left taken parcels : List (Parcel State)) (held : before.workerHeld = taken)
    (handed : middle.handed = delivered ++ before.handed) (calls : middle.calls = before.calls)
    (perm : (delivered ++ left).Perm (taken ++ parcels)) (concludes : middle.Concludes after left) :
    before.Custody after parcels [] := by
  intro test
  have moved := perm.countP_eq test
  rw [concludes.handed, concludes.held, handed, callsHeld, calls, System.held, held, callsHeld]
  simp only [List.countP_append, List.countP_nil] at moved ⊢
  omega

/-- A turn does its action, hands over what it can at once, and comes to an end or to a place to
wait. -/
theorem turn_concludes (before begun middle after : System State Result)
    (action : Option (LockAction State Result)) (delivered left taken : List (Parcel State))
    (toLock toStorage : List (WakeRequest CallId))
    (begins : begun = { before with lock := before.lockAfter action, lockWorker := begun.lockWorker })
    (held : before.workerHeld = taken) (stretch : begun.Stretch middle toLock toStorage delivered)
    (perm : (delivered ++ left).Perm (taken ++ before.parcelsOf action))
    (concludes : middle.Concludes after left)
    (rests : after.lockWorker.phase = .waiting → before.Rests after) :
    before.LockTurn after action := by
  have clock : begun.clock = before.clock := by rw [begins]
  have lock : begun.lock = before.lockAfter action := by rw [begins]
  have calls : begun.calls = before.calls := by rw [begins]
  have handed : begun.handed = before.handed := by rw [begins]; rfl
  constructor
  · exact (concludes.clock.trans stretch.clock).trans clock
  · exact (concludes.lock.trans stretch.lock).trans lock
  · exact concludes.named
  · exact concludes_gate before middle after (stretch.calls.trans calls) concludes
  · apply concludes_custody before middle after delivered left taken _ held _ _ perm concludes
    · rw [stretch.handed, handed]
    · exact stretch.calls.trans calls
  · exact rests

theorem continueTick_turn (system : System State Result) (run : TickRun State)
    (taken : List CallId) (running : system.lockWorker.phase = .running run taken)
    (named : system.Named) : system.LockTurn (system.continueTick run) none := by
  have held : system.workerHeld = run.held := by simp [workerHeld, running]
  cases run with
  | exiting current rest =>
      by_cases due : current.due ≤ system.clock
      · obtain ⟨delivered, stretch, perm⟩ := (system.deliver current).deliverExits_stretch rest
        have whole := (system.deliver_stretch current).trans stretch
        have same : system.continueTick (.exiting current rest) =
            concludeExits ((system.deliver current).deliverExits rest) := by
          simp only [continueTick]
          exact if_pos due
        rw [same]
        obtain ⟨concludes, asked⟩ := concludeExits_concludes _ _ taken
          (whole.lockWorker.phase.trans running) (stretch_named _ _ _ _ _ whole rfl rfl named)
          ((system.deliver current).deliverExits rest).2
        apply turn_concludes _ _ _ _ _ _ _ _ _ _ rfl held whole _ concludes fun waiting =>
          .asked (concludes.again waiting) (asked waiting)
        simp only [List.append_assoc, List.singleton_append, parcelsOf_none, List.append_nil]
        exact List.perm_middle.trans (perm.cons _)
      · have same : system.continueTick (.exiting current rest) = system := by
          simp only [continueTick]
          exact if_neg due
        rw [same]
        refine ⟨rfl, rfl, named, fun _ waits => waits, system.custody_refl, ?_⟩
        intro waiting
        simp [running] at waiting
  | breaking pending =>
      obtain ⟨delivered, stretch, perm⟩ := system.deliverDue_stretch pending
      obtain ⟨concludes, asked⟩ := concludeBreaks_concludes _ _ taken
        (stretch.lockWorker.phase.trans running) (stretch_named _ _ _ _ _ stretch rfl rfl named)
        (system.deliverDue pending).2
      apply turn_concludes _ _ _ _ _ _ _ _ _ _ rfl held stretch _ concludes fun waiting =>
        .asked (concludes.again waiting) (asked waiting)
      rwa [parcelsOf_none, List.append_nil]

def collected (system : System State Result) : System State Result :=
  { system with lockWorker := system.lockWorker.collect system.clock }

def looked (system : System State Result) : System State Result :=
  { system with
    lock := (system.lock.tick system.clock).2
    lockWorker := (system.lockWorker.collect system.clock).start (.breaking []) }

theorem startTick_looked (system : System State Result) :
    system.collected.startTick =
      match (system.lock.tick system.clock).1 with
      | .idle => system.looked.finishTick
      | .recheck instant => (system.looked.notifyLockAt instant).finishTick
      | .exit records => concludeExits (system.looked.deliverExits records)
      | .breakLock records => concludeBreaks (system.looked.startNotifying records) := rfl

/-- A look, and what can be handed over at once. -/
theorem startTick_turn (system : System State Result) (waiting : system.lockWorker.phase = .waiting)
    (named : system.Named) : system.LockTurn system.collected.startTick (some .tick) := by
  let collected := system.lockWorker.collect system.clock
  let looked := system.looked
  have kept : looked.Named := by
    refine named_of_waiters system looked named rfl ?_ fun _ kept => kept
    intro waiter kept
    rw [← system.lockWorker.collect_waiters system.clock]
    exact collected.start_waiters _ waiter kept
  have running : looked.lockWorker.phase = .running (.breaking []) collected.pending.waiters := rfl
  have held : system.workerHeld = [] := by simp [workerHeld, waiting]
  have alive : looked.lockWorker.isStopped = false := rfl
  -- A run that hands nothing over ends at once.
  have ended (middle : System State Result) (toLock : List (WakeRequest CallId))
      (stretch : looked.Stretch middle toLock [] [])
      (silent : toLock.filterMap WakeRequest.waiter? = [])
      (nothing : system.lock.handsOver system.clock (.tick : LockAction State Result) = [])
      (rests : system.Rests middle.finishTick) :
      system.LockTurn middle.finishTick (some .tick) := by
    have concludes := finishTick_concludes _ (stretch_named _ _ _ _ _ stretch silent rfl kept)
    apply turn_concludes system looked _ _ _ _ _ _ _ _ rfl held stretch _ concludes fun _ => rests
    simp [parcelsOf, nothing]
  have looks := system.lock.tick_looks system.clock
  cases decision : (system.lock.tick system.clock).1 with
  | idle =>
      have same : system.collected.startTick = looked.finishTick := by
        simp only [startTick_looked, decision, looked]
      rw [same]
      apply ended looked [] looked.stretch_refl rfl (by simp [Lock.handsOver, decision])
      apply Rests.discarded List.mem_cons_self
      exact fun timed => looks.idle_group timed decision
  | recheck instant =>
      have told := looked.notifyLockAt_stretch instant
      have same : system.collected.startTick = (looked.notifyLockAt instant).finishTick := by
        simp only [startTick_looked, decision, looked]
      rw [same]
      apply ended _ _ told rfl (by simp [Lock.handsOver, decision])
      apply Rests.armed List.mem_cons_self instant
      · rw [← decision]
        exact Prod.ext rfl told.lock
      · rw [finishTick_requests, told.lockWorker.requests alive]
        exact earlier_comesBy_right _ _
  | exit records =>
      obtain ⟨delivered, stretch, perm⟩ := looked.deliverExits_stretch records
      have same : system.collected.startTick = concludeExits (looked.deliverExits records) := by
        simp only [startTick_looked, decision, looked]
      obtain ⟨concludes, asked⟩ := concludeExits_concludes _ _ _
        (stretch.lockWorker.phase.trans running) (stretch_named _ _ _ _ _ stretch rfl rfl kept)
        (looked.deliverExits records).2
      rw [same]
      apply turn_concludes system looked _ _ _ _ _ _ _ _ rfl held stretch _ concludes fun waiting =>
        .asked (concludes.again waiting) (asked waiting)
      simpa [parcelsOf, Lock.handsOver, decision] using perm
  | breakLock records =>
      obtain ⟨delivered, stretch, perm⟩ := looked.startNotifying_stretch records
      have same : system.collected.startTick = concludeBreaks (looked.startNotifying records) := by
        simp only [startTick_looked, decision, looked]
      obtain ⟨concludes, asked⟩ := concludeBreaks_concludes _ _ _
        (stretch.lockWorker.phase.trans running) (stretch_named _ _ _ _ _ stretch rfl rfl kept)
        (looked.startNotifying records).2
      rw [same]
      apply turn_concludes system looked _ _ _ _ _ _ _ _ rfl held stretch _ concludes fun waiting =>
        .asked (concludes.again waiting) (asked waiting)
      simpa [parcelsOf, Lock.handsOver, decision] using perm

theorem lockTurn_turn (system : System State Result) (named : system.Named) :
    system.LockTurn system.lockTurn system.lookAction? := by
  cases phase : system.lockWorker.phase with
  | stopped =>
      have same : system.lockTurn = system := by simp only [lockTurn, phase]
      have unasked : system.lookAction? = none := by simp [lookAction?, Worker.isWaiting, phase]
      rw [same, unasked]
      refine ⟨rfl, rfl, named, fun _ waits => waits, system.custody_refl, ?_⟩
      intro waiting
      cases phase.symm.trans waiting
  | running run taken =>
      have same : system.lockTurn = system.continueTick run := by simp only [lockTurn, phase]
      have unasked : system.lookAction? = none := by simp [lookAction?, Worker.isWaiting, phase]
      rw [same, unasked]
      exact system.continueTick_turn run taken phase named
  | waiting =>
      by_cases asked : (system.lockWorker.collect system.clock).pending.now = true
      · have same : system.lockTurn = system.collected.startTick := by
          simp only [lockTurn, phase]
          exact if_pos asked
        have look : system.lookAction? = some .tick := by
          simpa [lookAction?, Worker.isWaiting, phase] using asked
        rw [same, look]
        exact system.startTick_turn phase named
      · have kept : system.collected.Named := by
          refine named_of_waiters system system.collected named rfl ?_ fun _ kept => kept
          intro waiter kept
          rwa [← system.lockWorker.collect_waiters system.clock]
        have same : system.lockTurn = system.collected := by
          simp only [lockTurn, phase]
          exact if_neg asked
        have unasked : system.lookAction? = none := by
          simpa [lookAction?, Worker.isWaiting, phase] using asked
        rw [same, unasked]
        refine ⟨rfl, rfl, kept, fun _ waits => waits, custody_of_same _ _ rfl rfl, ?_⟩
        exact fun _ => .idle rfl rfl (Bool.eq_false_iff.mpr asked)

end System

end WoundWait
