import WoundWait.Proofs.SystemSteps

/-!
What becomes of pending calls. At most one call is on turn at an event, and it comes to an answer or
to a place to wait. The others stay where they are, except that those that wait for a run of a
worker may get their answer.
-/

namespace WoundWait

variable {State Result : Type}

namespace System

def Progress.answer? : Progress State Result → Option (Answer State Result)
  | answered answer => some answer
  | waits _ => none

def Progress.stage? : Progress State Result → Option (Stage State Result)
  | answered _ => none
  | waits stage => some stage

def progress? (system : System State Result) :
    Event State Result → Option (CallId × Progress State Result)
  | .call call request =>
      if system.isFree call then some (call, (system.start call request).2) else none
  | .turn (.call call) =>
      if .call call ∈ system.ready then
        (system.findCall? call).map fun pending =>
          (call, ({ system with ready := system.ready.erase (.call call) }.proceed pending.stage).2)
      else none
  | _ => none

def reply? (system : System State Result) (event : Event State Result) :
    Option (CallId × Answer State Result) :=
  (system.progress? event).bind fun turn => turn.2.answer?.map fun answer => (turn.1, answer)

theorem progress?_call (system : System State Result) (call : CallId)
    (request : Request State Result) (free : system.isFree call = true) :
    system.progress? (.call call request) = some (call, (system.start call request).2) := by
  simp only [progress?, free, ↓reduceIte]

theorem progress?_turn (system : System State Result) (call : CallId)
    (pending : PendingCall State Result) (ready : .call call ∈ system.ready)
    (found : system.findCall? call = some pending) :
    system.progress? (.turn (.call call)) = some (call,
      ({ system with ready := system.ready.erase (.call call) }.proceed pending.stage).2) := by
  simp only [progress?, ready, ↓reduceIte, found, Option.map_some]

theorem step_turn_call (system : System State Result) (call : CallId)
    (ready : .call call ∈ system.ready) :
    system.step (.turn (.call call)) =
      noteAnswer call ({ system with ready := system.ready.erase (.call call) }.resume call) := by
  simp only [step, turnOf, ready, ↓reduceIte]

theorem step_turn_lock (system : System State Result) (ready : .lock ∈ system.ready) :
    system.step (.turn .lock) =
      { system with ready := system.ready.erase .lock }.lockTurn := by
  simp only [step, turnOf, ready, ↓reduceIte]

theorem step_turn_storage (system : System State Result) (ready : .storage ∈ system.ready) :
    system.step (.turn .storage) =
      { system with ready := system.ready.erase .storage }.storageTurn := by
  simp only [step, turnOf, ready, ↓reduceIte]

/-- The turn of a call that was dropped. -/
theorem step_turn_absent (system : System State Result) (call : CallId)
    (ready : .call call ∈ system.ready) (nothing : system.findCall? call = none) :
    system.step (.turn (.call call)) =
      { system with ready := system.ready.erase (.call call) } := by
  have absent :
      { system with ready := system.ready.erase (.call call) }.findCall? call = none := nothing
  rw [system.step_turn_call call ready]
  simp [resume, absent, noteAnswer]

theorem step_unready (system : System State Result) (task : Task)
    (unready : task ∉ system.ready) : system.step (.turn task) = system := by
  simp [step, turnOf, unready]

/-! What calls come to -/

end System

namespace Answer

def isPlain : Answer State Result → Bool
  | entered _ | validated .. => false
  | _ => true

def record? : Answer State Result → Option (TransactionRecord State)
  | validated _ record => record
  | _ => none

def value? : Answer State Result → Option Result
  | entered (.ok value) => some value
  | _ => none

theorem isPlain_record? (answer : Answer State Result) (plain : answer.isPlain = true) :
    answer.record? = none := by
  cases answer with
  | entered | validated => cases plain
  | _ => rfl

theorem isPlain_value? (answer : Answer State Result) (plain : answer.isPlain = true) :
    answer.value? = none := by
  cases answer with
  | entered | validated => cases plain
  | _ => rfl

end Answer

def Stage.final? : Stage State Result → Option (Answer State Result)
  | notifying _ answer => some answer
  | _ => none

namespace System

def Progress.final? : Progress State Result → Option (Answer State Result)
  | answered answer => some answer
  | waits stage => stage.final?

theorem notifyThen_final? (system : System State Result)
    (records : List (TransactionRecord State)) (answer : Answer State Result) :
    (system.notifyThen records answer).2.final? = some answer := by
  unfold notifyThen
  split <;> rfl

theorem handOver_plain (system : System State Result) (handOff : HandOff State)
    (answer : Answer State Result) (final : (system.handOver handOff).2.final? = some answer) :
    answer.isPlain = true := by
  unfold handOver at final
  split at final <;> cases final
  rfl

/-- Only entries and validations tell anything about a record. -/
theorem start_plain (system : System State Result) (call : CallId)
    (request : Request State Result) (entry : ∀ entry, request ≠ .enter entry)
    (validation : ∀ transaction counter, request ≠ .validate transaction counter)
    (answer : Answer State Result) (final : (system.start call request).2.final? = some answer) :
    answer.isPlain = true := by
  cases request with
  | enter request => exact absurd rfl (entry request)
  | validate transaction counter => exact absurd rfl (validation transaction counter)
  | rollback transaction notify =>
      simp only [start, rollback] at final
      split at final
      · cases final
        rfl
      · rw [notifyThen_final?] at final
        cases final
        rfl
  | abortAll =>
      simp only [start, abortAll, notifyThen_final?] at final
      cases final
      rfl
  | handOver record outcome => exact system.handOver_plain _ answer final
  | recover =>
      simp only [start, recover] at final
      split at final <;> cases final
      rfl
  | flushStorage =>
      simp only [start, flushStorage] at final
      split at final <;> cases final
      rfl
  | sleep milliseconds => cases milliseconds <;> cases final; rfl

/-- A call that waits sticks to its answer. -/
theorem proceed_final? (system : System State Result) (stage : Stage State Result)
    (inside : stage.entering? = none) (answer : Answer State Result)
    (final : (system.proceed stage).2.final? = some answer) :
    stage.final? = some answer ∨ answer.isPlain = true := by
  cases stage with
  | atGate request => cases inside
  | notifying pending given =>
      left
      simp only [proceed] at final
      split at final <;> exact final
  | handing handOff => exact .inr (system.handOver_plain handOff answer final)
  | flushing given => cases given <;> cases final; exact .inr rfl
  | sleeping due =>
      right
      simp only [proceed] at final
      split at final <;> cases final
      rfl

/-! Calls by name -/

def named? (calls : List (PendingCall State Result)) (call : CallId) :
    Option (PendingCall State Result) :=
  calls.find? fun pending => pending.call == call

theorem named?_some (calls : List (PendingCall State Result)) (call : CallId)
    (pending : PendingCall State Result) (found : named? calls call = some pending) :
    pending ∈ calls ∧ pending.call = call :=
  ⟨List.mem_of_find?_eq_some found, by simpa using List.find?_some found⟩

theorem named?_none (calls : List (PendingCall State Result)) (call : CallId) :
    named? calls call = none ↔ ∀ pending ∈ calls, pending.call ≠ call := by
  simp [named?]

theorem named?_of_mem (calls : List (PendingCall State Result))
    (distinct : (calls.map fun pending => pending.call).Nodup)
    (pending : PendingCall State Result) (present : pending ∈ calls) :
    named? calls pending.call = some pending := by
  cases found : named? calls pending.call with
  | none => exact absurd rfl ((named?_none calls pending.call).mp found pending present)
  | some other =>
      obtain ⟨there, named⟩ := named?_some calls pending.call other found
      rw [List.inj_on_of_nodup_map distinct there present named]

theorem named?_filter (calls : List (PendingCall State Result)) (call other : CallId)
    (different : other ≠ call) :
    named? (calls.filter fun pending => pending.call != call) other = named? calls other := by
  rw [named?, List.find?_filter]
  congr 1
  funext pending
  by_cases named : pending.call = other
  · simp [named, different]
  · simp [named]

theorem named?_filter_self (calls : List (PendingCall State Result)) (call : CallId) :
    named? (calls.filter fun pending => pending.call != call) call = none := by
  simp [named?]

theorem named?_map (calls : List (PendingCall State Result)) (call : CallId)
    (change : PendingCall State Result → PendingCall State Result)
    (kept : ∀ pending, (change pending).call = pending.call) :
    named? (calls.map change) call = (named? calls call).map change := by
  rw [named?, List.find?_map]
  congr 2
  funext pending
  simp [kept]

theorem named?_callsAfter (calls : List (PendingCall State Result)) (call other : CallId)
    (outcome : Progress State Result) (different : other ≠ call) :
    named? (callsAfter calls call outcome) other = named? calls other := by
  cases outcome with
  | answered answer => exact named?_filter calls call other different
  | waits stage =>
      rw [callsAfter, restage, named?_map]
      · cases found : named? calls other with
        | none => rfl
        | some pending =>
            have named := (named?_some calls other pending found).2
            simp [named, different]
      · intro pending
        by_cases named : pending.call = call <;> simp [named]

theorem named?_callsAfter_self (calls : List (PendingCall State Result)) (call : CallId)
    (outcome : Progress State Result) (pending : PendingCall State Result)
    (found : named? calls call = some pending) :
    named? (callsAfter calls call outcome) call =
      match outcome with
      | .answered _ => none
      | .waits stage => some { call, stage } := by
  cases outcome with
  | answered answer => exact named?_filter_self calls call
  | waits stage =>
      rw [callsAfter, restage, named?_map]
      · have named := (named?_some calls call pending found).2
        simp [found, named]
      · intro pending
        by_cases named : pending.call = call <;> simp [named]

/-! Pending calls after an event -/

structure Alike (call : CallId) (before after : List (PendingCall State Result)) : Prop where
  isSome : (named? after call).isSome = (named? before call).isSome
  stage : ∀ pending : PendingCall State Result, pending.stage.isFlushing = false →
    (named? after call = some pending ↔ named? before call = some pending)

theorem alike_refl (call : CallId) (calls : List (PendingCall State Result)) :
    Alike call calls calls :=
  ⟨rfl, fun _ _ => Iff.rfl⟩

theorem alike_of_named? (call : CallId) (before after : List (PendingCall State Result))
    (same : named? after call = named? before call) : Alike call before after := by
  constructor
  · rw [same]
  · intro pending _
    rw [same]

theorem answerFlushes_alike (system : System State Result) (waiters : List CallId)
    (answer : FlushAnswer) (call : CallId)
    (flushing : ∀ pending ∈ system.calls, pending.call ∈ waiters → pending.stage.isFlushing = true) :
    Alike call system.calls (system.answerFlushes waiters answer).calls := by
  let answered := waiters.filter fun waiter => system.calls.any fun call => call.call == waiter
  let answering (pending : PendingCall State Result) : PendingCall State Result :=
    if pending.call ∈ answered then { pending with stage := .flushing (some answer) } else pending
  have calls : (system.answerFlushes waiters answer).calls = system.calls.map answering := rfl
  have same : named? (system.answerFlushes waiters answer).calls call =
      (named? system.calls call).map answering := by
    rw [calls]
    apply named?_map
    intro pending
    by_cases kept : pending.call ∈ answered <;> simp [answering, kept]
  constructor
  · rw [same, Option.isSome_map]
  · intro pending waits
    rw [same]
    cases found : named? system.calls call with
    | none => simp
    | some before =>
        have present := (named?_some system.calls call before found).1
        by_cases kept : before.call ∈ answered
        · have waited := flushing before present (List.mem_of_mem_filter kept)
          simp only [Option.map_some, Option.some.injEq, answering, kept, ↓reduceIte]
          constructor
          · rintro rfl
            cases waits
          · rintro rfl
            rw [waits] at waited
            cases waited
        · simp [answering, kept]

def AnswersFlushes (before after : System State Result) : Prop :=
  after.calls = before.calls ∨ ∃ waiters answer,
    (∀ waiter ∈ waiters, waiter ∈ before.lockWorker.waiters) ∧
      after.calls = (before.answerFlushes waiters answer).calls

theorem finishTick_answers (before middle : System State Result)
    (calls : middle.calls = before.calls)
    (kept : ∀ waiter ∈ middle.lockWorker.taken, waiter ∈ before.lockWorker.waiters) :
    before.AnswersFlushes middle.finishTick := by
  refine .inr ⟨middle.lockWorker.taken, .ok (), kept, ?_⟩
  simp only [finishTick, answerFlushes, calls]

/-- Messages and hand-offs leave the run in flight to whoever waits for its end. -/
theorem stretch_taken (before after : System State Result) (toLock toStorage : List (WakeRequest CallId))
    (delivered : List (Parcel State)) (stretch : before.Stretch after toLock toStorage delivered) :
    after.lockWorker.taken = before.lockWorker.taken := by
  simp only [Worker.taken, stretch.lockWorker.phase]

theorem concludeExits_answers (before middle : System State Result)
    (calls : middle.calls = before.calls)
    (kept : ∀ waiter ∈ middle.lockWorker.taken, waiter ∈ before.lockWorker.waiters)
    (run : Option (TickRun State)) : before.AnswersFlushes (concludeExits (middle, run)) := by
  cases run with
  | none =>
      have told := middle.notifyLock_stretch.trans middle.notifyLock.notifyStorage_stretch
      apply finishTick_answers before _ (told.calls.trans calls)
      rw [stretch_taken _ _ _ _ _ told]
      exact kept
  | some run => exact .inl calls

theorem concludeBreaks_answers (before middle : System State Result)
    (calls : middle.calls = before.calls)
    (kept : ∀ waiter ∈ middle.lockWorker.taken, waiter ∈ before.lockWorker.waiters)
    (pending : List (HandOff State)) : before.AnswersFlushes (concludeBreaks (middle, pending)) := by
  cases pending with
  | nil =>
      have told := middle.notifyLock_stretch
      apply finishTick_answers before _ (told.calls.trans calls)
      rw [stretch_taken _ _ _ _ _ told]
      exact kept
  | cons first rest => exact .inl calls

theorem startTick_answers (system : System State Result) :
    system.AnswersFlushes system.collected.startTick := by
  have kept : ∀ waiter ∈ system.looked.lockWorker.taken, waiter ∈ system.lockWorker.waiters := by
    intro waiter taken
    rw [← system.lockWorker.collect_waiters system.clock]
    exact List.mem_append_left _ (List.mem_append_right _ taken)
  rw [startTick_looked]
  cases (system.lock.tick system.clock).1 with
  | idle => exact finishTick_answers system system.looked rfl kept
  | recheck instant =>
      have told := system.looked.notifyLockAt_stretch instant
      apply finishTick_answers system _ told.calls
      rwa [stretch_taken _ _ _ _ _ told]
  | exit records =>
      obtain ⟨_, stretch, _⟩ := system.looked.deliverExits_stretch records
      apply concludeExits_answers system _ stretch.calls
      rwa [stretch_taken _ _ _ _ _ stretch]
  | breakLock records =>
      obtain ⟨_, stretch, _⟩ := system.looked.startNotifying_stretch records
      apply concludeBreaks_answers system _ stretch.calls
      rwa [stretch_taken _ _ _ _ _ stretch]

theorem continueTick_answers (system : System State Result) (run : TickRun State) :
    system.AnswersFlushes (system.continueTick run) := by
  have kept := system.lockWorker.taken_waiters
  cases run with
  | exiting current rest =>
      by_cases due : current.due ≤ system.clock
      · obtain ⟨_, stretch, _⟩ := (system.deliver current).deliverExits_stretch rest
        have whole := (system.deliver_stretch current).trans stretch
        have same : system.continueTick (.exiting current rest) =
            concludeExits ((system.deliver current).deliverExits rest) := by
          simp only [continueTick]
          exact if_pos due
        rw [same]
        apply concludeExits_answers system _ whole.calls
        rwa [stretch_taken _ _ _ _ _ whole]
      · refine .inl ?_
        simp only [continueTick]
        rw [if_neg due]
  | breaking pending =>
      obtain ⟨_, stretch, _⟩ := system.deliverDue_stretch pending
      apply concludeBreaks_answers system _ stretch.calls
      rwa [stretch_taken _ _ _ _ _ stretch]

theorem lockTurn_answers (system : System State Result) :
    system.AnswersFlushes system.lockTurn := by
  cases phase : system.lockWorker.phase with
  | stopped => exact .inl (by simp only [lockTurn, phase])
  | running run taken =>
      have same : system.lockTurn = system.continueTick run := by simp only [lockTurn, phase]
      rw [same]
      exact system.continueTick_answers run
  | waiting =>
      by_cases asked : (system.lockWorker.collect system.clock).pending.now = true
      · have same : system.lockTurn = system.collected.startTick := by
          simp only [lockTurn, phase]
          exact if_pos asked
        rw [same]
        exact system.startTick_answers
      · refine .inl ?_
        simp only [lockTurn, phase]
        rw [if_neg asked]

theorem storageTurn_calls (system : System State Result) :
    system.storageTurn.calls = system.calls ∨ ∃ waiters answer,
      (∀ waiter ∈ waiters, waiter ∈ system.storageWorker.waiters) ∧
        system.storageTurn.calls = (system.answerFlushes waiters answer).calls := by
  cases phase : system.storageWorker.phase with
  | stopped | running => exact .inl (by simp only [storageTurn, phase])
  | waiting =>
      let worker := system.storageWorker.collect system.clock
      by_cases asked : worker.pending.now = true
      · refine .inr ⟨(worker.start ()).taken, .ok (), ?_, ?_⟩
        · intro waiter taken
          rw [← system.storageWorker.collect_waiters system.clock]
          exact List.mem_append_left _ (List.mem_append_right _ taken)
        · simp only [storageTurn, phase]
          rw [if_pos asked]
          rfl
      · refine .inl ?_
        simp only [storageTurn, phase]
        rw [if_neg asked]

theorem answersFlushes_alike (before after : System State Result) (named : before.Named)
    (answers : before.AnswersFlushes after) (call : CallId) :
    Alike call before.calls after.calls := by
  rcases answers with same | ⟨waiters, answer, kept, same⟩
  · rw [same]
    exact alike_refl call _
  · rw [same]
    exact before.answerFlushes_alike waiters answer call fun pending present waits =>
      named.lock pending present (kept _ waits)

theorem storageTurn_alike (system : System State Result) (named : system.Named) (call : CallId) :
    Alike call system.calls system.storageTurn.calls := by
  rcases system.storageTurn_calls with same | ⟨waiters, answer, kept, same⟩
  · rw [same]
    exact alike_refl call _
  · rw [same]
    exact system.answerFlushes_alike waiters answer call fun pending present waits =>
      named.storage pending present (kept _ waits)

theorem spawn_calls (system : System State Result) (call : CallId)
    (request : Request State Result) :
    (system.spawn call request).calls = system.calls ++
      ((system.start call request).2.stage?.map (PendingCall.mk call)).toList := by
  obtain ⟨_, stretch, _⟩ := system.start_does call request
  cases progress : system.start call request with
  | mk started outcome =>
      rw [progress] at stretch
      have calls : started.calls = system.calls := stretch.calls
      cases outcome with
      | answered answer =>
          simp [spawn, begin, progress, note, Progress.stage?, calls]
      | waits stage =>
          simp [spawn, begin, progress, wake, Progress.stage?, calls]

theorem resume_calls (system : System State Result) (call : CallId)
    (pending : PendingCall State Result) (found : system.findCall? call = some pending) :
    (noteAnswer call (system.resume call)).calls =
      callsAfter system.calls call (system.proceed pending.stage).2 := by
  obtain ⟨_, stretch, _⟩ := system.proceed_does pending.stage
  cases progress : system.proceed pending.stage with
  | mk proceeded outcome =>
      rw [progress] at stretch
      obtain ⟨_, _, same⟩ := system.resume_found proceeded call pending outcome found progress
      have calls : proceeded.calls = system.calls := stretch.calls
      rw [same, calls]

theorem isFree_named? (system : System State Result) (call : CallId)
    (free : system.isFree call = true) : named? system.calls call = none := by
  simp only [isFree, Bool.and_eq_true, Bool.not_eq_true', List.any_eq_false, beq_iff_eq] at free
  exact (named?_none system.calls call).mpr free.1.1

theorem step_alike (system : System State Result) (event : Event State Result)
    (named : system.Named) (call : CallId)
    (other : ∀ outcome, system.progress? event ≠ some (call, outcome))
    (kept : event ≠ .giveUp call) : Alike call system.calls (system.step event).calls := by
  cases event with
  | call another request =>
      by_cases free : system.isFree another = true
      · have different : another ≠ call := by
          rintro rfl
          exact other _ (system.progress?_call another request free)
        have calls : (system.step (.call another request)).calls = system.calls ++
            ((system.start another request).2.stage?.map (PendingCall.mk another)).toList := by
          simp only [step, free, ↓reduceIte, spawn_calls]
        rw [calls]
        apply alike_of_named?
        cases (system.start another request).2.stage? <;> simp [named?, different]
      · have same : system.step (.call another request) = system := by simp [step, free]
        rw [same]
        exact alike_refl call _
  | giveUp another =>
      have different : call ≠ another := fun same => kept (same ▸ rfl)
      exact alike_of_named? call _ _ (named?_filter system.calls another call different)
  | turn task =>
      by_cases ready : task ∈ system.ready
      · let resumed := { system with ready := system.ready.erase task }
        have rested : resumed.Named := ⟨named.distinct, named.lock, named.storage⟩
        cases task with
        | storage =>
            rw [system.step_turn_storage ready]
            exact resumed.storageTurn_alike rested call
        | lock =>
            rw [system.step_turn_lock ready]
            exact answersFlushes_alike resumed _ rested resumed.lockTurn_answers call
        | call another =>
            cases found : system.findCall? another with
            | none =>
                rw [system.step_turn_absent another ready found]
                exact alike_refl call _
            | some pending =>
                have different : call ≠ another := by
                  rintro rfl
                  exact other _ (system.progress?_turn call pending ready found)
                rw [system.step_turn_call another ready, resumed.resume_calls another pending found]
                exact alike_of_named? call _ _ (named?_callsAfter system.calls another call _ different)
      · rw [system.step_unready task ready]
        exact alike_refl call _
  | assignRole transaction role timestamp =>
      have same : (system.assignRole transaction role timestamp).calls = system.calls := by
        simp only [assignRole]
        split
        · exact (System.notifyLock_stretch _).calls
        · rfl
      exact alike_of_named? call _ _ (congrArg (named? · call) same)
  | withRecord transaction operation =>
      have same : (system.withRecord transaction operation).1.calls = system.calls := by
        simp only [withRecord]
        split <;> rfl
      exact alike_of_named? call _ _ (congrArg (named? · call) same)
  | notifyLock =>
      exact alike_of_named? call _ _ (congrArg (named? · call) system.notifyLock_stretch.calls)
  | notifyStorage =>
      exact alike_of_named? call _ _ (congrArg (named? · call) system.notifyStorage_stretch.calls)
  | stopLock =>
      let stopped := { system with lockWorker := system.lockWorker.stop }
      exact stopped.answerFlushes_alike _ _ call named.lock
  | stopStorage =>
      let stopped := { system with storageWorker := system.storageWorker.stop }
      exact stopped.answerFlushes_alike _ _ call named.storage
  | _ => exact alike_refl call _

/-- The call on turn has its place, or its answer and no place any more. -/
theorem step_own (system : System State Result) (event : Event State Result) (call : CallId)
    (outcome : Progress State Result) (own : system.progress? event = some (call, outcome)) :
    named? (system.step event).calls call = outcome.stage?.map (PendingCall.mk call) := by
  cases event with
  | call another request =>
      by_cases free : system.isFree another = true
      · simp only [progress?, free, ↓reduceIte, Option.some.injEq, Prod.mk.injEq] at own
        obtain ⟨rfl, rfl⟩ := own
        have unborne := system.isFree_named? another free
        simp only [step, free, ↓reduceIte, spawn_calls]
        simp only [named?] at unborne ⊢
        rw [List.find?_append, unborne]
        cases (system.start another request).2.stage? <;> simp
      · simp [progress?, free] at own
  | turn task =>
      by_cases ready : task ∈ system.ready
      · cases task with
        | call another =>
            simp only [progress?, ready, ↓reduceIte] at own
            obtain ⟨pending, found, same⟩ := Option.map_eq_some_iff.mp own
            obtain ⟨rfl, rfl⟩ := Prod.mk.inj same
            let resumed := { system with ready := system.ready.erase (.call another) }
            rw [system.step_turn_call another ready, resumed.resume_calls another pending found,
              named?_callsAfter_self system.calls another _ pending found]
            cases (resumed.proceed pending.stage).2 <;> rfl
        | _ => cases own
      · cases task with
        | call another => simp [progress?, ready] at own
        | _ => cases own
  | _ => cases own

/-- Whoever still waits after its turn has found a place to do so. -/
theorem step_own_waits (system : System State Result) (event : Event State Result)
    (named : system.Named) (pending : PendingCall State Result)
    (present : pending ∈ (system.step event).calls) (outcome : Progress State Result)
    (own : system.progress? event = some (pending.call, outcome)) :
    outcome = .waits pending.stage := by
  have found := named?_of_mem _ (system.step_named event named).distinct pending present
  rw [system.step_own event pending.call outcome own] at found
  cases outcome with
  | answered answer => cases found
  | waits stage =>
      have same : PendingCall.mk pending.call stage = pending := Option.some.inj found
      rw [← congrArg PendingCall.stage same]

theorem giveUp_own (system : System State Result) (call : CallId) :
    named? (system.step (.giveUp call)).calls call = none :=
  named?_filter_self system.calls call

/-- A call that waits, and not for a run, was where it is or has just come there. -/
theorem step_pending (system : System State Result) (event : Event State Result)
    (named : system.Named) (pending : PendingCall State Result)
    (present : pending ∈ (system.step event).calls) (waits : pending.stage.isFlushing = false) :
    pending ∈ system.calls ∨
      system.progress? event = some (pending.call, .waits pending.stage) := by
  have found := named?_of_mem _ (system.step_named event named).distinct pending present
  by_cases own : ∃ outcome, system.progress? event = some (pending.call, outcome)
  · obtain ⟨outcome, own⟩ := own
    right
    rw [own, system.step_own_waits event named pending present outcome own]
  · left
    have other : ∀ outcome, system.progress? event ≠ some (pending.call, outcome) :=
      fun outcome same => own ⟨outcome, same⟩
    by_cases kept : event = .giveUp pending.call
    · subst kept
      cases (system.giveUp_own pending.call).symm.trans found
    · have alike := system.step_alike event named pending.call other kept
      exact (named?_some system.calls _ pending ((alike.stage pending waits).mp found)).1

inductive TurnOrigin (system : System State Result) (event : Event State Result) (call : CallId)
    (outcome : Progress State Result) : Prop where
  | begun (request : Request State Result) (event_eq : event = .call call request)
      (free : system.isFree call = true) (came : outcome = (system.start call request).2)
  | resumed (pending : PendingCall State Result) (event_eq : event = .turn (.call call))
      (ready : .call call ∈ system.ready) (found : system.findCall? call = some pending)
      (came : outcome =
        ({ system with ready := system.ready.erase (.call call) }.proceed pending.stage).2)

theorem progress?_origin (system : System State Result) (event : Event State Result)
    (call : CallId) (outcome : Progress State Result)
    (own : system.progress? event = some (call, outcome)) :
    system.TurnOrigin event call outcome := by
  cases event with
  | call another request =>
      by_cases free : system.isFree another = true
      · simp only [progress?, free, ↓reduceIte, Option.some.injEq, Prod.mk.injEq] at own
        obtain ⟨rfl, rfl⟩ := own
        exact .begun request rfl free rfl
      · simp [progress?, free] at own
  | turn task =>
      cases task with
      | call another =>
          by_cases ready : .call another ∈ system.ready
          · simp only [progress?, ready, ↓reduceIte] at own
            obtain ⟨pending, found, same⟩ := Option.map_eq_some_iff.mp own
            obtain ⟨rfl, rfl⟩ := Prod.mk.inj same
            exact .resumed pending rfl ready found rfl
          · simp [progress?, ready] at own
      | _ => cases own
  | _ => cases own

/-- Nobody comes to wait but those who waited and a call that has just begun. -/
theorem step_caller (system : System State Result) (event : Event State Result)
    (named : system.Named) (pending : PendingCall State Result)
    (present : pending ∈ (system.step event).calls) :
    (∃ before ∈ system.calls, before.call = pending.call) ∨
      ∃ request, event = .call pending.call request ∧ system.isFree pending.call = true := by
  have found := named?_of_mem _ (system.step_named event named).distinct pending present
  by_cases own : ∃ outcome, system.progress? event = some (pending.call, outcome)
  · obtain ⟨outcome, own⟩ := own
    cases system.progress?_origin event pending.call outcome own with
    | begun request event_eq free came => exact .inr ⟨request, event_eq, free⟩
    | resumed before event_eq ready there came =>
        exact .inl ⟨before, named?_some system.calls pending.call before there⟩
  · left
    have other : ∀ outcome, system.progress? event ≠ some (pending.call, outcome) :=
      fun outcome same => own ⟨outcome, same⟩
    by_cases kept : event = .giveUp pending.call
    · subst kept
      cases (system.giveUp_own pending.call).symm.trans found
    · have waited := (system.step_alike event named pending.call other kept).isSome
      rw [found, Option.isSome_some] at waited
      obtain ⟨before, there⟩ := Option.isSome_iff_exists.mp waited.symm
      exact ⟨before, named?_some system.calls pending.call before there⟩

/-- An answer is what the journal tells last. -/
theorem step_journal (system : System State Result) (event : Event State Result) (call : CallId)
    (answer : Answer State Result) (reply : system.reply? event = some (call, answer)) :
    ∃ clock, (system.step event).journal.head? = some (.answered clock call answer) := by
  obtain ⟨⟨another, outcome⟩, own, same⟩ := Option.bind_eq_some_iff.mp reply
  cases outcome with
  | waits stage => cases same
  | answered given =>
      obtain ⟨rfl, rfl⟩ : another = call ∧ given = answer := by simpa [Progress.answer?] using same
      cases system.progress?_origin event another _ own with
      | begun request event_eq free came =>
          subst event_eq
          cases started : system.start another request with
          | mk after outcome =>
              rw [started] at came
              subst came
              exact ⟨after.clock, by simp [step, free, spawn, begin, started, note]⟩
      | resumed pending event_eq ready found came =>
          subst event_eq
          let resumed := { system with ready := system.ready.erase (.call another) }
          have located : resumed.findCall? another = some pending := found
          cases proceeded : resumed.proceed pending.stage with
          | mk after outcome =>
              have given_eq : Progress.answered given = outcome :=
                came.trans (congrArg Prod.snd proceeded)
              subst given_eq
              rw [system.step_turn_call another ready]
              exact ⟨after.clock, by simp [resume, located, proceeded, noteAnswer, note, resumed]⟩

end System

end WoundWait
