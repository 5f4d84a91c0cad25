import WoundWait.Proofs.AttemptValidation

/-!
What an entrant who is turned away leaves behind: nothing. An entry makes the group before it judges
who is in conflict, and removes members before it seats the newcomer, and none of these steps is
ever taken back. That a refusal changes nothing rests on the order of the steps, and on a group that
was made just now having no member to be in conflict with.
-/

namespace WoundWait

variable {State Result : Type}

namespace Lock

/-! The entry, carried out step by step on the lock itself -/

def opened (lock : Lock State) : Lock State :=
  { lock with group := some (lock.group.getD .empty) }

def clearWay (lock : Lock State) (request : EntryRequest State Result) (atCapacity : Bool) :
    Lock State × Except LockError (List (TransactionRecord State)) :=
  let group := lock.group.getD .empty
  match group.conflict request.transaction request.mode request.priority atCapacity with
  | .absent => (lock, .ok [])
  | .unresolvable holder _ => (lock, .error (.upgradeConflict request.transaction holder))
  | .resolvable =>
      ({ lock with group := some (group.eraseOthers request.transaction) },
        .ok (group.others request.transaction))

def seat (lock : Lock State) (clock : Instant) (request : EntryRequest State Result) :
    Lock State :=
  { lock with
    group := some ((lock.group.getD .empty).insert
      (.fresh lock.admissions request.transaction request.priority
        (clock + lock.options.lockAcquireTimeout)))
    admissions := lock.admissions + 1 }

/-- Decides about an entrant. The counts come first, and a newcomer whose counts are wrong does not
even get a group made. -/
def admitInPlace (lock : Lock State) (clock : Instant) (request : EntryRequest State Result) :
    Lock State × Except LockError (List (TransactionRecord State)) :=
  match lock.find? request.transaction with
  | some record =>
      if request.counter.exceeds record.accesses then
        (lock.opened, .error (.counterAhead request.transaction))
      else lock.opened.clearWay request false
  | none =>
      if request.counter.isEmpty then
        match lock.opened.clearWay request
            (lock.options.maxLockGroupSize ≤ (lock.group.getD .empty).size) with
        | (cleared, .error refusal) => (cleared, .error refusal)
        | (cleared, .ok wounded) => (cleared.seat clock request, .ok wounded)
      else (lock, .error (.notResident request.transaction))

def enterInPlace (lock : Lock State) (clock : Instant) (request : EntryRequest State Result) :
    Lock State × Except LockError (Except Failure Result × List (TransactionRecord State)) :=
  match lock.admitInPlace clock request with
  | (admitted, .error refusal) => (admitted, .error refusal)
  | (admitted, .ok wounded) =>
      match admitted.find? request.transaction with
      | none => (admitted, .error (.recordMissing request.transaction))
      | some record =>
          let outcome := record.run request.operation
          (admitted.modify request.transaction fun _ => outcome.2.countAccess request.mode,
            .ok (outcome.1, wounded))

theorem opened_present (lock : Lock State) (group : LockGroup State)
    (present : lock.group = some group) : lock.opened = lock := by
  simp only [opened, present, Option.getD_some]
  rw [← present]

theorem opened_resident (lock : Lock State) (transaction : TransactionId)
    (record : TransactionRecord State) (found : lock.find? transaction = some record) :
    lock.opened = lock := by
  obtain ⟨group, present, _⟩ := Option.bind_eq_some_iff.mp found
  exact lock.opened_present group present

/-- Nobody is in conflict with an entrant to a group that was made for it. -/
theorem opened_opposed (lock : Lock State) (request : EntryRequest State Result)
    (atCapacity : Bool) (holder : TransactionId) (priority : Priority)
    (opposed : (lock.group.getD .empty).conflict request.transaction request.mode request.priority
      atCapacity = .unresolvable holder priority) : lock.opened = lock := by
  cases present : lock.group with
  | some group => exact lock.opened_present group present
  | none =>
      rw [present] at opposed
      cases opposed

/-- Clearing the way decides as the judgement of a conflict does, and takes nobody out for a
refusal. -/
theorem clearWay_opened (lock : Lock State) (request : EntryRequest State Result)
    (atCapacity : Bool) :
    lock.opened.clearWay request atCapacity =
      match resolveConflict (lock.group.getD .empty) request.transaction request.mode
          request.priority atCapacity with
      | .ok (remaining, wounded) => ({ lock with group := some remaining }, .ok wounded)
      | .error refusal => (lock, .error refusal) := by
  have same : lock.opened.group.getD .empty = lock.group.getD .empty := rfl
  simp only [clearWay, resolveConflict, same]
  cases outcome : (lock.group.getD .empty).conflict request.transaction request.mode
      request.priority atCapacity with
  | absent | resolvable => rfl
  | unresolvable holder priority => simp only [lock.opened_opposed request _ holder priority outcome]

theorem admitInPlace_eq (lock : Lock State) (clock : Instant)
    (request : EntryRequest State Result) :
    lock.admitInPlace clock request =
      match lock.grant clock request with
      | .ok (granted, wounded) => (granted, .ok wounded)
      | .error refusal => (lock, .error refusal) := by
  cases found : lock.find? request.transaction with
  | some record =>
      by_cases ahead : request.counter.exceeds record.accesses = true
      · simp only [admitInPlace, grant, found, ahead, ↓reduceIte, opened_resident lock _ record found]
      · simp only [admitInPlace, grant, found, ahead, Bool.false_eq_true, ↓reduceIte,
          clearWay_opened]
        cases resolveConflict (lock.group.getD .empty) request.transaction request.mode
          request.priority false <;> rfl
  | none =>
      by_cases fresh : request.counter.isEmpty = true
      · simp only [admitInPlace, grant, found, fresh, ↓reduceIte, clearWay_opened]
        cases resolveConflict (lock.group.getD .empty) request.transaction request.mode
          request.priority _ <;> rfl
      · simp only [admitInPlace, grant, found, fresh, Bool.false_eq_true, ↓reduceIte]

theorem enterInPlace_eq (lock : Lock State) (clock : Instant)
    (request : EntryRequest State Result) :
    lock.enterInPlace clock request =
      match lock.enter clock request with
      | .ok entry => (entry.lock, .ok (entry.result, entry.wounded))
      | .error refusal => (lock, .error refusal) := by
  by_cases agree : lock.CountsAgree request
  · rcases lock.grant_spec clock request agree with
      ⟨_, granted, wounded, done, grants⟩ | ⟨holder, done, _⟩
    · have found := lock.grants_find? granted clock request wounded grants
      simp only [enterInPlace, admitInPlace_eq, enter, done, found]
    · simp only [enterInPlace, admitInPlace_eq, enter, done]
  · rcases lock.grant_disagrees clock request agree with done | done <;>
      simp only [enterInPlace, admitInPlace_eq, enter, done]

/-! Who is told that its lock is broken -/

/-- The caller counts accesses that no resident record of its own accounts for. -/
def Contradicts (lock : Lock State) (request : EntryRequest State Result) : Prop :=
  (lock.find? request.transaction = none ∧
      (request.counter.reads ≠ 0 ∨ request.counter.writes ≠ 0)) ∨
    ∃ record, lock.find? request.transaction = some record ∧
      (record.accesses.reads < request.counter.reads ∨
        record.accesses.writes < request.counter.writes)

theorem contradicts_iff (lock : Lock State) (request : EntryRequest State Result) :
    lock.Contradicts request ↔ ¬ lock.CountsAgree request := by
  cases found : lock.find? request.transaction with
  | none =>
      simp only [Contradicts, CountsAgree, found, AccessCounter.isEmpty, AccessCounter.total,
        beq_iff_eq, true_and, reduceCtorEq, false_and, exists_false, or_false]
      omega
  | some record =>
      simp [Contradicts, CountsAgree, found, AccessCounter.exceeds]
      omega

inductive Judged (lock : Lock State) (request : EntryRequest State Result) :
    Except LockError (Entry State Result) → Prop where
  | unknown (contradicts : lock.Contradicts request) :
      Judged lock request (.error (.notResident request.transaction))
  | ahead (contradicts : lock.Contradicts request) :
      Judged lock request (.error (.counterAhead request.transaction))
  | opposed (agree : lock.CountsAgree request) (holder : TransactionId) :
      Judged lock request (.error (.upgradeConflict request.transaction holder))
  | admitted (agree : lock.CountsAgree request) (entry : Entry State Result) :
      Judged lock request (.ok entry)

theorem enter_judged (lock : Lock State) (clock : Instant) (request : EntryRequest State Result) :
    lock.Judged request (lock.enter clock request) := by
  by_cases agree : lock.CountsAgree request
  · by_cases unopposed : lock.Unopposed request
    · obtain ⟨entry, admitted, _⟩ := lock.enter_admits clock request agree unopposed
      rw [admitted]
      exact .admitted agree entry
    · obtain ⟨holder, refused, _⟩ := lock.enter_refuses clock request agree unopposed
      rw [refused]
      exact .opposed agree holder.transaction
  · have contradicts := (lock.contradicts_iff request).mpr agree
    rcases lock.enter_disagrees clock request agree with refused | refused
    · rw [refused]
      exact .unknown contradicts
    · rw [refused]
      exact .ahead contradicts

theorem enter_broken_iff (lock : Lock State) (clock : Instant)
    (request : EntryRequest State Result) :
    (∃ transaction context, lock.enter clock request = .error (.brokenLock transaction context)) ↔
      lock.Contradicts request := by
  have judged := lock.enter_judged clock request
  generalize lock.enter clock request = outcome at judged
  constructor
  · rintro ⟨transaction, context, rfl⟩
    cases judged with
    | unknown contradicts | ahead contradicts => exact contradicts
  · intro contradicts
    have disagree := (lock.contradicts_iff request).mp contradicts
    cases judged with
    | unknown | ahead => exact ⟨_, _, rfl⟩
    | opposed agree | admitted agree => exact absurd agree disagree

/-- Whoever is refused is refused for its counts or for an older member, and so before anything is
done for it. -/
theorem enter_refusal (lock : Lock State) (clock : Instant) (request : EntryRequest State Result)
    (refusal : LockError) (refused : lock.enter clock request = .error refusal) :
    refusal.isRetryable = true ∧ ∀ transaction, refusal ≠ .recordMissing transaction := by
  have judged := lock.enter_judged clock request
  rw [refused] at judged
  cases judged with
  | unknown | ahead =>
      refine ⟨rfl, fun transaction missing => ?_⟩
      simp [LockError.notResident, LockError.counterAhead, LockError.recordMissing] at missing
  | opposed => exact ⟨rfl, fun transaction missing => by cases missing⟩

theorem grant_refused (lock : Lock State) (clock : Instant) (request : EntryRequest State Result)
    (refusal : LockError) (refused : lock.enter clock request = .error refusal) :
    lock.grant clock request = .error refusal := by
  by_cases agree : lock.CountsAgree request
  · rcases lock.grant_spec clock request agree with
      ⟨unopposed, _⟩ | ⟨holder, done, _⟩
    · obtain ⟨entry, admitted, _⟩ := lock.enter_admits clock request agree unopposed
      cases refused.symm.trans admitted
    · simp only [enter, done] at refused
      cases refused
      exact done
  · rcases lock.grant_disagrees clock request agree with done | done <;>
      (simp only [enter, done] at refused; cases refused; exact done)

/-- The operation has no say in whether the entrant is let in. -/
theorem enter_oblivious (lock : Lock State) (clock : Instant) (request : EntryRequest State Result)
    (refusal : LockError) (refused : lock.enter clock request = .error refusal)
    (other : Operation State Result) :
    lock.enter clock { request with operation := other } = .error refusal := by
  have same : lock.grant clock { request with operation := other } = .error refusal :=
    lock.grant_refused clock request refusal refused
  simp only [enter, same]

end Lock

namespace Answer

def refusal? : Answer State Result → Option LockError
  | entered (.error refusal) => if refusal.isRetryable then some refusal else none
  | _ => none

theorem isPlain_refusal? (answer : Answer State Result) (plain : answer.isPlain = true) :
    answer.refusal? = none := by
  cases answer with
  | entered | validated => cases plain
  | _ => rfl

theorem refusal?_some (answer : Answer State Result) (refusal : LockError)
    (refused : answer.refusal? = some refusal) : answer = .entered (.error refusal) := by
  cases answer with
  | entered result =>
      cases result with
      | ok value => cases refused
      | error failure =>
          simp only [refusal?, Option.ite_none_right_eq_some, Option.some.injEq] at refused
          rw [refused.2]
  | _ => cases refused

end Answer

namespace System

/-- Whoever is let in is not refused any more, whatever becomes of its operation. -/
theorem passGate_refusal (system : System State Result) (request : EntryRequest State Result)
    (answer : Answer State Result) (refusal : LockError)
    (final : (system.passGate request).2.final? = some answer)
    (refused : answer.refusal? = some refusal) :
    system.queue.gateOpen = true ∧ system.lock.enter system.clock request = .error refusal ∧
      system.passGate request = (system, .answered answer) := by
  by_cases gate : system.queue.gateOpen = true
  · cases outcome : system.lock.enter system.clock request with
    | error told =>
        simp only [passGate, enterLock, gate, ↓reduceIte, outcome] at final ⊢
        cases final
        cases Answer.refusal?_some _ refusal refused
        exact ⟨trivial, rfl, rfl⟩
    | ok entry =>
        simp only [passGate, enterLock, gate, ↓reduceIte, outcome, notifyThen_final?] at final
        cases final
        cases result : entry.result <;>
          simp [result, Except.mapError, Answer.refusal?, LockError.isRetryable] at refused
  · simp [passGate, gate, Progress.final?, Stage.final?] at final

theorem start_refusal (system : System State Result) (call : CallId)
    (request : Request State Result) (answer : Answer State Result) (refusal : LockError)
    (final : (system.start call request).2.final? = some answer)
    (refused : answer.refusal? = some refusal) :
    ∃ entry, request = .enter entry ∧ system.queue.gateOpen = true ∧
      system.lock.enter system.clock entry = .error refusal ∧
      system.start call request = ({ system with
        queue := { system.queue with readyCalls := system.queue.readyCalls + 1 } },
          .answered answer) := by
  cases request with
  | enter entry =>
      obtain ⟨gate, outcome, same⟩ := passGate_refusal _ entry answer refusal final refused
      exact ⟨entry, rfl, gate, outcome, same⟩
  | validate transaction counter =>
      simp only [start, validateLock] at final
      split at final
      · cases final
        cases refused
      · cases final
        cases refused
      · rw [notifyThen_final?] at final
        cases final
        cases refused
  | _ =>
      have plain := system.start_plain call _ (by simp) (by simp) answer final
      cases (answer.isPlain_refusal? plain).symm.trans refused

theorem proceed_refusal (system : System State Result) (stage : Stage State Result)
    (answer : Answer State Result) (refusal : LockError)
    (final : (system.proceed stage).2.final? = some answer)
    (refused : answer.refusal? = some refusal) :
    stage.final? = some answer ∨ ∃ entry, stage = .atGate entry ∧ system.queue.gateOpen = true ∧
      system.lock.enter system.clock entry = .error refusal ∧
      system.proceed stage = (system, .answered answer) := by
  cases inside : stage.entering? with
  | some request =>
      cases stage with
      | atGate entry =>
          obtain ⟨gate, outcome, same⟩ := system.passGate_refusal entry answer refusal final refused
          exact .inr ⟨entry, rfl, gate, outcome, same⟩
      | _ => cases inside
  | none =>
      rcases system.proceed_final? stage inside answer final with settled | plain
      · exact .inl settled
      · cases (answer.isPlain_refusal? plain).symm.trans refused

def Unrefused (system : System State Result) : Prop :=
  ∀ pending ∈ system.calls, ∀ answer, pending.stage.final? = some answer → answer.refusal? = none

theorem step_unrefused (system : System State Result) (event : Event State Result)
    (named : system.Named) (unrefused : system.Unrefused) : (system.step event).Unrefused := by
  intro pending present answer final
  cases refused : answer.refusal? with
  | none => rfl
  | some refusal =>
      have waits : pending.stage.isFlushing = false := by
        cases stage : pending.stage <;> simp [stage, Stage.final?, Stage.isFlushing] at final ⊢
      rcases system.step_pending event named pending present waits with old | come
      · exact absurd (unrefused pending old answer final) (by simp [refused])
      · -- Whoever was refused just now would have its answer, and no place to wait.
        cases system.progress?_origin event pending.call _ come with
        | begun request event_eq free came =>
            have promised : (system.start pending.call request).2.final? = some answer := by
              rw [← came]
              exact final
            obtain ⟨_, _, _, _, same⟩ := system.start_refusal _ _ answer refusal promised refused
            rw [same] at came
            cases came
        | resumed before event_eq ready found came =>
            let resumed := { system with ready := system.ready.erase (.call pending.call) }
            have promised : (resumed.proceed before.stage).2.final? = some answer := by
              rw [← came]
              exact final
            rcases resumed.proceed_refusal _ answer refusal promised refused with
              settled | ⟨_, _, _, _, same⟩
            · have there := (named?_some system.calls pending.call before found).1
              exact absurd (unrefused before there answer settled) (by simp [refused])
            · rw [same] at came
              cases came

structure TurnsAway (system : System State Result) (event : Event State Result) (call : CallId)
    (request : EntryRequest State Result) (refusal : LockError) : Prop where
  action : system.action? event = some (.enter request)
  refused : system.lock.enter system.clock request = .error refusal
  idle : system.works event = []
  oblivious : ∀ other : Operation State Result,
    system.lock.enter system.clock { request with operation := other } = .error refusal
  clock : (system.step event).clock = system.clock
  lock : (system.step event).lock = system.lock
  lockWorker : (system.step event).lockWorker = system.lockWorker
  storageWorker : (system.step event).storageWorker = system.storageWorker
  queue : (system.step event).queue =
    { system.queue with readyCalls := (system.step event).queue.readyCalls }
  calls : (system.step event).calls = system.calls.filter fun pending => pending.call != call
  journal : (system.step event).journal =
    .answered system.clock call (.entered (.error refusal)) :: system.journal

theorem isFree_filter (system : System State Result) (call : CallId)
    (free : system.isFree call = true) :
    (system.calls.filter fun pending => pending.call != call) = system.calls := by
  rw [List.filter_eq_self]
  intro pending present
  simpa using (named?_none system.calls call).mp (system.isFree_named? call free) pending present

theorem turnsAway_of_after (system : System State Result) (event : Event State Result)
    (call : CallId) (request : EntryRequest State Result) (refusal : LockError)
    (readyCalls : Nat) (ready : List Task) (action : system.action? event = some (.enter request))
    (refused : system.lock.enter system.clock request = .error refusal)
    (after : system.step event = { system with
      queue := { system.queue with readyCalls }
      calls := system.calls.filter fun pending => pending.call != call
      ready
      journal := .answered system.clock call (.entered (.error refusal)) :: system.journal }) :
    system.TurnsAway event call request refusal := by
  constructor
  · exact action
  · exact refused
  · simp [works, action, Lock.works_refused _ _ request refusal refused]
  · exact system.lock.enter_oblivious _ request refusal refused
  all_goals rw [after]

theorem begun_turnsAway (system : System State Result) (call : CallId)
    (request : EntryRequest State Result) (refusal : LockError) (free : system.isFree call = true)
    (gate : system.queue.gateOpen = true)
    (refused : system.lock.enter system.clock request = .error refusal) :
    system.TurnsAway (.call call (.enter request)) call request refusal := by
  apply turnsAway_of_after _ _ _ _ _ (system.queue.readyCalls + 1) system.ready _ refused
  · rw [isFree_filter system call free]
    simp only [step, free, ↓reduceIte, spawn, begin, start, passGate, gate, enterLock, refused, note]
  · simp only [action?, free, ↓reduceIte, requestAction?, gate]

theorem resumed_turnsAway (system : System State Result) (call : CallId)
    (pending : PendingCall State Result) (request : EntryRequest State Result)
    (refusal : LockError) (ready : .call call ∈ system.ready)
    (found : system.findCall? call = some pending) (waited : pending.stage = .atGate request)
    (gate : system.queue.gateOpen = true)
    (refused : system.lock.enter system.clock request = .error refusal) :
    system.TurnsAway (.turn (.call call)) call request refusal := by
  let resumed := { system with ready := system.ready.erase (.call call) }
  have located : resumed.findCall? call = some pending := found
  have proceeded : resumed.proceed pending.stage =
      (resumed, .answered (.entered (.error refusal))) := by
    simp only [waited, proceed, passGate, resumed, gate, ↓reduceIte, enterLock, refused]
  apply turnsAway_of_after _ _ _ _ _ system.queue.readyCalls resumed.ready _ refused
  · rw [system.step_turn_call call ready]
    simp only [resume, located, proceeded, noteAnswer, note, resumed]
  · simp only [action?, ready, ↓reduceIte, turnAction?, callAction?, found, Option.bind_some, waited,
      stageAction?, gate]

theorem reply_turnsAway (system : System State Result) (event : Event State Result)
    (unrefused : system.Unrefused) (call : CallId) (answer : Answer State Result)
    (refusal : LockError) (reply : system.reply? event = some (call, answer))
    (refused : answer.refusal? = some refusal) :
    ∃ request, system.TurnsAway event call request refusal := by
  obtain ⟨⟨another, outcome⟩, own, same⟩ := Option.bind_eq_some_iff.mp reply
  cases outcome with
  | waits stage => cases same
  | answered given =>
      obtain ⟨rfl, rfl⟩ : another = call ∧ given = answer := by simpa [Progress.answer?] using same
      cases system.progress?_origin event another _ own with
      | begun request event_eq free came =>
          subst event_eq
          have final : (system.start another request).2.final? = some given := by
            rw [← came]
            rfl
          obtain ⟨entry, rfl, gate, outcome, _⟩ :=
            system.start_refusal another request given refusal final refused
          exact ⟨entry, system.begun_turnsAway another entry refusal free gate outcome⟩
      | resumed pending event_eq ready found came =>
          subst event_eq
          let resumed := { system with ready := system.ready.erase (.call another) }
          have final : (resumed.proceed pending.stage).2.final? = some given := by
            rw [← came]
            rfl
          rcases resumed.proceed_refusal _ given refusal final refused with
            settled | ⟨entry, waited, gate, outcome, _⟩
          · have there := (named?_some system.calls another pending found).1
            cases (unrefused pending there given settled).symm.trans refused
          · exact ⟨entry, system.resumed_turnsAway another pending entry refusal ready found waited
              gate outcome⟩

/-- Whoever is refused behind the gate is told so at once. -/
theorem refused_reply (system : System State Result) (event : Event State Result)
    (request : EntryRequest State Result) (refusal : LockError)
    (action : system.action? event = some (.enter request))
    (refused : system.lock.enter system.clock request = .error refusal) :
    ∃ call, system.reply? event = some (call, .entered (.error refusal)) := by
  obtain ⟨call, _, comes⟩ := system.action?_enters event request action
  refine ⟨call, ?_⟩
  cases comes with
  | begun event_eq free =>
      subst event_eq
      have gate : system.queue.gateOpen = true := by
        by_contra closed
        simp [action?, free, requestAction?, closed] at action
      simp only [reply?, system.progress?_call call _ free, start, passGate, gate, ↓reduceIte,
        enterLock, refused]
      rfl
  | resumed pending event_eq found waited =>
      subst event_eq
      have ready : .call call ∈ system.ready := by
        by_contra unready
        simp [action?, unready] at action
      have gate : system.queue.gateOpen = true := by
        by_contra closed
        simp [action?, ready, turnAction?, callAction?, found, waited, stageAction?, closed] at action
      simp only [reply?, system.progress?_turn call pending ready found, waited, proceed, passGate,
        gate, ↓reduceIte, enterLock, refused]
      rfl

/-- How a system turns entrants away. -/
structure RefusesCleanly (system : System State Result) : Prop where
  -- Although no step of an entry is ever taken back.
  inPlace : ∀ (clock : Instant) (request : EntryRequest State Result),
    system.lock.enterInPlace clock request =
      match system.lock.enter clock request with
      | .ok entry => (entry.lock, .ok (entry.result, entry.wounded))
      | .error refusal => (system.lock, .error refusal)
  turned : ∀ event call refusal,
    system.reply? event = some (call, .entered (.error refusal)) → refusal.isRetryable = true →
      ∃ request, system.TurnsAway event call request refusal
  -- Whoever contradicts the recorded counts is told so, and nobody else.
  broken : ∀ event request, system.action? event = some (.enter request) →
    ((∃ call transaction context,
        system.reply? event = some (call, .entered (.error (.brokenLock transaction context)))) ↔
      system.lock.Contradicts request)
  unmissed : ∀ event call transaction,
    system.reply? event ≠ some (call, .entered (.error (.recordMissing transaction)))

/-- Whatever has happened before, an entrant that is turned away leaves everything as it was. -/
theorem run_refusal_unchanged (options : Options) (events : List (Event State Result)) :
    ((new options).run events).RefusesCleanly := by
  have unrefused : ((new options : System State Result).run events).Unrefused := by
    have both := run_invariant (fun system : System State Result => system.Named ∧ system.Unrefused)
      (new options) events ?_ ⟨new_named options, fun _ none => nomatch none⟩
    · exact both.2
    · rintro system event _ ⟨named, unrefused⟩
      exact ⟨system.step_named event named, system.step_unrefused event named unrefused⟩
  generalize (new options : System State Result).run events = system at unrefused
  have turned (event : Event State Result) (call : CallId) (refusal : LockError)
      (reply : system.reply? event = some (call, .entered (.error refusal)))
      (retryable : refusal.isRetryable = true) :
      ∃ request, system.TurnsAway event call request refusal :=
    system.reply_turnsAway event unrefused call _ refusal reply (by simp [Answer.refusal?, retryable])
  constructor
  · exact system.lock.enterInPlace_eq
  · exact turned
  · intro event request action
    rw [← system.lock.enter_broken_iff system.clock request]
    constructor
    · rintro ⟨call, transaction, context, reply⟩
      obtain ⟨other, away⟩ := turned event call _ reply rfl
      cases action.symm.trans away.action
      exact ⟨transaction, context, away.refused⟩
    · rintro ⟨transaction, context, refused⟩
      obtain ⟨call, reply⟩ := system.refused_reply event request _ action refused
      exact ⟨call, transaction, context, reply⟩
  · intro event call transaction reply
    obtain ⟨request, away⟩ := turned event call _ reply rfl
    exact (system.lock.enter_refusal _ _ _ away.refused).2 transaction rfl

end System

end WoundWait
