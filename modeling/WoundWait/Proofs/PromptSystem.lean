import WoundWait.Proofs.PromptQueue

/-!
Pieces of work in a system whose queue is prompt and whose workers wait for requests. Each of them
is one action at most, hands over all that the action takes out of the lock, and leaves the system
as it was in this respect.
-/

namespace WoundWait

variable {State Result : Type}

namespace Stage

def isFresh : Stage State Result → Bool
  | flushing none | sleeping _ => true
  | _ => false

def isQuiet : Stage State Result → Bool
  | flushing none | flushing (some (.ok ())) | sleeping _ => true
  | _ => false

theorem isFresh_isQuiet (stage : Stage State Result) (fresh : stage.isFresh = true) :
    stage.isQuiet = true := by
  cases stage with
  | flushing answer => cases answer <;> simp_all [isFresh, isQuiet]
  | sleeping due => rfl
  | _ => cases fresh

end Stage

namespace System

/-- Nothing is on its way to the queue, and both workers wait for requests. -/
structure Responsive (system : System State Result) : Prop where
  prompt : system.Prompt
  lock : system.lockWorker.phase = .waiting
  storage : system.storageWorker.phase = .waiting

/-- A piece of work of which nothing is left to be done. The calls in the last list begin to wait
for the storage worker. -/
structure CompletePiece (before after : System State Result) (action : Option (LockAction State Result))
    (asking : List CallId) : Prop where
  clock : after.clock = before.clock
  lock : after.lock = before.lockAfter action
  handed : ∃ delivered, after.handed = delivered ++ before.handed ∧
    delivered.Perm (before.parcelsOf action)
  responsive : after.Responsive
  ready : ∀ task ∈ before.ready, task ∈ after.ready
  asks : ∀ waiter ∈ after.storageWorker.waiters,
    waiter ∈ before.storageWorker.waiters ∨ waiter ∈ asking

theorem complete_refl (system : System State Result) (responsive : system.Responsive) :
    system.CompletePiece system none [] :=
  ⟨rfl, rfl, ⟨[], rfl, List.Perm.refl _⟩, responsive, fun _ ready => ready, fun _ waits => .inl waits⟩

theorem stretch_complete (before after : System State Result) (action : Option (LockAction State Result))
    (toLock toStorage : List (WakeRequest CallId)) (delivered : List (Parcel State))
    (responsive : before.Responsive)
    (stretch : { before with lock := before.lockAfter action }.Stretch after toLock toStorage delivered)
    (perm : delivered.Perm (before.parcelsOf action)) (prompt : after.Prompt) :
    before.CompletePiece after action (toStorage.filterMap WakeRequest.waiter?) :=
  ⟨stretch.clock, stretch.lock, ⟨delivered, stretch.handed, perm⟩,
    ⟨prompt, stretch.lockWorker.phase.trans responsive.lock,
      stretch.storageWorker.phase.trans responsive.storage⟩, stretch.ready,
    receives_waiters _ _ _ stretch.storageWorker⟩

/-- An action, and then work that leaves the lock alone. -/
theorem CompletePiece.andThen {before middle after : System State Result}
    {action : Option (LockAction State Result)} {asking asking' : List CallId}
    (sooner : before.CompletePiece middle action asking)
    (later : middle.CompletePiece after none asking') :
    before.CompletePiece after action (asking ++ asking') := by
  obtain ⟨delivered, handed, perm⟩ := sooner.handed
  obtain ⟨nothing, handed', perm'⟩ := later.handed
  have none : nothing = [] := List.perm_nil.mp perm'
  subst none
  refine ⟨later.clock.trans sooner.clock, later.lock.trans sooner.lock,
    ⟨delivered, handed'.trans handed, perm⟩, later.responsive,
    fun task ready => later.ready task (sooner.ready task ready), ?_⟩
  intro waiter waits
  rw [List.mem_append, ← or_assoc]
  exact (later.asks waiter waits).imp_left (sooner.asks waiter)

/-! Calls -/

def Progress.IsFresh : Progress State Result → Prop
  | answered _ => True
  | waits stage => stage.isFresh = true

theorem isFresh_held (progress : Progress State Result) (fresh : progress.IsFresh) :
    progress.held = [] := by
  cases progress with
  | answered answer => rfl
  | waits stage =>
      cases stage with
      | flushing | sleeping => rfl
      | _ => cases fresh

theorem enterLock_prompt (system : System State Result) (prompt : system.Prompt)
    (request : EntryRequest State Result) :
    (system.enterLock request).1.Prompt ∧
      (system.enterLock request).2 = .answered (.entered
        (match system.lock.enter system.clock request with
        | .error refusal => .error refusal
        | .ok entry => entry.result.mapError .operation)) := by
  unfold enterLock
  cases system.lock.enter system.clock request with
  | error refusal => exact ⟨prompt, rfl⟩
  | ok entry =>
      have woken := notifyAfterEntry_prompt { system with lock := entry.lock }
        (prompt.congr rfl rfl) entry.wounded
      exact (notifyThen_prompt _ woken entry.wounded _).symm

theorem start_enter (system : System State Result) (prompt : system.Prompt) (call : CallId)
    (request : EntryRequest State Result) :
    (system.start call (.enter request)).1.Prompt ∧
      (system.start call (.enter request)).2 = .answered (.entered
        (match system.lock.enter system.clock request with
        | .error refusal => .error refusal
        | .ok entry => entry.result.mapError .operation)) := by
  let counted := { system with
    queue := { system.queue with readyCalls := system.queue.readyCalls + 1 } }
  have same : system.start call (.enter request) = counted.enterLock request := by
    simp only [start, passGate]
    exact if_pos prompt.queue.gate
  rw [same]
  refine counted.enterLock_prompt ⟨⟨prompt.queue.gate, prompt.queue.accepts, ?_⟩, prompt.commits,
    prompt.aborts⟩ request
  intro outcome
  cases outcome with
  | commit => exact prompt.queue.undelayed .commit
  | abort cause => exact prompt.queue.undelayed (.abort cause)

theorem start_validate (system : System State Result) (prompt : system.Prompt) (call : CallId)
    (transaction : TransactionId) (counter : AccessCounter) :
    (system.start call (.validate transaction counter)).1.Prompt ∧
      (system.start call (.validate transaction counter)).2 = .answered
        (match system.lock.validate transaction counter with
        | .notResident => .validated .brokenLock none
        | .confirmed record => .validated .ok (some record)
        | .refuted record _ => .validated .lockValidationFailed (some record)) := by
  simp only [start, validateLock]
  cases system.lock.validate transaction counter with
  | notResident => exact ⟨prompt, rfl⟩
  | confirmed record => exact ⟨prompt, rfl⟩
  | refuted record after =>
      have woken := notifyLock_prompt { system with lock := after } (prompt.congr rfl rfl)
      exact (notifyThen_prompt _ woken [record] _).symm

theorem start_rollback (system : System State Result) (prompt : system.Prompt) (call : CallId)
    (transaction : TransactionId) (notify : Bool) :
    (system.start call (.rollback transaction notify)).1.Prompt ∧
      (system.start call (.rollback transaction notify)).2 = .answered .rolledBack := by
  simp only [start, rollback]
  cases system.lock.find? transaction with
  | none => exact ⟨prompt, rfl⟩
  | some record =>
      have woken := notifyLock_prompt { system with lock := system.lock.remove transaction }
        (prompt.congr rfl rfl)
      exact (notifyThen_prompt _ woken _ _).symm

theorem start_abortAll (system : System State Result) (prompt : system.Prompt) (call : CallId) :
    (system.start call .abortAll).1.Prompt ∧
      (system.start call .abortAll).2 = .answered (.aborted system.lock.residents.length) := by
  simp only [start, abortAll]
  refine (notifyThen_prompt _ ?_ _ _).symm
  split
  · exact prompt.congr rfl rfl
  · exact notifyLock_prompt _ (prompt.congr rfl rfl)

theorem start_recover (system : System State Result) (responsive : system.Responsive) (call : CallId) :
    (system.start call .recover).1.Prompt ∧
      (system.start call .recover).2 = .waits (.flushing none) := by
  have alive : system.lockWorker.isStopped = false := by simp [Worker.isStopped, responsive.lock]
  simp only [start, recover, alive]
  exact ⟨wakeLock_prompt _ (responsive.prompt.congr rfl rfl), rfl⟩

theorem start_flushStorage (system : System State Result) (responsive : system.Responsive)
    (call : CallId) :
    (system.start call .flushStorage).1.Prompt ∧
      (system.start call .flushStorage).2 = .waits (.flushing none) := by
  have alive : system.storageWorker.isStopped = false := by simp [Worker.isStopped, responsive.storage]
  simp only [start, flushStorage, alive]
  exact ⟨wakeStorage_prompt _ (responsive.prompt.congr rfl rfl), rfl⟩

theorem start_prompt (system : System State Result) (responsive : system.Responsive) (call : CallId)
    (request : Request State Result) :
    (system.start call request).1.Prompt ∧ (system.start call request).2.IsFresh := by
  have answered {progress : Progress State Result} {answer : Answer State Result}
      (same : progress = .answered answer) : progress.IsFresh := same ▸ trivial
  cases request with
  | enter request => exact (system.start_enter responsive.prompt call request).imp_right answered
  | validate transaction counter =>
      exact (system.start_validate responsive.prompt call transaction counter).imp_right answered
  | rollback transaction notify =>
      exact (system.start_rollback responsive.prompt call transaction notify).imp_right answered
  | abortAll => exact (system.start_abortAll responsive.prompt call).imp_right answered
  | handOver record outcome =>
      have due := system.queue.handOff_due responsive.prompt.queue system.clock outcome record
      simp only [start, handOver, due, ↓reduceIte]
      exact ⟨system.deliver_prompt responsive.prompt _, trivial⟩
  | recover =>
      obtain ⟨prompt, waits⟩ := system.start_recover responsive call
      exact ⟨prompt, by rw [waits]; rfl⟩
  | flushStorage =>
      obtain ⟨prompt, waits⟩ := system.start_flushStorage responsive call
      exact ⟨prompt, by rw [waits]; rfl⟩
  | sleep milliseconds =>
      cases milliseconds with
      | zero => exact ⟨responsive.prompt, trivial⟩
      | succ before => exact ⟨responsive.prompt, rfl⟩

def asking (call : CallId) (request : Request State Result) : List CallId :=
  (storageMail call request).filterMap WakeRequest.waiter?

theorem requestParcels_eq (system : System State Result) (request : Request State Result)
    (through : ∀ record outcome, request ≠ .handOver record outcome) :
    system.requestParcels request = system.parcelsOf (system.requestAction? request) := by
  cases request with
  | handOver record outcome => exact absurd rfl (through record outcome)
  | _ => rfl

theorem start_complete (system : System State Result) (responsive : system.Responsive) (call : CallId)
    (request : Request State Result)
    (through : ∀ record outcome, request ≠ .handOver record outcome) :
    system.CompletePiece (system.start call request).1 (system.requestAction? request)
        (asking call request) ∧
      (system.start call request).1.calls = system.calls := by
  obtain ⟨prompt, fresh⟩ := system.start_prompt responsive call request
  obtain ⟨delivered, stretch, perm⟩ := system.start_does call request
  rw [isFresh_held _ fresh, List.append_nil, system.requestParcels_eq request through] at perm
  exact ⟨stretch_complete _ _ _ _ _ delivered responsive stretch perm prompt, stretch.calls⟩

structure Begins (before after : System State Result) (call : CallId)
    (answer : Option (Answer State Result)) (action : Option (LockAction State Result))
    (asking : List CallId) : Prop where
  complete : before.CompletePiece after action asking
  calls : ∀ pending ∈ after.calls, pending ∈ before.calls ∨
    (pending.call = call ∧ pending.stage.isFresh = true ∧ answer = none)

theorem begin_begins (system : System State Result) (responsive : system.Responsive) (call : CallId)
    (request : Request State Result)
    (through : ∀ record outcome, request ≠ .handOver record outcome) :
    system.Begins (system.begin call request).1 call (system.begin call request).2
      (system.requestAction? request) (asking call request) := by
  obtain ⟨complete, calls⟩ := system.start_complete responsive call request through
  obtain ⟨_, fresh⟩ := system.start_prompt responsive call request
  cases progress : system.start call request with
  | mk started outcome =>
      rw [progress] at complete calls fresh
      cases outcome with
      | answered answer =>
          simp only [begin, progress]
          exact ⟨complete, fun pending present => .inl (calls ▸ present)⟩
      | waits stage =>
          simp only [begin, progress]
          refine ⟨⟨complete.clock, complete.lock, complete.handed, ?_, complete.ready, complete.asks⟩, ?_⟩
          · exact ⟨complete.responsive.prompt.congr rfl rfl, complete.responsive.lock,
              complete.responsive.storage⟩
          · intro pending present
            rw [List.mem_append, List.mem_singleton] at present
            rcases present with old | rfl
            · exact .inl (calls ▸ old)
            · exact .inr ⟨rfl, fresh, rfl⟩

theorem begin_answer (system : System State Result) (call : CallId)
    (request : Request State Result) :
    (system.begin call request).2 = (system.start call request).2.answer? := by
  unfold begin
  cases system.start call request with
  | mk started outcome => cases outcome <;> rfl

inductive Yields : Stage State Result → Answer State Result → Prop where
  | flushed : Yields (.flushing (some (.ok ()))) (.flushed (.ok ()))
  | slept (due : Instant) : Yields (.sleeping due) .slept

theorem proceed_quiet (system : System State Result) (stage : Stage State Result)
    (quiet : stage.isQuiet = true) :
    system.proceed stage = (system, .waits stage) ∨
      ∃ answer, system.proceed stage = (system, .answered answer) ∧ Yields stage answer := by
  cases stage with
  | flushing answer =>
      cases answer with
      | none => exact .inl rfl
      | some answer =>
          cases answer with
          | ok nothing => exact .inr ⟨_, rfl, .flushed⟩
          | error stopped => cases quiet
  | sleeping due =>
      by_cases past : due ≤ system.clock
      · exact .inr ⟨.slept, by simp only [proceed, past, ↓reduceIte], .slept due⟩
      · exact .inl (by simp only [proceed, past, ↓reduceIte])
  | _ => cases quiet

inductive Resumes (before : System State Result) (call : CallId) :
    System State Result × Option (Answer State Result) → Prop where
  | waits (calls : List (PendingCall State Result))
      (kept : ∀ pending ∈ calls, pending ∈ before.calls)
      (unanswered : ∀ pending ∈ calls, pending.call = call →
        pending.stage ≠ .flushing (some (.ok ()))) : Resumes before call ({ before with calls }, none)
  | answered (calls : List (PendingCall State Result)) (answer : Answer State Result)
      (pending : PendingCall State Result)
      (kept : ∀ other ∈ calls, other ∈ before.calls ∧ other.call ≠ call)
      (present : pending ∈ before.calls) (named : pending.call = call)
      (yields : Yields pending.stage answer) : Resumes before call ({ before with calls }, some answer)

theorem resume_resumes (system : System State Result) (call : CallId)
    (quiet : ∀ pending ∈ system.calls, pending.stage.isQuiet = true) :
    system.Resumes call (system.resume call) := by
  cases found : system.findCall? call with
  | none =>
      simp only [resume, found]
      refine .waits system.calls (fun _ present => present) fun pending present named => ?_
      simpa [named] using List.find?_eq_none.mp found pending present
  | some pending =>
      obtain ⟨present, named⟩ := named?_some system.calls call pending found
      rcases system.proceed_quiet pending.stage (quiet pending present) with
        waits | ⟨answer, answered, yields⟩
      · have unanswered : pending.stage ≠ .flushing (some (.ok ())) := by
          intro same
          rw [same] at waits
          cases waits
        simp only [resume, found, waits]
        refine .waits _ ?_ ?_
        · intro other member
          obtain ⟨before, there, rfl⟩ := List.mem_map.mp member
          split
          · rename_i own
            have equal : ({ before with stage := pending.stage } : PendingCall State Result) =
                pending := by
              rw [own, ← named]
            exact equal ▸ present
          · exact there
        · intro other member same
          obtain ⟨before, there, rfl⟩ := List.mem_map.mp member
          split
          · exact unanswered
          · rename_i foreign
            rw [if_neg foreign] at same
            exact absurd same foreign
      · simp only [resume, found, answered]
        refine .answered _ answer pending ?_ present named yields
        intro other member
        obtain ⟨there, different⟩ := List.mem_filter.mp member
        exact ⟨there, by simpa using different⟩

/-! Workers -/

def Answers (before after : System State Result) (waiters : List CallId) : Prop :=
  ∀ pending ∈ after.calls, pending ∈ before.calls ∨
    (pending.call ∈ waiters ∧ pending.stage = .flushing (some (.ok ())) ∧
      .call pending.call ∈ after.ready ∧ ∃ asked ∈ before.calls, asked.call = pending.call)

theorem answerFlushes_answers (system : System State Result) (waiters : List CallId) :
    system.Answers (system.answerFlushes waiters (.ok ())) waiters := by
  intro pending present
  obtain ⟨before, there, rfl⟩ := List.mem_map.mp present
  split
  · rename_i answered
    refine .inr ⟨List.mem_of_mem_filter answered, rfl, ?_, before, there, rfl⟩
    exact (mem_enqueueAll system.ready _ _).mpr (.inr (List.mem_map_of_mem answered))
  · exact .inl there

theorem answerFlushes_prompt (system : System State Result) (prompt : system.Prompt)
    (waiters : List CallId) (answer : FlushAnswer) :
    (system.answerFlushes waiters answer).Prompt :=
  prompt.congr rfl rfl

theorem storageTurn_complete (system : System State Result) (responsive : system.Responsive) :
    system.CompletePiece system.storageTurn none [] ∧
      system.Answers system.storageTurn system.storageWorker.waiters := by
  let worker := system.storageWorker.collect system.clock
  have collected : ∀ waiter ∈ worker.waiters, waiter ∈ system.storageWorker.waiters := by
    intro waiter kept
    rwa [← system.storageWorker.collect_waiters system.clock]
  by_cases asked : worker.pending.now = true
  · let started := worker.start ()
    let ended := { system with storageWorker := started.finish }
    have same : system.storageTurn =
        { ended.answerFlushes started.taken (.ok ()) with
          ready := .storage :: (ended.answerFlushes started.taken (.ok ())).ready } := by
      simp only [storageTurn, responsive.storage]
      exact if_pos asked
    have kept : ∀ waiter ∈ started.waiters, waiter ∈ system.storageWorker.waiters :=
      fun waiter kept => collected waiter (worker.start_waiters () waiter kept)
    have prompt : ended.Prompt := responsive.prompt.congr rfl rfl
    rw [same]
    constructor
    · refine ⟨rfl, rfl, ⟨[], rfl, List.Perm.refl _⟩, ⟨?_, responsive.lock, rfl⟩, ?_, ?_⟩
      · have answered := ended.answerFlushes_prompt prompt started.taken (.ok ())
        exact ⟨answered.queue, answered.commits, answered.aborts⟩
      · exact fun task ready =>
          List.mem_cons_of_mem _ (ended.answerFlushes_ready started.taken (.ok ()) task ready)
      · exact fun waiter left => .inl (kept waiter (started.finish_waiters waiter left))
    · intro pending present
      rcases ended.answerFlushes_answers started.taken pending present with
        old | ⟨taken, good, ready, asked⟩
      · exact .inl old
      · exact .inr ⟨kept _ (started.taken_waiters _ taken), good, List.mem_cons_of_mem _ ready,
          asked⟩
  · have same : system.storageTurn = { system with storageWorker := worker } := by
      simp only [storageTurn, responsive.storage]
      exact if_neg asked
    rw [same]
    refine ⟨⟨rfl, rfl, ⟨[], rfl, List.Perm.refl _⟩, ⟨?_, responsive.lock, responsive.storage⟩,
      fun _ ready => ready, fun waiter left => .inl (collected waiter left)⟩,
      fun _ present => .inl present⟩
    exact responsive.prompt.congr rfl rfl

/-- What a run has left to do is messages and answers. -/
theorem finishTick_complete (system middle : System State Result)
    (toLock toStorage : List (WakeRequest CallId)) (delivered : List (Parcel State))
    (responsive : system.Responsive) (stretch : system.looked.Stretch middle toLock toStorage delivered)
    (perm : delivered.Perm (system.parcelsOf (some .tick))) (prompt : middle.Prompt)
    (nobody : toStorage.filterMap WakeRequest.waiter? = []) :
    system.CompletePiece middle.finishTick (some .tick) [] ∧
      system.Answers middle.finishTick middle.lockWorker.taken := by
  let ended := { middle with lockWorker := middle.lockWorker.finish }
  have rested : ended.Prompt := prompt.congr rfl rfl
  have answered := ended.answerFlushes_prompt rested middle.lockWorker.taken (.ok ())
  constructor
  · refine ⟨stretch.clock, stretch.lock, ⟨delivered, stretch.handed, perm⟩,
      ⟨⟨answered.queue, answered.commits, answered.aborts⟩, rfl,
        stretch.storageWorker.phase.trans responsive.storage⟩, ?_, ?_⟩
    · intro task ready
      exact List.mem_cons_of_mem _
        (ended.answerFlushes_ready middle.lockWorker.taken (.ok ()) task (stretch.ready task ready))
    · intro waiter left
      have kept := receives_waiters _ _ _ stretch.storageWorker waiter left
      rwa [nobody] at kept
  · intro pending present
    have calls : ended.calls = system.calls := stretch.calls
    rcases ended.answerFlushes_answers middle.lockWorker.taken pending present with
      old | ⟨taken, good, ready, asked⟩
    · exact .inl (calls ▸ old)
    · exact .inr ⟨taken, good, List.mem_cons_of_mem _ ready, calls ▸ asked⟩

theorem startTick_complete (system : System State Result) (responsive : system.Responsive) :
    system.CompletePiece system.collected.startTick (some .tick) [] ∧
      ∃ waiters, system.Answers system.collected.startTick waiters := by
  have prompt : system.looked.Prompt := responsive.prompt.congr rfl rfl
  rw [startTick_looked]
  cases decision : (system.lock.tick system.clock).1 with
  | idle =>
      obtain ⟨complete, answers⟩ := system.finishTick_complete system.looked [] [] [] responsive
        system.looked.stretch_refl (by simp [parcelsOf, Lock.handsOver, decision]) prompt rfl
      exact ⟨complete, _, answers⟩
  | recheck instant =>
      obtain ⟨complete, answers⟩ := system.finishTick_complete _ _ [] [] responsive
        (system.looked.notifyLockAt_stretch instant) (by simp [parcelsOf, Lock.handsOver, decision])
        (system.looked.notifyLockAt_prompt prompt instant) rfl
      exact ⟨complete, _, answers⟩
  | breakLock records =>
      obtain ⟨delivered, stretch, perm⟩ := system.looked.startNotifying_stretch records
      obtain ⟨nothing, after⟩ := system.looked.startNotifying_prompt prompt records
      cases started : system.looked.startNotifying records with
      | mk middle pending =>
          rw [started] at stretch perm nothing after
          simp only at nothing
          subst nothing
          obtain ⟨complete, answers⟩ := system.finishTick_complete _ _ _ delivered responsive
            (stretch.trans middle.notifyLock_stretch)
            (by simpa [parcelsOf, Lock.handsOver, decision] using perm)
            (middle.notifyLock_prompt after) rfl
          simp only [started, concludeBreaks]
          exact ⟨complete, _, answers⟩
  | exit records =>
      obtain ⟨delivered, stretch, perm⟩ := system.looked.deliverExits_stretch records
      obtain ⟨nothing, after⟩ := system.looked.deliverExits_prompt prompt records
      cases started : system.looked.deliverExits records with
      | mk middle run =>
          rw [started] at stretch perm nothing after
          simp only at nothing
          subst nothing
          have told := middle.notifyLock_stretch.trans middle.notifyLock.notifyStorage_stretch
          obtain ⟨complete, answers⟩ := system.finishTick_complete _ _ _ delivered responsive
            (stretch.trans told) (by simpa [parcelsOf, Lock.handsOver, decision] using perm)
            (middle.notifyLock.notifyStorage_prompt (middle.notifyLock_prompt after)) rfl
          simp only [started, concludeExits]
          exact ⟨complete, _, answers⟩

theorem lockTurn_complete (system : System State Result) (responsive : system.Responsive) :
    system.CompletePiece system.lockTurn system.lookAction? [] ∧
      (system.lockTurn.calls = system.calls ∨
        (system.lookAction? = some .tick ∧ ∃ waiters, system.Answers system.lockTurn waiters)) := by
  have waiting : system.lockWorker.isWaiting = true := by simp [Worker.isWaiting, responsive.lock]
  by_cases asked : (system.lockWorker.collect system.clock).pending.now = true
  · have look : system.lookAction? = some .tick := by simp [lookAction?, waiting, asked]
    have same : system.lockTurn = system.collected.startTick := by
      simp only [lockTurn, responsive.lock]
      exact if_pos asked
    rw [look, same]
    obtain ⟨complete, answers⟩ := system.startTick_complete responsive
    exact ⟨complete, .inr ⟨rfl, answers⟩⟩
  · have look : system.lookAction? = none := by simp [lookAction?, asked]
    have same : system.lockTurn = system.collected := by
      simp only [lockTurn, responsive.lock]
      exact if_neg asked
    rw [look, same]
    refine ⟨⟨rfl, rfl, ⟨[], rfl, List.Perm.refl _⟩, ⟨?_, responsive.lock, responsive.storage⟩,
      fun _ ready => ready, fun _ left => .inl left⟩, .inl rfl⟩
    exact responsive.prompt.congr rfl rfl

theorem assignRole_complete (system : System State Result) (responsive : system.Responsive)
    (transaction : TransactionId) (role : CommitRole) (timestamp : Timestamp)
    (resident : (system.lock.find? transaction).isSome = true) :
    system.CompletePiece (system.assignRole transaction role timestamp)
        (some (.assignRole transaction role timestamp)) [] ∧
      (system.assignRole transaction role timestamp).calls = system.calls := by
  let assigned := { system with
    lock := system.lock.assignRole system.clock transaction role timestamp }
  have after : system.lockAfter (some (.assignRole transaction role timestamp)) = assigned.lock := by
    simp only [lockAfter, Option.elim_some, Lock.perform, resident, ↓reduceIte]
    rfl
  have prompt := assigned.notifyLock_prompt (responsive.prompt.congr rfl rfl)
  have told := assigned.notifyLock_stretch
  have same : system.assignRole transaction role timestamp = assigned.notifyLock := by
    simp only [assignRole, resident, ↓reduceIte]
    rfl
  rw [same]
  refine ⟨?_, told.calls⟩
  have whole := stretch_complete system assigned.notifyLock
    (some (.assignRole transaction role timestamp)) [.immediate] [] [] responsive
  rw [after] at whole
  exact whole told (List.Perm.refl _) prompt

end System

end WoundWait
