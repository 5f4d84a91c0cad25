import WoundWait.Proofs.TurnLoad
import WoundWait.Proofs.RecordDisposition

/-!
What the lock's worker asks of itself. It wakes itself once for every run in which it has handed
something over, when the run ends, and names an instant that is still to come when it finds nothing
to do. Left alone, with a queue that takes everything at once, it looks at the group twice at most.
-/

namespace WoundWait

variable {State Result : Type}

namespace System

/-! Turns of the lock's worker -/

section

variable (system : System State Result)

theorem deliverDue_lockWorker (handOffs : List (HandOff State)) :
    (system.deliverDue handOffs).1.lockWorker = system.lockWorker := by
  induction handOffs generalizing system with
  | nil => rfl
  | cons handOff rest ih =>
      simp only [deliverDue]
      split
      · exact ih (system.deliver handOff)
      · exact ih system

theorem deliverExits_lockWorker (records : List (TransactionRecord State)) :
    (system.deliverExits records).1.lockWorker = system.lockWorker := by
  induction records generalizing system with
  | nil => rfl
  | cons record rest ih =>
      simp only [deliverExits]
      split
      · exact ih (system.deliver (system.queue.handOff system.clock .commit record))
      · rfl

theorem notifyLock_lockWorker : system.notifyLock.lockWorker = system.lockWorker.notify := by
  simp only [notifyLock, wakeLock]
  split <;> rfl

theorem notifyLockAt_lockWorker (instant : Instant) :
    (system.notifyLockAt instant).lockWorker = system.lockWorker.notifyAt instant := by
  simp only [notifyLockAt, wakeLock]
  split <;> rfl

theorem notifyStorage_lockWorker : system.notifyStorage.lockWorker = system.lockWorker := by
  simp only [notifyStorage, wakeStorage]
  split <;> rfl

end

inductive Concluded (worker : Worker (TickRun State) CallId) (after : System State Result) : Prop where
  | ended (waits : after.lockWorker.phase = .waiting)
      (requests : after.lockWorker.requests = worker.requests.absorb .immediate)
      (woken : after.lockWorker.stats.notifications = worker.stats.notifications + 1)
      (again : .lock ∈ after.ready)
  | lasts (run : TickRun State) (taken : List CallId)
      (runs : after.lockWorker.phase = .running run taken)
      (requests : after.lockWorker.requests = worker.requests)
      (silent : after.lockWorker.stats.notifications = worker.stats.notifications)

theorem finishTick_concluded (system middle : System State Result) (old : TickRun State)
    (taken : List CallId) (running : system.lockWorker.phase = .running old taken)
    (told : middle.lockWorker = system.lockWorker.notify) :
    Concluded system.lockWorker middle.finishTick := by
  have alive : system.lockWorker.isStopped = false := by simp [Worker.isStopped, running]
  refine .ended rfl ?_ ?_ List.mem_cons_self
  · rw [finishTick_requests, told, (system.lockWorker.notify_receives).requests alive]
    rfl
  · show middle.lockWorker.stats.notifications = _
    rw [told]
    rfl

theorem continueRun_concluded (system : System State Result) (run old : TickRun State)
    (taken : List CallId) (running : system.lockWorker.phase = .running old taken) :
    Concluded system.lockWorker
      { system with lockWorker := system.lockWorker.continueRun run } := by
  refine .lasts run taken ?_ ?_ ?_ <;> simp [Worker.continueRun, running, Worker.requests]

/-- Hand-offs that were done at once leave the end of the run, or the wait for the next of them. -/
theorem concludeExits_concluded (begun middle : System State Result) (old : TickRun State)
    (taken : List CallId) (running : begun.lockWorker.phase = .running old taken)
    (delivered : List (Parcel State)) (stretch : begun.Stretch middle [] [] delivered)
    (worker : middle.lockWorker = begun.lockWorker) (run : Option (TickRun State)) :
    (concludeExits (middle, run)).lock = begun.lock ∧
      (concludeExits (middle, run)).clock = begun.clock ∧
      Concluded begun.lockWorker (concludeExits (middle, run)) := by
  rw [← worker] at running ⊢
  have told := stretch.trans
    (middle.notifyLock_stretch.trans middle.notifyLock.notifyStorage_stretch)
  cases run with
  | none =>
      refine ⟨told.lock, told.clock, middle.finishTick_concluded _ old taken running ?_⟩
      rw [notifyStorage_lockWorker, notifyLock_lockWorker]
  | some run =>
      exact ⟨stretch.lock, stretch.clock, middle.continueRun_concluded run old taken running⟩

theorem concludeBreaks_concluded (begun middle : System State Result) (old : TickRun State)
    (taken : List CallId) (running : begun.lockWorker.phase = .running old taken)
    (delivered : List (Parcel State)) (stretch : begun.Stretch middle [] [] delivered)
    (worker : middle.lockWorker = begun.lockWorker) (pending : List (HandOff State)) :
    (concludeBreaks (middle, pending)).lock = begun.lock ∧
      (concludeBreaks (middle, pending)).clock = begun.clock ∧
      Concluded begun.lockWorker (concludeBreaks (middle, pending)) := by
  rw [← worker] at running ⊢
  have told := stretch.trans middle.notifyLock_stretch
  cases pending with
  | nil =>
      exact ⟨told.lock, told.clock, middle.finishTick_concluded _ old taken running
        middle.notifyLock_lockWorker⟩
  | cons first rest =>
      exact ⟨stretch.lock, stretch.clock, middle.continueRun_concluded _ old taken running⟩

inductive Follows (system after : System State Result) : Prop where
  | nothing (decision : (system.lock.tick system.clock).1 = .idle)
      (waits : after.lockWorker.phase = .waiting)
      (requests : after.lockWorker.requests = system.looked.lockWorker.requests)
      (silent : after.lockWorker.stats.notifications = system.lockWorker.stats.notifications)
      (again : .lock ∈ after.ready)
  | rechecks (instant : Instant) (decision : (system.lock.tick system.clock).1 = .recheck instant)
      (waits : after.lockWorker.phase = .waiting)
      (requests : after.lockWorker.requests =
        system.looked.lockWorker.requests.absorb (.deferred instant))
      (silent : after.lockWorker.stats.notifications = system.lockWorker.stats.notifications)
      (again : .lock ∈ after.ready)
  | leaves (fewer : after.lock.members.length < system.lock.members.length)
      (nobody : after.lock.members = []) (concluded : Concluded system.looked.lockWorker after)

inductive TickTurn (system after : System State Result) : Prop where
  | stopped (halted : system.lockWorker.phase = .stopped) (same : after = system)
  | rests (waits : system.lockWorker.phase = .waiting)
      (unasked : (system.lockWorker.collect system.clock).pending.now = false)
      (same : after = system.collected)
  | goesOn (run : TickRun State) (taken : List CallId)
      (runs : system.lockWorker.phase = .running run taken) (lock : after.lock = system.lock)
      (clock : after.clock = system.clock) (concluded : Concluded system.lockWorker after)
  | looks (waits : system.lockWorker.phase = .waiting)
      (asked : (system.lockWorker.collect system.clock).pending.now = true)
      (lock : after.lock = (system.lock.tick system.clock).2) (clock : after.clock = system.clock)
      (follows : system.Follows after)

end System

/-- A look that hands records over leaves nobody behind. -/
theorem Lock.tick_nobody (lock : Lock State) (clock : Instant)
    (leaves : (∃ records, (lock.tick clock).1 = .exit records) ∨
      ∃ records, (lock.tick clock).1 = .breakLock records) : (lock.tick clock).2.members = [] := by
  have looks := lock.tick_looks clock
  generalize (lock.tick clock).1 = decision at looks leaves
  generalize (lock.tick clock).2 = after at looks ⊢
  cases looks with
  | exit | broken => rfl
  | empty | waiting | untimed => rcases leaves with ⟨records, other⟩ | ⟨records, other⟩ <;> cases other

namespace System

section

variable (system : System State Result)

theorem lockTurn_asked (waits : system.lockWorker.phase = .waiting)
    (asked : (system.lockWorker.collect system.clock).pending.now = true) :
    system.lockTurn = system.collected.startTick := by
  simp only [lockTurn, waits]
  exact if_pos asked

theorem lockTurn_unasked (waits : system.lockWorker.phase = .waiting)
    (unasked : (system.lockWorker.collect system.clock).pending.now = false) :
    system.lockTurn = system.collected := by
  simp only [lockTurn, waits]
  exact if_neg (by simp [unasked])

theorem startTick_looks (waits : system.lockWorker.phase = .waiting)
    (asked : (system.lockWorker.collect system.clock).pending.now = true) :
    system.TickTurn system.collected.startTick := by
  have leaves (after : System State Result) (records : List (TransactionRecord State))
      (decision : (system.lock.tick system.clock).1 = .exit records ∨
        (system.lock.tick system.clock).1 = .breakLock records)
      (concludes : after.lock = (system.lock.tick system.clock).2 ∧ after.clock = system.clock ∧
        Concluded system.looked.lockWorker after) : system.TickTurn after := by
    obtain ⟨lock, clock, concluded⟩ := concludes
    have left : (∃ records, (system.lock.tick system.clock).1 = .exit records) ∨
        ∃ records, (system.lock.tick system.clock).1 = .breakLock records :=
      decision.imp (fun exit => ⟨records, exit⟩) fun broken => ⟨records, broken⟩
    refine .looks waits asked lock clock (.leaves ?_ ?_ concluded)
    · rw [lock]
      exact system.lock.tick_fewer system.clock left
    · rw [lock]
      exact system.lock.tick_nobody system.clock left
  rw [startTick_looked]
  cases decision : (system.lock.tick system.clock).1 with
  | idle => exact .looks waits asked rfl rfl (.nothing decision rfl rfl rfl List.mem_cons_self)
  | recheck instant =>
      have told := system.looked.notifyLockAt_stretch instant
      have worker := system.looked.notifyLockAt_lockWorker instant
      refine .looks waits asked told.lock told.clock
        (.rechecks instant decision rfl ?_ ?_ List.mem_cons_self)
      · rw [finishTick_requests]
        exact told.lockWorker.requests rfl
      · show (system.looked.notifyLockAt instant).lockWorker.stats.notifications = _
        rw [worker]
        rfl
  | exit records =>
      obtain ⟨_, stretch, _⟩ := system.looked.deliverExits_stretch records
      exact leaves _ records (.inl decision) (concludeExits_concluded system.looked _ (.breaking []) _
        rfl _ stretch (system.looked.deliverExits_lockWorker records) _)
  | breakLock records =>
      obtain ⟨_, stretch, _⟩ := system.looked.startNotifying_stretch records
      exact leaves _ records (.inr decision) (concludeBreaks_concluded system.looked _ (.breaking []) _
        rfl _ stretch (system.looked.deliverDue_lockWorker _) _)

theorem continueTick_goesOn (run : TickRun State) (taken : List CallId)
    (runs : system.lockWorker.phase = .running run taken) :
    system.TickTurn (system.continueTick run) := by
  cases run with
  | exiting current rest =>
      by_cases due : current.due ≤ system.clock
      · have same : system.continueTick (.exiting current rest) =
            concludeExits ((system.deliver current).deliverExits rest) := by
          simp only [continueTick]
          exact if_pos due
        rw [same]
        obtain ⟨_, stretch, _⟩ := (system.deliver current).deliverExits_stretch rest
        obtain ⟨lock, clock, concluded⟩ := concludeExits_concluded (system.deliver current) _ _ taken
          runs _ stretch ((system.deliver current).deliverExits_lockWorker rest)
          ((system.deliver current).deliverExits rest).2
        exact .goesOn _ taken runs lock clock concluded
      · have same : system.continueTick (.exiting current rest) = system := by
          simp only [continueTick]
          exact if_neg due
        rw [same]
        exact .goesOn _ taken runs rfl rfl (.lasts _ taken runs rfl rfl)
  | breaking pending =>
      obtain ⟨_, stretch, _⟩ := system.deliverDue_stretch pending
      obtain ⟨lock, clock, concluded⟩ := concludeBreaks_concluded system _ _ taken runs _ stretch
        (system.deliverDue_lockWorker pending) (system.deliverDue pending).2
      exact .goesOn _ taken runs lock clock concluded

theorem lockTurn_tickTurn : system.TickTurn system.lockTurn := by
  cases phase : system.lockWorker.phase with
  | stopped => exact .stopped phase (by simp only [lockTurn, phase])
  | running run taken =>
      have same : system.lockTurn = system.continueTick run := by simp only [lockTurn, phase]
      rw [same]
      exact system.continueTick_goesOn run taken phase
  | waiting =>
      cases asked : (system.lockWorker.collect system.clock).pending.now with
      | true =>
          rw [system.lockTurn_asked phase asked]
          exact system.startTick_looks phase asked
      | false => exact .rests phase asked (system.lockTurn_unasked phase asked)

end

end System

/-! A worker that is left alone -/

def OutcomeQueue.IsUndelayed (queue : OutcomeQueue State) : Prop :=
  ∀ outcome record, queue.delay outcome + queue.lag outcome record = 0

/-- The queue judges and records, and takes its time as before. -/
theorem OutcomeQueue.IsUndelayed.receive {queue : OutcomeQueue State} (undelayed : queue.IsUndelayed)
    (handOff : HandOff State) : (queue.receive handOff).IsUndelayed := by
  have delay (outcome : Outcome) : (queue.receive handOff).delay outcome = queue.delay outcome := by
    cases outcome <;> (simp only [OutcomeQueue.receive]; split <;> try split) <;> rfl
  have lag : (queue.receive handOff).lag = queue.lag := by
    simp only [OutcomeQueue.receive]
    split <;> try split
    all_goals rfl
  intro outcome record
  rw [delay, lag]
  exact undelayed outcome record

theorem OutcomeQueue.IsUndelayed.due {queue : OutcomeQueue State} (undelayed : queue.IsUndelayed)
    (clock : Instant) (outcome : Outcome) (record : TransactionRecord State) :
    (queue.handOff clock outcome record).due ≤ clock := by
  simp [OutcomeQueue.handOff, undelayed outcome record]

def TickRun.IsOver (run : TickRun State) (clock : Instant) : Prop :=
  match run with
  | .exiting current _ => current.due ≤ clock
  | .breaking pending => ∀ handOff ∈ pending, handOff.due ≤ clock

namespace System

section

variable {system : System State Result}

theorem deliverDue_undelayed (handOffs : List (HandOff State)) (undelayed : system.queue.IsUndelayed)
    (past : ∀ handOff ∈ handOffs, handOff.due ≤ system.clock) :
    (system.deliverDue handOffs).2 = [] ∧ (system.deliverDue handOffs).1.queue.IsUndelayed := by
  induction handOffs generalizing system with
  | nil => exact ⟨rfl, undelayed⟩
  | cons handOff rest ih =>
      have due := past handOff List.mem_cons_self
      simp only [deliverDue, due, ↓reduceIte]
      exact ih (undelayed.receive handOff) fun other there => past other (List.mem_cons_of_mem _ there)

theorem deliverExits_undelayed (records : List (TransactionRecord State))
    (undelayed : system.queue.IsUndelayed) :
    (system.deliverExits records).2 = none ∧ (system.deliverExits records).1.queue.IsUndelayed := by
  induction records generalizing system with
  | nil => exact ⟨rfl, undelayed⟩
  | cons record rest ih =>
      have due := undelayed.due system.clock .commit record
      simp only [deliverExits, due, ↓reduceIte]
      exact ih (undelayed.receive _)

def IsBack (system : System State Result) : Prop :=
  system.lockWorker.phase = .waiting ∧ system.queue.IsUndelayed

theorem concludeExits_back (started : System State Result × Option (TickRun State))
    (done : started.2 = none ∧ started.1.queue.IsUndelayed) : (concludeExits started).IsBack := by
  obtain ⟨middle, run⟩ := started
  obtain ⟨rfl, undelayed⟩ := done
  have queue : middle.notifyLock.notifyStorage.queue = middle.queue :=
    (wakeStorage_queue _).trans (wakeLock_queue _)
  exact ⟨rfl, (congrArg OutcomeQueue.IsUndelayed queue).mpr undelayed⟩

theorem concludeBreaks_back (started : System State Result × List (HandOff State))
    (done : started.2 = [] ∧ started.1.queue.IsUndelayed) : (concludeBreaks started).IsBack := by
  obtain ⟨middle, pending⟩ := started
  obtain ⟨rfl, undelayed⟩ := done
  have queue : middle.notifyLock.queue = middle.queue := wakeLock_queue _
  exact ⟨rfl, (congrArg OutcomeQueue.IsUndelayed queue).mpr undelayed⟩

/-- A run that the queue does not delay is over within its turn. -/
theorem lockTurn_back (undelayed : system.queue.IsUndelayed)
    (alive : system.lockWorker.phase ≠ .stopped)
    (past : ∀ run taken, system.lockWorker.phase = .running run taken → run.IsOver system.clock) :
    system.lockTurn.IsBack := by
  cases phase : system.lockWorker.phase with
  | stopped => exact absurd phase alive
  | running run taken =>
      have due := past run taken phase
      simp only [lockTurn, phase]
      cases run with
      | exiting current rest =>
          have same : current.due ≤ system.clock := due
          simp only [continueTick, same, ↓reduceIte]
          exact concludeExits_back _ (deliverExits_undelayed rest (undelayed.receive current))
      | breaking pending => exact concludeBreaks_back _ (deliverDue_undelayed pending undelayed due)
  | waiting =>
      cases asked : (system.lockWorker.collect system.clock).pending.now with
      | true =>
          rw [system.lockTurn_asked phase asked, startTick_looked]
          cases (system.lock.tick system.clock).1 with
          | idle => exact ⟨rfl, undelayed⟩
          | recheck instant =>
              have queue : (system.looked.notifyLockAt instant).queue = system.queue :=
                wakeLock_queue _
              exact ⟨rfl, (congrArg OutcomeQueue.IsUndelayed queue).mpr undelayed⟩
          | exit records => exact concludeExits_back _ (deliverExits_undelayed records undelayed)
          | breakLock records =>
              refine concludeBreaks_back _ (deliverDue_undelayed _ undelayed fun handOff there => ?_)
              obtain ⟨record, _, rfl⟩ := List.mem_map.mp there
              exact undelayed.due system.clock (.abort .brokenLock) record
      | false =>
          rw [system.lockTurn_unasked phase asked]
          exact ⟨phase, undelayed⟩

def looks (system : System State Result) (event : Event State Result) : List Instant :=
  match system.action? event with
  | some .tick => [system.clock]
  | _ => []

structure LockAsleep (system : System State Result) : Prop where
  waits : system.lockWorker.phase = .waiting
  mailbox : system.lockWorker.mailbox = []
  unasked : system.lockWorker.pending.now = false
  early : ∀ instant, system.lockWorker.pending.deferred = some instant → system.clock < instant

def alone (State Result : Type) (turns : Nat) : List (Event State Result) :=
  List.replicate turns (.turn .lock)

structure ComesToRest (system : System State Result) (looking turns : Nat) : Prop where
  few : ∀ count, (gather looks system (alone State Result count)).length ≤ looking
  asleep : ∀ count, turns ≤ count → (system.run (alone State Result count)).LockAsleep

theorem looks_waiting (ready : .lock ∈ system.ready) (waits : system.lockWorker.phase = .waiting) :
    (system.looks (.turn .lock)).length = system.lockWorker.asks system.clock := by
  have waiting : system.lockWorker.isWaiting = true := by simp [Worker.isWaiting, waits]
  simp only [looks, action?, ready, ↓reduceIte, turnAction?, lookAction?, waiting, Bool.true_and,
    Worker.asks]
  cases (system.lockWorker.collect system.clock).pending.now <;> rfl

theorem comesToRest_turn {looking turns : Nat}
    (comesToRest : (system.step (.turn .lock)).ComesToRest looking turns) :
    system.ComesToRest ((system.looks (.turn .lock)).length + looking) (turns + 1) := by
  constructor
  · intro count
    cases count with
    | zero => exact Nat.zero_le _
    | succ count =>
        have later := comesToRest.few count
        simp only [alone, List.replicate_succ, gather, List.length_append] at later ⊢
        omega
  · intro count enough
    cases count with
    | zero => omega
    | succ count => exact comesToRest.asleep count (by omega)

theorem ComesToRest.mono {looking turns more longer : Nat} (comesToRest : system.ComesToRest looking turns)
    (few : looking ≤ more) (short : turns ≤ longer) : system.ComesToRest more longer :=
  ⟨fun count => Nat.le_trans (comesToRest.few count) few,
    fun count enough => comesToRest.asleep count (Nat.le_trans short enough)⟩

/-- A worker that has nothing to do takes in its mail and falls asleep. -/
theorem collected_asleep (waits : system.lockWorker.phase = .waiting)
    (unasked : system.lockWorker.asks system.clock = 0) :
    (system.resumed .lock).lockTurn.LockAsleep := by
  have nobody : (system.lockWorker.collect system.clock).pending.now = false := by
    by_contra asked
    simp [Worker.asks, asked] at unasked
  rw [(system.resumed .lock).lockTurn_unasked waits nobody]
  refine ⟨waits, rfl, nobody, fun instant deferred => ?_⟩
  have early := system.lockWorker.collect_early system.clock
  rw [show (system.lockWorker.collect system.clock).pending.deferred = some instant from deferred,
    isDue_some] at early
  exact Int.not_le.mp (of_decide_eq_false early)

theorem asleep_asks (asleep : system.LockAsleep) : system.lockWorker.asks system.clock = 0 := by
  have requests : system.lockWorker.requests = system.lockWorker.pending := by
    simp [Worker.requests, asleep.mailbox]
  apply Worker.asks_zero
  · rw [requests]
    exact asleep.unasked
  · rw [requests]
    cases deferred : system.lockWorker.pending.deferred with
    | none => rfl
    | some instant =>
        rw [isDue_some, decide_eq_false (Int.not_le.mpr (asleep.early instant deferred))]

/-- A worker that is asleep is not stirred by turns of its own. -/
theorem asleep_turn (asleep : system.LockAsleep) :
    (system.step (.turn .lock)).LockAsleep ∧ (system.looks (.turn .lock)).length = 0 := by
  by_cases ready : .lock ∈ system.ready
  · rw [step_turn_lock system ready, looks_waiting ready asleep.waits]
    exact ⟨collected_asleep asleep.waits (asleep_asks asleep), asleep_asks asleep⟩
  · rw [step_unready system .lock ready]
    exact ⟨asleep, by simp [looks, action?, ready]⟩

theorem asleep_comesToRest (asleep : system.LockAsleep) : system.ComesToRest 0 0 := by
  have still (count : Nat) : (gather looks system (alone State Result count)).length = 0 ∧
      (system.run (alone State Result count)).LockAsleep := by
    induction count generalizing system with
    | zero => exact ⟨rfl, asleep⟩
    | succ count ih =>
        obtain ⟨next, silent⟩ := asleep_turn asleep
        obtain ⟨none, last⟩ := ih next
        refine ⟨?_, last⟩
        rw [alone, List.replicate_succ, gather, List.length_append, silent, Nat.zero_add]
        exact none
  exact ⟨fun count => Nat.le_of_eq (still count).1, fun count _ => (still count).2⟩

theorem unasked_comesToRest (waits : system.lockWorker.phase = .waiting) (ready : .lock ∈ system.ready)
    (unasked : system.lockWorker.asks system.clock = 0) : system.ComesToRest 0 1 := by
  have comesToRest : (system.step (.turn .lock)).ComesToRest 0 0 := by
    rw [step_turn_lock system ready]
    exact asleep_comesToRest (collected_asleep waits unasked)
  have turn := comesToRest_turn comesToRest
  rwa [looks_waiting ready waits, unasked] at turn

/-- A look that hands nothing over leaves nothing to be done at once. -/
theorem follows_quiet {after : System State Result} (follows : system.Follows after)
    (clock : after.clock = system.clock) :
    (after.lockWorker.phase = .waiting ∧ .lock ∈ after.ready ∧
        after.lockWorker.asks after.clock = 0) ∨
      after.lock.members.length < system.lock.members.length ∧ after.lock.members = [] ∧
        Concluded system.looked.lockWorker after := by
  have early := system.lockWorker.collect_early system.clock
  rw [clock]
  cases follows with
  | nothing decision waits requests silent again =>
      refine .inl ⟨waits, again, Worker.asks_zero _ _ ?_ ?_⟩
      · rw [requests]
        rfl
      · rw [requests]
        exact early
  | rechecks instant decision waits requests silent again =>
      have soon := system.lock.tick_recheck system.clock instant decision
      refine .inl ⟨waits, again, Worker.asks_zero _ _ ?_ ?_⟩
      · rw [requests]
        rfl
      · rw [requests]
        show isDue system.clock (earlier _ (some instant)) = false
        rw [earlier_isDue, isDue_some, decide_eq_false (Int.not_le.mpr soon), Bool.or_false]
        exact early
  | leaves fewer nobody concluded => exact .inr ⟨fewer, nobody, concluded⟩

/-- One look is enough for a lock that nobody holds. -/
theorem empty_comesToRest (waits : system.lockWorker.phase = .waiting) (ready : .lock ∈ system.ready)
    (nobody : system.lock.members = []) : system.ComesToRest 1 2 := by
  by_cases unasked : system.lockWorker.asks system.clock = 0
  · exact (unasked_comesToRest waits ready unasked).mono (Nat.zero_le _) (by omega)
  · have asked : (system.lockWorker.collect system.clock).pending.now = true := by
      by_contra silent
      exact unasked (by simp [Worker.asks, silent])
    have once := system.lockWorker.asks_le system.clock
    have comesToRest : (system.step (.turn .lock)).ComesToRest 0 1 := by
      rw [step_turn_lock system ready]
      cases (system.resumed .lock).lockTurn_tickTurn with
      | looks _ _ lock clock follows =>
          rcases follows_quiet follows clock with ⟨waits, again, unasked⟩ | ⟨fewer, _⟩
          · exact unasked_comesToRest waits again unasked
          · have empty : (system.resumed .lock).lock.members = [] := nobody
            rw [empty] at fewer
            cases fewer
      | rests _ unasked _ => cases asked.symm.trans unasked
      | stopped halted _ => cases halted.symm.trans waits
      | goesOn run taken runs => cases runs.symm.trans waits
    have turn := comesToRest_turn comesToRest
    rw [looks_waiting ready waits] at turn
    exact turn.mono (by omega) (Nat.le_refl _)

/-- After a look in which everybody has left, one more shows that nobody is there. -/
theorem waiting_comesToRest (waits : system.lockWorker.phase = .waiting) (ready : .lock ∈ system.ready)
    (undelayed : system.queue.IsUndelayed) : system.ComesToRest 2 3 := by
  by_cases unasked : system.lockWorker.asks system.clock = 0
  · exact (unasked_comesToRest waits ready unasked).mono (Nat.zero_le _) (by omega)
  · have asked : (system.lockWorker.collect system.clock).pending.now = true := by
      by_contra silent
      exact unasked (by simp [Worker.asks, silent])
    have once := system.lockWorker.asks_le system.clock
    have comesToRest : (system.step (.turn .lock)).ComesToRest 1 2 := by
      rw [step_turn_lock system ready]
      have back : (system.resumed .lock).lockTurn.IsBack :=
        lockTurn_back undelayed (by simp [resumed, waits]) fun run taken runs => by
          cases runs.symm.trans waits
      cases (system.resumed .lock).lockTurn_tickTurn with
      | looks _ _ lock clock follows =>
          rcases follows_quiet follows clock with ⟨waits, again, unasked⟩ | ⟨_, nobody, concluded⟩
          · exact (unasked_comesToRest waits again unasked).mono (Nat.zero_le _) (by omega)
          · cases concluded with
            | ended waits requests woken again => exact empty_comesToRest waits again nobody
            | lasts run taken runs => cases runs.symm.trans back.1
      | rests _ unasked _ => cases asked.symm.trans unasked
      | stopped halted _ => cases halted.symm.trans waits
      | goesOn run taken runs => cases runs.symm.trans waits
    have turn := comesToRest_turn comesToRest
    rw [looks_waiting ready waits] at turn
    exact turn.mono (by omega) (Nat.le_refl _)

/-- In whatever state the lock is, whatever the worker has been asked for and whatever the clock
shows: if nobody else acts and hand-offs do not wait, the worker begins two looks at most and then
asleep. -/
theorem alone_comesToRest (undelayed : system.queue.IsUndelayed) (ready : .lock ∈ system.ready)
    (alive : system.lockWorker.phase ≠ .stopped)
    (past : ∀ run taken, system.lockWorker.phase = .running run taken → run.IsOver system.clock) :
    system.ComesToRest 2 4 := by
  cases phase : system.lockWorker.phase with
  | stopped => exact absurd phase alive
  | waiting => exact (waiting_comesToRest phase ready undelayed).mono (Nat.le_refl _) (by omega)
  | running run taken =>
      have back : (system.resumed .lock).lockTurn.IsBack := lockTurn_back undelayed alive past
      have silent : (system.looks (.turn .lock)).length = 0 := by
        simp [looks, action?, ready, turnAction?, lookAction?, Worker.isWaiting, phase]
      have comesToRest : (system.step (.turn .lock)).ComesToRest 2 3 := by
        rw [step_turn_lock system ready]
        cases (system.resumed .lock).lockTurn_tickTurn with
        | goesOn _ _ _ lock clock concluded =>
            cases concluded with
            | ended waits requests woken again => exact waiting_comesToRest waits again back.2
            | lasts run taken runs => cases runs.symm.trans back.1
        | looks waits | rests waits => cases waits.symm.trans phase
        | stopped halted _ => cases halted.symm.trans phase
      have turn := comesToRest_turn comesToRest
      rwa [silent] at turn

end

end System

end WoundWait
