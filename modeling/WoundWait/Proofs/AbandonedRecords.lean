import WoundWait.Proofs.SimulationTermination
import WoundWait.Proofs.LoneWorkerProgress

/-!
A lone worker among records that were abandoned. They are older than its own and keep the lock until
their deadlines come, which is soon after its transaction was begun; whoever begins an attempt after
that has the lock to itself.
-/

namespace WoundWait

namespace WorkerPool

/-- How a lone worker stands to the records in the lock. Its transaction was begun at one instant,
and it goes on at another. -/
structure OutwaitsRecords (pool : WorkerPool) (clock wakes since : Instant) (view : WorkerView) :
    Prop where
  timely : ∀ member ∈ pool.lock.members, clock ≤ member.deadline
  soon : ∀ member ∈ pool.lock.members, member.role.isExitReady = false →
    member.deadline ≤ clock + pool.lock.options.lockAcquireTimeout
  older : ∀ member ∈ pool.lock.members, view.activity.transaction? ≠ some member.transaction →
    member.deadline ≤ since + pool.lock.options.lockAcquireTimeout
  paced : since + (view.failures * pool.config.retryBackoff : Nat) ≤ wakes
  late : ∀ attempt, view.activity.attempt? = some attempt →
    pool.lock.options.lockAcquireTimeout < (attempt.number - 1) * pool.config.retryBackoff →
    pool.Undisturbed clock view
  gaveUp : pool.tally.gaveUp = 0

section

variable {pool after : WorkerPool} {counted : List TransactionId} {clock wakes wakes' since : Instant}
  {view view' : WorkerView} {action : Option LedgerAction}

theorem Turns.options {number : Nat} (turns : pool.Turns after clock number view view' action) :
    after.lock.options = pool.lock.options := by
  rw [turns.lock]
  cases action with
  | none => rfl
  | some action => exact pool.lock.perform_options clock action

theorem Turns.soon {number : Nat} (turns : pool.Turns after clock number view view' action)
    (solo : pool.Solo counted view)
    (soon : ∀ member ∈ pool.lock.members, member.role.isExitReady = false →
      member.deadline ≤ clock + pool.lock.options.lockAcquireTimeout) :
    ∀ member ∈ after.lock.members, member.role.isExitReady = false →
      member.deadline ≤ clock + pool.lock.options.lockAcquireTimeout := by
  intro member present unready
  cases turns.remains solo member present with
  | resident there => exact soon member there unready
  | entered _ _ since =>
      rcases since with ⟨before, there, _, undecided, same⟩ | fresh
      · exact same ▸ soon before there (by rw [undecided]; rfl)
      · exact Int.le_of_eq fresh
  | decided _ ready =>
      rw [ready] at unready
      cases unready

/-- Only the worker's own record may be about to leave. -/
theorem Sound.unready (sound : pool.Sound counted) (views : pool.views = [view])
    (unawaited : view.activity.awaits? = none) :
    ∀ member ∈ pool.lock.members, member.role.isExitReady = false := by
  intro member present
  by_contra ready
  obtain ⟨other, there, awaits⟩ := sound.owned member present (by simpa using ready)
  rw [views, List.mem_singleton] at there
  rw [there, unawaited] at awaits
  cases awaits

structure Times (pool : WorkerPool) (clock wakes wakes' : Instant) (view view' : WorkerView) : Prop where
  later : wakes ≤ wakes'
  starts : view' ≠ view → wakes = clock
  pauses : view' ≠ view → ∀ attempt, view'.activity = .backingOff attempt →
    wakes' = clock + pool.config.retryBackoff
  now : clock ≤ wakes'

/-! Moves -/

theorem Turns.timely {number : Nat} (turns : pool.Turns after clock number view view' action)
    (solo : pool.Solo counted view) (timely : ∀ member ∈ pool.lock.members, clock ≤ member.deadline) :
    ∀ member ∈ after.lock.members, clock ≤ member.deadline :=
  turns.lasts solo clock (Int.le_add_of_nonneg_right (Int.natCast_nonneg _))
    (Int.le_add_of_nonneg_right (Int.natCast_nonneg _)) timely

/-- The worker goes on with its attempt. -/
theorem Turns.goesOn (turns : pool.Turns after clock 0 view view' action)
    (solo : pool.Solo counted view) (outwaits : pool.OutwaitsRecords clock wakes since view)
    (wakes' : Instant) (same : view'.activity.attempt? = view.activity.attempt?)
    (paced : since + (view'.failures * pool.config.retryBackoff : Nat) ≤ wakes')
    (gaveUp : after.tally.gaveUp = pool.tally.gaveUp) : after.OutwaitsRecords clock wakes' since view' := by
  have options := turns.options
  refine ⟨turns.timely solo outwaits.timely, options ▸ turns.soon solo outwaits.soon, ?_,
    turns.config ▸ paced, ?_, gaveUp.trans outwaits.gaveUp⟩
  · intro member present foreign
    have there := turns.others member present foreign
    rw [Activity.transaction?, same] at foreign
    rw [options]
    exact outwaits.older member there foreign
  · intro attempt mine late
    rw [options, turns.config] at late
    rw [same] at mine
    rcases (turns.undisturbed solo (outwaits.late attempt mine late)).keeps with ⟨_, seeks⟩ | ⟨_, still⟩
    · rw [← same, seeks] at mine
      cases mine
    · exact still

/-- The worker is at no attempt, or at its first. Whoever is in the lock then has come there by now.
-/
theorem Turns.begins (turns : pool.Turns after clock 0 view view' action)
    (solo : pool.Solo counted view) (outwaits : pool.OutwaitsRecords clock wakes since view)
    (now : clock ≤ wakes') (unawaited : view'.activity.awaits? = none) (failures : view'.failures = 0)
    (first : ∀ attempt, view'.activity.attempt? = some attempt → attempt.number = 1)
    (gaveUp : after.tally.gaveUp = pool.tally.gaveUp) : after.OutwaitsRecords clock wakes' clock view' := by
  have options := turns.options
  have soon := turns.soon solo outwaits.soon
  have sound' := (turns.fares solo.sound solo.limit solo.positive).sound solo.sound
  have views' : after.views = [view'] := by rw [turns.views, solo.views]; rfl
  refine ⟨turns.timely solo outwaits.timely, options ▸ soon, ?_, ?_, ?_, gaveUp.trans outwaits.gaveUp⟩
  · intro member present _
    exact options ▸ soon member present (sound'.unready views' unawaited member present)
  · rw [failures, Nat.zero_mul]
    exact Int.le_trans (Int.le_of_eq (Int.add_zero clock)) now
  · intro attempt mine late
    rw [first attempt mine, Nat.sub_self, Nat.zero_mul] at late
    cases late

/-- The attempt has failed, and the worker pauses. -/
theorem Turns.fails (turns : pool.Turns after clock 0 view view' action)
    (solo : pool.Solo counted view) (times : pool.Times clock wakes wakes' view view')
    (outwaits : pool.OutwaitsRecords clock wakes since view) (attempt : Attempt)
    (mine : view.activity.attempt? = some attempt) (before : view.failures = attempt.number - 1)
    (pauses : view'.activity = .backingOff attempt) (gaveUp : after.tally.gaveUp = pool.tally.gaveUp) :
    after.OutwaitsRecords clock wakes' since view' := by
  have started := (solo.sound.fits view solo.there attempt mine).started
  have number : view'.failures = view.failures + 1 := by
    simp only [WorkerView.failures, pauses] at before ⊢
    omega
  have moved : view' ≠ view := by
    rintro rfl
    exact absurd number (Nat.ne_of_lt (Nat.lt_succ_self _))
  refine turns.goesOn solo outwaits wakes' (by rw [pauses, mine]; rfl) ?_ gaveUp
  rw [number, Nat.succ_mul, Int.natCast_add, ← Int.add_assoc, times.pauses moved attempt pauses,
    ← times.starts moved]
  exact Int.add_le_add_right outwaits.paced _

/-- When the pause is over after so many attempts, the deadlines of all older records have passed.
-/
theorem OutwaitsRecords.nobody {attempt : Attempt} {inbox : Option LedgerAnswer}
    (outwaits : pool.OutwaitsRecords clock wakes since ⟨.backingOff attempt, inbox⟩)
    (solo : pool.Solo counted ⟨.backingOff attempt, inbox⟩) (now : wakes ≤ clock)
    (late : pool.lock.options.lockAcquireTimeout < attempt.number * pool.config.retryBackoff) :
    pool.lock.members = [] := by
  rw [List.eq_nil_iff_forall_not_mem]
  intro member present
  have absent : pool.lock.Absent attempt.transaction := by
    cases solo.sound.stands _ solo.there with
    | backingOff _ _ absent => exact absent
  have older := outwaits.older member present fun mine =>
    absent member present (Option.some.inj mine).symm
  have paused : since + (attempt.number * pool.config.retryBackoff : Nat) ≤ clock :=
    Int.le_trans outwaits.paced now
  have past : since + pool.lock.options.lockAcquireTimeout < clock :=
    Int.lt_of_lt_of_le (Int.add_lt_add_left (Int.ofNat_lt.mpr late) since) paused
  exact absurd (Int.lt_of_lt_of_le past (outwaits.timely member present)) (Int.not_lt.mpr older)

theorem Turns.comesAgain {attempt : Attempt} {inbox : Option LedgerAnswer} {mode : AccessMode}
    {rest : List AccessMode}
    (turns : pool.Turns after clock 0 ⟨.backingOff attempt, inbox⟩
      ⟨.entering { attempt with number := attempt.number + 1 } .zero mode rest,
        some (pool.lock.reception clock (attempt.request .zero mode))⟩
      (some (.enter (attempt.request .zero mode))))
    (solo : pool.Solo counted ⟨.backingOff attempt, inbox⟩)
    (outwaits : pool.OutwaitsRecords clock wakes since ⟨.backingOff attempt, inbox⟩)
    (left : attempt.number < pool.config.maxAttempts) (now : wakes = clock) (later : wakes ≤ wakes')
    (gaveUp : after.tally.gaveUp = pool.tally.gaveUp) :
    after.OutwaitsRecords clock wakes' since
      ⟨.entering { attempt with number := attempt.number + 1 } .zero mode rest,
        some (pool.lock.reception clock (attempt.request .zero mode))⟩ := by
  have options := turns.options
  refine ⟨turns.timely solo outwaits.timely, options ▸ turns.soon solo outwaits.soon, ?_,
    turns.config ▸ Int.le_trans outwaits.paced later, ?_, gaveUp.trans outwaits.gaveUp⟩
  · intro member present foreign
    rw [options]
    exact outwaits.older member (turns.others member present foreign) foreign
  · intro _ mine late
    obtain rfl := Option.some.inj mine
    rw [options, turns.config] at late
    have nobody := outwaits.nobody solo (Int.le_of_eq now) late
    exact turns.comesAlone solo (.again attempt inbox left) (by simp [nobody]) (fun _ => rfl)
      (by simp [nobody])

theorem Turns.outwaits (turns : pool.Turns after clock 0 view view' action)
    (solo : pool.Solo counted view)
    (enough : pool.lock.options.lockAcquireTimeout <
      (pool.config.maxAttempts - 1) * pool.config.retryBackoff)
    (times : pool.Times clock wakes wakes' view view')
    (outwaits : pool.OutwaitsRecords clock wakes since view) :
    ∃ since', after.OutwaitsRecords clock wakes' since' view' := by
  have waits := Int.le_trans outwaits.paced times.later
  have goesOn := turns.goesOn solo outwaits wakes'
  have begins := turns.begins solo outwaits times.now
  have fails := turns.fails solo times outwaits
  have moves := turns.moves
  generalize tallied : after.tally = tally at moves goesOn begins fails
  generalize after.begun = begun at moves
  cases moves with
  | stays => exact ⟨since, goesOn rfl waits rfl⟩
  | finishes | abandons | commits => exact ⟨clock, begins rfl rfl (by rintro _ ⟨⟩) rfl⟩
  | enters _ attempt seen mode rest _ comes =>
      cases comes with
      | first => exact ⟨clock, begins rfl rfl (by rintro _ ⟨⟩; rfl) rfl⟩
      | next => exact ⟨since, goesOn rfl waits rfl⟩
      | again attempt inbox left =>
          exact ⟨since, turns.comesAgain solo outwaits left (times.starts (by simp)) times.later
            (congrArg Tally.gaveUp tallied)⟩
  | validates | givesWay | decides | polls | looks => exact ⟨since, goesOn rfl waits rfl⟩
  | restarts attempt answer inbox => exact ⟨since, fails attempt rfl rfl rfl rfl⟩
  | breaks _ attempt inbox held =>
      exact ⟨since, fails attempt (by cases held <;> rfl) (by cases held <;> rfl) rfl rfl⟩
  | givesUp attempt inbox last =>
      have tries : pool.config.maxAttempts - 1 ≤ attempt.number - 1 := Nat.sub_le_sub_right last 1
      have unhindered := (outwaits.late attempt rfl
        (Nat.lt_of_lt_of_le enough (Nat.mul_le_mul_right _ tries))).unhindered
      cases unhindered with
      | leaving _ _ awaits => cases awaits

/-! Other events -/

theorem Looks.outwaits (looks : pool.Looks after clock) (sound : pool.Sound counted)
    (there : view ∈ pool.views) (outwaits : pool.OutwaitsRecords clock wakes since view) :
    after.OutwaitsRecords clock wakes since view := by
  have options : after.lock.options = pool.lock.options := by
    rw [looks.lock]
    exact pool.lock.perform_options clock _
  refine ⟨?_, ?_, ?_, ?_, ?_, ?_⟩
  · exact fun member present => outwaits.timely member (looks.subset member present)
  · exact fun member present => options ▸ outwaits.soon member (looks.subset member present)
  · exact fun member present => options ▸ outwaits.older member (looks.subset member present)
  · exact looks.config ▸ outwaits.paced
  · intro attempt mine late
    rw [options, looks.config] at late
    exact looks.undisturbed sound there (outwaits.late attempt mine late)
  · exact (congrArg Tally.gaveUp looks.tally).trans outwaits.gaveUp

theorem OutwaitsRecords.passes {later : Instant}
    (outwaits : pool.OutwaitsRecords clock wakes since view)
    (passes : clock ≤ later) (wakesLater : wakes ≤ wakes')
    (timely : ∀ member ∈ pool.lock.members, later ≤ member.deadline)
    (undisturbed : pool.Undisturbed clock view → pool.Undisturbed later view) :
    pool.OutwaitsRecords later wakes' since view :=
  { outwaits with
    timely
    soon := fun member present unready =>
      Int.le_trans (outwaits.soon member present unready) (Int.add_le_add_right passes _)
    paced := Int.le_trans outwaits.paced wakesLater
    late := fun attempt mine late => undisturbed (outwaits.late attempt mine late) }

theorem PoolStep.outwaits {counts : List TransactionId} (poolStep : pool.PoolStep clock after counts)
    (solo : pool.Solo counted view) (views' : after.views = [view'])
    (enough : pool.lock.options.lockAcquireTimeout <
      (pool.config.maxAttempts - 1) * pool.config.retryBackoff)
    (times : pool.Times clock wakes wakes' view view')
    (outwaits : pool.OutwaitsRecords clock wakes since view) :
    ∃ since', after.OutwaitsRecords clock wakes' since' view' := by
  have rested (rests : after.OutwaitsRecords clock wakes since view) :
      ∃ since', after.OutwaitsRecords clock wakes' since' view :=
    ⟨since, rests.passes (Int.le_refl _) times.later rests.timely fun still => still⟩
  rcases poolStep.alone solo.views views' with ⟨rfl, rfl⟩ | ⟨looks, rfl⟩ | ⟨action, turns⟩
  · exact rested outwaits
  · exact rested (looks.outwaits solo.sound solo.there outwaits)
  · exact turns.outwaits solo enough times outwaits

end

end WorkerPool

namespace Simulation

variable {Source : Type}

def Timely (simulation : Simulation Source) : List SimulationEvent → Prop
  | [] => True
  | event :: later =>
      (∀ target, event = .pass target →
        ∃ due, simulation.system.timer? = some due ∧ target ≤ due) ∧
      (simulation.step event).Timely later

structure Lone (simulation : Simulation Source) : Prop where
  one : simulation.workers.length = 1
  acquires : 0 < simulation.system.lock.options.lockAcquireTimeout
  leaves : 0 < simulation.system.lock.options.lockTimeout

structure OutlastsRecords (simulation : Simulation Source) : Prop where
  lone : simulation.Lone
  enough : simulation.system.lock.options.lockAcquireTimeout <
    (simulation.config.maxAttempts - 1) * simulation.config.retryBackoff
  outwaits : ∀ worker ∈ simulation.workers, ∃ since,
    simulation.pool.OutwaitsRecords simulation.system.clock (simulation.system.goesOnAt 0) since worker.view

section

variable {before after : Simulation Source} {counted : List TransactionId}

/-- A worker moves when its call is over; and where it begins to pause, it pauses that long. -/
theorem Happens.times {event : SimulationEvent} (happens : before.Happens event after)
    (lively : before.Lively) (responsive : before.system.Responsive)
    (distinct : before.system.lock.HasDistinctNames) (place : Nat)
    (worker worker' : SimulationWorker Source) (there : before.workers[place]? = some worker)
    (there' : after.workers[place]? = some worker') :
    before.pool.Times before.system.clock (before.system.goesOnAt place)
      (after.system.goesOnAt place) worker.view worker'.view := by
  -- Whoever did not move stays where it was.
  have rests (same : after.workers[place]? = before.workers[place]?)
      (later : before.system.goesOnAt place ≤ after.system.goesOnAt place) :
      before.pool.Times before.system.clock (before.system.goesOnAt place)
        (after.system.goesOnAt place) worker.view worker'.view := by
    rw [there, there'] at same
    cases same
    exact ⟨later, fun moved => absurd rfl moved, fun moved => absurd rfl moved,
      Int.le_trans (Int.le_max_left _ _) later⟩
  cases happens with
  | nothing => exact rests rfl (Int.le_refl _)
  | lock ready =>
      have spares := System.lockTurn_spares responsive lively.wakeful place
      exact rests rfl (Int.le_of_eq (spares.goesOnAt
        (System.lockTurn_complete _ (System.resumed_responsive responsive .lock)).1.clock).symm)
  | storage ready =>
      have spares := System.storageTurn_spares responsive lively.wakeful place
      exact rests rfl (Int.le_of_eq (spares.goesOnAt
        (System.storageTurn_complete _ (System.resumed_responsive responsive .storage)).1.clock).symm)
  | rests => exact rests rfl (Int.le_refl _)
  | mainMoves number main request _ ready nobody moves carries ends =>
      have errand := System.Errand.recalled carries.errand
      have other : place ≠ before.mainCall := Nat.ne_of_lt (List.getElem?_eq_some_iff.mp there).1
      have workers : after.workers = before.workers := carries.workers
      exact rests (congrArg (·[place]?) workers)
        (Int.le_of_eq ((errand.spares place other).goesOnAt errand.clock).symm)
  | moves number mover move _ ready moving busy within carries ends =>
      obtain ⟨action, wait, errand, _, _, spares⟩ := carries.turned lively responsive distinct ends
      obtain ⟨moved, activity, workers, _, _⟩ := carries.worker
      have workers : after.workers = before.workers.set number moved := workers
      by_cases own : place = number
      · subst own
        have inside := (List.getElem?_eq_some_iff.mp there).1
        obtain rfl : moved = worker' := by
          rw [workers, List.getElem?_set_self inside] at there'
          exact Option.some.inj there'
        have now : before.system.clock ≤ after.system.goesOnAt place := by
          have clock : after.system.clock = before.system.clock := errand.clock
          exact clock ▸ Int.le_max_left after.system.clock _
        refine ⟨ends.now ▸ now, fun _ => ends.now, ?_, now⟩
        intro _ attempt pauses
        have asks := within.asks
        rw [← activity, show moved.activity = .backingOff attempt from pauses] at asks
        generalize asked : move.request = request at asks
        cases asks with
        | backingOff =>
            have resumes := carries.resumes
            rw [asked] at resumes
            exact resumes
      · refine rests ?_ (Int.le_of_eq ((spares place own).goesOnAt errand.clock).symm)
        rw [workers, List.getElem?_set_ne (Ne.symm own)]
  | passes target =>
      refine rests rfl ?_
      rw [advance_goesOnAt]
      exact Int.le_max_right _ _

theorem Lone.worker (lone : before.Lone) : ∃ worker, before.workers = [worker] :=
  List.length_eq_one_iff.mp lone.one

theorem Lone.solo (lone : before.Lone) (keeps : before.Keeps counted)
    (worker : SimulationWorker Source) (alone : before.workers = [worker]) :
    before.pool.Solo counted worker.view :=
  ⟨keeps.sound, keeps.limit, keeps.positive, congrArg (List.map SimulationWorker.view) alone,
    lone.acquires, lone.leaves⟩

theorem Lone.step (lone : before.Lone) (keeps : before.Keeps counted) (event : SimulationEvent)
    (allows : before.Allows event) : (before.step event).Lone := by
  have poolStep := (step_brings keeps event allows).poolStep
  have options : (before.step event).system.lock.options = before.system.lock.options := poolStep.options
  have length := poolStep.views_length
  simp only [pool, List.length_map] at length
  exact ⟨length.trans lone.one, options ▸ lone.acquires, options ▸ lone.leaves⟩

/-- Whoever has its record in the lock and nobody to wait for is ready, or the lock's worker is. -/
theorem Lively.solitary (lively : before.Lively) (responsive : before.system.Responsive)
    (idle : before.system.ready = []) (place : Nat) (worker : SimulationWorker Source)
    (there : before.workers[place]? = some worker)
    (undisturbed : before.pool.Undisturbed before.system.clock worker.view) :
    before.system.lock.members = [] := by
  rcases lively.unhurried responsive idle with nobody | ⟨unfinished, _⟩
  · exact nobody
  obtain ⟨member, present, unready⟩ := unfinished.unready
  have mine := undisturbed.own member present
  have unhindered := undisturbed.unhindered
  have post := post_worker place worker there
  generalize worker.view = view at mine unhindered post
  cases unhindered with
  | seeking | finished => cases mine
  | admitted | valid =>
      have turn := lively.ready place post
      rw [idle] at turn
      cases turn
  | leaving _ _ _ ready =>
      rw [ready member present] at unready
      cases unready

theorem Lively.passes (lively : before.Lively) (responsive : before.system.Responsive)
    (idle : before.system.ready = []) (place : Nat) (worker : SimulationWorker Source)
    (there : before.workers[place]? = some worker)
    (undisturbed : before.pool.Undisturbed before.system.clock worker.view) (later : Instant) :
    before.pool.Undisturbed later worker.view :=
  WorkerPool.undisturbed_empty (lively.solitary responsive idle place worker there undisturbed)
    undisturbed.unhindered

theorem OutlastsRecords.step (outlastsRecords : before.OutlastsRecords) (goes : before.Goes counted)
    (event : SimulationEvent) (allows : before.Allows event)
    (timely : ∀ target, event = .pass target →
      ∃ due, before.system.timer? = some due ∧ target ≤ due) : (before.step event).OutlastsRecords := by
  obtain ⟨lone, enough, outwaits⟩ := outlastsRecords
  have keeps := goes.keeps
  have lively := goes.lively
  have poolStep := (step_brings keeps event allows).poolStep
  have config := (step_keeps keeps event allows).1
  have options : (before.step event).system.lock.options = before.system.lock.options := poolStep.options
  have lone' := lone.step keeps event allows
  refine ⟨lone', by rwa [config, options], ?_⟩
  obtain ⟨worker, alone⟩ := lone.worker
  obtain ⟨worker', alone'⟩ := lone'.worker
  rw [alone', List.forall_mem_singleton]
  obtain ⟨since, outwaits⟩ := outwaits worker (alone ▸ List.mem_singleton_self _)
  have there : before.workers[0]? = some worker := by rw [alone]; rfl
  have there' : (before.step event).workers[0]? = some worker' := by rw [alone']; rfl
  have happens := step_happens keeps lively event
  have times :=
    happens.times lively goes.responsive keeps.sound.kept.distinct 0 worker worker' there there'
  cases event with
  | turn task =>
      have clock : (before.step (.turn task)).system.clock = before.system.clock :=
        (happens.clock goes.responsive).2 (by simp)
      rw [clock]
      exact poolStep.outwaits (lone.solo keeps worker alone)
        (congrArg (List.map SimulationWorker.view) alone') enough times outwaits
  | pass target =>
      have idle := allows.idle target rfl
      obtain rfl : worker = worker' := Option.some.inj (there.symm.trans there')
      refine ⟨since, outwaits.passes (Int.le_max_left _ _) times.later ?_ fun undisturbed =>
        lively.passes goes.responsive idle 0 worker there undisturbed _⟩
      intro member present
      refine Int.max_le.mpr ⟨outwaits.timely member present, ?_⟩
      obtain ⟨due, next, within⟩ := timely target rfl
      rcases lively.unhurried goes.responsive idle with nobody | ⟨_, soonest, first, _, leaves⟩
      · exact absurd present (by rw [show before.pool.lock.members = [] from nobody]; simp)
      · rw [next] at first
        cases first
        exact Int.le_trans within (leaves member present)

theorem OutlastsRecords.run (outlastsRecords : before.OutlastsRecords) (goes : before.Goes counted)
    (events : List SimulationEvent) (allowed : before.Allowed events) (timely : before.Timely events) :
    (before.run events).OutlastsRecords := by
  induction events generalizing before counted with
  | nil => exact outlastsRecords
  | cons event later ih =>
      exact ih (outlastsRecords.step goes event allowed.1 timely.1) (goes.step event allowed.1) allowed.2
        timely.2

theorem OutlastsRecords.gaveUp (outlastsRecords : before.OutlastsRecords) :
    before.tally.gaveUp = 0 := by
  obtain ⟨worker, alone⟩ := outlastsRecords.lone.worker
  obtain ⟨since, outwaits⟩ := outlastsRecords.outwaits worker (alone ▸ List.mem_singleton_self _)
  exact outwaits.gaveUp

end

end Simulation

end WoundWait
