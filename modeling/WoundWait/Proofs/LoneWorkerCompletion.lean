import WoundWait.Proofs.ConflictFreeWorker

/-!
A lone worker outlasts what it has abandoned. Records that it leaves behind keep the lock until
their deadlines come; if its attempts go on for longer than that, it never gives up. If it abandons
nothing, it commits each transaction at the first attempt, however often and after whatever pause it
might try again.
-/

namespace WoundWait

structure SimulationReport.Outlasts (report : SimulationReport) (config : SimulationConfig) : Prop where
  gaveUp : report.tally.gaveUp = 0
  ended : report.tally.committed + report.tally.abandoned = config.transactions

structure SimulationReport.Smooth (report : SimulationReport) (config : SimulationConfig) : Prop where
  restarts : report.tally.restarts = 0
  aborts : report.abortsReported = 0
  commits : report.commitsEnqueued = config.transactions

theorem WorkerView.number_le (view : WorkerView) (attempt : Attempt)
    (mine : view.activity.attempt? = some attempt) : attempt.number ≤ view.failures + 1 := by
  unfold failures
  split
  · rename_i other pauses
    rw [pauses] at mine
    cases mine
    exact Nat.le_succ _
  · rw [mine, Option.elim_some]
    omega

namespace Simulation

variable {Source : Type}

/-! Reports -/

section

variable {simulation : Simulation Source} {counted : List TransactionId}

theorem Keeps.reported (keeps : simulation.Keeps counted) (report : SimulationReport)
    (done : simulation.result = .ok report) : report.tally = simulation.tally := by
  have concludes := keeps.concludes
  rw [result_ok report done] at concludes
  cases concludes with
  | reported _ _ _ tally => exact tally

theorem Keeps.outlasts (keeps : simulation.Keeps counted) (report : SimulationReport)
    (done : simulation.result = .ok report) (none : simulation.tally.gaveUp = 0) :
    report.Outlasts simulation.config := by
  have ended := (keeps.reports report done).1.ended
  have gaveUp : report.tally.gaveUp = 0 := by rw [keeps.reported report done, none]
  rw [gaveUp] at ended
  exact ⟨gaveUp, ended⟩

theorem Keeps.smooth (keeps : simulation.Keeps counted) (report : SimulationReport)
    (done : simulation.result = .ok report) (restarts : simulation.tally.restarts = 0)
    (abandoned : simulation.tally.abandoned = 0) :
    report.Smooth simulation.config := by
  have adds := (keeps.reports report done).1
  have tally := keeps.reported report done
  have none : report.tally.restarts = 0 := by rw [tally, restarts]
  have kept : report.tally.abandoned = 0 := by rw [tally, abandoned]
  have gaveUp : report.tally.gaveUp = 0 := by
    have exhausted := adds.exhausted
    rw [none, Nat.le_zero, Nat.mul_eq_zero] at exhausted
    exact exhausted.resolve_right (Nat.ne_of_gt keeps.positive)
  have unbroken := adds.restarts
  have ended := adds.ended
  have aborts := adds.aborts
  have commits := adds.commits
  exact ⟨none, by omega, by omega⟩

/-- Whoever is at a later attempt has been restarted. -/
theorem Keeps.firstAttempts (keeps : simulation.Keeps counted)
    (restarts : simulation.tally.restarts = 0) :
    ∀ worker ∈ simulation.workers, ∀ attempt, worker.activity.attempt? = some attempt →
      attempt.number = 1 := by
  intro worker present attempt mine
  have viewed : worker.view ∈ simulation.pool.views := List.mem_map_of_mem present
  have started := (keeps.sound.fits worker.view viewed attempt mine).started
  have lower := keeps.balanced.lower
  have part : worker.view.failures ≤ simulation.pool.total WorkerView.failures :=
    List.le_sum_of_mem (List.mem_map_of_mem viewed)
  have number := worker.view.number_le attempt mine
  have none : simulation.pool.tally.restarts = 0 := restarts
  omega

end

/-! Runs -/

/-- The clock goes to the instant that comes first. -/
theorem schedule_timely (steps : Nat) (simulation : Simulation Source) :
    simulation.Timely (schedule steps simulation) := by
  induction steps generalizing simulation with
  | zero => trivial
  | succ steps ih =>
      rcases finishWithin_succ steps simulation with ⟨_, nothing⟩ | ⟨event, next, _, goesOn⟩
      · rw [nothing]
        trivial
      · rw [goesOn]
        refine ⟨?_, ih _⟩
        rintro target rfl
        unfold next? at next
        split at next
        · cases next
        · obtain ⟨due, first, same⟩ := Option.map_eq_some_iff.mp next
          cases same
          exact ⟨target, first, Int.le_refl _⟩

/-- What a lone worker comes to, whatever it abandons. -/
structure LoneWorkerCompletes (start : Simulation Source) : Prop where
  -- It never gives up if its attempts go on for longer than an abandoned record keeps the lock.
  outlasts : start.system.lock.options.lockAcquireTimeout <
      (start.config.maxAttempts - 1) * start.config.retryBackoff →
    ∀ events, start.Allowed events → start.Timely events →
      (start.run events).tally.gaveUp = 0 ∧
      ((start.run events).HasEnded → ∃ report, (start.run events).result = .ok report ∧
        report.Outlasts start.config)
  -- Nor does it if tasks take their turns as they stand, and then it comes to a report.
  finishes : start.system.lock.options.lockAcquireTimeout <
      (start.config.maxAttempts - 1) * start.config.retryBackoff →
    ∃ report, start.finish.result = .ok report ∧ report.Outlasts start.config
  -- Until it abandons a transaction every attempt is the first.
  conflictFree : ∀ events, start.Allowed events → (start.run events).tally.abandoned = 0 →
    (start.run events).tally.restarts = 0 ∧
    (∀ worker ∈ (start.run events).workers, ∀ attempt, worker.activity.attempt? = some attempt →
      attempt.number = 1) ∧
    ((start.run events).HasEnded → ∃ report, (start.run events).result = .ok report ∧
      report.Smooth start.config)
  commits : start.finish.tally.abandoned = 0 →
    ∃ report, start.finish.result = .ok report ∧ report.Smooth start.config

section

variable {start : Simulation Source} {counted : List TransactionId}

theorem OutlastsRecords.outlasts (outlastsRecords : start.OutlastsRecords) (goes : start.Goes counted)
    (events : List SimulationEvent) (allowed : start.Allowed events) (timely : start.Timely events) :
    (start.run events).tally.gaveUp = 0 ∧
      ((start.run events).HasEnded → ∃ report, (start.run events).result = .ok report ∧
        report.Outlasts start.config) := by
  have none := (outlastsRecords.run goes events allowed timely).gaveUp
  refine ⟨none, fun ended => ?_⟩
  have later := goes.run events allowed
  obtain ⟨report, done, _⟩ := later.reports ended
  have config := (start.run_keeps counted events goes.keeps allowed).1
  exact ⟨report, done, config ▸ later.keeps.outlasts report done none⟩

theorem OutlastsRecords.finishes (outlastsRecords : start.OutlastsRecords) (goes : start.Goes counted)
    (bounds : start.rank ≤ stepBound start.config start.system.lock.options) :
    ∃ report, start.finish.result = .ok report ∧ report.Outlasts start.config := by
  obtain ⟨allowed, same⟩ := finishWithin_schedule
    (stepBound start.config start.system.lock.options) start counted goes.keeps
  have ended := goes.finishWithin _ bounds
  have finish : start.finish = _ := same
  rw [same] at ended
  rw [finish]
  exact (outlastsRecords.outlasts goes _ allowed (schedule_timely _ start)).2 ended

theorem PauseTwins.smooth {pause : Nat} (doubles : start.PauseTwins pause)
    (restarts : start.tally.restarts = 0) (abandoned : start.tally.abandoned = 0)
    (events : List SimulationEvent) (allowed : (start.withPause pause).Allowed events)
    (kept : ((start.withPause pause).run events).tally.abandoned = 0) :
    ((start.withPause pause).run events).tally.restarts = 0 ∧
      (∀ worker ∈ ((start.withPause pause).run events).workers, ∀ attempt,
        worker.activity.attempt? = some attempt → attempt.number = 1) ∧
      (((start.withPause pause).run events).HasEnded → ∃ report,
        ((start.withPause pause).run events).result = .ok report ∧
          report.Smooth (start.withPause pause).config) := by
  obtain ⟨counted, keeps⟩ := doubles.keeps
  obtain ⟨config, later⟩ := run_keeps _ counted events keeps allowed
  obtain ⟨same, still, doubles'⟩ := doubles.run events allowed (kept.trans abandoned.symm)
  have none : ((start.withPause pause).run events).tally.restarts = 0 := by
    rw [same]
    exact still.trans restarts
  refine ⟨none, later.firstAttempts none, fun ended => ?_⟩
  obtain ⟨_, goes⟩ := doubles'.goes
  rw [same] at ended
  obtain ⟨report, done, _⟩ := goes.reports ended
  have done' : ((start.withPause pause).run events).result = .ok report := by
    rw [same]
    exact done
  exact ⟨report, done', config ▸ later.smooth report done' none kept⟩

theorem PauseTwins.commits {pause : Nat} (doubles : start.PauseTwins pause)
    (restarts : start.tally.restarts = 0) (abandoned : start.tally.abandoned = 0)
    (bounds : start.rank ≤
      stepBound (start.withPause pause).config (start.withPause pause).system.lock.options)
    (kept : (start.withPause pause).finish.tally.abandoned = 0) :
    ∃ report, (start.withPause pause).finish.result = .ok report ∧
      report.Smooth (start.withPause pause).config := by
  obtain ⟨counted, keeps⟩ := doubles.keeps
  obtain ⟨_, goes⟩ := doubles.goes
  let steps := stepBound (start.withPause pause).config (start.withPause pause).system.lock.options
  obtain ⟨allowed, runs⟩ := finishWithin_schedule steps (start.withPause pause) counted keeps
  have finish : (start.withPause pause).finish = _ := runs
  have ended : (start.withPause pause).finish.HasEnded := by
    have same : (start.withPause pause).finish = _ :=
      doubles.finishWithin steps (kept.trans abandoned.symm)
    rw [same]
    exact goes.finishWithin steps bounds
  rw [finish] at kept ended ⊢
  exact (doubles.smooth restarts abandoned _ allowed kept).2.2 ended

end

/-! The start -/

theorem validated?_timeouts (config : SimulationConfig) (options : Options)
    (valid : validated? config options = .ok ()) :
    0 < options.lockAcquireTimeout ∧ 0 < options.lockTimeout := by
  have checked : options.validate = .ok () := by
    unfold validated? at valid
    split at valid
    · cases valid
    · split at valid
      · cases valid
      · assumption
  unfold Options.validate at checked
  by_cases leaves : options.lockTimeout = 0
  · simp [leaves] at checked
  by_cases acquires : options.lockAcquireTimeout = 0
  · simp [leaves, acquires] at checked
  exact ⟨Nat.pos_of_ne_zero acquires, Nat.pos_of_ne_zero leaves⟩

section

variable (config : SimulationConfig) (options : Options) (draw : Source → TransactionPlan × Source)
  (source : Nat → Source)

theorem new_seeking : ∀ worker ∈ (new config options draw source).workers,
    worker.view = ⟨.seeking, none⟩ := by
  intro worker present
  obtain ⟨number, _, rfl⟩ := List.mem_map.mp present
  rfl

theorem new_lone (valid : validated? config options = .ok ()) (lone : config.workers = 1) :
    (new config options draw source).Lone := by
  obtain ⟨acquires, leaves⟩ := validated?_timeouts config options valid
  exact ⟨(new_mainCall config options draw source).trans lone, acquires, leaves⟩

theorem new_outlastsRecords (valid : validated? config options = .ok ()) (lone : config.workers = 1)
    (enough : options.lockAcquireTimeout < (config.maxAttempts - 1) * config.retryBackoff) :
    (new config options draw source).OutlastsRecords := by
  refine ⟨new_lone config options draw source valid lone, enough, fun worker present => ⟨0, ?_⟩⟩
  have now : (new config options draw source).system.goesOnAt 0 = 0 := System.goesOnAt_idle rfl
  have empty : (new config options draw source).pool.lock.members = [] := rfl
  rw [new_seeking config options draw source worker present, now]
  refine ⟨by simp [empty], by simp [empty], by simp [empty], ?_, by rintro _ ⟨⟩, rfl⟩
  simp [WorkerView.failures, Activity.attempt?]

theorem new_conflictFree (valid : validated? config options = .ok ()) (lone : config.workers = 1) :
    (new config options draw source).ConflictFree := by
  have seeking (worker : SimulationWorker Source)
      (present : worker ∈ (new config options draw source).workers) : worker.activity = .seeking :=
    congrArg WorkerView.activity (new_seeking config options draw source worker present)
  refine ⟨new_lone config options draw source valid lone, fun worker present => ?_, ?_, ?_⟩
  · rw [new_seeking config options draw source worker present]
    exact WorkerPool.undisturbed_empty rfl .seeking
  · intro number worker there sleeps
    rw [seeking worker (List.mem_of_getElem? there)] at sleeps
    exact sleeps
  · intro number worker there transaction awaits
    rw [seeking worker (List.mem_of_getElem? there)] at awaits
    cases awaits

/-- A simulation whose workers do not pause goes on like one whose workers pause for a millisecond.
-/
theorem new_doubles (valid : validated? config options = .ok ()) (lone : config.workers = 1)
    (limit : config.transactions ≤ 2 ^ 128)
    (planned : ∀ source, (draw source).1.modes.length = config.operationsPerTransaction) :
    (new { config with retryBackoff := max config.retryBackoff 1 } options draw source).PauseTwins
      config.retryBackoff := by
  let paused := { config with retryBackoff := max config.retryBackoff 1 }
  refine ⟨new_conflictFree paused options draw source valid lone, ?_,
    ⟨[], new_goes paused options draw source valid (Nat.le_max_right _ _) limit planned⟩,
    ⟨[], new_keeps config options draw source valid limit planned⟩⟩
  have pause : (new paused options draw source).config.retryBackoff = max config.retryBackoff 1 := rfl
  rw [pause]
  omega

end

/-- Whatever plans are drawn, a lone worker never gives up if its attempts go on for longer than an
abandoned record keeps the lock; and if it abandons nothing, it commits each transaction at the
first attempt, whatever the limit on its attempts and the pause between them. A machine word counts
the transactions, so their identifiers of 128 bits suffice. -/
theorem new_loneWorker_completes (config : SimulationConfig) (options : Options)
    (draw : Source → TransactionPlan × Source) (source : Nat → Source)
    (valid : validated? config options = .ok ()) (lone : config.workers = 1)
    (limit : config.transactions ≤ 2 ^ 128)
    (planned : ∀ source, (draw source).1.modes.length = config.operationsPerTransaction) :
    (new config options draw source).LoneWorkerCompletes := by
  have doubles := new_doubles config options draw source valid lone limit planned
  have goes (enough : options.lockAcquireTimeout < (config.maxAttempts - 1) * config.retryBackoff) :
      (new config options draw source).Goes [] := by
    have pauses : 1 ≤ config.retryBackoff :=
      Nat.pos_of_mul_pos_left (Nat.lt_of_le_of_lt (Nat.zero_le _) enough)
    exact new_goes config options draw source valid pauses limit planned
  refine { outlasts := ?_, finishes := ?_, conflictFree := ?_, commits := ?_ }
  · intro enough
    exact (new_outlastsRecords config options draw source valid lone enough).outlasts (goes enough)
  · intro enough
    exact (new_outlastsRecords config options draw source valid lone enough).finishes (goes enough)
      (new_rank_le config options draw source)
  · exact doubles.smooth rfl rfl
  · have within : max config.retryBackoff 1 ≤ config.retryBackoff + 1 := by omega
    exact doubles.commits rfl rfl (paused_rank_le config options draw source _ within)

def loner (ratio : Float) : SimulationConfig :=
  { transactions := 2, workers := 1, operationsPerTransaction := 1, writeRatio := ratio
    abandonRatio := ratio, maxAttempts := 4, retryBackoff := 1, seed := 7 }

def forgetting : Bool → TransactionPlan × Bool :=
  fun source => (⟨[.write], source⟩, false)

def newLoner (ratio : Float) (abandons : Bool) : Simulation Bool :=
  new (loner ratio) ⟨2, 2, 20000, 1⟩ forgetting fun _ => abandons

theorem loner_loneWorker_completes :
    validated? (loner 1.0) ⟨2, 2, 20000, 1⟩ = .ok () ∧ (loner 1.0).workers = 1 ∧
      (loner 1.0).transactions ≤ 2 ^ 128 ∧
      (∀ source, (forgetting source).1.modes.length = (loner 1.0).operationsPerTransaction) ∧
      (newLoner 1.0 true).LoneWorkerCompletes ∧
      ∃ report, (newLoner 1.0 true).finish.result = .ok report ∧ report.Outlasts (loner 1.0) := by
  have valid : validated? (loner 1.0) ⟨2, 2, 20000, 1⟩ = .ok () := rfl
  have limit : (loner 1.0).transactions ≤ 2 ^ 128 := by decide
  have planned : ∀ source,
      (forgetting source).1.modes.length = (loner 1.0).operationsPerTransaction := fun _ => rfl
  have completes : (newLoner 1.0 true).LoneWorkerCompletes :=
    new_loneWorker_completes (loner 1.0) ⟨2, 2, 20000, 1⟩ forgetting (fun _ => true) valid rfl limit planned
  have enough : 2 < ((loner 1.0).maxAttempts - 1) * (loner 1.0).retryBackoff := by decide
  exact ⟨valid, rfl, limit, planned, completes, completes.finishes enough⟩

-- The second transaction is refused until the deadline of the first has come.
example (ratio : Float) : (finishWithin 40 (newLoner ratio true)).result = .ok
    { tally :=
        { committed := 1, abandoned := 1, gaveUp := 0, restarts := 2, upgradeConflicts := 2,
          brokenLocks := 0, validationFailures := 0 }
      commitsEnqueued := 1, abortsReported := 1, storageFlushes := 2, lockTicks := 5,
      elapsed := 2 } := by
  cbv

end Simulation

end WoundWait
