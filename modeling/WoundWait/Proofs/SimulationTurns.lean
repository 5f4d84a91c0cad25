import WoundWait.Proofs.WorkerTurns

/-!
Turns of all tasks of a simulation. A turn of a worker is a move; a turn of the lock's worker is a
look at the group or nothing; and the storage worker, the last task and the clock leave the workers
alone.
-/

namespace WoundWait

/-- After a look whoever is left has time. -/
theorem Lock.tick_early {State Result : Type} (lock : Lock State) (timed : lock.IsTimed)
    (clock : Instant) :
    ∀ member ∈ (lock.perform clock (.tick : LockAction State Result)).members, clock < member.deadline := by
  have looks := lock.tick_looks clock
  simp only [Lock.perform]
  generalize (lock.tick clock).1 = decision at looks
  generalize (lock.tick clock).2 = after at looks ⊢
  cases looks with
  | empty | exit | broken =>
      intro member present
      cases present
  | waiting group deadline present unready early next =>
      have unhurried := lock.remaining_early timed group present clock deadline early next
      rw [← lock.members_purgeAborted group present] at unhurried
      exact unhurried
  | untimed group present unready unknown =>
      exact absurd unknown (lock.remaining_known timed group present unready)

def MainActivity.IsWaiting : MainActivity → Prop
  | .settling _ | .pausing _ | .flushing => True
  | .joining | .finished _ => False

namespace Simulation

variable {Source : Type}

def without (simulation : Simulation Source) (task : Task) : Simulation Source :=
  { simulation with
    system := { simulation.system with ready := simulation.system.ready.erase task } }

theorem without_responsive {simulation : Simulation Source} (responsive : simulation.system.Responsive)
    (task : Task) : (simulation.without task).system.Responsive :=
  ⟨responsive.prompt.congr rfl rfl, responsive.lock, responsive.storage⟩

structure Orderly (simulation : Simulation Source) : Prop where
  responsive : simulation.system.Responsive
  attends : ∀ pending ∈ simulation.system.calls, simulation.Attends pending
  ready : ∀ pending ∈ simulation.system.calls, pending.stage = .flushing (some (.ok ())) →
    pending.call < simulation.workers.length → .call pending.call ∈ simulation.system.ready
  storage : ∀ waiter ∈ simulation.system.storageWorker.waiters,
    simulation.workers.length ≤ waiter
  somewhat : ∀ source, (simulation.draw source).1.modes ≠ []

section

variable {before after : Simulation Source} {counted : List TransactionId}

/-- A call goes on waiting while its worker does and the records in the lock become fewer. -/
theorem Attends.lasts {pending : PendingCall Ledger Int64} (attends : before.Attends pending)
    (workers : after.workers[pending.call]? = before.workers[pending.call]?)
    (clock : after.system.clock = before.system.clock)
    (fewer : ∀ worker, before.workers[pending.call]? = some worker →
      ∀ member ∈ after.system.lock.members,
        worker.activity.awaits? = some member.transaction → member ∈ before.system.lock.members) :
    after.Attends pending := by
  refine ⟨attends.quiet, ?_, ?_⟩
  · rw [workers]
    exact attends.waits
  · intro answered worker there transaction awaits member resident named
    rw [workers] at there
    rw [clock]
    exact attends.grants answered worker there transaction awaits member
      (fewer worker there member resident (named ▸ awaits)) named

/-! Workers -/

theorem Serves.turns {number : Nat} {view' : WorkerView} {action : Option LedgerAction}
    (serves : before.Serves after number view' after.tally after.begun action)
    (worker : SimulationWorker Source) (there : before.workers[number]? = some worker)
    (moves : before.pool.Moves before.system.clock worker.view view' after.tally after.begun action)
    (alone : ∀ (place : Nat) (other : WorkerView), place ≠ number →
      before.pool.views[place]? = some other → other.isRefused = false) :
    before.pool.Turns after.pool before.system.clock number worker.view view' action := by
  obtain ⟨source, workers⟩ := serves.workers
  refine ⟨?_, ?_, alone, serves.config, moves, serves.complete.lock, serves.complete.handed⟩
  · simp [pool, there]
  · simp only [pool, workers, List.map_set]
    rfl

/-- The task of the worker whose turn it is has been taken from those that are ready. -/
theorem Serves.orderly {number : Nat} {view view' : WorkerView} {tally : Tally} {begun : Nat}
    {action : Option LedgerAction} {counted' : List TransactionId}
    (serves : (before.without (.call number)).Serves after number view' tally begun action)
    (orderly : before.Orderly) (sound : before.pool.Sound counted)
    (fares : before.pool.Fares after.pool counted counted' number view view') :
    after.Orderly := by
  obtain ⟨source, workers⟩ : ∃ source,
      after.workers = before.workers.set number ⟨source, view'.activity, view'.inbox⟩ :=
    serves.workers
  have length : after.workers.length = before.workers.length := by
    rw [workers, List.length_set]
  constructor
  · exact serves.complete.responsive
  · intro pending present
    rcases serves.calls pending present with ⟨old, other⟩ | ⟨rfl, quiet, unanswered, waits⟩
    · have elsewhere : after.workers[pending.call]? = before.workers[pending.call]? := by
        rw [workers, List.getElem?_set_ne (Ne.symm other)]
      apply (orderly.attends pending old).lasts elsewhere serves.complete.clock
      intro worker there member resident awaits
      have viewed : before.pool.views[pending.call]? = some worker.view := by simp [pool, there]
      exact fares.others member resident (fares.stranger sound pending.call worker.view other viewed
        _ (worker.activity.awaits?_transaction? _ awaits))
    · refine ⟨quiet, ?_, fun answered => absurd answered unanswered⟩
      intro worker there
      have within := (List.getElem?_eq_some_iff.mp there).1
      rw [length] at within
      rw [workers, List.getElem?_set_self within] at there
      rw [← Option.some.inj there]
      exact waits
  · intro pending present answered within
    rcases serves.calls pending present with ⟨old, other⟩ | ⟨_, _, unanswered, _⟩
    · apply serves.complete.ready
      exact (List.mem_erase_of_ne (by simpa using other)).mpr
        (orderly.ready pending old answered (length ▸ within))
    · exact absurd answered unanswered
  · intro waiter kept
    rw [length]
    rcases serves.complete.asks waiter kept with old | new
    · exact orderly.storage waiter old
    · cases new
  · rw [serves.draw]
    exact orderly.somewhat

/-! Other tasks -/

/-- Whoever takes a turn that is no worker's leaves the workers waiting. -/
theorem Orderly.rests (orderly : before.Orderly) (task : Task)
    (foreign : ∀ number < before.workers.length, task ≠ .call number)
    (workers : after.workers = before.workers) (draw : after.draw = before.draw)
    {action : Option LedgerAction} {asking : List CallId}
    (complete : (before.without task).system.CompletePiece after.system action asking)
    (asks : ∀ waiter ∈ asking, before.workers.length ≤ waiter)
    (fewer : ∀ member ∈ after.system.lock.members, member ∈ before.system.lock.members)
    (calls : ∀ pending ∈ after.system.calls, pending ∈ before.system.calls ∨
      (after.Attends pending ∧ (pending.stage = .flushing (some (.ok ())) →
        pending.call < before.workers.length → .call pending.call ∈ after.system.ready))) :
    after.Orderly := by
  constructor
  · exact complete.responsive
  · intro pending present
    rcases calls pending present with old | ⟨attends, _⟩
    · exact (orderly.attends pending old).lasts (by rw [workers]) complete.clock
        fun _ _ member resident _ => fewer member resident
    · exact attends
  · intro pending present answered within
    rw [workers] at within
    rcases calls pending present with old | ⟨_, ready⟩
    · apply complete.ready
      exact (List.mem_erase_of_ne (foreign pending.call within).symm).mpr
        (orderly.ready pending old answered within)
    · exact ready answered within
  · intro waiter kept
    rw [workers]
    rcases complete.asks waiter kept with old | new
    · exact orderly.storage waiter old
    · exact asks waiter new
  · rw [draw]
    exact orderly.somewhat

theorem pool_rests {task : Task} {asking : List CallId}
    (config : after.config = before.config) (workers : after.workers = before.workers)
    (tally : after.tally = before.tally) (begun : after.begun = before.begun)
    (complete : (before.without task).system.CompletePiece after.system none asking) :
    after.pool = before.pool := by
  obtain ⟨delivered, handed, perm⟩ := complete.handed
  have lock : after.system.lock = before.system.lock := complete.lock
  have same : after.system.handed = before.system.handed := by
    rw [handed, List.perm_nil.mp perm]
    rfl
  simp only [pool, config, workers, tally, begun, lock, same]

/-- An answer to those who waited for a run. -/
theorem Orderly.answered (orderly : before.Orderly) (waiters : List CallId)
    (system : LedgerSystem) {task : Task}
    (answers : (before.without task).system.Answers system waiters)
    (grants : ∀ pending ∈ system.calls, pending.call ∈ waiters →
      ∀ worker, before.workers[pending.call]? = some worker →
        { before with system }.Grants worker.activity) :
    ∀ pending ∈ system.calls, pending ∈ before.system.calls ∨
      ({ before with system }.Attends pending ∧ (pending.stage = .flushing (some (.ok ())) →
        pending.call < before.workers.length → .call pending.call ∈ system.ready)) := by
  intro pending present
  rcases answers pending present with old | ⟨waits, good, ready, asked, there, named⟩
  · exact .inl old
  · refine .inr ⟨⟨by rw [good]; rfl, ?_, fun _ => grants pending present waits⟩, fun _ _ => ready⟩
    exact named ▸ (orderly.attends asked there).waits

theorem storageTurn_orderly (orderly : before.Orderly) :
    let system := (before.without .storage).system.storageTurn
    { before with system }.Orderly ∧ { before with system }.pool = before.pool := by
  intro system
  obtain ⟨complete, answers⟩ :=
    System.storageTurn_complete _ (without_responsive orderly.responsive .storage)
  have lock : system.lock = before.system.lock := complete.lock
  constructor
  · refine orderly.rests .storage (by simp) rfl rfl complete (by simp) ?_ ?_
    · exact fun member present => lock ▸ present
    · refine orderly.answered _ _ answers ?_
      intro pending _ waits worker there
      have within := (List.getElem?_eq_some_iff.mp there).1
      exact absurd (orderly.storage _ waits) (Nat.not_le.mpr within)
  · exact pool_rests rfl rfl rfl rfl complete

theorem lockTurn_orderly (orderly : before.Orderly) (timed : before.system.lock.IsTimed)
    (alone : ∀ view ∈ before.pool.views, view.isRefused = false) :
    let system := (before.without .lock).system.lockTurn
    { before with system }.Orderly ∧
      before.pool.PoolStep before.system.clock { before with system }.pool [] := by
  intro system
  obtain ⟨complete, calls⟩ := System.lockTurn_complete _ (without_responsive orderly.responsive .lock)
  have look : (before.without .lock).system.lookAction? = none ∨
      (before.without .lock).system.lookAction? = some .tick := by
    unfold System.lookAction?
    split
    · exact .inr rfl
    · exact .inl rfl
  rcases look with none | tick
  · rw [none] at complete calls
    have same : system.calls = before.system.calls := by
      rcases calls with same | ⟨⟨⟩, _⟩
      exact same
    have lock : system.lock = before.system.lock := complete.lock
    constructor
    · exact orderly.rests .lock (by simp) rfl rfl complete (by simp)
        (fun member present => lock ▸ present) fun pending present => .inl (same ▸ present)
    · have rests : { before with system }.pool = before.pool :=
        pool_rests rfl rfl rfl rfl complete
      rw [rests]
      exact .rests
  · rw [tick] at complete
    have lock : system.lock =
        before.system.lock.perform before.system.clock (.tick : LedgerAction) := complete.lock
    constructor
    · refine orderly.rests .lock (by simp) rfl rfl complete (by simp) ?_ ?_
      · intro member present
        rw [lock] at present
        exact before.system.lock.tick_subset before.system.clock member present
      · rcases calls with same | ⟨_, waiters, answers⟩
        · exact fun pending present => .inl (same ▸ present)
        · refine orderly.answered waiters _ answers ?_
          intro pending _ _ worker _ transaction _ member resident _
          have clock : system.clock = before.system.clock := complete.clock
          have early : ∀ left ∈ (before.system.lock.perform before.system.clock
              (.tick : LedgerAction)).members, before.system.clock < left.deadline :=
            before.system.lock.tick_early timed before.system.clock
          rw [← lock, ← clock] at early
          exact early member resident
    · exact .looks _ ⟨rfl, rfl, rfl, rfl, lock, complete.handed, alone⟩

/-! The last task -/

structure SparesWorkers (before after : Simulation Source) : Prop where
  config : after.config = before.config
  draw : after.draw = before.draw
  workers : after.workers = before.workers
  tally : after.tally = before.tally
  begun : after.begun = before.begun
  complete : ∃ asking, before.system.CompletePiece after.system none asking ∧
    ∀ waiter ∈ asking, waiter = before.mainCall
  calls : ∀ pending ∈ after.system.calls, pending ∈ before.system.calls ∨
    (pending.call = before.mainCall ∧ pending.stage.isQuiet = true)
  concludes : before.pool.Concludes after.main

theorem SparesWorkers.since {calls : List (PendingCall Ledger Int64)} {mainInbox : Option LedgerAnswer}
    (sparesWorkers : SparesWorkers { before with system := { before.system with calls }, mainInbox } after)
    (kept : ∀ pending ∈ calls, pending ∈ before.system.calls) : before.SparesWorkers after := by
  obtain ⟨asking, complete, asks⟩ := sparesWorkers.complete
  exact ⟨sparesWorkers.config, sparesWorkers.draw, sparesWorkers.workers, sparesWorkers.tally,
    sparesWorkers.begun,
    ⟨asking, ⟨complete.clock, complete.lock, complete.handed, complete.responsive, complete.ready,
      complete.asks⟩, asks⟩,
    fun pending present => (sparesWorkers.calls pending present).imp_left (kept pending),
    sparesWorkers.concludes⟩

theorem main_sparesWorkers (responsive : before.system.Responsive) (main : MainActivity)
    (concludes : before.pool.Concludes main) : before.SparesWorkers { before with main } :=
  ⟨rfl, rfl, rfl, rfl, rfl, ⟨[], before.system.complete_refl responsive, by simp⟩,
    fun _ present => .inl present, concludes⟩

theorem mainAwaits_sparesWorkers (responsive : before.system.Responsive) (main : MainActivity)
    (request : LedgerRequest) (through : ∀ record outcome, request ≠ .handOver record outcome)
    (idle : before.system.requestAction? request = none) (concludes : before.pool.Concludes main) :
    before.SparesWorkers (before.mainAwaits main request) := by
  have begins := before.system.begin_begins responsive before.mainCall request through
  rw [idle] at begins
  have asks : ∀ waiter ∈ System.asking before.mainCall request, waiter = before.mainCall := by
    intro waiter asks
    cases request with
    | flushStorage => exact List.mem_singleton.mp asks
    | _ => cases asks
  have calls : ∀ pending ∈ (before.system.begin before.mainCall request).1.calls,
      pending ∈ before.system.calls ∨
        (pending.call = before.mainCall ∧ pending.stage.isQuiet = true) := by
    intro pending present
    exact (begins.calls pending present).imp_right fun ⟨named, fresh, _⟩ =>
      ⟨named, pending.stage.isFresh_isQuiet fresh⟩
  simp only [mainAwaits]
  split
  · exact ⟨rfl, rfl, rfl, rfl, rfl, ⟨_, begins.complete.readied _ fun task there =>
      List.mem_cons_of_mem _ there, asks⟩, calls, concludes⟩
  · exact ⟨rfl, rfl, rfl, rfl, rfl, ⟨_, begins.complete, asks⟩, calls, concludes⟩

theorem isIdle_members (lock : Lock Ledger) (idle : lock.snapshot.isIdle = true) :
    lock.members = [] := by
  cases present : lock.group with
  | none => exact lock.members_none present
  | some group =>
      rw [lock.members_some group present]
      have order := group.members.mergeSort_perm TransactionRecord.listsBefore
      have nobody : group.members.mergeSort TransactionRecord.listsBefore = [] := by
        simpa [Lock.snapshot, present, LockSnapshot.isIdle, LockGroup.transactions] using idle
      rw [nobody] at order
      exact List.nil_perm.mp order

theorem report_concludes (responsive : before.system.Responsive) (closed : before.pool.IsOver)
    (empty : before.pool.lock.members = []) :
    before.pool.Concludes (.finished (.ok before.report)) := by
  have commits : before.report.commitsEnqueued = before.pool.committed.length := by
    rw [pool_committed responsive.prompt, List.length_map]
    rfl
  have handed := before.system.handed_length
  rw [← responsive.prompt.commits, ← responsive.prompt.aborts, OutcomeQueue.committed, List.length_reverse]
    at handed
  refine .reported before.report closed empty rfl commits ?_
  rw [← commits]
  exact handed

theorem mainReact_sparesWorkers (responsive : before.system.Responsive) (answer : LedgerAnswer)
    (concludes : before.pool.Concludes before.main) : before.SparesWorkers (before.mainReact answer) := by
  have same := main_sparesWorkers responsive before.main concludes
  have fails (error : SimulationError) : before.SparesWorkers (before.conclude error) :=
    main_sparesWorkers responsive _ (.failed error)
  cases main : before.main with
  | joining | finished result =>
      simp only [mainReact, main]
      exact same
  | pausing deadline =>
      rw [main] at concludes
      cases concludes with
      | pausing _ closed =>
          simp only [mainReact, main]
          exact mainAwaits_sparesWorkers responsive _ .recover (by simp) rfl (.settling deadline closed)
  | settling deadline =>
      rw [main] at concludes
      cases concludes with
      | settling _ closed =>
          cases answer with
          | flushed flush =>
              cases flush with
              | error stopped =>
                  simp only [mainReact, main]
                  exact fails _
              | ok nothing =>
                  simp only [mainReact, main]
                  split
                  · rename_i idle
                    exact mainAwaits_sparesWorkers responsive _ .flushStorage (by simp) rfl
                      (.flushing closed (isIdle_members _ idle))
                  · split
                    · exact fails _
                    · exact mainAwaits_sparesWorkers responsive _ (.sleep _) (by simp) rfl
                        (.pausing deadline closed)
          | _ =>
              simp only [mainReact, main]
              exact same
  | flushing =>
      rw [main] at concludes
      cases concludes with
      | flushing closed empty =>
          cases answer with
          | flushed flush =>
              cases flush with
              | error stopped =>
                  simp only [mainReact, main]
                  exact fails _
              | ok nothing =>
                  simp only [mainReact, main]
                  exact main_sparesWorkers responsive _ (report_concludes responsive closed empty)
          | _ =>
              simp only [mainReact, main]
              exact same

theorem mainTurn_kept (answer : LedgerAnswer) (waiting : before.main.IsWaiting)
    (kept : before.mainInbox = some answer) :
    before.mainTurn = { before with mainInbox := none }.mainReact answer := by
  cases main : before.main with
  | joining | finished result =>
      rw [main] at waiting
      cases waiting
  | _ => simp only [mainTurn, main, kept]

theorem mainTurn_resumed (waiting : before.main.IsWaiting) (nothing : before.mainInbox = none) :
    before.mainTurn =
      match before.system.resume before.mainCall with
      | (system, none) => { before with system }
      | (system, some answer) => { before with system }.mainReact answer := by
  cases main : before.main with
  | joining | finished result =>
      rw [main] at waiting
      cases waiting
  | _ =>
      simp only [mainTurn, main, nothing]
      rcases before.system.resume before.mainCall with ⟨system, _ | answer⟩ <;> rfl

theorem mainTurn_sparesWorkers (responsive : before.system.Responsive)
    (quiet : ∀ pending ∈ before.system.calls, pending.stage.isQuiet = true)
    (concludes : before.pool.Concludes before.main) : before.SparesWorkers before.mainTurn := by
  have same := main_sparesWorkers responsive before.main concludes
  -- Whatever it waits for, it deals with the answer once that is there.
  have goesOn (waiting : before.main.IsWaiting) : before.SparesWorkers before.mainTurn := by
    cases kept : before.mainInbox with
    | some answer =>
        let taken := { before with mainInbox := none }
        have rests : taken.system.Responsive := responsive
        rw [mainTurn_kept answer waiting kept]
        exact SparesWorkers.since (mainReact_sparesWorkers rests answer concludes) fun _ kept => kept
    | none =>
        have resumes := before.system.resume_resumes before.mainCall quiet
        rw [mainTurn_resumed waiting kept]
        generalize before.system.resume before.mainCall = resumed at resumes ⊢
        cases resumes with
        | waits calls still unanswered =>
            let waited := { before with system := { before.system with calls } }
            have rests : waited.system.Responsive := responsive.recall calls
            exact SparesWorkers.since (main_sparesWorkers rests waited.main concludes) still
        | answered calls answer pending still present named yields =>
            let waited := { before with system := { before.system with calls } }
            have rests : waited.system.Responsive := responsive.recall calls
            exact SparesWorkers.since (mainReact_sparesWorkers rests answer concludes)
              fun other member => (still other member).1
  cases main : before.main with
  | finished result =>
      simp only [mainTurn, main]
      exact same
  | joining =>
      simp only [mainTurn, main]
      split
      · rename_i finished
        have closed : before.pool.IsOver := by
          intro view present
          obtain ⟨worker, there, rfl⟩ := List.mem_map.mp present
          have done : worker.activity = .finished := by
            simpa using List.all_eq_true.mp finished worker there
          exact done
        exact mainAwaits_sparesWorkers responsive _ .recover (by simp) rfl (.settling _ closed)
      · exact same
  | settling | pausing | flushing =>
      apply goesOn
      rw [main]
      trivial

theorem mainTurn_orderly (orderly : before.Orderly)
    (concludes : before.pool.Concludes before.main) (number : Nat)
    (other : before.workers.length ≤ number) :
    let after := (before.without (.call number)).mainTurn
    after.Orderly ∧ after.workers = before.workers ∧ after.pool = before.pool ∧
      before.pool.Concludes after.main := by
  intro after
  have sparesWorkers := mainTurn_sparesWorkers (without_responsive orderly.responsive (.call number))
    (fun pending present => (orderly.attends pending present).quiet) concludes
  obtain ⟨asking, complete, asks⟩ := sparesWorkers.complete
  have lock : after.system.lock = before.system.lock := complete.lock
  have nobody : after.workers[before.mainCall]? = none := by
    rw [sparesWorkers.workers]
    exact List.getElem?_eq_none (Nat.le_refl _)
  refine ⟨?_, sparesWorkers.workers,
    pool_rests sparesWorkers.config sparesWorkers.workers sparesWorkers.tally sparesWorkers.begun
      complete,
    sparesWorkers.concludes⟩
  refine orderly.rests (.call number) ?_ sparesWorkers.workers sparesWorkers.draw complete ?_ ?_ ?_
  · rintro place within same
    cases same
    exact absurd within (Nat.not_lt.mpr other)
  · exact fun waiter new => Nat.le_of_eq (asks waiter new).symm
  · exact fun member present => lock ▸ present
  · intro pending present
    rcases sparesWorkers.calls pending present with old | ⟨named, quiet⟩
    · exact .inl old
    · have own : pending.call = before.mainCall := named
      refine .inr ⟨⟨quiet, ?_, ?_⟩, ?_⟩
      · rw [own, nobody]
        rintro worker ⟨⟩
      · rw [own, nobody]
        rintro _ worker ⟨⟩
      · intro _ within
        rw [own] at within
        exact absurd within (Nat.lt_irrefl _)

/-! The clock -/

/-- Time passes only when nobody is ready, so nobody who was answered waits any longer. -/
theorem advance_orderly (orderly : before.Orderly) (idle : before.system.ready = [])
    (target : Instant) : (before.advance target).Orderly := by
  have unanswered : ∀ pending ∈ before.system.calls, pending.stage = .flushing (some (.ok ())) →
      ¬ pending.call < before.workers.length := by
    intro pending present answered within
    have ready := orderly.ready pending present answered within
    rw [idle] at ready
    cases ready
  have responsive := orderly.responsive
  constructor
  · exact ⟨responsive.prompt.congr rfl rfl, responsive.lock, responsive.storage⟩
  · intro pending present
    have attended := orderly.attends pending present
    refine ⟨attended.quiet, attended.waits, ?_⟩
    intro answered worker there
    exact absurd (List.getElem?_eq_some_iff.mp there).1 (unanswered pending present answered)
  · intro pending present answered within
    exact absurd within (unanswered pending present answered)
  · exact orderly.storage
  · exact orderly.somewhat

/-! Any event -/

def counts (simulation : Simulation Source) : SimulationEvent → List TransactionId
  | .turn (.call number) =>
      if (simulation.step (.turn (.call number))).tally.committed = simulation.tally.committed then []
      else
        (simulation.workers[number]?.bind fun worker => worker.activity.transaction?).toList
  | _ => []

theorem allows_alone (simulation : Simulation Source) (event : SimulationEvent)
    (allows : simulation.Allows event) (place : Nat) (view : WorkerView)
    (there : simulation.pool.views[place]? = some view) (other : event ≠ .turn (.call place)) :
    view.isRefused = false := by
  have found : (simulation.workers.map SimulationWorker.view)[place]? = some view := there
  rw [List.getElem?_map, Option.map_eq_some_iff] at found
  obtain ⟨worker, own, rfl⟩ := found
  exact Bool.eq_false_iff.mpr fun refused => other (allows.atOnce place worker own refused)

/-- Whoever was refused takes the next turn if tasks take them as they stand. -/
def Fronted (simulation : Simulation Source) : Prop :=
  ∀ number worker, simulation.workers[number]? = some worker → isRefused worker = true →
    simulation.system.ready.head? = some (.call number)

structure Keeps (simulation : Simulation Source) (counted : List TransactionId) : Prop where
  orderly : simulation.Orderly
  fronted : simulation.Fronted
  sound : simulation.pool.Sound counted
  balanced : simulation.pool.Balanced counted
  concludes : simulation.pool.Concludes simulation.main
  somebody : simulation.pool.views ≠ []
  limit : simulation.config.transactions ≤ 2 ^ 128
  positive : 1 ≤ simulation.config.maxAttempts

structure Brings (before after : Simulation Source) (counts : List TransactionId) : Prop where
  orderly : after.Orderly
  fronted : after.Fronted
  poolStep : before.pool.PoolStep before.system.clock after.pool counts
  concludes : after.pool.Concludes after.main

theorem Keeps.brings {counts : List TransactionId} (keeps : before.Keeps counted)
    (brings : before.Brings after counts) :
    after.config = before.config ∧ after.Keeps (counted ++ counts) := by
  have poolStep := brings.poolStep
  have config : after.config = before.config := poolStep.config
  refine ⟨config, brings.orderly, brings.fronted, poolStep.sound keeps.sound keeps.limit keeps.positive,
    poolStep.balanced keeps.sound keeps.limit keeps.balanced, brings.concludes, ?_, ?_, ?_⟩
  · intro nobody
    have length := poolStep.views_length
    rw [nobody] at length
    exact keeps.somebody (List.length_eq_zero_iff.mp length.symm)
  · rw [config]
    exact keeps.limit
  · rw [config]
    exact keeps.positive

/-- Nobody is refused when somebody else's turn begins. -/
theorem aside_fronted (event : SimulationEvent) (allows : before.Allows event)
    (workers : after.workers = before.workers)
    (aside : ∀ (place : Nat) (worker : SimulationWorker Source),
      before.workers[place]? = some worker → event ≠ .turn (.call place)) : after.Fronted := by
  intro place worker there refused
  rw [workers] at there
  exact absurd (allows.atOnce place worker there refused) (aside place worker there)

theorem step_unready (task : Task) (unready : task ∉ before.system.ready) :
    before.step (.turn task) = before := by
  cases task <;> simp [step, turnOf, System.turnOf, unready]

theorem step_storage (ready : .storage ∈ before.system.ready) : before.step (.turn .storage) =
    { before with system := (before.without .storage).system.storageTurn } := by
  simp only [step, turnOf, System.turnOf, ready, ↓reduceIte]
  rfl

theorem step_lock (ready : .lock ∈ before.system.ready) : before.step (.turn .lock) =
    { before with system := (before.without .lock).system.lockTurn } := by
  simp only [step, turnOf, System.turnOf, ready, ↓reduceIte]
  rfl

theorem step_main (number : Nat) (ready : .call number ∈ before.system.ready)
    (nobody : before.workers[number]? = none) :
    before.step (.turn (.call number)) = (before.without (.call number)).mainTurn := by
  simp only [step, turnOf, ready, ↓reduceIte, nobody]
  rfl

theorem step_worker (number : Nat) (ready : .call number ∈ before.system.ready)
    (worker : SimulationWorker Source) (there : before.workers[number]? = some worker) :
    before.step (.turn (.call number)) =
      (before.without (.call number)).workerTurn number worker := by
  simp only [step, turnOf, ready, ↓reduceIte, there]
  rfl

theorem storage_brings (keeps : before.Keeps counted) (allows : before.Allows (.turn .storage))
    (ready : .storage ∈ before.system.ready) : before.Brings (before.step (.turn .storage)) [] := by
  obtain ⟨orderly, pool⟩ := storageTurn_orderly keeps.orderly
  rw [step_storage ready]
  refine ⟨orderly, aside_fronted _ allows rfl (by simp), ?_, ?_⟩
  · rw [pool]
    exact .rests
  · rw [pool]
    exact keeps.concludes

theorem lock_brings (keeps : before.Keeps counted) (allows : before.Allows (.turn .lock))
    (ready : .lock ∈ before.system.ready) : before.Brings (before.step (.turn .lock)) [] := by
  have alone : ∀ view ∈ before.pool.views, view.isRefused = false := by
    intro view present
    obtain ⟨place, there⟩ := List.mem_iff_getElem?.mp present
    exact before.allows_alone _ allows place view there (by simp)
  obtain ⟨orderly, poolStep⟩ := lockTurn_orderly keeps.orderly keeps.sound.kept.timed alone
  rw [step_lock ready]
  exact ⟨orderly, aside_fronted _ allows rfl (by simp), poolStep, poolStep.concludes keeps.concludes⟩

theorem main_brings (keeps : before.Keeps counted) (number : Nat)
    (allows : before.Allows (.turn (.call number))) (ready : .call number ∈ before.system.ready)
    (nobody : before.workers[number]? = none) :
    before.Brings (before.step (.turn (.call number))) [] := by
  obtain ⟨orderly, workers, pool, concludes⟩ := mainTurn_orderly keeps.orderly keeps.concludes number
    (List.getElem?_eq_none_iff.mp nobody)
  rw [step_main number ready nobody]
  refine ⟨orderly, aside_fronted _ allows workers ?_, ?_, ?_⟩
  · rintro place worker there ⟨⟩
    rw [nobody] at there
    cases there
  · rw [pool]
    exact .rests
  · rw [pool]
    exact concludes

theorem worker_brings (keeps : before.Keeps counted) (number : Nat)
    (allows : before.Allows (.turn (.call number))) (ready : .call number ∈ before.system.ready)
    (worker : SimulationWorker Source) (there : before.workers[number]? = some worker) :
    before.Brings (before.step (.turn (.call number)))
      (before.pool.counts (before.step (.turn (.call number))).pool worker.view) := by
  let resumed := before.without (.call number)
  let after := resumed.workerTurn number worker
  rw [step_worker number ready worker there]
  have orderly := keeps.orderly
  have alone : ∀ (place : Nat) (other : WorkerView), place ≠ number →
      before.pool.views[place]? = some other → other.isRefused = false := by
    intro place other different viewed
    exact before.allows_alone _ allows place other viewed (by simpa using Ne.symm different)
  have attends : ∀ pending ∈ resumed.system.calls, resumed.Attends pending := by
    intro pending present
    have attended := orderly.attends pending present
    exact ⟨attended.quiet, attended.waits, attended.grants⟩
  have present : worker.view ∈ before.pool.views :=
    List.mem_map_of_mem (List.mem_of_getElem? there)
  have planned : ∀ attempt, worker.activity.attempt? = some attempt → attempt.plan.modes ≠ [] :=
    fun attempt mine => (keeps.sound.fits _ present attempt mine).planned
  obtain ⟨view', action, serves, moves⟩ :=
    workerTurn_acts (without_responsive orderly.responsive (.call number))
    attends orderly.somewhat worker there (keeps.sound.stands _ present) planned
  have turns : before.pool.Turns after.pool before.system.clock number worker.view view' action :=
    serves.turns worker there moves alone
  have poolStep := WorkerPool.PoolStep.turns _ number _ _ _ turns
  refine ⟨serves.orderly orderly keeps.sound (turns.fares keeps.sound keeps.limit keeps.positive),
    ?_, poolStep, ?_⟩
  · intro place other found refused
    obtain ⟨source, workers⟩ : ∃ source,
        after.workers = before.workers.set number ⟨source, view'.activity, view'.inbox⟩ :=
      serves.workers
    by_cases own : place = number
    · subst own
      have within := (List.getElem?_eq_some_iff.mp there).1
      rw [workers, List.getElem?_set_self within] at found
      apply serves.front
      intro nothing
      rw [← Option.some.inj found] at refused
      simp [isRefused, nothing] at refused
    · rw [workers, List.getElem?_set_ne (Ne.symm own)] at found
      exact absurd (allows.atOnce place other found refused) (by simpa using Ne.symm own)
  · have main : after.main = before.main := serves.main
    rw [main]
    exact poolStep.concludes keeps.concludes

theorem step_brings (keeps : before.Keeps counted) (event : SimulationEvent)
    (allows : before.Allows event) :
    before.Brings (before.step event) (before.counts event) := by
  cases event with
  | pass target =>
      exact ⟨advance_orderly keeps.orderly (allows.idle target rfl) target,
        aside_fronted _ allows rfl (by simp), .rests, keeps.concludes⟩
  | turn task =>
      by_cases ready : task ∈ before.system.ready
      · cases task with
        | storage => exact storage_brings keeps allows ready
        | lock => exact lock_brings keeps allows ready
        | call number =>
            cases there : before.workers[number]? with
            | some worker =>
                have counts : before.counts (.turn (.call number)) =
                    before.pool.counts (before.step (.turn (.call number))).pool worker.view := by
                  simp only [counts, there]
                  rfl
                rw [counts]
                exact worker_brings keeps number allows ready worker there
            | none =>
                have nothing : before.counts (.turn (.call number)) = [] := by simp [counts, there]
                rw [nothing]
                exact main_brings keeps number allows ready there
      · have same := step_unready task ready
        have nothing : before.counts (.turn task) = [] := by
          cases task with
          | call number => simp [counts, same]
          | storage | lock => rfl
        rw [same, nothing]
        exact ⟨keeps.orderly, keeps.fronted, .rests, keeps.concludes⟩

theorem step_keeps (keeps : before.Keeps counted) (event : SimulationEvent)
    (allows : before.Allows event) :
    (before.step event).config = before.config ∧
      (before.step event).Keeps (counted ++ before.counts event) :=
  keeps.brings (step_brings keeps event allows)

end

end Simulation

end WoundWait
