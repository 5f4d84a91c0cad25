import WoundWait.Proofs.TaskPlaces
import WoundWait.Proofs.SimulationTurns

/-!
What a worker or the last task does in its turn: it goes on waiting, or it does one thing within its
budget and waits for the next. Nobody else has anything to do with it.
-/

namespace WoundWait

def WorkerView.post : WorkerView → Post
  | ⟨.finished, _⟩ => .rest
  | ⟨.awaitingExit .., none⟩ => .run
  | ⟨.polling .., none⟩ | ⟨.backingOff .., none⟩ => .instant
  | _ => .turn

def MainActivity.budget (pause limit : Nat) (clock : Instant) : MainActivity → Nat
  | joining => 3 * limit + pause + 4
  | settling deadline => pollBudget pause (spanUntil clock deadline) + 2
  | pausing deadline => pollBudget pause (spanUntil clock deadline) + 3
  | flushing => 1
  | finished _ => 0

theorem MainActivity.budget_later (pause limit : Nat) (clock later : Instant) (passes : clock ≤ later)
    (main : MainActivity) : main.budget pause limit later ≤ main.budget pause limit clock := by
  cases main with
  | settling deadline | pausing deadline =>
      have less := pollBudget_less pause _ _ (spanUntil_later clock later deadline passes)
      simp only [budget]
      omega
  | _ => exact Nat.le_refl _

namespace System

section

variable {State Result : Type} {before after system : System State Result} {call : CallId}

theorem Errand.mono {action : Option (LockAction State Result)} {wait : Wait} {woken more : Nat}
    (errand : before.Errand after call action wait woken) (le : woken ≤ more) :
    before.Errand after call action wait more :=
  { errand with short := Nat.le_trans errand.short (Nat.add_le_add_left le _) }

theorem errand_refl (clear : ∀ pending ∈ system.calls, pending.call ≠ call) :
    system.Errand system call none .nothing 0 := by
  have all : system.calls.filter (fun pending => pending.call != call) = system.calls :=
    List.filter_eq_self.mpr fun pending present => bne_iff_ne.mpr (clear pending present)
  refine ⟨rfl, rfl, nofun, ?_, fun _ there _ => there, Nat.le_refl _, system.lockWorker.receives_refl,
    fun sent => absurd rfl sent, system.storageWorker.receives_refl, fun sent => absurd rfl sent, nofun⟩
  rw [all]
  exact (List.append_nil _).symm

end

theorem waitOf_until (clock : Instant) (request : LedgerRequest) :
    (waitOf clock request).until clock = wakesAt clock (some request) := by
  cases request with
  | sleep milliseconds =>
      cases milliseconds with
      | zero => exact (Int.add_zero clock).symm
      | succ before => rfl
  | _ => rfl

end System

namespace Simulation

variable {Source : Type}

def mainPause (simulation : Simulation Source) : Nat :=
  max simulation.config.retryBackoff 10

def mainPost (simulation : Simulation Source) : Post :=
  match simulation.main with
  | .joining => if simulation.allFinished then .turn else .rest
  | .settling _ | .flushing => .run
  | .pausing _ => .instant
  | .finished _ => .rest

def cleared (simulation : Simulation Source) (call : CallId) : Simulation Source :=
  { simulation with system := simulation.system.cleared call }

theorem cleared_idle (simulation : Simulation Source) (call : CallId)
    (idle : simulation.system.stage? call = none) : simulation.cleared call = simulation := by
  rw [cleared, System.cleared, System.stage?_clear idle]

/-! Workers -/

structure Carries (before after : Simulation Source) (number : Nat) (move : Move Source) : Prop where
  config : after.config = before.config
  draw : after.draw = before.draw
  main : after.main = before.main
  mainInbox : after.mainInbox = before.mainInbox
  begun : after.begun = move.simulation.begun
  errand : ∃ action wait, before.system.Errand after.system number action wait 3
  worker : ∃ worker : SimulationWorker Source, worker.activity = move.activity ∧
    after.workers = before.workers.set number worker ∧
    worker.view.post.Fits (after.system.stage? number) ∧
    (worker.view.post = .turn → .call number ∈ after.system.ready)
  resumes : after.system.goesOnAt number = wakesAt before.system.clock move.request
  tells : move.activity = .finished → .call before.mainCall ∈ after.system.ready

section

variable {simulation : Simulation Source} {number : Nat}

/-- A call goes with what the worker waits for afterwards. -/
theorem asks_post (pause : Nat) (activity : Activity) (request : LedgerRequest)
    (asks : activity.Asks pause (some request)) (clock : Instant) (inbox : Option LedgerAnswer)
    (answered : inbox = none ↔
      ((System.waitOf clock request).stage? : Option (Stage Ledger Int64)) ≠ none) :
    WorkerView.post ⟨activity, inbox⟩ = (System.waitOf clock request).post := by
  cases asks with
  | entering | givingWay | validating =>
      cases inbox with
      | none => exact absurd rfl (answered.mp rfl)
      | some answer => rfl
  | awaitingExit attempt deadline =>
      rw [answered.mpr (by simp [System.waitOf, System.Wait.stage?])]
      rfl
  | polling attempt deadline | backingOff attempt =>
      cases pause with
      | zero =>
          cases inbox with
          | none => exact absurd rfl (answered.mp rfl)
          | some answer => rfl
      | succ before =>
          rw [answered.mpr (by simp [System.waitOf, System.Wait.stage?])]
          rfl

/-- A move has its call begin in a system without one. -/
theorem Within.begins {move : Move Source} {budget : Nat} (within : simulation.Within move budget)
    (responsive : simulation.system.Responsive)
    (clear : ∀ pending ∈ simulation.system.calls, pending.call ≠ number) :
    move.simulation.system.Responsive ∧ move.simulation.system.clock = simulation.system.clock ∧
      ∀ pending ∈ move.simulation.system.calls, pending.call ≠ number := by
  rcases within.system with same | ⟨transaction, role, timestamp, resident, same, _⟩
  · rw [same]
    exact ⟨responsive, rfl, clear⟩
  · obtain ⟨clock, _, calls⟩ := simulation.system.assignRole_settings transaction role timestamp
    have complete :=
      (simulation.system.assignRole_complete responsive transaction role timestamp resident).1
    rw [same, calls]
    exact ⟨complete.responsive, clock, clear⟩

theorem Within.errand {move : Move Source} {budget : Nat} (within : simulation.Within move budget)
    (responsive : simulation.system.Responsive) {request : LedgerRequest}
    (asked : move.request = some request)
    {after : LedgerSystem} {wait : System.Wait} {woken : Nat}
    (errand : move.simulation.system.Errand after number
      (move.simulation.system.requestAction? request) wait woken) :
    ∃ action, simulation.system.Errand after number action wait (woken + 1) := by
  rcases within.system with same | ⟨transaction, role, timestamp, resident, same, recovers⟩
  · rw [same] at errand
    exact ⟨_, errand.mono (Nat.le_succ woken)⟩
  · obtain rfl := Option.some.inj (asked.symm.trans recovers)
    rw [same] at errand
    exact ⟨_, System.Errand.assigned responsive transaction role timestamp resident errand⟩

/-- Whoever has its answer at once goes round again. -/
theorem carryOut_asked (source : Source) (move : Move Source) (request : LedgerRequest)
    (asked : move.request = some request) (responsive : move.simulation.system.Responsive)
    (clear : ∀ pending ∈ move.simulation.system.calls, pending.call ≠ number) : ∃ ready,
      carryOut number source move =
        { move.simulation.setWorker number
            ⟨source, move.activity, (move.simulation.system.begin number request).2⟩ with
          system := { (move.simulation.system.begin number request).1 with ready } } ∧
      move.simulation.system.Errand { (move.simulation.system.begin number request).1 with ready }
        number (move.simulation.system.requestAction? request)
        (System.waitOf move.simulation.system.clock request) 2 ∧
      (System.waitOf move.simulation.system.clock request = .nothing → .call number ∈ ready) := by
  have begins := move.simulation.system.begin_errand responsive number request clear
  have answered := move.simulation.system.begin_waitOf responsive number request
  cases inbox : (move.simulation.system.begin number request).2 with
  | none =>
      refine ⟨_, ?_, begins.mono (Nat.le_succ 1), fun nothing => ?_⟩
      · simp only [carryOut, asked, inbox]
        rfl
      · exact absurd (by rw [nothing]; rfl) (answered.mp inbox)
  | some answer =>
      refine ⟨.call number :: _, ?_, begins.readied _ (fun _ => List.mem_cons_of_mem _)
        (Nat.le_refl _), fun _ => List.mem_cons_self⟩
      simp only [carryOut, asked, inbox]
      rfl

theorem carryOut_waits (responsive : simulation.system.Responsive)
    (clear : ∀ pending ∈ simulation.system.calls, pending.call ≠ number) (source : Source)
    (move : Move Source) (budget : Nat) (within : simulation.Within move budget)
    (request : LedgerRequest) (asked : move.request = some request) :
    simulation.Carries (carryOut number source move) number move := by
  obtain ⟨rests, clock, free⟩ := within.begins responsive clear
  have asks := within.asks
  rw [asked] at asks
  have post := asks_post _ _ request asks move.simulation.system.clock
    (move.simulation.system.begin number request).2
    (move.simulation.system.begin_waitOf rests number request)
  obtain ⟨ready, same, errand, round⟩ := carryOut_asked source move request asked rests free
  obtain ⟨action, whole⟩ := within.errand responsive asked errand
  rw [same]
  refine ⟨within.config, within.draw, within.main, within.mainInbox, rfl, ⟨action, _, whole⟩,
    ⟨⟨source, move.activity, (move.simulation.system.begin number request).2⟩, rfl, ?_, ?_, ?_⟩,
    ?_, ?_⟩
  · rw [← within.workers]
    rfl
  · have fits := whole.fits
    rwa [← post] at fits
  · intro turn
    apply round
    rw [SimulationWorker.view, post] at turn
    cases wait : System.waitOf move.simulation.system.clock request with
    | nothing => rfl
    | _ =>
        rw [wait] at turn
        cases turn
  · rw [whole.goesOnAt, ← clock, System.waitOf_until, asked]
  · intro finished
    rw [finished] at asks
    cases asks

/-- Whoever asks for nothing goes round again, or tells the last task that it has finished. -/
theorem Within.carryOut_unasked {move : Move Source} {budget : Nat}
    (within : simulation.Within move budget) (number : Nat) (source : Source)
    (asked : move.request = none)
    (idles : move.activity = .seeking ∨ move.activity = .finished) : ∃ ready,
      carryOut number source move =
        { move.simulation.setWorker number ⟨source, move.activity, none⟩ with
          system := { simulation.system with ready } } ∧
      (∀ task ∈ simulation.system.ready, task ∈ ready) ∧
      ready.length ≤ simulation.system.ready.length + 1 ∧
      (move.activity = .seeking → .call number ∈ ready) ∧
      (move.activity = .finished → .call simulation.mainCall ∈ ready) := by
  have same : move.simulation.system = simulation.system := by
    rcases within.system with same | ⟨_, _, _, _, _, recovers⟩
    · exact same
    · cases asked.symm.trans recovers
  rcases idles with activity | activity
  · rw [activity]
    refine ⟨.call number :: simulation.system.ready, ?_,
      fun _ there => List.mem_cons_of_mem _ there, Nat.le_refl _, fun _ => List.mem_cons_self, ?_⟩
    · simp only [carryOut, asked, activity, goRound, setWorker, same]
    · rintro ⟨⟩
  · rw [activity]
    have mainCall : move.simulation.mainCall = simulation.mainCall :=
      congrArg List.length within.workers
    have named : (move.simulation.setWorker number ⟨source, .finished, none⟩).mainCall =
        simulation.mainCall := List.length_set.trans mainCall
    refine ⟨Cooperative.enqueue simulation.system.ready (.call simulation.mainCall), ?_,
      fun task there => (System.mem_enqueue _ _ task).mpr (.inl there),
      System.enqueue_length _ _, ?_, fun _ => (System.mem_enqueue _ _ _).mpr (.inr rfl)⟩
    · simp only [carryOut, asked, activity, named, System.wake]
      rw [← same]
      rfl
    · rintro ⟨⟩

theorem carryOut_idles (clear : ∀ pending ∈ simulation.system.calls, pending.call ≠ number)
    (source : Source) (move : Move Source) (budget : Nat) (within : simulation.Within move budget)
    (asked : move.request = none) :
    simulation.Carries (carryOut number source move) number move := by
  have idles : move.activity = .seeking ∨ move.activity = .finished := by
    have asks := within.asks
    rw [asked] at asks
    generalize move.activity = activity at asks
    cases asks with
    | seeking => exact .inl rfl
    | finished => exact .inr rfl
  have idle := System.stage?_none.mpr clear
  obtain ⟨ready, carried, kept, more, own, told⟩ :=
    within.carryOut_unasked number source asked idles
  have errand := ((System.errand_refl clear).readied ready kept more).mono (Nat.le_add_left 1 2)
  rw [carried]
  refine ⟨within.config, within.draw, within.main, within.mainInbox, rfl, ⟨none, _, errand⟩,
    ⟨⟨source, move.activity, none⟩, rfl, ?_, ?_, ?_⟩, ?_, told⟩
  · rw [← within.workers]
    rfl
  · show (WorkerView.post ⟨move.activity, none⟩).Fits (simulation.system.stage? number)
    rw [idle]
    rcases idles with activity | activity
    · rw [activity]
      exact .turn
    · rw [activity]
      exact .rest
  · rcases idles with activity | activity
    · exact fun _ => own activity
    · rw [activity]
      rintro ⟨⟩
  · rw [errand.goesOnAt, asked]
    rfl

theorem carryOut_carries (responsive : simulation.system.Responsive)
    (clear : ∀ pending ∈ simulation.system.calls, pending.call ≠ number) (source : Source)
    (move : Move Source) (budget : Nat) (within : simulation.Within move budget) :
    simulation.Carries (carryOut number source move) number move := by
  cases asked : move.request with
  | some request => exact carryOut_waits responsive clear source move budget within request asked
  | none => exact carryOut_idles clear source move budget within asked

inductive WorkerTurns (simulation : Simulation Source) (number : Nat) (worker : SimulationWorker Source) :
    Simulation Source → Prop where
  | rests (waits : worker.view.post ≠ .turn) (unanswered : simulation.system.Unanswered number) :
      WorkerTurns simulation number worker simulation
  | acts (after : Simulation Source) (move : Move Source) (busy : worker.activity ≠ .finished)
      (within : (simulation.cleared number).Within move (simulation.means worker.activity))
      (carries : (simulation.cleared number).Carries after number move)
      (ends : simulation.system.Ends number) :
      WorkerTurns simulation number worker after

theorem post_kept (activity : Activity) (answer : LedgerAnswer) (busy : activity.attempt? ≠ none) :
    WorkerView.post ⟨activity, some answer⟩ = .turn := by
  cases activity with
  | seeking | finished => exact absurd rfl busy
  | _ => rfl

theorem hears_kept {lock : Lock Ledger} {activity : Activity} {answer : LedgerAnswer}
    (stands : Stands lock ⟨activity, some answer⟩) : activity.Hears answer := by
  cases stands with
  | admitted attempt seen mode rest balance => exact .entering attempt seen mode rest balance
  | refused attempt seen mode rest transaction holder =>
      exact .refused attempt seen mode rest transaction holder
  | broken attempt seen mode rest transaction context =>
      exact .broken attempt seen mode rest transaction context
  | givingWay attempt => exact .givingWay attempt answer
  | valid attempt seen record => exact .validating attempt seen .ok record
  | invalid attempt seen record => exact .validating attempt seen .brokenLock record
  | polling attempt deadline => exact .polling attempt deadline answer
  | backingOff attempt => exact .backingOff attempt answer

theorem hears_gets {lock : Lock Ledger} {activity : Activity} {answer : LedgerAnswer}
    (stands : Stands lock ⟨activity, none⟩) (gets : System.Gets (WorkerView.post ⟨activity, none⟩) answer) :
    activity.Hears answer := by
  cases stands with
  | seeking | finished => cases gets
  | awaiting attempt deadline =>
      cases gets
      exact .awaitingExit attempt deadline (.ok ())
  | polling attempt deadline => exact .polling attempt deadline answer
  | backingOff attempt => exact .backingOff attempt answer

theorem cleared_clear (pending : PendingCall Ledger Int64)
    (present : pending ∈ (simulation.cleared number).system.calls) : pending.call ≠ number :=
  bne_iff_ne.mp (List.mem_filter.mp present).2

theorem workerTurn_turns (responsive : simulation.system.Responsive)
    (distinct : (simulation.system.calls.map fun pending => pending.call).Nodup)
    (quiet : ∀ pending ∈ simulation.system.calls, pending.stage.isQuiet = true)
    (worker : SimulationWorker Source)
    (stands : Stands simulation.system.lock worker.view)
    (fits : worker.view.post.Fits (simulation.system.stage? number))
    (lasts : 1 ≤ simulation.config.retryBackoff) (attempts : 1 ≤ simulation.config.maxAttempts)
    (draws : ∀ source, (simulation.draw source).1.modes.length =
      simulation.config.operationsPerTransaction)
    (planned : ∀ attempt, worker.activity.attempt? = some attempt →
      attempt.plan.modes.length = simulation.config.operationsPerTransaction) :
    simulation.WorkerTurns number worker (simulation.workerTurn number worker) := by
  have rests : (simulation.cleared number).system.Responsive := responsive.recall _
  have acts (source : Source) (move : Move Source) (busy : worker.activity ≠ .finished)
      (within : (simulation.cleared number).Within move (simulation.means worker.activity))
      (ends : simulation.system.Ends number) :
      simulation.WorkerTurns number worker (carryOut number source move) :=
    .acts _ move busy within (carryOut_carries rests cleared_clear source move _ within) ends
  obtain ⟨source, activity, inbox⟩ := worker
  by_cases busy : activity.attempt? = none
  · cases stands with
    | seeking =>
        have idle := fits.idle (.inr rfl)
        have within : (simulation.cleared number).Within (simulation.seek source).1
            (simulation.means .seeking) := by
          rw [simulation.cleared_idle number idle]
          exact simulation.seek_within source attempts draws
        exact acts _ _ nofun within (System.ends_of_idle idle)
    | finished => exact .rests nofun (System.unanswered_of_idle (fits.idle (.inl rfl)))
    | _ => cases busy
  · have unfinished : activity ≠ .finished := by
      rintro rfl
      exact busy rfl
    cases inbox with
    | some answer =>
        have idle := fits.idle (.inr (post_kept activity answer busy))
        have within : (simulation.cleared number).Within (simulation.react activity answer)
            (simulation.means activity) := by
          rw [simulation.cleared_idle number idle]
          exact simulation.react_within lasts activity answer (hears_kept stands) planned
        rw [workerTurn_kept ⟨source, activity, some answer⟩ answer busy rfl]
        exact acts _ _ unfinished within (System.ends_of_idle idle)
    | none =>
        rw [workerTurn_resumed ⟨source, activity, none⟩ busy rfl]
        rcases System.resume_fits distinct quiet fits with
          ⟨same, unanswered⟩ | ⟨answer, done, gets, ends⟩
        · rw [same]
          refine .rests ?_ unanswered
          cases stands with
          | seeking | finished => exact absurd rfl busy
          | _ => nofun
        · rw [done]
          exact acts _ _ unfinished ((simulation.cleared number).react_within lasts activity answer
            (hears_gets stands gets) planned) ends

end

/-! The last task -/

inductive MainMoves (simulation : Simulation Source) :
    MainActivity → MainActivity → Option LedgerRequest → Prop where
  | joins (closed : simulation.allFinished = true) : MainMoves simulation .joining
      (.settling (simulation.system.clock + simulation.settleLimit)) (some .recover)
  | idles (deadline : Instant) (idle : simulation.system.lock.snapshot.isIdle = true) :
      MainMoves simulation (.settling deadline) .flushing (some .flushStorage)
  | fails (deadline : Instant) (busy : simulation.system.lock.snapshot.isIdle = false)
      (late : deadline ≤ simulation.system.clock) : MainMoves simulation (.settling deadline)
        (.finished (.error (.unsettled simulation.settleLimit))) none
  | pauses (deadline : Instant) (early : simulation.system.clock < deadline) :
      MainMoves simulation (.settling deadline) (.pausing deadline) (some (.sleep simulation.mainPause))
  | looks (deadline : Instant) :
      MainMoves simulation (.pausing deadline) (.settling deadline) (some .recover)
  | reports : MainMoves simulation .flushing (.finished (.ok simulation.report)) none

structure MainCarries (before after : Simulation Source) (main : MainActivity)
    (request : Option LedgerRequest) : Prop where
  config : after.config = before.config
  draw : after.draw = before.draw
  workers : after.workers = before.workers
  begun : after.begun = before.begun
  main : after.main = main
  mainInbox : after.mainInbox = none
  errand : before.system.Errand after.system before.mainCall none
    (request.elim .nothing (System.waitOf before.system.clock)) 1
  fits : after.mainPost.Fits (after.system.stage? before.mainCall)
  waits : after.mainPost ≠ .turn
  resumes : after.system.goesOnAt before.mainCall = wakesAt before.system.clock request

section

variable {simulation : Simulation Source}

theorem mainAwaits_carries (responsive : simulation.system.Responsive)
    (nothing : simulation.mainInbox = none)
    (clear : ∀ pending ∈ simulation.system.calls, pending.call ≠ simulation.mainCall)
    (main : MainActivity) (request : LedgerRequest)
    (idle : simulation.system.requestAction? request = none)
    (waits : ((System.waitOf simulation.system.clock request).stage? : Option (Stage Ledger Int64)) ≠
      none)
    (post : { simulation with main }.mainPost = (System.waitOf simulation.system.clock request).post) :
    simulation.MainCarries (simulation.mainAwaits main request) main (some request) := by
  have errand := simulation.system.begin_errand responsive simulation.mainCall request clear
  have unanswered := (simulation.system.begin_waitOf responsive simulation.mainCall request).mpr waits
  have same : simulation.mainAwaits main request =
      { simulation with system := (simulation.system.begin simulation.mainCall request).1, main } := by
    simp only [mainAwaits, unanswered, Option.isSome_none, Bool.false_eq_true, ↓reduceIte]
    rw [← nothing]
  rw [idle] at errand
  rw [same]
  refine ⟨rfl, rfl, rfl, rfl, rfl, nothing, errand, ?_, ?_, ?_⟩
  · have fits := errand.fits
    rwa [← post] at fits
  · show { simulation with main }.mainPost ≠ .turn
    rw [post]
    intro turn
    apply waits
    cases wait : System.waitOf simulation.system.clock request with
    | nothing => rfl
    | _ =>
        rw [wait] at turn
        cases turn
  · rw [errand.goesOnAt, System.waitOf_until]

theorem main_carries (before : Simulation Source) (nothing : before.mainInbox = none)
    (clear : ∀ pending ∈ before.system.calls, pending.call ≠ before.mainCall)
    (result : Except SimulationError SimulationReport) :
    before.MainCarries { before with main := .finished result } (.finished result) none := by
  have idle := System.stage?_none.mpr clear
  exact ⟨rfl, rfl, rfl, rfl, rfl, nothing, (System.errand_refl clear).mono (Nat.zero_le 1),
    idle.symm ▸ .rest, nofun, System.goesOnAt_idle idle⟩

inductive MainTurns (simulation : Simulation Source) : Simulation Source → Prop where
  | rests (waits : simulation.mainPost ≠ .turn)
      (unanswered : simulation.system.Unanswered simulation.mainCall) : MainTurns simulation simulation
  | acts (after : Simulation Source) (main : MainActivity) (request : Option LedgerRequest)
      (moves : simulation.MainMoves simulation.main main request)
      (carries : (simulation.cleared simulation.mainCall).MainCarries after main request)
      (ends : simulation.system.Ends simulation.mainCall) :
      MainTurns simulation after

theorem mainPause_pos (simulation : Simulation Source) : ∃ before, simulation.mainPause = before + 1 :=
  Nat.exists_eq_add_of_le' (Nat.le_trans (by decide : 1 ≤ 10) (Nat.le_max_right _ 10))

/-- The last task is asked to go on, and has nothing to do. -/
theorem mainTurn_idle (fits : simulation.mainPost.Fits (simulation.system.stage? simulation.mainCall))
    (post : simulation.mainPost = .rest) (same : simulation.mainTurn = simulation) :
    simulation.MainTurns simulation.mainTurn := by
  rw [same]
  exact .rests (Post.ne_turn post) (System.unanswered_of_idle (fits.idle (.inl post)))

theorem mainTurn_joins (responsive : simulation.system.Responsive)
    (fits : simulation.mainPost.Fits (simulation.system.stage? simulation.mainCall))
    (nothing : simulation.mainInbox = none) (main : simulation.main = .joining)
    (closed : simulation.allFinished = true) : simulation.MainTurns simulation.mainTurn := by
  have idle := fits.idle (.inr (by rw [mainPost, main]; exact if_pos closed))
  have alone := simulation.cleared_idle _ idle
  have same : simulation.mainTurn = simulation.mainAwaits
      (.settling (simulation.system.clock + simulation.settleLimit)) .recover := by
    simp only [mainTurn, main, closed, ↓reduceIte]
  have moves := MainMoves.joins closed
  rw [← main] at moves
  rw [same]
  refine .acts _ _ _ moves ?_ (System.ends_of_idle idle)
  rw [alone]
  exact mainAwaits_carries responsive nothing (System.stage?_none.mp idle) _ .recover rfl
    (Option.some_ne_none _) rfl

/-- Whatever the last task waits for, it goes on waiting or has the right answer. -/
theorem mainTurn_answered (distinct : (simulation.system.calls.map fun pending => pending.call).Nodup)
    (quiet : ∀ pending ∈ simulation.system.calls, pending.stage.isQuiet = true)
    (fits : simulation.mainPost.Fits (simulation.system.stage? simulation.mainCall))
    (nothing : simulation.mainInbox = none) (waiting : simulation.main.IsWaiting)
    (acts : ∀ answer, System.Gets simulation.mainPost answer →
      ∃ main request, simulation.MainMoves simulation.main main request ∧
        (simulation.cleared simulation.mainCall).MainCarries
          ((simulation.cleared simulation.mainCall).mainReact answer) main request) :
    simulation.MainTurns simulation.mainTurn := by
  rw [mainTurn_resumed waiting nothing]
  rcases System.resume_fits distinct quiet fits with ⟨same, unanswered⟩ | ⟨answer, done, gets, ends⟩
  · rw [same]
    refine .rests ?_ unanswered
    unfold mainPost
    cases main : simulation.main with
    | joining | finished =>
        rw [main] at waiting
        cases waiting
    | _ =>
        intro turn
        cases turn
  · rw [done]
    obtain ⟨main, request, moves, carries⟩ := acts answer gets
    exact .acts _ main request moves carries ends

/-- What the last task does after a look. -/
theorem mainReact_looked (responsive : simulation.system.Responsive) (nothing : simulation.mainInbox = none)
    (deadline : Instant) (main : simulation.main = .settling deadline) :
    ∃ main' request, simulation.MainMoves (.settling deadline) main' request ∧
      (simulation.cleared simulation.mainCall).MainCarries
        ((simulation.cleared simulation.mainCall).mainReact (.flushed (.ok ()))) main' request := by
  let cleared := simulation.cleared simulation.mainCall
  have rests : cleared.system.Responsive := responsive.recall _
  have clear : ∀ pending ∈ cleared.system.calls, pending.call ≠ cleared.mainCall := cleared_clear
  have same : cleared.main = .settling deadline := main
  show ∃ main' request, _ ∧ cleared.MainCarries (cleared.mainReact (.flushed (.ok ()))) main' request
  simp only [mainReact, same]
  by_cases idle : cleared.system.lock.snapshot.isIdle = true
  · simp only [idle, ↓reduceIte]
    exact ⟨_, _, .idles deadline idle,
      mainAwaits_carries rests nothing clear _ .flushStorage rfl (Option.some_ne_none _) rfl⟩
  · simp only [idle, Bool.false_eq_true, ↓reduceIte]
    by_cases late : deadline ≤ cleared.system.clock
    · simp only [late, ↓reduceIte]
      exact ⟨_, _, .fails deadline (Bool.eq_false_iff.mpr idle) late,
        main_carries cleared nothing clear _⟩
    · obtain ⟨before, lasts⟩ := simulation.mainPause_pos
      simp only [late, ↓reduceIte]
      refine ⟨_, _, .pauses deadline (Int.lt_of_not_ge late),
        mainAwaits_carries rests nothing clear _ (.sleep simulation.mainPause) rfl ?_ ?_⟩
      · rw [lasts]
        exact Option.some_ne_none _
      · rw [lasts]
        rfl

theorem mainTurn_turns (responsive : simulation.system.Responsive)
    (distinct : (simulation.system.calls.map fun pending => pending.call).Nodup)
    (quiet : ∀ pending ∈ simulation.system.calls, pending.stage.isQuiet = true)
    (fits : simulation.mainPost.Fits (simulation.system.stage? simulation.mainCall))
    (nothing : simulation.mainInbox = none) : simulation.MainTurns simulation.mainTurn := by
  let cleared := simulation.cleared simulation.mainCall
  have rests : cleared.system.Responsive := responsive.recall _
  have clear : ∀ pending ∈ cleared.system.calls, pending.call ≠ cleared.mainCall := cleared_clear
  cases main : simulation.main with
  | finished result =>
      exact mainTurn_idle fits (by rw [mainPost, main]) (by simp only [mainTurn, main])
  | joining =>
      by_cases closed : simulation.allFinished = true
      · exact mainTurn_joins responsive fits nothing main closed
      · refine mainTurn_idle fits ?_ ?_
        · rw [mainPost, main]
          exact if_neg closed
        · simp only [mainTurn, main, closed, Bool.false_eq_true, ↓reduceIte]
  | settling deadline =>
      refine mainTurn_answered distinct quiet fits nothing (by rw [main]; trivial) fun answer gets => ?_
      rw [mainPost, main] at gets
      cases gets
      rw [main]
      exact mainReact_looked responsive nothing deadline main
  | pausing deadline =>
      refine mainTurn_answered distinct quiet fits nothing (by rw [main]; trivial) fun answer gets => ?_
      have same : cleared.main = .pausing deadline := main
      rw [main]
      show ∃ main' request, _ ∧ cleared.MainCarries (cleared.mainReact answer) main' request
      simp only [mainReact, same]
      exact ⟨_, _, .looks deadline, mainAwaits_carries rests nothing clear _ .recover rfl
        (Option.some_ne_none _) rfl⟩
  | flushing =>
      refine mainTurn_answered distinct quiet fits nothing (by rw [main]; trivial) fun answer gets => ?_
      have same : cleared.main = .flushing := main
      rw [mainPost, main] at gets
      cases gets
      rw [main]
      show ∃ main' request, _ ∧ cleared.MainCarries (cleared.mainReact (.flushed (.ok ()))) main' request
      simp only [mainReact, same]
      exact ⟨_, _, .reports, main_carries cleared nothing clear _⟩

end

end Simulation

end WoundWait
