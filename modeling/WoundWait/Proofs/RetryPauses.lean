import WoundWait.Proofs.SimulationTurns

/-!
The pause between two attempts. Only a worker that begins to pause asks how long it is to pause, and
the last task pauses for ten milliseconds at least; so as long as no worker pauses, a simulation
goes on in the same way whatever the pause.
-/

namespace WoundWait

def Activity.Sleeps : Activity → Prop
  | polling .. | backingOff _ => True
  | _ => False

namespace Simulation

variable {Source : Type}

def withPause (simulation : Simulation Source) (pause : Nat) : Simulation Source :=
  { simulation with config := { simulation.config with retryBackoff := pause } }

def Move.withPause (move : Move Source) (pause : Nat) : Move Source :=
  { move with simulation := move.simulation.withPause pause }

section

variable (simulation : Simulation Source) (pause : Nat) (number : Nat)

theorem operate_withPause (attempt : Attempt) (seen : AccessCounter) (modes : List AccessMode) :
    (simulation.withPause pause).operate attempt seen modes =
      (simulation.operate attempt seen modes).withPause pause := by
  cases modes with
  | nil =>
      simp only [operate]
      split <;> rfl
  | cons mode rest => rfl

theorem seek_withPause (source : Source) : (simulation.withPause pause).seek source =
    ((simulation.seek source).1.withPause pause, (simulation.seek source).2) := by
  let begun := { simulation with begun := simulation.begun + 1 }
  have left : (simulation.withPause pause).config.transactions = simulation.config.transactions := rfl
  have same : (simulation.withPause pause).begun = simulation.begun := rfl
  simp only [seek, left, same]
  split
  · exact Prod.ext (begun.operate_withPause pause _ .zero _) rfl
  · rfl

theorem carryOut_withPause (source : Source) (move : Move Source) :
    carryOut number source (move.withPause pause) = (carryOut number source move).withPause pause := by
  obtain ⟨moved, activity, request⟩ := move
  cases request with
  | none => cases activity <;> rfl
  | some request =>
      have same : (moved.withPause pause).system = moved.system := rfl
      simp only [carryOut, Move.withPause, same]
      cases (moved.system.begin number request).2 <;> rfl

/-- Only a request for a pause says how long it is. -/
theorem retry_withPause (attempt : Attempt) :
    (simulation.withPause pause).retry attempt = (simulation.retry attempt).withPause pause := by
  have limit : (simulation.withPause pause).config.maxAttempts = simulation.config.maxAttempts := rfl
  simp only [retry, limit]
  split
  · exact operate_withPause _ _ _ _ _
  · rfl

/-- Where the worker goes on without a pause, both simulations take the same branch. -/
theorem decide_withPause (attempt : Attempt) (seen : AccessCounter)
    (awake : ¬ (simulation.decide attempt seen).activity.Sleeps) :
    (simulation.withPause pause).decide attempt seen =
      (simulation.decide attempt seen).withPause pause := by
  have same : (simulation.withPause pause).system = simulation.system := rfl
  simp only [decide] at awake ⊢
  simp only [same]
  split at awake
  · rename_i resident
    simp only [if_pos resident]
    rfl
  · exact absurd trivial awake

theorem checkExit_withPause (attempt : Attempt) (deadline : Instant)
    (awake : ¬ (simulation.checkExit attempt deadline).activity.Sleeps) :
    (simulation.withPause pause).checkExit attempt deadline =
      (simulation.checkExit attempt deadline).withPause pause := by
  have same : (simulation.withPause pause).system = simulation.system := rfl
  simp only [checkExit] at awake ⊢
  simp only [same]
  split at awake
  · split at awake <;> exact absurd trivial awake
  · rename_i gone
    simp only [if_neg gone]
    split at awake
    · rename_i committed
      simp only [if_pos committed]
      rfl
    · exact absurd trivial awake

theorem react_withPause (activity : Activity) (answer : LedgerAnswer)
    (awake : ¬ (simulation.react activity answer).activity.Sleeps) :
    (simulation.withPause pause).react activity answer =
      (simulation.react activity answer).withPause pause := by
  unfold react at awake ⊢
  split at awake
  · exact operate_withPause _ _ _ _ _
  · rfl
  · exact absurd trivial awake
  · rfl
  · exact absurd trivial awake
  · exact decide_withPause _ _ _ _ awake
  · exact absurd trivial awake
  · exact absurd trivial awake
  · exact checkExit_withPause _ _ _ _ awake
  · exact absurd trivial awake
  · rfl
  · exact retry_withPause _ _ _
  · rfl

theorem mainAwaits_withPause (main : MainActivity) (request : LedgerRequest) :
    (simulation.withPause pause).mainAwaits main request =
      (simulation.mainAwaits main request).withPause pause := by
  have same : (simulation.withPause pause).system.begin (simulation.withPause pause).mainCall request =
      simulation.system.begin simulation.mainCall request := rfl
  simp only [mainAwaits, same]
  cases (simulation.system.begin simulation.mainCall request).2 <;> rfl

theorem mainReact_withPause (answer : LedgerAnswer)
    (same : max pause 10 = max simulation.config.retryBackoff 10) :
    (simulation.withPause pause).mainReact answer = (simulation.mainReact answer).withPause pause := by
  have sleeps : max (simulation.withPause pause).config.retryBackoff 10 =
      max simulation.config.retryBackoff 10 := same
  have kept : (simulation.withPause pause).main = simulation.main := rfl
  have system : (simulation.withPause pause).system = simulation.system := rfl
  simp only [mainReact, kept, system, sleeps]
  split
  · split
    · exact mainAwaits_withPause _ _ _ _
    · split
      · rfl
      · exact mainAwaits_withPause _ _ _ _
  · rfl
  · exact mainAwaits_withPause _ _ _ _
  · rfl
  · rfl
  · rfl

/-! Turns -/

theorem react_workers (activity : Activity) (answer : LedgerAnswer) :
    (simulation.react activity answer).simulation.workers = simulation.workers := by
  have operate (attempt : Attempt) (seen : AccessCounter) (modes : List AccessMode) :
      (simulation.operate attempt seen modes).simulation.workers = simulation.workers := by
    cases modes with
    | nil =>
        simp only [Simulation.operate]
        split <;> rfl
    | cons mode rest => rfl
  unfold react
  split
  · exact operate _ _ _
  · rfl
  · rfl
  · rfl
  · rfl
  · simp only [decide]
    split <;> rfl
  · rfl
  · rfl
  · simp only [checkExit]
    split
    · split <;> rfl
    · split <;> rfl
  · rfl
  · rfl
  · simp only [retry]
    split
    · exact operate _ _ _
    · rfl
  · rfl

theorem carryOut_activity (source : Source) (move : Move Source)
    (inside : number < move.simulation.workers.length) :
    ∃ worker, (carryOut number source move).workers[number]? = some worker ∧
      worker.activity = move.activity := by
  obtain ⟨moved, activity, request⟩ := move
  cases request with
  | none =>
      refine ⟨⟨source, activity, none⟩, ?_, rfl⟩
      cases activity <;> exact List.getElem?_set_self inside
  | some request =>
      refine ⟨⟨source, activity, (moved.system.begin number request).2⟩, ?_, rfl⟩
      simp only [carryOut]
      split <;> exact List.getElem?_set_self inside

end

def IsAwake (simulation : Simulation Source) (number : Nat) : Prop :=
  ∀ worker, simulation.workers[number]? = some worker → ¬ worker.activity.Sleeps

section

variable {simulation : Simulation Source} (pause : Nat) {number : Nat}

theorem carryOut_awake (source : Source) (move : Move Source)
    (inside : number < move.simulation.workers.length)
    (awake : (carryOut number source move).IsAwake number) : ¬ move.activity.Sleeps := by
  obtain ⟨worker, there, same⟩ := carryOut_activity number source move inside
  exact same ▸ awake worker there

theorem workerTurn_withPause (worker : SimulationWorker Source)
    (inside : number < simulation.workers.length)
    (awake : (simulation.workerTurn number worker).IsAwake number) :
    (simulation.withPause pause).workerTurn number worker =
      (simulation.workerTurn number worker).withPause pause := by
  -- Whatever it reacts to, it does not begin to pause.
  have reacts (activity : Activity) (answer : LedgerAnswer) (taken : Simulation Source)
      (workers : taken.workers = simulation.workers)
      (awake : (carryOut number worker.source (taken.react activity answer)).IsAwake number) :
      carryOut number worker.source ((taken.withPause pause).react activity answer) =
        (carryOut number worker.source (taken.react activity answer)).withPause pause := by
    have moved := carryOut_awake worker.source _ (by rwa [react_workers, workers]) awake
    rw [react_withPause taken pause activity answer moved]
    exact carryOut_withPause pause number worker.source _
  by_cases busy : worker.activity.attempt? = none
  · cases activity : worker.activity with
    | finished =>
        simp only [workerTurn, activity]
    | seeking =>
        simp only [workerTurn, activity]
        rw [seek_withPause]
        exact carryOut_withPause pause number _ _
    | _ =>
        rw [activity] at busy
        cases busy
  · cases kept : worker.inbox with
    | some answer =>
        rw [workerTurn_kept worker answer busy kept] at awake ⊢
        rw [workerTurn_kept worker answer busy kept]
        exact reacts worker.activity answer simulation rfl awake
    | none =>
        rw [workerTurn_resumed worker busy kept] at awake ⊢
        rw [workerTurn_resumed worker busy kept]
        have same : (simulation.withPause pause).system = simulation.system := rfl
        rw [same]
        generalize simulation.system.resume number = resumed at awake ⊢
        obtain ⟨system, answer⟩ := resumed
        cases answer with
        | none => rfl
        | some answer => exact reacts worker.activity answer { simulation with system } rfl awake

theorem mainTurn_withPause (same : max pause 10 = max simulation.config.retryBackoff 10) :
    (simulation.withPause pause).mainTurn = simulation.mainTurn.withPause pause := by
  have kept : (simulation.withPause pause).main = simulation.main := rfl
  have inbox : (simulation.withPause pause).mainInbox = simulation.mainInbox := rfl
  have resumes : (simulation.withPause pause).system.resume (simulation.withPause pause).mainCall =
      simulation.system.resume simulation.mainCall := rfl
  have closed : (simulation.withPause pause).allFinished = simulation.allFinished := rfl
  simp only [mainTurn, kept, inbox, resumes, closed]
  split
  · rfl
  · split
    · exact mainAwaits_withPause _ _ _ _
    · rfl
  · split
    · exact mainReact_withPause { simulation with mainInbox := none } pause _ same
    · split
      · rfl
      · exact mainReact_withPause { simulation with system := (simulation.system.resume _).1 } pause _
          same

/-! Events -/

theorem step_withPause (event : SimulationEvent)
    (same : max pause 10 = max simulation.config.retryBackoff 10)
    (awake : ∀ number, (simulation.step event).IsAwake number) :
    (simulation.withPause pause).step event = (simulation.step event).withPause pause := by
  cases event with
  | pass target => rfl
  | turn task =>
      cases task with
      | lock | storage => rfl
      | call number =>
          let paused := simulation.withPause pause
          let taken := simulation.without (.call number)
          by_cases ready : .call number ∈ simulation.system.ready
          swap
          · have unready : .call number ∉ paused.system.ready := ready
            rw [step_unready _ ready, step_unready _ unready]
          have ready' : .call number ∈ paused.system.ready := ready
          cases there : simulation.workers[number]? with
          | none =>
              have nobody : paused.workers[number]? = none := there
              rw [step_main number ready there, step_main number ready' nobody]
              have same' : max pause 10 = max taken.config.retryBackoff 10 := same
              exact mainTurn_withPause pause same'
          | some worker =>
              have there' : paused.workers[number]? = some worker := there
              rw [step_worker number ready worker there] at awake ⊢
              rw [step_worker number ready' worker there']
              have inside : number < taken.workers.length := (List.getElem?_eq_some_iff.mp there).1
              exact workerTurn_withPause pause worker inside (awake number)

theorem allows_withPause (event : SimulationEvent) (allows : (simulation.withPause pause).Allows event) :
    simulation.Allows event :=
  ⟨allows.atOnce, allows.idle⟩

end

end Simulation

end WoundWait
