import WoundWait.Proofs.WorkerTurns

/-!
What is left to do at most. A worker's activity has a budget of moves and milliseconds; an attempt
has one for all attempts that may follow it, and a simulation one for the transactions that are
still to be begun. Every move of a worker leaves less.
-/

namespace WoundWait

def spanUntil (clock instant : Instant) : Nat :=
  (instant - clock).toNat

theorem spanUntil_later (clock later instant : Instant) (passes : clock ≤ later) :
    spanUntil later instant ≤ spanUntil clock instant :=
  Int.toNat_le_toNat (Int.sub_le_sub_left passes instant)

theorem spanUntil_pos (clock instant : Instant) (early : clock < instant) :
    1 ≤ spanUntil clock instant :=
  Int.pos_iff_toNat_pos.mp (Int.sub_pos_of_lt early)

@[simp] theorem spanUntil_add (clock : Instant) (span : Nat) : spanUntil clock (clock + span) = span := by
  unfold spanUntil
  omega

@[simp] theorem spanUntil_self (clock : Instant) : spanUntil clock clock = 0 := by
  unfold spanUntil
  omega

theorem spanUntil_max (clock instant : Instant) :
    spanUntil clock (max clock instant) = spanUntil clock instant := by
  show (max (clock : Int) instant - clock).toNat = (instant - clock).toNat
  omega

theorem spanUntil_less (clock later instant : Instant) (passes : clock < later)
    (early : clock < instant) : spanUntil later instant < spanUntil clock instant :=
  (Int.toNat_lt_toNat (Int.sub_pos_of_lt early)).mpr (Int.sub_lt_sub_left passes instant)

theorem spanUntil_sub (clock instant : Instant) (span : Nat) :
    spanUntil (clock + span) instant = spanUntil clock instant - span := by
  show (instant - (clock + (span : Int))).toNat = (instant - clock).toNat - span
  omega

/-- The budget for looks with a pause after each of them for the rest of a span. -/
def pollBudget (pause span : Nat) : Nat :=
  3 * span + if span = 0 then 0 else pause

/-- A look and the pause after it cost less than the time that passes, however long the pause. -/
theorem pollBudget_pause (pause span : Nat) (lasts : 1 ≤ pause) (left : 1 ≤ span) :
    pause + 2 + pollBudget pause (span - pause) ≤ pollBudget pause span := by
  unfold pollBudget
  split <;> split <;> omega

theorem pollBudget_less (pause span less : Nat) (shorter : less ≤ span) :
    pollBudget pause less ≤ pollBudget pause span := by
  unfold pollBudget
  split <;> split <;> omega

theorem pollBudget_le (pause span : Nat) : pollBudget pause span ≤ 3 * span + pause := by
  unfold pollBudget
  split <;> omega

namespace SimulationConfig

def attemptBudget (config : SimulationConfig) (lease : Nat) : Nat :=
  config.operationsPerTransaction + 3 * lease + 2 * config.retryBackoff + 3

def transactionBudget (config : SimulationConfig) (lease : Nat) : Nat :=
  config.maxAttempts * config.attemptBudget lease + 1

def queueBudget (config : SimulationConfig) (lease begun : Nat) : Nat :=
  (config.transactions - begun) * config.transactionBudget lease

end SimulationConfig

def Attempt.budget (attempt : Attempt) (config : SimulationConfig) (lease : Nat) : Nat :=
  (config.maxAttempts - attempt.number) * config.attemptBudget lease + 2

def Activity.budget (config : SimulationConfig) (lease : Nat) (clock : Instant) : Activity → Nat
  | seeking => 1
  | finished => 0
  | entering attempt _ _ rest =>
      attempt.budget config lease + 3 * lease + 2 * config.retryBackoff + 3 + rest.length
  | validating attempt _ => attempt.budget config lease + 3 * lease + 2 * config.retryBackoff + 2
  | awaitingExit attempt deadline =>
      attempt.budget config lease + pollBudget config.retryBackoff (spanUntil clock deadline) +
        config.retryBackoff + 1
  | polling attempt deadline =>
      attempt.budget config lease + pollBudget config.retryBackoff (spanUntil clock deadline) +
        config.retryBackoff + 2
  | givingWay attempt => attempt.budget config lease + config.retryBackoff + 1
  | backingOff attempt => attempt.budget config lease

theorem Activity.budget_later (config : SimulationConfig) (lease : Nat) (clock later : Instant)
    (passes : clock ≤ later) (activity : Activity) :
    activity.budget config lease later ≤ activity.budget config lease clock := by
  cases activity with
  | awaitingExit attempt deadline | polling attempt deadline =>
      have less := pollBudget_less config.retryBackoff _ _ (spanUntil_later clock later deadline passes)
      simp only [budget]
      omega
  | _ => exact Nat.le_refl _

inductive Activity.Asks (pause : Nat) : Activity → Option LedgerRequest → Prop where
  | seeking : Asks pause .seeking none
  | finished : Asks pause .finished none
  | entering (attempt : Attempt) (seen : AccessCounter) (mode : AccessMode) (rest : List AccessMode)
      (request : EntryRequest Ledger Int64) :
      Asks pause (.entering attempt seen mode rest) (some (.enter request))
  | givingWay (attempt : Attempt) (transaction : TransactionId) (notify : Bool) :
      Asks pause (.givingWay attempt) (some (.rollback transaction notify))
  | validating (attempt : Attempt) (seen counter : AccessCounter) (transaction : TransactionId) :
      Asks pause (.validating attempt seen) (some (.validate transaction counter))
  | awaitingExit (attempt : Attempt) (deadline : Instant) :
      Asks pause (.awaitingExit attempt deadline) (some .recover)
  | polling (attempt : Attempt) (deadline : Instant) :
      Asks pause (.polling attempt deadline) (some (.sleep pause))
  | backingOff (attempt : Attempt) : Asks pause (.backingOff attempt) (some (.sleep pause))

inductive Activity.Hears : Activity → LedgerAnswer → Prop where
  | entering (attempt : Attempt) (seen : AccessCounter) (mode : AccessMode) (rest : List AccessMode)
      (balance : Int64) : Hears (.entering attempt seen mode rest) (.entered (.ok balance))
  | refused (attempt : Attempt) (seen : AccessCounter) (mode : AccessMode) (rest : List AccessMode)
      (transaction holder : TransactionId) : Hears (.entering attempt seen mode rest)
        (.entered (.error (.upgradeConflict transaction holder)))
  | broken (attempt : Attempt) (seen : AccessCounter) (mode : AccessMode) (rest : List AccessMode)
      (transaction : TransactionId) (context : String) : Hears (.entering attempt seen mode rest)
        (.entered (.error (.brokenLock transaction context)))
  | givingWay (attempt : Attempt) (answer : LedgerAnswer) : Hears (.givingWay attempt) answer
  | validating (attempt : Attempt) (seen : AccessCounter) (status : TransactionalStatus)
      (record : Option (TransactionRecord Ledger)) :
      Hears (.validating attempt seen) (.validated status record)
  | awaitingExit (attempt : Attempt) (deadline : Instant) (answer : FlushAnswer) :
      Hears (.awaitingExit attempt deadline) (.flushed answer)
  | polling (attempt : Attempt) (deadline : Instant) (answer : LedgerAnswer) :
      Hears (.polling attempt deadline) answer
  | backingOff (attempt : Attempt) (answer : LedgerAnswer) : Hears (.backingOff attempt) answer

theorem System.assignRole_settings {State Result : Type} (system : System State Result)
    (transaction : TransactionId) (role : CommitRole) (timestamp : Timestamp) :
    (system.assignRole transaction role timestamp).clock = system.clock ∧
      (system.assignRole transaction role timestamp).lock.options = system.lock.options ∧
      (system.assignRole transaction role timestamp).calls = system.calls := by
  unfold assignRole
  split
  · have told := System.notifyLock_stretch
      { system with lock := system.lock.assignRole system.clock transaction role timestamp }
    exact ⟨told.clock, (congrArg Lock.options told.lock).trans rfl, told.calls⟩
  · exact ⟨rfl, rfl, rfl⟩

def wakesAt (clock : Instant) : Option LedgerRequest → Instant
  | some (.sleep milliseconds) => clock + milliseconds
  | _ => clock

namespace Simulation

variable {Source : Type}

def lease (simulation : Simulation Source) : Nat :=
  simulation.system.lock.options.lockTimeout

structure Within (simulation : Simulation Source) (move : Move Source) (budget : Nat) : Prop where
  config : move.simulation.config = simulation.config
  draw : move.simulation.draw = simulation.draw
  workers : move.simulation.workers = simulation.workers
  main : move.simulation.main = simulation.main
  mainInbox : move.simulation.mainInbox = simulation.mainInbox
  system : move.simulation.system = simulation.system ∨
    ∃ transaction role timestamp, (simulation.system.lock.find? transaction).isSome = true ∧
      move.simulation.system = simulation.system.assignRole transaction role timestamp ∧
      move.request = some .recover
  asks : move.activity.Asks simulation.config.retryBackoff move.request
  planned : ∀ attempt, move.activity.attempt? = some attempt →
    attempt.plan.modes.length = simulation.config.operationsPerTransaction
  spends : spanUntil simulation.system.clock (wakesAt simulation.system.clock move.request) +
      move.activity.budget simulation.config simulation.lease
        (wakesAt simulation.system.clock move.request) +
      simulation.config.queueBudget simulation.lease move.simulation.begun + 1 ≤ budget

section

variable (simulation : Simulation Source)

def means (activity : Activity) : Nat :=
  activity.budget simulation.config simulation.lease simulation.system.clock +
    simulation.config.queueBudget simulation.lease simulation.begun

/-- A failed attempt: whatever was tallied, the worker pauses. -/
theorem backingOff_within (attempt : Attempt) (tally : Tally) (budget : Nat)
    (planned : attempt.plan.modes.length = simulation.config.operationsPerTransaction)
    (enough : attempt.budget simulation.config simulation.lease + simulation.config.retryBackoff +
      simulation.config.queueBudget simulation.lease simulation.begun + 1 ≤ budget) :
    simulation.Within
      ⟨{ simulation with tally }, .backingOff attempt, some (.sleep simulation.config.retryBackoff)⟩
      budget := by
  refine ⟨rfl, rfl, rfl, rfl, rfl, .inl rfl, .backingOff attempt, ?_, ?_⟩
  · rintro other ⟨⟩
    exact planned
  · simp only [wakesAt, Activity.budget, spanUntil_add]
    omega

end

section

variable {simulation : Simulation Source}

/-- A worker that ends its attempt is worth less than any attempt. -/
theorem seeking_within (tally : Tally) (budget : Nat)
    (enough : simulation.config.queueBudget simulation.lease simulation.begun + 2 ≤ budget) :
    simulation.Within ⟨{ simulation with tally }, .seeking, none⟩ budget := by
  refine ⟨rfl, rfl, rfl, rfl, rfl, .inl rfl, .seeking, nofun, ?_⟩
  simp only [wakesAt, Activity.budget, spanUntil_self]
  omega

end

section

variable (simulation : Simulation Source) (attempt : Attempt)
  (planned : attempt.plan.modes.length = simulation.config.operationsPerTransaction)

include planned

theorem operate_within (seen : AccessCounter) (rest : List AccessMode) (budget : Nat)
    (enough : attempt.budget simulation.config simulation.lease + 3 * simulation.lease +
      2 * simulation.config.retryBackoff + 3 + rest.length +
      simulation.config.queueBudget simulation.lease simulation.begun ≤ budget) :
    simulation.Within (simulation.operate attempt seen rest) budget := by
  cases rest with
  | cons mode rest =>
      rw [List.length_cons] at enough
      refine ⟨rfl, rfl, rfl, rfl, rfl, .inl rfl, .entering attempt seen mode rest _, ?_, ?_⟩
      · rintro other ⟨⟩
        exact planned
      · simp only [operate, wakesAt, Activity.budget, spanUntil_self]
        omega
  | nil =>
      rw [List.length_nil] at enough
      simp only [operate]
      split
      · exact seeking_within _ budget (by simp only [Attempt.budget] at enough; omega)
      · refine ⟨rfl, rfl, rfl, rfl, rfl, .inl rfl, .validating attempt seen _ _, ?_, ?_⟩
        · rintro other ⟨⟩
          exact planned
        · simp only [wakesAt, Activity.budget, spanUntil_self]
          omega

theorem givingWay_within (tally : Tally) (notify : Bool) (budget : Nat)
    (enough : attempt.budget simulation.config simulation.lease + simulation.config.retryBackoff + 2 +
      simulation.config.queueBudget simulation.lease simulation.begun ≤ budget) :
    simulation.Within
      ⟨{ simulation with tally }, .givingWay attempt, some (.rollback attempt.transaction notify)⟩
      budget := by
  refine ⟨rfl, rfl, rfl, rfl, rfl, .inl rfl, .givingWay attempt _ _, ?_, ?_⟩
  · rintro other ⟨⟩
    exact planned
  · simp only [wakesAt, Activity.budget, spanUntil_self]
    omega

theorem decide_within (seen : AccessCounter) :
    simulation.Within (simulation.decide attempt seen)
      (simulation.means (.validating attempt seen)) := by
  simp only [decide]
  split
  · rename_i resident
    refine ⟨rfl, rfl, rfl, rfl, rfl, .inr ⟨_, _, _, resident, rfl, rfl⟩, .awaitingExit attempt _, ?_, ?_⟩
    · rintro other ⟨⟩
      exact planned
    · obtain ⟨clock, options, _⟩ := simulation.system.assignRole_settings attempt.transaction
        (if 0 < seen.writes then CommitRole.localCommit else CommitRole.readOnly) simulation.decisions
      have lease := congrArg Options.lockTimeout options
      have polls := pollBudget_le simulation.config.retryBackoff simulation.lease
      simp only [wakesAt, Activity.budget, spanUntil_self, clock, lease, spanUntil_add, means]
      simp only [Simulation.lease] at polls ⊢
      omega
  · exact backingOff_within _ attempt _ _ planned (by simp only [means, Activity.budget]; omega)

theorem checkExit_within (lasts : 1 ≤ simulation.config.retryBackoff) (deadline : Instant) :
    simulation.Within (simulation.checkExit attempt deadline)
      (simulation.means (.awaitingExit attempt deadline)) := by
  have breaks : simulation.Within (simulation.breakAttempt attempt)
      (simulation.means (.awaitingExit attempt deadline)) :=
    backingOff_within _ attempt _ _ planned (by simp only [means, Activity.budget]; omega)
  simp only [checkExit]
  split
  · split
    · exact breaks
    · rename_i early
      refine ⟨rfl, rfl, rfl, rfl, rfl, .inl rfl, .polling attempt deadline, ?_, ?_⟩
      · rintro other ⟨⟩
        exact planned
      · have left := spanUntil_pos simulation.system.clock deadline (Int.lt_of_not_ge early)
        have polls := pollBudget_pause simulation.config.retryBackoff _ lasts left
        simp only [wakesAt, Activity.budget, spanUntil_add, spanUntil_sub, means]
        omega
  · split
    · exact seeking_within _ _ (by simp only [means, Activity.budget, Attempt.budget]; omega)
    · exact breaks

theorem retry_within :
    simulation.Within (simulation.retry attempt) (simulation.means (.backingOff attempt)) := by
  simp only [retry]
  split
  · rename_i left
    apply operate_within simulation { attempt with number := attempt.number + 1 } planned
    have fewer : simulation.config.maxAttempts - attempt.number =
        simulation.config.maxAttempts - (attempt.number + 1) + 1 := by omega
    have modes : attempt.plan.modes.length = simulation.config.operationsPerTransaction := planned
    have cost : simulation.config.attemptBudget simulation.lease =
      simulation.config.operationsPerTransaction + 3 * simulation.lease +
        2 * simulation.config.retryBackoff + 3 := rfl
    simp only [means, Activity.budget, Attempt.budget, fewer, Nat.succ_mul]
    omega
  · exact seeking_within _ _ (by simp only [means, Activity.budget, Attempt.budget]; omega)

end

section

variable (simulation : Simulation Source)

theorem react_within (lasts : 1 ≤ simulation.config.retryBackoff) (activity : Activity)
    (answer : LedgerAnswer) (hears : activity.Hears answer)
    (planned : ∀ attempt, activity.attempt? = some attempt →
      attempt.plan.modes.length = simulation.config.operationsPerTransaction) :
    simulation.Within (simulation.react activity answer) (simulation.means activity) := by
  cases hears with
  | entering attempt seen mode rest balance =>
      exact operate_within simulation attempt (planned attempt rfl) _ rest _
        (by simp only [means, Activity.budget]; omega)
  | refused attempt seen mode rest transaction holder =>
      exact givingWay_within simulation attempt (planned attempt rfl) _ false _
        (by simp only [means, Activity.budget]; omega)
  | broken attempt seen mode rest transaction context =>
      exact backingOff_within simulation attempt _ _ (planned attempt rfl)
        (by simp only [means, Activity.budget]; omega)
  | givingWay attempt answer =>
      exact backingOff_within simulation attempt _ _ (planned attempt rfl)
        (by simp only [means, Activity.budget]; omega)
  | validating attempt seen status record =>
      have fails (tally : Tally) := backingOff_within simulation attempt tally
        (simulation.means (.validating attempt seen)) (planned attempt rfl)
        (by simp only [means, Activity.budget]; omega)
      cases status with
      | ok => exact decide_within simulation attempt (planned attempt rfl) seen
      | _ => exact fails _
  | awaitingExit attempt deadline answer =>
      cases answer with
      | ok nothing => exact checkExit_within simulation attempt (planned attempt rfl) lasts deadline
      | error stopped =>
          exact backingOff_within simulation attempt _ _ (planned attempt rfl)
            (by simp only [means, Activity.budget]; omega)
  | polling attempt deadline answer =>
      refine ⟨rfl, rfl, rfl, rfl, rfl, .inl rfl, .awaitingExit attempt deadline, planned, ?_⟩
      simp only [react, wakesAt, Activity.budget, spanUntil_self, means]
      omega
  | backingOff attempt answer => exact retry_within simulation attempt (planned attempt rfl)

theorem seek_within (source : Source) (attempts : 1 ≤ simulation.config.maxAttempts)
    (planned : ∀ source, (simulation.draw source).1.modes.length =
      simulation.config.operationsPerTransaction) :
    simulation.Within (simulation.seek source).1 (simulation.means .seeking) := by
  simp only [seek]
  split
  · rename_i left
    let begun := { simulation with begun := simulation.begun + 1 }
    have modes := planned source
    have fewer : simulation.config.transactions - simulation.begun =
        simulation.config.transactions - (simulation.begun + 1) + 1 := by omega
    have within := operate_within begun
      { transaction := .ofNat simulation.begun, priority := ⟨simulation.begun + 1⟩
        plan := (simulation.draw source).1, number := 1 } modes .zero
      (simulation.draw source).1.modes (simulation.means .seeking) ?_
    · exact ⟨within.config, within.draw, within.workers, within.main, within.mainInbox, within.system,
        within.asks, within.planned, within.spends⟩
    · have cost : simulation.config.attemptBudget simulation.lease =
        simulation.config.operationsPerTransaction + 3 * simulation.lease +
          2 * simulation.config.retryBackoff + 3 := rfl
      have first : simulation.config.maxAttempts = simulation.config.maxAttempts - 1 + 1 := by omega
      have whole : simulation.config.transactionBudget simulation.lease =
          (simulation.config.maxAttempts - 1) * simulation.config.attemptBudget simulation.lease +
            simulation.config.attemptBudget simulation.lease + 1 := by
        rw [SimulationConfig.transactionBudget, first, Nat.succ_mul, Nat.add_sub_cancel]
      have queue : simulation.config.queueBudget simulation.lease simulation.begun =
          simulation.config.queueBudget simulation.lease (simulation.begun + 1) +
            simulation.config.transactionBudget simulation.lease := by
        rw [SimulationConfig.queueBudget, SimulationConfig.queueBudget, fewer, Nat.succ_mul]
      show Attempt.budget _ simulation.config simulation.lease + 3 * simulation.lease +
        2 * simulation.config.retryBackoff + 3 + (simulation.draw source).1.modes.length +
        simulation.config.queueBudget simulation.lease (simulation.begun + 1) ≤ _
      simp only [means, Activity.budget, Attempt.budget]
      omega
  · rename_i none
    have nothing : simulation.config.transactions - simulation.begun = 0 ∧
        simulation.config.transactions - (simulation.begun + 1) = 0 := by omega
    refine ⟨rfl, rfl, rfl, rfl, rfl, .inl rfl, .finished, ?_, ?_⟩
    · rintro attempt ⟨⟩
    · simp only [wakesAt, Activity.budget, spanUntil_self, means, SimulationConfig.queueBudget,
        nothing]
      omega

end

end Simulation

end WoundWait
