import WoundWait.Proofs.SimulationAccounting
import WoundWait.Proofs.PromptSystem

/-!
A worker's turn is one of its moves. Whatever call a worker makes is one action at most, and either
has its answer at once or waits for the lock's worker or for an instant.
-/

namespace WoundWait

namespace Lock

/-- Whoever knows its record finds it as it left it, or gone, and nothing is removed. -/
theorem validate_knows (lock : Lock Ledger) (transaction : TransactionId) (seen : AccessCounter)
    (knows : lock.Knows transaction seen) :
    (lock.validate transaction seen = .notResident ∧ lock.Absent transaction) ∨
      ∃ record, lock.validate transaction seen = .confirmed record := by
  cases found : lock.find? transaction with
  | none => exact .inl ⟨by simp [validate, found], (lock.find?_none transaction).mp found⟩
  | some record =>
      obtain ⟨resident, named⟩ := lock.find?_some transaction record found
      exact .inr ⟨record, by simp [validate, found, (knows record resident named).1]⟩

end Lock

namespace System

variable {State Result : Type}

/-- Tasks that become ready are no concern of the system's other parts. -/
theorem CompletePiece.readied {before after : System State Result}
    {action : Option (LockAction State Result)} {asking : List CallId} (complete : before.CompletePiece after action asking) (ready : List Task)
    (more : ∀ task ∈ after.ready, task ∈ ready) :
    before.CompletePiece { after with ready } action asking :=
  ⟨complete.clock, complete.lock, complete.handed,
    ⟨complete.responsive.prompt.congr rfl rfl, complete.responsive.lock,
      complete.responsive.storage⟩,
    fun task there => more task (complete.ready task there), complete.asks⟩

/-- An action that comes to nothing. -/
theorem CompletePiece.idle {before after : System State Result} {action : LockAction State Result}
    {asking : List CallId} (complete : before.CompletePiece after (some action) asking)
    (same : before.lock.perform before.clock action = before.lock)
    (nothing : before.lock.handsOver before.clock action = []) :
    before.CompletePiece after none asking := by
  obtain ⟨delivered, handed, perm⟩ := complete.handed
  have none : delivered.Perm [] := by rwa [← nothing]
  exact ⟨complete.clock, complete.lock.trans same, ⟨delivered, handed, none⟩,
    complete.responsive, complete.ready, complete.asks⟩

theorem Responsive.recall {system : System State Result} (responsive : system.Responsive)
    (calls : List (PendingCall State Result)) :
    ({ system with calls } : System State Result).Responsive :=
  ⟨responsive.prompt.congr rfl rfl, responsive.lock, responsive.storage⟩

end System

structure WorkerView.Waits (view : WorkerView) : Prop where
  unanswered : view.inbox = none
  busy : view.activity.attempt? ≠ none

namespace Simulation

variable {Source : Type}

def pool (simulation : Simulation Source) : WorkerPool :=
  { config := simulation.config
    lock := simulation.system.lock
    handed := simulation.system.handed
    tally := simulation.tally
    begun := simulation.begun
    views := simulation.workers.map SimulationWorker.view }

structure Serves (before after : Simulation Source) (number : Nat) (view' : WorkerView) (tally : Tally)
    (begun : Nat) (action : Option LedgerAction) : Prop where
  config : after.config = before.config
  draw : after.draw = before.draw
  main : after.main = before.main
  tally : after.tally = tally
  begun : after.begun = begun
  workers : ∃ source,
    after.workers = before.workers.set number ⟨source, view'.activity, view'.inbox⟩
  complete : before.system.CompletePiece after.system action []
  calls : ∀ pending ∈ after.system.calls,
    (pending ∈ before.system.calls ∧ pending.call ≠ number) ∨
      (pending.call = number ∧ pending.stage.isQuiet = true ∧
        pending.stage ≠ .flushing (some (.ok ())) ∧ view'.Waits)
  front : view'.inbox ≠ none → after.system.ready.head? = some (.call number)

def Acts (before after : Simulation Source) (number : Nat) (view : WorkerView) : Prop :=
  ∃ view' action, before.Serves after number view' after.tally after.begun action ∧
    before.pool.Moves before.system.clock view view' after.tally after.begun action

section

variable {before after : Simulation Source} {number : Nat} {view view' : WorkerView} {tally : Tally}
  {begun : Nat} {action : Option LedgerAction}

theorem Serves.acts (serves : before.Serves after number view' tally begun action)
    (moves : before.pool.Moves before.system.clock view view' tally begun action) :
    before.Acts after number view := by
  obtain ⟨rfl, rfl⟩ : after.tally = tally ∧ after.begun = begun := ⟨serves.tally, serves.begun⟩
  exact ⟨view', action, serves, moves⟩

/-- What was tallied before a call, and calls that are over, make no difference to what it does. -/
theorem Serves.since {calls : List (PendingCall Ledger Int64)} {tallied : Tally}
    {started decisions : Nat}
    (serves : Serves
      { before with
        system := { before.system with calls }, tally := tallied, begun := started, decisions }
      after number view' tally begun action)
    (kept : ∀ pending ∈ calls, pending ∈ before.system.calls) :
    before.Serves after number view' tally begun action := by
  refine ⟨serves.config, serves.draw, serves.main, serves.tally, serves.begun, serves.workers,
    ⟨serves.complete.clock, serves.complete.lock, serves.complete.handed, serves.complete.responsive,
      serves.complete.ready, serves.complete.asks⟩, ?_, serves.front⟩
  intro pending present
  exact (serves.calls pending present).imp_left (And.imp_left (kept pending))

end

section

variable (simulation : Simulation Source) (number : Nat) (source : Source) (activity : Activity)

/-- A worker that goes round again at once. -/
theorem carryOut_none (responsive : simulation.system.Responsive)
    (clear : ∀ pending ∈ simulation.system.calls, pending.call ≠ number) :
    simulation.Serves (carryOut number source ⟨simulation, activity, none⟩) number
      ⟨activity, none⟩ simulation.tally simulation.begun none := by
  have same := simulation.system.complete_refl responsive
  have round : simulation.Serves
      ((simulation.setWorker number ⟨source, activity, none⟩).goRound (.call number)) number
      ⟨activity, none⟩ simulation.tally simulation.begun none :=
    ⟨rfl, rfl, rfl, rfl, rfl, ⟨source, rfl⟩,
      same.readied _ fun task there => List.mem_cons_of_mem _ there,
      fun pending present => .inl ⟨present, clear pending present⟩, fun _ => rfl⟩
  have woken : simulation.Serves
      { simulation.setWorker number ⟨source, activity, none⟩ with
        system := simulation.system.wake
          (.call (simulation.setWorker number ⟨source, activity, none⟩).mainCall) } number
      ⟨activity, none⟩ simulation.tally simulation.begun none :=
    ⟨rfl, rfl, rfl, rfl, rfl, ⟨source, rfl⟩,
      same.readied _ fun task there => (System.mem_enqueue _ _ task).mpr (.inl there),
      fun pending present => .inl ⟨present, clear pending present⟩, fun given => absurd rfl given⟩
  cases activity with
  | finished => exact woken
  | _ => exact round

theorem carryOut_some (responsive : simulation.system.Responsive)
    (clear : ∀ pending ∈ simulation.system.calls, pending.call ≠ number) (request : LedgerRequest)
    (through : ∀ record outcome, request ≠ .handOver record outcome)
    (modest : request ≠ .flushStorage) (busy : activity.attempt? ≠ none) :
    simulation.Serves (carryOut number source ⟨simulation, activity, some request⟩) number
      ⟨activity, (simulation.system.start number request).2.answer?⟩ simulation.tally
      simulation.begun (simulation.system.requestAction? request) := by
  have begins := simulation.system.begin_begins responsive number request through
  have nobody : System.asking number request = [] := by
    cases request with
    | flushStorage => exact absurd rfl modest
    | _ => rfl
  rw [nobody] at begins
  rw [← simulation.system.begin_answer]
  have calls : ∀ pending ∈ (simulation.system.begin number request).1.calls,
      (pending ∈ simulation.system.calls ∧ pending.call ≠ number) ∨
        (pending.call = number ∧ pending.stage.isQuiet = true ∧
          pending.stage ≠ .flushing (some (.ok ())) ∧
          WorkerView.Waits ⟨activity, (simulation.system.begin number request).2⟩) := by
    intro pending present
    rcases begins.calls pending present with old | ⟨named, fresh, unanswered⟩
    · exact .inl ⟨old, clear pending old⟩
    · refine .inr ⟨named, pending.stage.isFresh_isQuiet fresh, ?_, unanswered, busy⟩
      intro same
      rw [same] at fresh
      cases fresh
  simp only [carryOut]
  split
  · exact ⟨rfl, rfl, rfl, rfl, rfl, ⟨source, rfl⟩,
      begins.complete.readied _ fun task there => List.mem_cons_of_mem _ there, calls, fun _ => rfl⟩
  · rename_i unanswered
    refine ⟨rfl, rfl, rfl, rfl, rfl, ⟨source, rfl⟩, begins.complete, calls, fun given => ?_⟩
    exact absurd (Option.not_isSome_iff_eq_none.mp unanswered) given

end

/-! Moves -/

section

variable {simulation : Simulation Source} {number : Nat}

theorem operate_cons (attempt : Attempt) (seen : AccessCounter) (mode : AccessMode)
    (rest : List AccessMode) :
    simulation.operate attempt seen (mode :: rest) =
      ⟨simulation, .entering attempt seen mode rest, some (.enter (attempt.request seen mode))⟩ := rfl

theorem enters_serves (responsive : simulation.system.Responsive)
    (clear : ∀ pending ∈ simulation.system.calls, pending.call ≠ number) (source : Source)
    (attempt : Attempt) (seen : AccessCounter) (mode : AccessMode) (rest : List AccessMode) :
    simulation.Serves (carryOut number source (simulation.operate attempt seen (mode :: rest)))
      number
      ⟨.entering attempt seen mode rest, some
        (simulation.system.lock.reception simulation.system.clock (attempt.request seen mode))⟩
      simulation.tally simulation.begun (some (.enter (attempt.request seen mode))) := by
  have serves := simulation.carryOut_some number source (.entering attempt seen mode rest) responsive
    clear (.enter (attempt.request seen mode)) (by simp) (by simp) (by simp [Activity.attempt?])
  have action : simulation.system.requestAction? (.enter (attempt.request seen mode)) =
      some (.enter (attempt.request seen mode)) := if_pos responsive.prompt.queue.gate
  have answer : (simulation.system.start number (.enter (attempt.request seen mode))).2.answer? =
      some (simulation.system.lock.reception simulation.system.clock
        (attempt.request seen mode)) := by
    rw [(simulation.system.start_enter responsive.prompt number (attempt.request seen mode)).2,
      Lock.reception]
    cases simulation.system.lock.enter simulation.system.clock (attempt.request seen mode) <;> rfl
  rw [action, answer] at serves
  rw [operate_cons]
  exact serves

theorem validates_serves (responsive : simulation.system.Responsive)
    (clear : ∀ pending ∈ simulation.system.calls, pending.call ≠ number) (source : Source)
    (attempt : Attempt) (seen : AccessCounter)
    (knows : simulation.system.lock.Knows attempt.transaction seen) :
    ∃ status record, simulation.Serves
        (carryOut number source
          ⟨simulation, .validating attempt seen, some (.validate attempt.transaction seen)⟩)
        number ⟨.validating attempt seen, some (.validated status record)⟩ simulation.tally
        simulation.begun none ∧
      Stands simulation.system.lock
        ⟨.validating attempt seen, some (.validated status record)⟩ := by
  have serves := simulation.carryOut_some number source (.validating attempt seen) responsive clear
    (.validate attempt.transaction seen) (by simp) (by simp) (by simp [Activity.attempt?])
  have answer := (simulation.system.start_validate responsive.prompt number attempt.transaction seen).2
  have action : simulation.system.requestAction? (.validate attempt.transaction seen) =
      some (.validate attempt.transaction seen) := rfl
  rw [action, answer] at serves
  rcases simulation.system.lock.validate_knows attempt.transaction seen knows with
    ⟨gone, absent⟩ | ⟨record, confirmed⟩
  · have complete := serves.complete.idle (by simp [Lock.perform, gone]) (by simp [Lock.handsOver, gone])
    rw [gone] at serves
    exact ⟨.brokenLock, none, { serves with complete }, .invalid attempt seen none absent⟩
  · have complete := serves.complete.idle (by simp [Lock.perform, confirmed])
      (by simp [Lock.handsOver, confirmed])
    rw [confirmed] at serves
    exact ⟨.ok, some record, { serves with complete }, .valid attempt seen (some record) knows⟩

/-- A failed attempt is followed by a pause. -/
theorem pauses_serves (responsive : simulation.system.Responsive)
    (clear : ∀ pending ∈ simulation.system.calls, pending.call ≠ number) (source : Source)
    (activity : Activity) (busy : activity.attempt? ≠ none) (milliseconds : Nat) :
    ∃ inbox, simulation.Serves
      (carryOut number source ⟨simulation, activity, some (.sleep milliseconds)⟩) number
      ⟨activity, inbox⟩ simulation.tally simulation.begun none :=
  ⟨_, simulation.carryOut_some number source activity responsive clear (.sleep milliseconds) (by simp)
    (by simp) busy⟩

theorem breaks_acts (responsive : simulation.system.Responsive)
    (clear : ∀ pending ∈ simulation.system.calls, pending.call ≠ number) (source : Source)
    (view : WorkerView) (attempt : Attempt) (held : WorkerPool.Held view attempt)
    (absent : simulation.system.lock.Absent attempt.transaction)
    (uncommitted : view.activity.awaits? ≠ none →
      attempt.transaction ∉ simulation.pool.committed) :
    simulation.Acts (carryOut number source (simulation.breakAttempt attempt)) number view := by
  let failed := (simulation.breakAttempt attempt).simulation
  have rests : failed.system.Responsive := responsive
  obtain ⟨inbox, serves⟩ := pauses_serves rests clear source (.backingOff attempt)
    (by simp [Activity.attempt?]) simulation.config.retryBackoff
  have same : simulation.Serves _ number _ _ _ none := Serves.since serves fun _ kept => kept
  exact same.acts (.breaks view attempt inbox held absent uncommitted)

theorem givesWay_acts (responsive : simulation.system.Responsive)
    (clear : ∀ pending ∈ simulation.system.calls, pending.call ≠ number) (source : Source)
    (attempt : Attempt) (seen : AccessCounter) (mode : AccessMode) (rest : List AccessMode)
    (transaction holder : TransactionId) :
    simulation.Acts
      (carryOut number source
        (simulation.react (.entering attempt seen mode rest)
          (.entered (.error (.upgradeConflict transaction holder)))))
      number
      ⟨.entering attempt seen mode rest,
        some (.entered (.error (.upgradeConflict transaction holder)))⟩ := by
  let counted := simulation.tallied fun tally =>
    { tally with upgradeConflicts := tally.upgradeConflicts + 1 }
  have serves := counted.carryOut_some number source (.givingWay attempt) responsive clear
    (.rollback attempt.transaction false) (by simp) (by simp) (by simp [Activity.attempt?])
  rw [(counted.system.start_rollback responsive.prompt number attempt.transaction false).2] at serves
  have same : simulation.Serves _ number _ _ _ _ := Serves.since serves fun _ kept => kept
  exact same.acts (.givesWay attempt seen mode rest transaction holder .rolledBack)

theorem restarts_acts (responsive : simulation.system.Responsive)
    (clear : ∀ pending ∈ simulation.system.calls, pending.call ≠ number) (source : Source)
    (attempt : Attempt) (answer : LedgerAnswer) :
    simulation.Acts (carryOut number source (simulation.restart attempt)) number
      ⟨.givingWay attempt, some answer⟩ := by
  let failed := (simulation.restart attempt).simulation
  have rests : failed.system.Responsive := responsive
  obtain ⟨inbox, serves⟩ := pauses_serves rests clear source (.backingOff attempt)
    (by simp [Activity.attempt?]) simulation.config.retryBackoff
  have same : simulation.Serves _ number _ _ _ none := Serves.since serves fun _ kept => kept
  exact same.acts (.restarts attempt answer inbox)

theorem operates_acts (responsive : simulation.system.Responsive)
    (clear : ∀ pending ∈ simulation.system.calls, pending.call ≠ number) (source : Source)
    (attempt : Attempt) (seen : AccessCounter) (mode : AccessMode) (rest : List AccessMode)
    (balance : Int64)
    (knows : simulation.system.lock.Knows attempt.transaction (seen.record mode)) :
    simulation.Acts (carryOut number source (simulation.operate attempt (seen.record mode) rest))
      number ⟨.entering attempt seen mode rest, some (.entered (.ok balance))⟩ := by
  cases rest with
  | cons next rest =>
      have serves := enters_serves responsive clear source attempt (seen.record mode) next rest
      exact serves.acts (.enters _ attempt (seen.record mode) next rest _
        (.next attempt seen mode (next :: rest) balance))
  | nil =>
      by_cases abandons : attempt.plan.abandons = true
      · let left := simulation.tallied fun tally => { tally with abandoned := tally.abandoned + 1 }
        have serves := left.carryOut_none number source .seeking responsive clear
        have same : simulation.Serves _ number _ _ _ none := Serves.since serves fun _ kept => kept
        simp only [operate, abandons, ↓reduceIte]
        exact same.acts (.abandons attempt seen mode balance)
      · obtain ⟨status, record, serves, stands⟩ :=
          validates_serves responsive clear source attempt (seen.record mode) knows
        simp only [operate, abandons, Bool.false_eq_true, ↓reduceIte]
        exact serves.acts (.validates attempt seen mode balance status record stands)

theorem decides_acts (responsive : simulation.system.Responsive)
    (clear : ∀ pending ∈ simulation.system.calls, pending.call ≠ number) (source : Source)
    (attempt : Attempt) (seen : AccessCounter) (record : Option (TransactionRecord Ledger)) :
    simulation.Acts (carryOut number source (simulation.decide attempt seen)) number
      ⟨.validating attempt seen, some (.validated .ok record)⟩ := by
  by_cases resident : (simulation.system.lock.find? attempt.transaction).isSome = true
  · let role := if 0 < seen.writes then CommitRole.localCommit else CommitRole.readOnly
    have ready : role.isExitReady = true := by
      unfold role
      split <;> rfl
    obtain ⟨assigns, calls⟩ := simulation.system.assignRole_complete responsive attempt.transaction role
      simulation.decisions resident
    let system := simulation.system.assignRole attempt.transaction role simulation.decisions
    let decided := { simulation with system, decisions := simulation.decisions + 1 }
    have deadline : system.clock + system.lock.options.lockTimeout =
        simulation.system.clock + simulation.system.lock.options.lockTimeout := by
      rw [assigns.clock, assigns.lock, System.lockAfter_options]
    have serves := decided.carryOut_some number source
      (.awaitingExit attempt (system.clock + system.lock.options.lockTimeout)) assigns.responsive
      (fun pending present => clear pending (calls ▸ present)) .recover (by simp) (by simp)
      (by simp [Activity.attempt?])
    rw [(decided.system.start_recover assigns.responsive number).2, deadline] at serves
    have same : decide simulation attempt seen =
        ⟨decided, .awaitingExit attempt
          (simulation.system.clock + simulation.system.lock.options.lockTimeout),
          some .recover⟩ := by
      simp only [decide, resident, ↓reduceIte]
      rw [← deadline]
    have whole : simulation.Serves _ number _ _ _
        (some (.assignRole attempt.transaction role simulation.decisions)) :=
      ⟨serves.config, serves.draw, serves.main, serves.tally, serves.begun, serves.workers,
        assigns.andThen serves.complete, fun pending present =>
        (serves.calls pending present).imp_left (And.imp_left fun old => calls ▸ old), serves.front⟩
    rw [same]
    exact whole.acts (.decides attempt seen record role simulation.decisions ready resident)
  · have absent : simulation.system.lock.Absent attempt.transaction := by
      rw [Option.not_isSome_iff_eq_none] at resident
      exact (Lock.find?_none _ _).mp resident
    simp only [decide, resident, Bool.false_eq_true, ↓reduceIte]
    exact breaks_acts responsive clear source _ attempt (.validating attempt seen _) absent
      fun awaits => absurd rfl awaits

theorem pool_committed (prompt : simulation.system.Prompt) :
    simulation.pool.committed =
      simulation.system.queue.commits.map fun record => record.transaction := by
  have commits := List.reverse_injective prompt.commits
  rw [commits, List.map_map]
  rfl

/-- A record that is still there after a look has time left. -/
theorem checks_acts (responsive : simulation.system.Responsive)
    (clear : ∀ pending ∈ simulation.system.calls, pending.call ≠ number) (source : Source)
    (attempt : Attempt) (deadline : Instant)
    (leaves : simulation.system.lock.LeavesBy attempt.transaction deadline)
    (timely : ∀ member ∈ simulation.system.lock.members, member.transaction = attempt.transaction →
      simulation.system.clock < member.deadline) :
    simulation.Acts (carryOut number source (simulation.checkExit attempt deadline)) number
      ⟨.awaitingExit attempt deadline, none⟩ := by
  cases found : simulation.system.lock.find? attempt.transaction with
  | some record =>
      obtain ⟨resident, named⟩ := simulation.system.lock.find?_some _ record found
      have early : ¬ deadline ≤ simulation.system.clock := by
        have left := timely record resident named
        rw [leaves record resident named] at left
        exact Int.not_le.mpr left
      obtain ⟨inbox, serves⟩ := pauses_serves responsive clear source (.polling attempt deadline)
        (by simp [Activity.attempt?]) simulation.config.retryBackoff
      simp only [checkExit, found, Option.isSome_some, ↓reduceIte, early]
      exact serves.acts (.polls attempt deadline inbox (Option.isSome_of_eq_some found))
  | none =>
      have absent := (simulation.system.lock.find?_none _).mp found
      have committed : simulation.system.queue.isCommitted attempt.transaction = true ↔
          attempt.transaction ∈ simulation.pool.committed := by
        rw [pool_committed responsive.prompt]
        simp [OutcomeQueue.isCommitted]
      simp only [checkExit, found, Option.isSome_none, Bool.false_eq_true, ↓reduceIte]
      by_cases left : simulation.system.queue.isCommitted attempt.transaction = true
      · let counted := simulation.tallied fun tally =>
          { tally with committed := tally.committed + 1 }
        have serves := counted.carryOut_none number source .seeking responsive clear
        have same : simulation.Serves _ number _ _ _ none := Serves.since serves fun _ kept => kept
        simp only [left, ↓reduceIte]
        exact same.acts (.commits attempt deadline (committed.mp left))
      · simp only [left, Bool.false_eq_true, ↓reduceIte]
        exact breaks_acts responsive clear source _ attempt (.awaiting attempt deadline) absent
          fun _ gone => left (committed.mpr gone)

theorem looks_acts (responsive : simulation.system.Responsive)
    (clear : ∀ pending ∈ simulation.system.calls, pending.call ≠ number) (source : Source)
    (attempt : Attempt) (deadline : Instant) (inbox : Option LedgerAnswer) :
    simulation.Acts
      (carryOut number source ⟨simulation, .awaitingExit attempt deadline, some .recover⟩) number
      ⟨.polling attempt deadline, inbox⟩ := by
  have serves := simulation.carryOut_some number source (.awaitingExit attempt deadline) responsive clear
    .recover (by simp) (by simp) (by simp [Activity.attempt?])
  rw [(simulation.system.start_recover responsive number).2] at serves
  exact serves.acts (.looks attempt deadline inbox)

theorem retries_acts (responsive : simulation.system.Responsive)
    (clear : ∀ pending ∈ simulation.system.calls, pending.call ≠ number) (source : Source)
    (attempt : Attempt) (inbox : Option LedgerAnswer) (planned : attempt.plan.modes ≠ []) :
    simulation.Acts (carryOut number source (simulation.retry attempt)) number
      ⟨.backingOff attempt, inbox⟩ := by
  by_cases left : attempt.number < simulation.config.maxAttempts
  · obtain ⟨mode, rest, modes⟩ := List.exists_cons_of_ne_nil planned
    have serves := enters_serves responsive clear source
      { attempt with number := attempt.number + 1 } .zero mode rest
    simp only [retry, left, ↓reduceIte, beginAttempt, modes]
    exact serves.acts (.enters _ _ .zero mode rest _ (.again attempt inbox left))
  · let lost := simulation.tallied fun tally => { tally with gaveUp := tally.gaveUp + 1 }
    have serves := lost.carryOut_none number source .seeking responsive clear
    have same : simulation.Serves _ number _ _ _ none := Serves.since serves fun _ kept => kept
    simp only [retry, left, ↓reduceIte]
    exact same.acts (.givesUp attempt inbox (Nat.le_of_not_lt left))

theorem seeks_acts (responsive : simulation.system.Responsive)
    (clear : ∀ pending ∈ simulation.system.calls, pending.call ≠ number) (source : Source)
    (somewhat : ∀ source, (simulation.draw source).1.modes ≠ []) :
    simulation.Acts (carryOut number (simulation.seek source).2 (simulation.seek source).1) number
      ⟨.seeking, none⟩ := by
  let begun := { simulation with begun := simulation.begun + 1 }
  have rests : begun.system.Responsive := responsive
  by_cases left : simulation.begun < simulation.config.transactions
  · obtain ⟨mode, rest, modes⟩ := List.exists_cons_of_ne_nil (somewhat source)
    have serves := enters_serves rests clear (simulation.draw source).2
      { transaction := .ofNat simulation.begun, priority := ⟨simulation.begun + 1⟩
        plan := (simulation.draw source).1, number := 1 } .zero mode rest
    have same : simulation.Serves _ number _ _ _ _ := Serves.since serves fun _ kept => kept
    simp only [seek, left, ↓reduceIte, beginAttempt, modes]
    exact same.acts (.enters _ _ .zero mode rest _ (.first _ _ left (somewhat source)))
  · have serves := begun.carryOut_none number source .finished rests clear
    have same : simulation.Serves _ number _ _ _ none := Serves.since serves fun _ kept => kept
    simp only [seek, left, ↓reduceIte]
    exact same.acts (.finishes (Nat.le_of_not_lt left))

/-! Turns -/

def Grants (simulation : Simulation Source) (activity : Activity) : Prop :=
  ∀ transaction, activity.awaits? = some transaction →
    ∀ member ∈ simulation.system.lock.members, member.transaction = transaction →
      simulation.system.clock < member.deadline

inductive Gets (simulation : Simulation Source) : WorkerView → LedgerAnswer → Prop where
  | kept (activity : Activity) (answer : LedgerAnswer) : Gets simulation ⟨activity, some answer⟩ answer
  | slept (activity : Activity) : Gets simulation ⟨activity, none⟩ .slept
  | flushed (activity : Activity) (grants : simulation.Grants activity) :
      Gets simulation ⟨activity, none⟩ (.flushed (.ok ()))

theorem reacts_acts (responsive : simulation.system.Responsive)
    (clear : ∀ pending ∈ simulation.system.calls, pending.call ≠ number) (source : Source)
    (view : WorkerView) (answer : LedgerAnswer) (gets : simulation.Gets view answer)
    (stands : Stands simulation.system.lock view)
    (planned : ∀ attempt, view.activity.attempt? = some attempt → attempt.plan.modes ≠ []) :
    simulation.Acts (carryOut number source (simulation.react view.activity answer)) number view := by
  cases stands with
  | seeking =>
      exact (simulation.carryOut_none number source .seeking responsive clear).acts (.stays _)
  | finished =>
      exact (simulation.carryOut_none number source .finished responsive clear).acts (.stays _)
  | admitted attempt seen mode rest balance knows =>
      cases gets with
      | kept => exact operates_acts responsive clear source attempt seen mode rest balance knows
  | refused attempt seen mode rest transaction holder =>
      cases gets with
      | kept => exact givesWay_acts responsive clear source attempt seen mode rest transaction holder
  | broken attempt seen mode rest transaction context counted absent =>
      cases gets with
      | kept =>
          exact breaks_acts responsive clear source _ attempt
            (.entering attempt seen mode rest transaction context) absent
            fun awaits => absurd rfl awaits
  | givingWay attempt given absent => exact restarts_acts responsive clear source attempt given
  | valid attempt seen record knows =>
      cases gets with
      | kept => exact decides_acts responsive clear source attempt seen record
  | invalid attempt seen record absent =>
      cases gets with
      | kept =>
          exact breaks_acts responsive clear source _ attempt (.validating attempt seen _) absent
            fun awaits => absurd rfl awaits
  | awaiting attempt deadline leaves =>
      cases gets with
      | slept =>
          exact (simulation.carryOut_none number source (.awaitingExit attempt deadline) responsive
            clear).acts (.stays _)
      | flushed _ grants =>
          exact checks_acts responsive clear source attempt deadline leaves
            (grants attempt.transaction rfl)
  | polling attempt deadline inbox leaves =>
      exact looks_acts responsive clear source attempt deadline inbox
  | backingOff attempt inbox absent =>
      exact retries_acts responsive clear source attempt inbox (planned attempt rfl)

structure Attends (simulation : Simulation Source) (pending : PendingCall Ledger Int64) : Prop where
  quiet : pending.stage.isQuiet = true
  waits : ∀ worker, simulation.workers[pending.call]? = some worker → worker.view.Waits
  grants : pending.stage = .flushing (some (.ok ())) →
    ∀ worker, simulation.workers[pending.call]? = some worker → simulation.Grants worker.activity

theorem workerTurn_kept (worker : SimulationWorker Source) (answer : LedgerAnswer)
    (busy : worker.activity.attempt? ≠ none) (kept : worker.inbox = some answer) :
    simulation.workerTurn number worker =
      carryOut number worker.source (simulation.react worker.activity answer) := by
  cases activity : worker.activity with
  | seeking | finished => exact absurd (by rw [activity]; rfl) busy
  | _ => simp only [workerTurn, activity, kept]

theorem workerTurn_resumed (worker : SimulationWorker Source)
    (busy : worker.activity.attempt? ≠ none) (nothing : worker.inbox = none) :
    simulation.workerTurn number worker =
      match simulation.system.resume number with
      | (system, none) => { simulation with system }
      | (system, some answer) =>
          carryOut number worker.source
            (react { simulation with system } worker.activity answer) := by
  cases activity : worker.activity with
  | seeking | finished => exact absurd (by rw [activity]; rfl) busy
  | _ =>
      simp only [workerTurn, activity, nothing]
      rcases simulation.system.resume number with ⟨system, _ | answer⟩ <;> rfl

/-- A worker that goes on waiting. -/
theorem waits_acts (responsive : simulation.system.Responsive)
    (attends : ∀ pending ∈ simulation.system.calls, simulation.Attends pending)
    (worker : SimulationWorker Source) (there : simulation.workers[number]? = some worker)
    (nothing : worker.inbox = none) (calls : List (PendingCall Ledger Int64))
    (kept : ∀ pending ∈ calls, pending ∈ simulation.system.calls)
    (unanswered : ∀ pending ∈ calls, pending.call = number →
      pending.stage ≠ .flushing (some (.ok ()))) :
    simulation.Acts { simulation with system := { simulation.system with calls } } number
      worker.view := by
  have same : simulation.workers.set number worker = simulation.workers := by
    obtain ⟨within, rfl⟩ := List.getElem?_eq_some_iff.mp there
    exact List.set_getElem_self within
  have complete := simulation.system.complete_refl responsive
  refine ⟨worker.view, none, ⟨rfl, rfl, rfl, rfl, rfl, ⟨worker.source, same.symm⟩,
    ⟨rfl, rfl, complete.handed, responsive.recall calls, complete.ready, complete.asks⟩, ?_,
    fun given => absurd nothing given⟩, .stays _⟩
  intro pending present
  by_cases own : pending.call = number
  · have attended := attends pending (kept pending present)
    exact .inr ⟨own, attended.quiet, unanswered pending present own,
      attended.waits worker (own ▸ there)⟩
  · exact .inl ⟨kept pending present, own⟩

theorem workerTurn_acts (responsive : simulation.system.Responsive)
    (attends : ∀ pending ∈ simulation.system.calls, simulation.Attends pending)
    (somewhat : ∀ source, (simulation.draw source).1.modes ≠ [])
    (worker : SimulationWorker Source) (there : simulation.workers[number]? = some worker)
    (stands : Stands simulation.system.lock worker.view)
    (planned : ∀ attempt, worker.activity.attempt? = some attempt → attempt.plan.modes ≠ []) :
    simulation.Acts (simulation.workerTurn number worker) number worker.view := by
  have waits : ∀ pending ∈ simulation.system.calls, pending.call = number → worker.view.Waits := by
    rintro pending present rfl
    exact (attends pending present).waits worker there
  by_cases busy : worker.activity.attempt? = none
  · -- Nobody waits for a call who is at no transaction.
    have clear : ∀ pending ∈ simulation.system.calls, pending.call ≠ number :=
      fun pending present own => (waits pending present own).busy busy
    obtain ⟨source, activity, inbox⟩ := worker
    cases stands with
    | seeking => exact seeks_acts responsive clear source somewhat
    | finished =>
        exact waits_acts responsive attends _ there rfl simulation.system.calls
          (fun _ present => present) fun pending present own => absurd own (clear pending present)
    | _ => cases busy
  · cases kept : worker.inbox with
    | some answer =>
        have clear : ∀ pending ∈ simulation.system.calls, pending.call ≠ number := by
          intro pending present own
          have unanswered := (waits pending present own).unanswered
          exact absurd (kept.symm.trans unanswered) (by simp)
        rw [workerTurn_kept worker answer busy kept]
        have view : worker.view = ⟨worker.activity, some answer⟩ := by rw [← kept]; rfl
        rw [view] at stands ⊢
        exact reacts_acts responsive clear worker.source _ answer (.kept worker.activity answer) stands
          planned
    | none =>
        have view : worker.view = ⟨worker.activity, none⟩ := by rw [← kept]; rfl
        have resumes := simulation.system.resume_resumes number
          fun pending present => (attends pending present).quiet
        rw [workerTurn_resumed worker busy kept]
        generalize simulation.system.resume number = resumed at resumes ⊢
        cases resumes with
        | waits calls still unanswered =>
            exact waits_acts responsive attends worker there kept calls still unanswered
        | answered calls answer pending still present named yields =>
            let waited := { simulation with system := { simulation.system with calls } }
            have rests : waited.system.Responsive := responsive.recall calls
            have gets : waited.Gets ⟨worker.activity, none⟩ answer := by
              have attended := attends pending present
              generalize stage : pending.stage = place at yields
              cases yields with
              | flushed => exact .flushed _ (attended.grants stage worker (named ▸ there))
              | slept => exact .slept _
            rw [view] at stands ⊢
            obtain ⟨view', action, serves, moves⟩ := reacts_acts rests
              (fun other member => (still other member).2) worker.source _ answer gets stands planned
            have since : simulation.Serves _ number _ _ _ _ :=
              Serves.since serves fun other member => (still other member).1
            exact since.acts moves

end

end Simulation

end WoundWait
