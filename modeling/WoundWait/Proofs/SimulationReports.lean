import Mathlib
import WoundWait.Proofs.SimulationTurns

/-!
What a simulation reports. In whatever order the tasks take their turns, the figures of a report
agree with each other, and its commits are those in the queue.
-/

namespace WoundWait

namespace Simulation

variable {Source : Type}

def commits (simulation : Simulation Source) : List SimulationEvent → List TransactionId
  | [] => []
  | event :: later => simulation.counts event ++ (simulation.step event).commits later

theorem run_keeps (simulation : Simulation Source) (counted : List TransactionId)
    (events : List SimulationEvent) (keeps : simulation.Keeps counted)
    (allowed : simulation.Allowed events) :
    (simulation.run events).config = simulation.config ∧
      (simulation.run events).Keeps (counted ++ simulation.commits events) := by
  induction events generalizing simulation counted with
  | nil =>
      rw [commits, List.append_nil]
      exact ⟨rfl, keeps⟩
  | cons event later ih =>
      obtain ⟨config, next⟩ := step_keeps keeps event allowed.1
      obtain ⟨config', last⟩ := ih (simulation.step event) _ next allowed.2
      rw [List.append_assoc] at last
      exact ⟨config'.trans config, last⟩

/-! The start -/

theorem validated?_ok (config : SimulationConfig) (options : Options)
    (valid : validated? config options = .ok ()) :
    1 ≤ config.workers ∧ 1 ≤ config.operationsPerTransaction ∧ 1 ≤ config.maxAttempts := by
  have checked : config.validate = .ok () := by
    cases outcome : config.validate with
    | error error => simp [validated?, outcome] at valid
    | ok nothing => rfl
  unfold SimulationConfig.validate at checked
  by_cases workers : config.workers = 0
  · simp [workers] at checked
  by_cases operations : config.operationsPerTransaction = 0
  · simp [workers, operations] at checked
  by_cases attempts : config.maxAttempts = 0
  · simp [workers, operations, attempts] at checked
  exact ⟨Nat.pos_of_ne_zero workers, Nat.pos_of_ne_zero operations, Nat.pos_of_ne_zero attempts⟩

section

variable (config : SimulationConfig) (options : Options) (draw : Source → TransactionPlan × Source)
  (source : Nat → Source)

theorem new_views :
    (new config options draw source).pool.views =
      List.replicate config.workers ⟨.seeking, none⟩ := by
  rw [List.eq_replicate_iff]
  constructor
  · simp [pool, new]
  · intro view present
    simp only [pool, new, List.map_map, List.mem_map] at present
    obtain ⟨number, _, rfl⟩ := present
    rfl

theorem new_sound : (new config options draw source).pool.Sound [] := by
  have seeking : ∀ view ∈ (new config options draw source).pool.views, view = ⟨.seeking, none⟩ := by
    rw [new_views]
    exact fun view present => List.eq_of_mem_replicate present
  constructor
  · exact Lock.new_wellKept options
  · intro view present
    rw [seeking view present]
    exact .seeking
  · intro view present attempt mine
    rw [seeking view present] at mine
    cases mine
  · intro number other view another transaction there _ mine
    rw [seeking view (List.mem_of_getElem? there)] at mine
    cases mine
  · intro member present
    cases present
  · intro member present
    cases present
  · intro member present
    cases present
  · exact List.nodup_nil
  · intro transaction gone
    cases gone
  · intro transaction gone
    cases gone
  · exact List.nodup_nil
  · intro transaction done
    cases done
  · intro transaction done
    cases done
  · intro transaction done
    cases done

theorem new_balanced : (new config options draw source).pool.Balanced [] := by
  have nothing (weight : WorkerView → Nat) (idle : weight ⟨.seeking, none⟩ = 0) :
      (new config options draw source).pool.total weight = 0 := by
    apply WorkerPool.total_zero
    rw [new_views]
    intro view present
    rw [List.eq_of_mem_replicate present]
    exact idle
  constructor
  · rw [nothing WorkerView.holds rfl]
    rfl
  · rfl
  · rfl
  · rw [nothing WorkerView.yields rfl]
    rfl
  · rw [nothing WorkerView.busy rfl]
    exact (Nat.zero_min _).symm
  · rw [new_views]
    intro view present finished
    rw [List.eq_of_mem_replicate present] at finished
    cases finished
  · rw [nothing WorkerView.failures rfl]
    exact Nat.le_of_eq (Nat.zero_mul _)
  · exact Nat.zero_le _

theorem new_keeps (valid : validated? config options = .ok ())
    (limit : config.transactions ≤ 2 ^ 128)
    (planned : ∀ source, (draw source).1.modes.length = config.operationsPerTransaction) :
    (new config options draw source).Keeps [] := by
  obtain ⟨workers, operations, attempts⟩ := validated?_ok config options valid
  refine ⟨⟨⟨⟨OutcomeQueue.new_isPrompt, rfl, rfl⟩, rfl, rfl⟩, ?_, ?_, ?_, ?_⟩, ?_,
    new_sound config options draw source, new_balanced config options draw source, .joining, ?_,
    limit, attempts⟩
  · intro pending present
    cases present
  · intro pending present
    cases present
  · intro waiter kept
    cases kept
  · intro source
    rw [← List.length_pos_iff, show (new config options draw _).draw = draw from rfl, planned]
    exact operations
  · intro number worker there refused
    have viewed : worker.view ∈ (new config options draw source).pool.views :=
      List.mem_map_of_mem (List.mem_of_getElem? there)
    rw [new_views] at viewed
    have seeking := congrArg WorkerView.isRefused (List.eq_of_mem_replicate viewed)
    exact absurd (refused.symm.trans seeking) (by simp [WorkerView.isRefused])
  · rw [new_views]
    simpa using Nat.ne_of_gt workers

end

/-! The end -/

theorem result_ok {simulation : Simulation Source} (report : SimulationReport)
    (done : simulation.result = .ok report) : simulation.main = .finished (.ok report) := by
  cases main : simulation.main with
  | finished outcome =>
      simp only [result, main] at done
      rw [done]
  | _ => simp [result, main] at done

theorem Keeps.reports {simulation : Simulation Source} {counted : List TransactionId}
    (keeps : simulation.Keeps counted) (report : SimulationReport)
    (done : simulation.result = .ok report) :
    report.AddsUp simulation.config ∧ counted.Nodup ∧
      (simulation.system.queue.committed.map fun record => record.transaction).Perm counted := by
  have concludes := keeps.concludes
  rw [result_ok report done] at concludes
  refine ⟨keeps.balanced.closes keeps.sound keeps.somebody report concludes,
    keeps.sound.countedOnce, ?_⟩
  cases concludes with
  | reported _ closed =>
      have settles := keeps.sound.settles closed
      rw [pool_committed keeps.orderly.responsive.prompt] at settles
      exact ((List.reverse_perm _).map _).trans settles.symm

/-! Tasks that take their turns as they stand -/

theorem step?_next? (simulation : Simulation Source) :
    simulation.step? = simulation.next?.map simulation.step := by
  unfold step? turn? next?
  cases simulation.system.ready.head? with
  | some task => rfl
  | none =>
      cases simulation.system.timer? <;> rfl

theorem next?_allows (simulation : Simulation Source) (event : SimulationEvent)
    (fronted : simulation.Fronted) (next : simulation.next? = some event) :
    simulation.Allows event := by
  unfold next? at next
  constructor
  · intro number worker there refused
    rw [fronted number worker there refused] at next
    exact (Option.some.inj next).symm
  · intro target passes
    subst passes
    cases first : simulation.system.ready.head? with
    | some task =>
        rw [first] at next
        cases next
    | none => exact List.head?_eq_none_iff.mp first

theorem finishWithin_succ (steps : Nat) (simulation : Simulation Source) :
    (finishWithin (steps + 1) simulation = simulation ∧ schedule (steps + 1) simulation = []) ∨
      ∃ event, simulation.next? = some event ∧
        finishWithin (steps + 1) simulation = finishWithin steps (simulation.step event) ∧
        schedule (steps + 1) simulation = event :: schedule steps (simulation.step event) := by
  have taken := simulation.step?_next?
  cases next : simulation.next? with
  | none =>
      rw [next] at taken
      refine .inl ?_
      cases main : simulation.main <;>
        simp only [finishWithin, schedule, main, next, taken, Option.map_none] <;> trivial
  | some event =>
      rw [next] at taken
      cases main : simulation.main with
      | finished result =>
          refine .inl ?_
          simp only [finishWithin, schedule, main]
          trivial
      | _ =>
          refine .inr ⟨event, rfl, ?_⟩
          simp only [finishWithin, schedule, main, next, taken, Option.map_some]
          trivial

theorem finishWithin_schedule (steps : Nat) (simulation : Simulation Source)
    (counted : List TransactionId) (keeps : simulation.Keeps counted) :
    simulation.Allowed (schedule steps simulation) ∧
      finishWithin steps simulation = simulation.run (schedule steps simulation) := by
  induction steps generalizing simulation counted with
  | zero => exact ⟨trivial, rfl⟩
  | succ steps ih =>
      rcases finishWithin_succ steps simulation with
        ⟨finishes, schedules⟩ | ⟨event, next, finishes, schedules⟩
      · rw [finishes, schedules]
        exact ⟨trivial, rfl⟩
      · have allows := simulation.next?_allows event keeps.fronted next
        obtain ⟨allowed, same⟩ := ih (simulation.step event) _ (step_keeps keeps event allows).2
        rw [finishes, schedules]
        exact ⟨⟨allows, allowed⟩, same⟩

/-- The random source draws as many operations as are asked for. -/
theorem drawModes_length (writeRatio : Float) (operations : Nat) (source : RandomSource) :
    (TransactionPlan.drawModes writeRatio operations source).1.length = operations := by
  induction operations generalizing source with
  | zero => rfl
  | succ before ih =>
      simp only [TransactionPlan.drawModes, List.length_cons]
      rw [ih]

/-- The simulation that is seeded and runs by itself reports figures that agree. -/
theorem finish_reports (config : SimulationConfig) (options : Options) (report : SimulationReport)
    (valid : validated? config options = .ok ())
    (limit : config.transactions ≤ 2 ^ 128)
    (done : (seeded config options).finish.result = .ok report) : report.AddsUp config := by
  have start : (seeded config options).Keeps [] :=
    new_keeps config options _ _ valid limit fun source => drawModes_length _ _ _
  obtain ⟨allowed, same⟩ := finishWithin_schedule
    (stepBound (seeded config options).config (seeded config options).system.lock.options)
    (seeded config options) [] start
  obtain ⟨config', keeps⟩ := (seeded config options).run_keeps [] _ start allowed
  have finish : (seeded config options).finish = _ := same
  rw [finish] at done
  have reports := (keeps.reports report done).1
  rwa [config'] at reports

/-- Whatever plans are drawn, and in whatever order the tasks take their turns: if a simulation
comes to a report, its figures agree, and each transaction that was counted as committed is in the
queue once. Identifiers have 128 bits, and a configuration counts its transactions in a machine
word. -/
theorem run_report_addsUp (config : SimulationConfig) (options : Options)
    (draw : Source → TransactionPlan × Source) (source : Nat → Source)
    (events : List SimulationEvent) (report : SimulationReport)
    (valid : validated? config options = .ok ())
    (limit : config.transactions ≤ 2 ^ 128)
    (planned : ∀ source, (draw source).1.modes.length = config.operationsPerTransaction)
    (allowed : (new config options draw source).Allowed events)
    (done : ((new config options draw source).run events).result = .ok report) :
    report.AddsUp config ∧
      ((new config options draw source).commits events).Nodup ∧
      (((new config options draw source).run events).system.queue.committed.map fun record =>
        record.transaction).Perm ((new config options draw source).commits events) := by
  have start := new_keeps config options draw source valid limit planned
  obtain ⟨same, keeps⟩ := (new config options draw source).run_keeps [] events start allowed
  have reports := keeps.reports report done
  rw [same] at reports
  exact reports

def writers (ratio : Float) : SimulationConfig :=
  { transactions := 2, workers := 2, operationsPerTransaction := 1, writeRatio := ratio
    abandonRatio := ratio, maxAttempts := 3, retryBackoff := 1, seed := 7 }

def writing : Unit → TransactionPlan × Unit :=
  fun source => (⟨[.write], false⟩, source)

def newWriters (ratio : Float) : Simulation Unit :=
  new (writers ratio) ⟨8000, 10000, 20000, 3⟩ writing fun _ => ()

def writersReport : SimulationReport :=
  { tally :=
      { committed := 2, abandoned := 0, gaveUp := 0, restarts := 1, upgradeConflicts := 1,
        brokenLocks := 0, validationFailures := 0 }
    commitsEnqueued := 2, abortsReported := 0, storageFlushes := 3, lockTicks := 5, elapsed := 1 }

theorem writers_finish (ratio : Float) :
    (finishWithin 40 (newWriters ratio)).result = .ok writersReport := by
  cbv

theorem writers_report_addsUp :
    validated? (writers 1.0) ⟨8000, 10000, 20000, 3⟩ = .ok () ∧
      (writers 1.0).transactions ≤ 2 ^ 128 ∧
      (∀ source, (writing source).1.modes.length = (writers 1.0).operationsPerTransaction) ∧
      (newWriters 1.0).Allowed (schedule 40 (newWriters 1.0)) ∧
      ((newWriters 1.0).run (schedule 40 (newWriters 1.0))).result = .ok writersReport ∧
      writersReport.AddsUp (writers 1.0) ∧
      ((newWriters 1.0).commits (schedule 40 (newWriters 1.0))).Nodup ∧
      (((newWriters 1.0).run (schedule 40 (newWriters 1.0))).system.queue.committed.map fun record =>
        record.transaction).Perm ((newWriters 1.0).commits (schedule 40 (newWriters 1.0))) := by
  have valid : validated? (writers 1.0) ⟨8000, 10000, 20000, 3⟩ = .ok () := rfl
  have limit : (writers 1.0).transactions ≤ 2 ^ 128 := by decide
  have planned : ∀ source, (writing source).1.modes.length = (writers 1.0).operationsPerTransaction :=
    fun _ => rfl
  have start : (newWriters 1.0).Keeps [] := new_keeps _ _ _ _ valid limit planned
  obtain ⟨allowed, same⟩ := finishWithin_schedule 40 (newWriters 1.0) [] start
  have done := writers_finish 1.0
  rw [same] at done
  exact ⟨valid, limit, planned, allowed, done,
    run_report_addsUp (writers 1.0) ⟨8000, 10000, 20000, 3⟩ writing (fun _ => ())
      (schedule 40 (newWriters 1.0)) writersReport valid limit planned allowed done⟩

end Simulation

end WoundWait
