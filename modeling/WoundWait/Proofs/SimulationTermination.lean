import Mathlib
import WoundWait.Proofs.LockIdling
import WoundWait.Proofs.SimulationStart
import WoundWait.Proofs.SimulationReports

/-!
Every simulation ends, and well. Until the last task has finished there is something left to happen,
and whatever happens leaves less to do than before; the last task finishes with a report, since the
lock becomes idle in time.
-/

namespace WoundWait

inductive Activity.AwaitsExit (attempt : Attempt) (deadline : Instant) : Activity → Prop where
  | looks : AwaitsExit attempt deadline (.awaitingExit attempt deadline)
  | pauses : AwaitsExit attempt deadline (.polling attempt deadline)

namespace WorkerPool

section

variable {pool after : WorkerPool} {counted counts : List TransactionId} {clock : Instant}

/-- A worker leaves its wait only after its record has left the lock. -/
theorem Moves.awaits {view view' : WorkerView} {tally : Tally} {begun : Nat} {action : Option LedgerAction}
    (moves : pool.Moves clock view view' tally begun action) (sound : pool.Sound counted)
    (attempt : Attempt) (deadline : Instant) (awaits : view.activity.AwaitsExit attempt deadline)
    (resident : (pool.lock.find? attempt.transaction).isSome = true) :
    view'.activity.AwaitsExit attempt deadline := by
  obtain ⟨record, found⟩ := Option.isSome_iff_exists.mp resident
  have here : ¬ pool.lock.Absent attempt.transaction := by
    intro absent
    rw [(pool.lock.find?_none _).mpr absent] at found
    cases found
  cases moves with
  | stays => exact awaits
  | polls =>
      cases awaits
      exact .pauses
  | looks =>
      cases awaits
      exact .looks
  | commits _ _ left =>
      cases awaits
      exact absurd (sound.gone attempt.transaction left) here
  | breaks _ _ _ held absent =>
      cases held <;> cases awaits
      exact absurd absent here
  | enters _ _ _ _ _ _ comes => cases comes <;> cases awaits
  | _ => cases awaits

theorem PoolStep.awaits (poolStep : pool.PoolStep clock after counts) (sound : pool.Sound counted)
    (number : Nat) (view : WorkerView) (there : pool.views[number]? = some view) (attempt : Attempt)
    (deadline : Instant) (awaits : view.activity.AwaitsExit attempt deadline)
    (resident : (pool.lock.find? attempt.transaction).isSome = true) :
    ∃ view', after.views[number]? = some view' ∧ view'.activity.AwaitsExit attempt deadline := by
  cases poolStep with
  | rests => exact ⟨view, there, awaits⟩
  | looks _ looks => exact ⟨view, looks.views ▸ there, awaits⟩
  | turns _ place before view' action turns =>
      rw [turns.views]
      by_cases own : place = number
      · subst own
        obtain rfl := Option.some.inj (turns.there.symm.trans there)
        have inside := (List.getElem?_eq_some_iff.mp there).1
        exact ⟨view', List.getElem?_set_self inside,
          turns.moves.awaits sound attempt deadline awaits resident⟩
      · rw [List.getElem?_set_ne own]
        exact ⟨view, there, awaits⟩

end

end WorkerPool

namespace Simulation

variable {Source : Type}

def HasEnded (simulation : Simulation Source) : Prop :=
  ∃ result, simulation.main = .finished result

def ProceedsUntilEnd (simulation : Simulation Source) : List SimulationEvent → Prop
  | [] => True
  | event :: later =>
      ¬ simulation.HasEnded ∧ simulation.Proceeds event ∧ (simulation.step event).ProceedsUntilEnd later

structure Goes (simulation : Simulation Source) (counted : List TransactionId) : Prop where
  keeps : simulation.Keeps counted
  lively : simulation.Lively
  settles : simulation.Settles

section

variable {simulation : Simulation Source} {counted : List TransactionId}

theorem Goes.responsive (goes : simulation.Goes counted) : simulation.system.Responsive :=
  goes.keeps.orderly.responsive

theorem allFinished_iff : simulation.allFinished = true ↔ simulation.pool.IsOver := by
  simp [allFinished, WorkerPool.IsOver, pool, SimulationWorker.view]

/-! Events -/

theorem Goes.step (goes : simulation.Goes counted) (event : SimulationEvent)
    (allows : simulation.Allows event) :
    (simulation.step event).Goes (counted ++ simulation.counts event) := by
  have keeps := goes.keeps
  have happens := step_happens keeps goes.lively event
  exact ⟨(step_keeps keeps event allows).2,
    happens.lively goes.lively goes.responsive keeps.sound.kept.distinct,
    happens.settles keeps goes.lively allows (step_brings keeps event allows).poolStep goes.settles⟩

theorem Goes.ranked (goes : simulation.Goes counted) (event : SimulationEvent)
    (allows : simulation.Allows event) (unfinished : ¬ simulation.HasEnded)
    (proceeds : simulation.Proceeds event) : (simulation.step event).rank < simulation.rank :=
  (step_happens goes.keeps goes.lively event).rank goes.lively goes.responsive goes.keeps.sound.kept.distinct
    allows (fun result finished => unfinished ⟨result, finished⟩) proceeds

/-- Neither a turn of a task that is not ready nor an instant that has passed does anything. -/
theorem Goes.vain (goes : simulation.Goes counted) (event : SimulationEvent)
    (allows : simulation.Allows event) (idle : ¬ simulation.Proceeds event) :
    simulation.step event = simulation := by
  cases event with
  | turn task => exact step_unready task idle
  | pass target =>
      have past : max simulation.system.clock target = simulation.system.clock :=
        Int.max_eq_left (Int.not_lt.mp idle)
      have undue : simulation.system.timers.filter
          (fun timer => isDue simulation.system.clock timer.2) = [] := by
        rw [List.filter_eq_nil_iff]
        intro timer there
        simp [goes.lively.early goes.responsive (allows.idle target rfl) timer there]
      have same : simulation.system.advance target = simulation.system := by
        simp only [System.advance, past, undue]
        rfl
      simp only [Simulation.step, advance, same]

/-- While the last task has not finished, the event that comes next does something. -/
theorem Goes.next (goes : simulation.Goes counted) (unfinished : ¬ simulation.HasEnded) :
    ∃ event, simulation.next? = some event ∧ simulation.Proceeds event := by
  cases first : simulation.system.ready.head? with
  | some task =>
      refine ⟨.turn task, ?_, List.mem_of_mem_head? first⟩
      simp only [next?, first]
  | none =>
      have idle := List.head?_eq_none_iff.mp first
      obtain ⟨call, due, _, sleeps, _⟩ := goes.lively.sleeper goes.responsive idle
        fun result finished => unfinished ⟨result, finished⟩
      have timer : some due ∈ simulation.system.timers.map fun timer => timer.2 := by
        have called := List.mem_map_of_mem (f := fun pending => pending.stage.timer?)
          (System.stage?_mem sleeps)
        simp only [System.timers, List.map_cons, List.map_map, List.mem_cons]
        exact .inr (.inr called)
      obtain ⟨soonest, found, _⟩ := earliest_comesBy _ _ timer due rfl
      have next : simulation.system.timer? = some soonest := found
      refine ⟨.pass soonest, ?_, goes.lively.timer?_early goes.responsive idle soonest next⟩
      simp only [next?, first, next, Option.map_some]

/-! Runs -/

theorem Goes.run (goes : simulation.Goes counted) (events : List SimulationEvent)
    (allowed : simulation.Allowed events) :
    (simulation.run events).Goes (counted ++ simulation.commits events) := by
  induction events generalizing simulation counted with
  | nil =>
      rw [commits, List.append_nil]
      exact goes
  | cons event later ih =>
      have last := ih (goes.step event allowed.1) allowed.2
      rwa [List.append_assoc] at last

/-- Whatever happens uses up what there is to do. -/
theorem Goes.proceeding (goes : simulation.Goes counted) (events : List SimulationEvent)
    (allowed : simulation.Allowed events) (proceeding : simulation.ProceedsUntilEnd events) :
    events.length + (simulation.run events).rank ≤ simulation.rank := by
  induction events generalizing simulation counted with
  | nil => exact Nat.le_of_eq (Nat.zero_add _)
  | cons event later ih =>
      obtain ⟨unfinished, proceeds, rest⟩ := proceeding
      have less := goes.ranked event allowed.1 unfinished proceeds
      have last := ih (goes.step event allowed.1) allowed.2 rest
      have same : simulation.run (event :: later) = (simulation.step event).run later := rfl
      rw [same, List.length_cons]
      omega

theorem finishWithin_ended (steps : Nat) (ended : simulation.HasEnded) :
    finishWithin steps simulation = simulation := by
  obtain ⟨result, finished⟩ := ended
  cases steps with
  | zero => rfl
  | succ steps => simp only [finishWithin, finished]

theorem finishWithin_next (steps : Nat) (unfinished : ¬ simulation.HasEnded) (event : SimulationEvent)
    (next : simulation.next? = some event) :
    finishWithin (steps + 1) simulation = finishWithin steps (simulation.step event) := by
  have taken : simulation.step? = some (simulation.step event) := by
    rw [step?_next?, next]
    rfl
  cases main : simulation.main with
  | finished result => exact absurd ⟨result, main⟩ unfinished
  | _ => simp only [finishWithin, main, taken]

theorem Goes.finishWithin (goes : simulation.Goes counted) (steps : Nat)
    (enough : simulation.rank ≤ steps) : (finishWithin steps simulation).HasEnded := by
  induction steps generalizing simulation counted with
  | zero =>
      by_cases ended : simulation.HasEnded
      · exact ended
      · obtain ⟨event, next, proceeds⟩ := goes.next ended
        have allows := simulation.next?_allows event goes.keeps.fronted next
        have less := goes.ranked event allows ended proceeds
        omega
  | succ steps ih =>
      by_cases ended : simulation.HasEnded
      · exact (finishWithin_ended _ ended).symm ▸ ended
      · obtain ⟨event, next, proceeds⟩ := goes.next ended
        have allows := simulation.next?_allows event goes.keeps.fronted next
        have less := goes.ranked event allows ended proceeds
        rw [finishWithin_next steps ended event next]
        exact ih (goes.step event allows) (by omega)

/-! The end -/

theorem Goes.reports (goes : simulation.Goes counted) (ended : simulation.HasEnded) :
    ∃ report, simulation.result = .ok report ∧ report.AddsUp simulation.config := by
  obtain ⟨result, finished⟩ := ended
  have prospects := goes.settles.prospects
  rw [finished] at prospects
  cases prospects with
  | reported report =>
      have done : simulation.result = .ok report := by rw [Simulation.result, finished]
      exact ⟨report, done, (goes.keeps.reports report done).1⟩

theorem Goes.exits (goes : simulation.Goes counted) (number : Nat) (worker : SimulationWorker Source)
    (there : simulation.workers[number]? = some worker) (attempt : Attempt) (deadline : Instant)
    (awaits : worker.activity.AwaitsExit attempt deadline)
    (resident : (simulation.system.lock.find? attempt.transaction).isSome = true)
    (event : SimulationEvent) (allows : simulation.Allows event) :
    ∃ worker', (simulation.step event).workers[number]? = some worker' ∧
      worker'.activity.AwaitsExit attempt deadline := by
  have poolStep := (step_brings goes.keeps event allows).poolStep
  have viewed : simulation.pool.views[number]? = some worker.view := by
    simp [pool, there]
  obtain ⟨view, there', awaits'⟩ :=
    poolStep.awaits goes.keeps.sound number worker.view viewed attempt deadline awaits resident
  obtain ⟨worker', found, rfl⟩ : ∃ worker', (simulation.step event).workers[number]? = some worker' ∧
      worker'.view = view := by
    simpa [pool] using there'
  exact ⟨worker', found, awaits'⟩

/-- Once all workers have finished, the deadlines of the members stay as they are. -/
theorem Goes.lapses (goes : simulation.Goes counted) (closed : simulation.allFinished = true)
    (last : Instant) (lapses : simulation.system.lock.LapsesBy last) (events : List SimulationEvent)
    (allowed : simulation.Allowed events) : (simulation.run events).system.lock.LapsesBy last := by
  induction events generalizing simulation counted with
  | nil => exact lapses
  | cons event later ih =>
      have poolStep := (step_brings goes.keeps event allowed.1).poolStep
      have joined := allFinished_iff.mp closed
      have fewer := poolStep.fewer joined
      exact ih (goes.step event allowed.1) (allFinished_iff.mpr (poolStep.closed joined).1)
        (fun member present => lapses member (fewer member present)) allowed.2

theorem Goes.settleLimit (goes : simulation.Goes counted) (events : List SimulationEvent)
    (allowed : simulation.Allowed events) :
    (simulation.run events).settleLimit = simulation.settleLimit := by
  induction events generalizing simulation counted with
  | nil => rfl
  | cons event later ih =>
      have options : (simulation.step event).system.lock.options = simulation.system.lock.options :=
        (step_brings goes.keeps event allowed.1).poolStep.options
      have last := ih (goes.step event allowed.1) allowed.2
      rw [show simulation.run (event :: later) = (simulation.step event).run later from rfl, last,
        Simulation.settleLimit, Simulation.settleLimit, options]

end

theorem run_append (simulation : Simulation Source) (earlier later : List SimulationEvent) :
    simulation.run (earlier ++ later) = (simulation.run earlier).run later :=
  List.foldl_append

theorem allowed_append (simulation : Simulation Source) (earlier later : List SimulationEvent)
    (allowed : simulation.Allowed (earlier ++ later)) :
    simulation.Allowed earlier ∧ (simulation.run earlier).Allowed later := by
  induction earlier generalizing simulation with
  | nil => exact ⟨trivial, allowed⟩
  | cons event rest ih =>
      obtain ⟨before, after⟩ := ih (simulation.step event) allowed.2
      exact ⟨⟨allowed.1, before⟩, after⟩

theorem new_goes (config : SimulationConfig) (options : Options)
    (draw : Source → TransactionPlan × Source) (source : Nat → Source)
    (valid : validated? config options = .ok ()) (pauses : 1 ≤ config.retryBackoff)
    (limit : config.transactions ≤ 2 ^ 128)
    (planned : ∀ source, (draw source).1.modes.length = config.operationsPerTransaction) :
    (new config options draw source).Goes [] := by
  refine ⟨new_keeps config options draw source valid limit planned,
    new_lively config options draw source (validated?_ok config options valid).1 pauses planned,
    ?_, .joining⟩
  intro member present
  cases present

/-- A simulation that comes to a report, whatever order its tasks take their turns in. -/
structure ReportsInBound (start : Simulation Source) : Prop where
  bounded : ∀ events, start.Allowed events → start.ProceedsUntilEnd events →
    events.length ≤ stepBound start.config start.system.lock.options
  -- Until then there is always something left to happen.
  goesOn : ∀ events, start.Allowed events → ¬ (start.run events).HasEnded →
    ∃ event, (start.run events).Allows event ∧ (start.run events).Proceeds event
  -- All other events change nothing.
  vain : ∀ events event, start.Allowed events → (start.run events).Allows event →
    ¬ (start.run events).Proceeds event → (start.run events).step event = start.run events
  reports : ∀ events, start.Allowed events → (start.run events).HasEnded →
    ∃ report, (start.run events).result = .ok report ∧ report.AddsUp start.config
  attempts : ∀ events, start.Allowed events → ∀ worker ∈ (start.run events).workers,
    ∀ attempt, worker.activity.attempt? = some attempt →
      attempt.number ≤ start.config.maxAttempts
  -- Nobody stops waiting for its record to leave the lock while the record is there.
  exits : ∀ events, start.Allowed events → ∀ (number : Nat) (worker : SimulationWorker Source)
    (attempt : Attempt) (deadline : Instant), (start.run events).workers[number]? = some worker →
    worker.activity.AwaitsExit attempt deadline →
    ((start.run events).system.lock.find? attempt.transaction).isSome = true →
    ∀ event, (start.run events).Allows event →
      ∃ worker', ((start.run events).step event).workers[number]? = some worker' ∧
        worker'.activity.AwaitsExit attempt deadline
  -- After all workers have finished, time does not pass beyond the limit before the lock is idle.
  settles : ∀ earlier later, start.Allowed (earlier ++ later) →
    (start.run earlier).allFinished = true → (start.run (earlier ++ later)).system.ready = [] →
    (start.run (earlier ++ later)).system.lock.snapshot.isIdle = true ∨
      ∃ due, (start.run (earlier ++ later)).system.timer? = some due ∧
        (start.run (earlier ++ later)).system.clock < due ∧
        due ≤ (start.run earlier).system.clock + start.settleLimit
  -- Tasks that take their turns as they stand come to a report within the bound.
  finishes : ∃ report, start.finish.result = .ok report ∧ report.AddsUp start.config

theorem Goes.reportsInBound {start : Simulation Source} {counted : List TransactionId}
    (goes : start.Goes counted)
    (bounds : start.rank ≤ stepBound start.config start.system.lock.options) : start.ReportsInBound := by
  have config (events : List SimulationEvent) (allowed : start.Allowed events) :
      (start.run events).config = start.config := (start.run_keeps _ events goes.keeps allowed).1
  have reports (events : List SimulationEvent) (allowed : start.Allowed events)
      (ended : (start.run events).HasEnded) :
      ∃ report, (start.run events).result = .ok report ∧ report.AddsUp start.config := by
    have reports := (goes.run events allowed).reports ended
    rwa [config events allowed] at reports
  refine
    { bounded := ?_, goesOn := ?_, vain := ?_, reports, attempts := ?_, exits := ?_, settles := ?_,
      finishes := ?_ }
  · intro events allowed proceeding
    have spends := goes.proceeding events allowed proceeding
    exact Nat.le_trans (Nat.le_trans (Nat.le_add_right _ _) spends) bounds
  · intro events allowed unfinished
    have later := goes.run events allowed
    obtain ⟨event, next, proceeds⟩ := later.next unfinished
    exact ⟨event, next?_allows _ event later.keeps.fronted next, proceeds⟩
  · intro events event allowed allows idle
    exact (goes.run events allowed).vain event allows idle
  · intro events allowed worker present attempt mine
    have fits := (goes.run events allowed).keeps.sound.fits worker.view
      (List.mem_map_of_mem present) attempt mine
    exact config events allowed ▸ fits.bounded
  · intro events allowed number worker attempt deadline there awaits resident event allows
    exact (goes.run events allowed).exits number worker there attempt deadline awaits resident event
      allows
  · intro earlier later allowed closed idle
    obtain ⟨before, after⟩ := start.allowed_append earlier later allowed
    have finished := goes.run earlier before
    have last := finished.run later after
    rw [run_append] at idle ⊢
    rw [← goes.settleLimit earlier before]
    exact last.lively.idles last.responsive idle _
      (finished.lapses closed _ finished.settles.lapses later after)
  · obtain ⟨allowed, same⟩ := finishWithin_schedule
      (stepBound start.config start.system.lock.options) start counted goes.keeps
    have ended := goes.finishWithin _ bounds
    have finish : start.finish = _ := same
    rw [same] at ended
    rw [finish]
    exact reports _ allowed ended

/-- Whatever plans are drawn, a simulation comes to a report within its bound of steps, if its
configuration and its options are valid and its workers pause between two attempts. A machine word
counts the transactions, so their identifiers of 128 bits suffice. -/
theorem new_report_in_bound (config : SimulationConfig) (options : Options)
    (draw : Source → TransactionPlan × Source) (source : Nat → Source)
    (valid : validated? config options = .ok ()) (pauses : 1 ≤ config.retryBackoff)
    (limit : config.transactions ≤ 2 ^ 128)
    (planned : ∀ source, (draw source).1.modes.length = config.operationsPerTransaction) :
    (new config options draw source).ReportsInBound :=
  (new_goes config options draw source valid pauses limit planned).reportsInBound
    (new_rank_le config options draw source)

theorem writers_report_in_bound :
    validated? (writers 1.0) ⟨8000, 10000, 20000, 3⟩ = .ok () ∧ 1 ≤ (writers 1.0).retryBackoff ∧
      (writers 1.0).transactions ≤ 2 ^ 128 ∧
      (∀ source, (writing source).1.modes.length = (writers 1.0).operationsPerTransaction) ∧
      (newWriters 1.0).ReportsInBound := by
  have valid : validated? (writers 1.0) ⟨8000, 10000, 20000, 3⟩ = .ok () := rfl
  have pauses : 1 ≤ (writers 1.0).retryBackoff := Nat.le_refl 1
  have limit : (writers 1.0).transactions ≤ 2 ^ 128 := by decide
  have planned : ∀ source, (writing source).1.modes.length = (writers 1.0).operationsPerTransaction :=
    fun _ => rfl
  exact ⟨valid, pauses, limit, planned,
    new_report_in_bound (writers 1.0) ⟨8000, 10000, 20000, 3⟩ writing (fun _ => ()) valid pauses limit planned⟩

/-- The simulation whose plans are drawn at random comes to a report as well. -/
theorem seeded_reportsInBound (config : SimulationConfig) (options : Options)
    (valid : validated? config options = .ok ()) (pauses : 1 ≤ config.retryBackoff)
    (limit : config.transactions ≤ 2 ^ 128) : (seeded config options).ReportsInBound :=
  (new_goes config options _ _ valid pauses limit fun _ => drawModes_length _ _ _).reportsInBound
    (new_rank_le config options _ _)

end Simulation

end WoundWait
