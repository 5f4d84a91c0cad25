import WoundWait.Proofs.ChronicleRecording

/-!
A worker stops when it is stopped from outside or its work fails, and for no other reason. Once it
has stopped it starts nothing and ends nothing any more. The run in which it stopped is not counted,
and of the requests that come later only the number is kept.
-/

namespace WoundWait

-- A step that waits keeps the ones behind it for a later turn.
def WorkStep.failsNow : List WorkStep → Bool
  | [] | .sleep (_ + 1) :: _ | .giveWay :: _ => false
  | .notify :: rest | .notifyAfter _ :: rest | .sleep 0 :: rest => failsNow rest
  | .crash :: _ => true

namespace Bench

variable {bench first second third after : Bench}

/-! After a stop -/

structure Halts (before after : Bench) : Prop where
  stopped : after.worker.isStopped = true
  started : after.started = before.started
  log : after.log = before.log
  runs : after.worker.stats.runs = before.worker.stats.runs

theorem Asks.halts {request : WakeRequest CallId} (asks : bench.Asks after request)
    (stopped : bench.worker.isStopped = true) : bench.Halts after where
  stopped := asks.isStopped.trans stopped
  started := asks.started
  log := asks.log
  runs := by rw [asks.stats]; cases request <;> rfl

theorem step_halts (event : BenchEvent) (stopped : bench.worker.isStopped = true) :
    bench.Halts (bench.step event) := by
  have gone := step_stopped event stopped
  cases event with
  | notify => exact bench.notify_asks.halts stopped
  | notifyAfter milliseconds => exact (bench.notifyAfter_asks milliseconds).halts stopped
  | flush call =>
      simp only [step] at gone ⊢
      split
      · exact (bench.flush_asks call).halts stopped
      · exact ⟨stopped, rfl, rfl, rfl⟩
  | turn task =>
      have phase : bench.worker.phase = .stopped := by
        cases found : bench.worker.phase with
        | stopped => rfl
        | waiting | running => simp [Worker.isStopped, found] at stopped
      simp only [step, turnOf]
      split
      · cases task with
        | worker =>
            simp only [workerTurn, phase]
            exact ⟨stopped, rfl, rfl, rfl⟩
        | call call =>
            simp only [callTurn]
            split <;> exact ⟨stopped, rfl, rfl, rfl⟩
      · exact ⟨stopped, rfl, rfl, rfl⟩
  | pass target =>
      simp only [step, advance]
      split <;> exact ⟨stopped, rfl, rfl, rfl⟩
  | stop => exact ⟨rfl, rfl, rfl, rfl⟩

theorem run_halts (events : List BenchEvent) (stopped : bench.worker.isStopped = true) :
    bench.Halts (bench.run events) := by
  induction events generalizing bench with
  | nil => exact ⟨stopped, rfl, rfl, rfl⟩
  | cons event rest ih =>
      have first := step_halts event stopped
      have later := ih first.stopped
      exact ⟨later.stopped, later.started.trans first.started, later.log.trans first.log,
        later.runs.trans first.runs⟩

theorem wakeWorker_stopped (stopped : bench.worker.isStopped = true) : bench.wakeWorker = bench := by
  unfold wakeWorker Worker.isWaiting
  unfold Worker.isStopped at stopped
  cases phase : bench.worker.phase with
  | stopped => rfl
  | waiting | running => simp [phase] at stopped

/-- A request to a stopped worker is counted, and that is all. -/
theorem notify_stopped (stopped : bench.worker.isStopped = true) :
    bench.notify =
      { bench with
        worker := { bench.worker with
          stats := { bench.worker.stats with
            notifications := bench.worker.stats.notifications + 1 } } } := by
  have unsent : bench.worker.send .immediate = bench.worker := by simp [Worker.send, stopped]
  rw [notify, Worker.notify, unsent, wakeWorker_stopped]
  exact stopped

theorem notifyAfter_stopped (stopped : bench.worker.isStopped = true) (milliseconds : Int) :
    bench.notifyAfter milliseconds =
      { bench with
        worker := { bench.worker with
          stats := { bench.worker.stats with
            deferredRequests := bench.worker.stats.deferredRequests + 1 } } } := by
  have unsent : bench.worker.send (.deferred (bench.clock + milliseconds)) = bench.worker := by
    simp [Worker.send, stopped]
  rw [notifyAfter, Worker.notifyAt, unsent, wakeWorker_stopped]
  exact stopped

/-! What stops a worker -/

def dueSteps (bench : Bench) : List WorkStep :=
  match bench.worker.phase with
  | .stopped => []
  | .running run _ => if run.due ≤ bench.clock then run.rest else []
  | .waiting =>
      if (bench.worker.requests.promote bench.clock).now then bench.work (bench.started + 1) else []

inductive StoppedBy (bench : Bench) : BenchEvent → Prop where
  | shutDown : StoppedBy bench .stop
  | failed (ready : .worker ∈ bench.ready) (fails : WorkStep.failsNow bench.dueSteps = true) :
      StoppedBy bench (.turn .worker)

theorem InRun.continues_alive {run : Nat} (inRun : bench.InRun run) (current : BenchRun) :
    (bench.worker.continueRun current).isStopped = false := by
  obtain ⟨before, taken, flight⟩ := inRun.flight
  simp [Worker.continueRun, Worker.isStopped, flight]

theorem perform_isStopped (steps : List WorkStep) (run : Nat) (inRun : bench.InRun run) :
    (bench.perform run steps).worker.isStopped = WorkStep.failsNow steps := by
  induction steps generalizing bench with
  | nil => rfl
  | cons step rest ih =>
      cases step with
      | notify => exact ih (inRun.asks bench.notify_asks)
      | notifyAfter milliseconds => exact ih (inRun.asks (bench.notifyAfter_asks milliseconds))
      | sleep milliseconds =>
          cases milliseconds with
          | zero => exact ih inRun
          | succ before => exact inRun.continues_alive _
      | giveWay => exact inRun.continues_alive _
      | crash => rfl

theorem workerTurn_isStopped {told : List Mark} (keeps : bench.Keeps told)
    (alive : bench.worker.isStopped = false) :
    bench.workerTurn.worker.isStopped = WorkStep.failsNow bench.dueSteps := by
  cases phase : bench.worker.phase with
  | stopped => simp [Worker.isStopped, phase] at alive
  | running run taken =>
      simp only [workerTurn, dueSteps, phase]
      split
      · exact perform_isStopped run.rest run.number (keeps.inRun phase)
      · exact alive
  | waiting =>
      have collected : (bench.worker.collect bench.clock).pending =
          bench.worker.requests.promote bench.clock := rfl
      simp only [workerTurn, dueSteps, phase, collected]
      split
      · exact perform_isStopped _ _ ⟨⟨_, _, rfl⟩, rfl⟩
      · exact alive

/-- A worker stops in these ways only, and never goes on. -/
theorem step_isStopped {told : List Mark} (event : BenchEvent) (keeps : bench.Keeps told) :
    (bench.step event).worker.isStopped = true ↔
      bench.worker.isStopped = true ∨ bench.StoppedBy event := by
  cases alive : bench.worker.isStopped with
  | true => exact iff_of_true (step_stopped event alive) (.inl rfl)
  | false =>
      simp only [Bool.false_eq_true, false_or]
      -- Apart from a turn of the worker and a stop, no event touches the phase.
      have unstopped (same : (bench.step event).worker.isStopped = bench.worker.isStopped)
          (other : ¬bench.StoppedBy event) :
          (bench.step event).worker.isStopped = true ↔ bench.StoppedBy event := by
        simp [same, alive, other]
      cases event with
      | notify => exact unstopped bench.notify_asks.isStopped (by rintro ⟨⟩)
      | notifyAfter milliseconds =>
          exact unstopped (bench.notifyAfter_asks milliseconds).isStopped (by rintro ⟨⟩)
      | flush call =>
          refine unstopped ?_ (by rintro ⟨⟩)
          simp only [step]
          split
          · exact (bench.flush_asks call).isStopped
          · rfl
      | turn task =>
          by_cases ready : task ∈ bench.ready
          · cases task with
            | worker =>
                have turned := workerTurn_isStopped
                  (keeps.congr rfl rfl rfl :
                    Keeps { bench with ready := bench.ready.erase .worker } told) alive
                simp only [step, turnOf, ready, ↓reduceIte, turned]
                refine ⟨.failed ready, fun cause => ?_⟩
                cases cause with
                | failed _ fails => exact fails
            | call call =>
                refine unstopped ?_ (by rintro ⟨⟩)
                simp only [step, turnOf, ready, ↓reduceIte, callTurn]
                split <;> rfl
          · refine unstopped (by simp [step, turnOf, ready]) ?_
            rintro ⟨⟩
            contradiction
      | pass target =>
          refine unstopped ?_ (by rintro ⟨⟩)
          simp only [step, advance]
          split <;> rfl
      | stop => exact iff_of_true rfl .shutDown

/-! The run in flight at a stop -/

/-- The run in flight is cut off: it is not counted, and no end of it is written down. -/
structure CutsOff (before after : Bench) : Prop where
  runs : after.worker.stats.runs = before.worker.stats.runs
  ended : ∀ run clock, .ended run clock ∈ after.log ↔ .ended run clock ∈ before.log

theorem Asks.cutsOff {request : WakeRequest CallId} (asks : first.Asks second request)
    (later : second.CutsOff third) : first.CutsOff third where
  runs := by
    rw [later.runs, asks.stats]
    cases request <;> rfl
  ended run clock := by rw [later.ended, asks.log]

/-- What stops a worker in a run is that the work dies, and then the run does not end. -/
theorem perform_cutsOff (steps : List WorkStep) (run : Nat) (inRun : bench.InRun run)
    (stopped : (bench.perform run steps).worker.isStopped = true) :
    bench.CutsOff (bench.perform run steps) := by
  induction steps generalizing bench with
  | nil => cases stopped
  | cons step rest ih =>
      cases step with
      | notify => exact bench.notify_asks.cutsOff (ih (inRun.asks bench.notify_asks) stopped)
      | notifyAfter milliseconds =>
          have asks := bench.notifyAfter_asks milliseconds
          exact asks.cutsOff (ih (inRun.asks asks) stopped)
      | sleep milliseconds =>
          cases milliseconds with
          | zero => exact ih inRun stopped
          | succ before => cases (inRun.continues_alive _).symm.trans stopped
      | giveWay => cases (inRun.continues_alive _).symm.trans stopped
      | crash => exact ⟨rfl, fun _ _ => Iff.rfl⟩

theorem workerTurn_cutsOff {told : List Mark} (keeps : bench.Keeps told)
    (alive : bench.worker.isStopped ≠ true) (stopped : bench.workerTurn.worker.isStopped = true) :
    bench.CutsOff bench.workerTurn := by
  cases phase : bench.worker.phase with
  | stopped => exact absurd (by simp [Worker.isStopped, phase]) alive
  | running run taken =>
      simp only [workerTurn, phase] at stopped ⊢
      split
      · rename_i due
        exact perform_cutsOff run.rest run.number (keeps.inRun phase) (by simpa [due] using stopped)
      · exact ⟨rfl, fun _ _ => Iff.rfl⟩
  | waiting =>
      simp only [workerTurn, phase] at stopped ⊢
      split
      · rename_i asked
        simp only [asked, ↓reduceIte] at stopped
        have cut := perform_cutsOff _ _ ⟨⟨_, _, rfl⟩, rfl⟩ stopped
        refine ⟨cut.runs, fun run clock => (cut.ended run clock).trans ?_⟩
        simp
      · exact ⟨rfl, fun _ _ => Iff.rfl⟩

theorem step_cutsOff {told : List Mark} (event : BenchEvent) (keeps : bench.Keeps told)
    (alive : bench.worker.isStopped ≠ true) (stopped : (bench.step event).worker.isStopped = true) :
    bench.CutsOff (bench.step event) := by
  rcases (step_isStopped event keeps).mp stopped with gone | cause
  · exact absurd gone alive
  cases cause with
  | shutDown => exact ⟨rfl, fun _ _ => Iff.rfl⟩
  | failed ready =>
      simp only [step, turnOf, ready, ↓reduceIte] at stopped ⊢
      have cut := workerTurn_cutsOff
        (keeps.congr rfl rfl rfl : Keeps { bench with ready := bench.ready.erase .worker } told)
        alive stopped
      exact ⟨cut.runs, cut.ended⟩

end Bench

end WoundWait
