import WoundWait.Proofs.WorkerChronicle

/-!
A bench keeps to its chronicle. After every event the worker holds the requests that no run has
served, the run in flight is the one that started last, and each run that has started had a reason.
-/

namespace WoundWait

/-! What a bench keeps of all that has been told -/

def InPhase (told : List Mark) (runs : Nat) (log : List RunLog) :
    WorkerPhase BenchRun CallId → Prop
  | .waiting => Sequential runs false log
  | .running run taken =>
      Sequential runs true log ∧ run.number = runs ∧ taken = (Docket.of told).awaiting
  | .stopped => ∃ inFlight, Sequential runs inFlight log

def statsOf (told : List Mark) : WorkerStats :=
  { notifications := told.countP Mark.isNotification
    deferredRequests := told.countP Mark.isDeferral
    runs := told.countP Mark.isEnd }

namespace Bench

structure Keeps (bench : Bench) (told : List Mark) : Prop where
  log : bench.log.reverse = told.filterMap Mark.log?
  started : bench.started = (Docket.of told).served.length
  stats : bench.worker.stats = statsOf told
  requests : bench.worker.isStopped = false → bench.worker.requests = (Docket.of told).outstanding
  phase : InPhase told bench.started bench.log bench.worker.phase
  caused : AtStarts Caused told

variable {told : List Mark} {bench : Bench}

/-- Who waits and who takes turns is no matter of the chronicle. -/
theorem Keeps.congr {other : Bench} (keeps : bench.Keeps told) (worker : other.worker = bench.worker)
    (started : other.started = bench.started) (log : other.log = bench.log) : other.Keeps told := by
  cases other
  cases worker
  cases started
  cases log
  exact ⟨keeps.log, keeps.started, keeps.stats, keeps.requests, keeps.phase, keeps.caused⟩

end Bench

theorem InPhase.note {told : List Mark} {runs : Nat} {log : List RunLog}
    {phase : WorkerPhase BenchRun CallId} {mark : Mark} (inPhase : InPhase told runs log phase)
    (other : mark.isStart = false) : InPhase (told ++ [mark]) runs log phase := by
  cases phase with
  | waiting => exact inPhase
  | stopped => exact inPhase
  | running run taken =>
      refine ⟨inPhase.1, inPhase.2.1, ?_⟩
      rw [inPhase.2.2, Docket.of_concat]
      cases mark with
      | asks request => cases request <;> rfl
      | starts => cases other
      | ends | stops => rfl

/-! Requests -/

def WorkerStats.count (stats : WorkerStats) : WakeRequest CallId → WorkerStats
  | .immediate => { stats with notifications := stats.notifications + 1 }
  | .deferred _ => { stats with deferredRequests := stats.deferredRequests + 1 }
  | .flush _ => stats

theorem statsOf_asks (told : List Mark) (request : WakeRequest CallId) :
    statsOf (told ++ [.asks request]) = (statsOf told).count request := by
  cases request <;>
    simp [statsOf, WorkerStats.count, Mark.isNotification, Mark.isDeferral, Mark.isEnd]

namespace Bench

variable {told : List Mark} {bench after : Bench}

structure Asks (before after : Bench) (request : WakeRequest CallId) : Prop where
  receives : before.worker.Receives after.worker [request]
  stats : after.worker.stats = before.worker.stats.count request
  started : after.started = before.started
  log : after.log = before.log
  clock : after.clock = before.clock

theorem wakeWorker_eq (bench : Bench) : ∃ ready, bench.wakeWorker = { bench with ready } := by
  unfold wakeWorker
  split
  · exact ⟨_, rfl⟩
  · exact ⟨bench.ready, rfl⟩

theorem notify_asks (bench : Bench) : bench.Asks bench.notify .immediate := by
  obtain ⟨ready, woken⟩ := wakeWorker_eq { bench with worker := bench.worker.notify }
  rw [notify, woken]
  exact ⟨bench.worker.notify_receives, rfl, rfl, rfl, rfl⟩

theorem notifyAfter_asks (bench : Bench) (milliseconds : Int) :
    bench.Asks (bench.notifyAfter milliseconds) (.deferred (bench.clock + milliseconds)) := by
  obtain ⟨ready, woken⟩ := wakeWorker_eq
    { bench with worker := bench.worker.notifyAt (bench.clock + milliseconds) }
  rw [notifyAfter, woken]
  exact ⟨bench.worker.notifyAt_receives _, rfl, rfl, rfl, rfl⟩

/-- A stopped worker loses the request. -/
theorem flush_asks (bench : Bench) (call : CallId) : bench.Asks (bench.flush call) (.flush call) := by
  unfold flush
  split
  · rename_i stopped
    exact ⟨bench.worker.stopped_receives _ stopped, rfl, rfl, rfl, rfl⟩
  · rename_i alive
    let waiting : BenchCall := { call, answer := none }
    obtain ⟨ready, woken⟩ := wakeWorker_eq { bench with
      worker := bench.worker.send (.flush call)
      calls := bench.calls ++ [waiting] }
    have stats : (bench.worker.send (.flush call)).stats = bench.worker.stats := by
      simp [Worker.send, alive]
    dsimp only
    rw [woken]
    exact ⟨bench.worker.send_receives _, stats, rfl, rfl, rfl⟩

theorem Asks.isStopped {request : WakeRequest CallId} (asks : bench.Asks after request) :
    after.worker.isStopped = bench.worker.isStopped :=
  Worker.isStopped_congr _ _ asks.receives.phase

theorem Keeps.asks {request : WakeRequest CallId} (keeps : bench.Keeps told)
    (asks : bench.Asks after request) : after.Keeps (told ++ [.asks request]) where
  log := by simp [asks.log, keeps.log, Mark.log?]
  started := by
    rw [asks.started, keeps.started, Docket.of_concat]
    cases request <;> rfl
  stats := by rw [asks.stats, keeps.stats, statsOf_asks]
  requests alive := by
    have wasAlive := asks.isStopped.symm.trans alive
    rw [asks.receives.requests wasAlive, keeps.requests wasAlive, Docket.of_concat,
      Docket.note_absorb]
    rfl
  phase := by
    rw [asks.receives.phase, asks.started, asks.log]
    exact keeps.phase.note rfl
  caused := keeps.caused.note nofun

theorem Keeps.sequential (keeps : bench.Keeps told) :
    ∃ inFlight, Sequential bench.started inFlight bench.log := by
  have phase := keeps.phase
  cases found : bench.worker.phase with
  | waiting =>
      rw [found] at phase
      exact ⟨false, phase⟩
  | running run taken =>
      rw [found] at phase
      exact ⟨true, phase.1⟩
  | stopped =>
      rw [found] at phase
      exact phase

theorem Keeps.stop (keeps : bench.Keeps told) : bench.stop.Keeps (told ++ [.stops]) where
  log := by simp [Bench.stop, answer, keeps.log, Mark.log?]
  started := keeps.started.trans (by rw [Docket.of_concat]; rfl)
  stats := by
    simp [Bench.stop, answer, Worker.stop, keeps.stats, statsOf, Mark.isNotification,
      Mark.isDeferral, Mark.isEnd]
  requests alive := by cases alive
  phase := keeps.sequential
  caused := keeps.caused.note nofun

/-- Nothing starts a stopped worker again. -/
theorem step_stopped (event : BenchEvent) (stopped : bench.worker.isStopped = true) :
    (bench.step event).worker.isStopped = true := by
  cases event with
  | notify => exact bench.notify_asks.isStopped.trans stopped
  | notifyAfter milliseconds => exact (bench.notifyAfter_asks milliseconds).isStopped.trans stopped
  | flush call =>
      simp only [step]
      split
      · exact (bench.flush_asks call).isStopped.trans stopped
      · exact stopped
  | turn task =>
      have phase : bench.worker.phase = .stopped := by
        cases found : bench.worker.phase with
        | stopped => rfl
        | waiting | running => simp [Worker.isStopped, found] at stopped
      simp only [step, turnOf]
      split
      · cases task with
        | worker => simpa only [workerTurn, phase] using stopped
        | call call =>
            simp only [callTurn]
            split <;> exact stopped
      · exact stopped
  | pass target =>
      simp only [step, advance]
      split <;> exact stopped
  | stop => rfl

theorem run_stopped (events : List BenchEvent) (stopped : bench.worker.isStopped = true) :
    (bench.run events).worker.isStopped = true := by
  induction events generalizing bench with
  | nil => exact stopped
  | cons event rest ih => exact ih (step_stopped event stopped)

/-! A run from its start to its end -/

structure InRun (bench : Bench) (run : Nat) : Prop where
  flight : ∃ current taken, bench.worker.phase = .running current taken
  latest : run = bench.started

theorem InRun.asks {run : Nat} {request : WakeRequest CallId} (inRun : bench.InRun run)
    (asks : bench.Asks after request) : after.InRun run := by
  rcases inRun with ⟨flight, latest⟩
  exact ⟨asks.receives.phase ▸ flight, asks.started ▸ latest⟩

theorem InRun.alive {run : Nat} (inRun : bench.InRun run) : bench.worker.isStopped = false := by
  obtain ⟨current, taken, flight⟩ := inRun.flight
  simp [Worker.isStopped, flight]

theorem Keeps.inRun {run : BenchRun} {taken : List CallId} (keeps : bench.Keeps told)
    (flight : bench.worker.phase = .running run taken) : bench.InRun run.number := by
  have phase := keeps.phase
  rw [flight] at phase
  exact ⟨⟨run, taken, flight⟩, phase.2.1⟩

theorem Keeps.starts {number : Nat} (keeps : bench.Keeps told)
    (asked : (bench.worker.collect bench.clock).pending.now = true)
    (waiting : bench.worker.phase = .waiting) (next : number = bench.started + 1) :
    { bench with
      started := number
      worker := (bench.worker.collect bench.clock).start { number, due := bench.clock, rest := [] }
      log := .started number bench.clock :: bench.log : Bench }.Keeps
        (told ++ [.starts number bench.clock]) := by
  subst next
  have alive : bench.worker.isStopped = false := by simp [Worker.isStopped, waiting]
  have collected : (bench.worker.collect bench.clock).pending =
      (Docket.of told).outstanding.promote bench.clock := by
    rw [← keeps.requests alive]
    rfl
  have idle := keeps.phase
  rw [waiting] at idle
  constructor
  case log => simp [keeps.log, Mark.log?]
  case started => simp [keeps.started, Docket.note]
  case stats =>
    simp [Worker.start, Worker.collect, keeps.stats, statsOf, Mark.isNotification, Mark.isDeferral,
      Mark.isEnd]
  case requests =>
    intro _
    rw [Docket.of_concat, Docket.note_starts, ← collected]
    rfl
  case phase =>
    refine ⟨.starts bench.clock idle, rfl, ?_⟩
    rw [Docket.of_concat, Docket.note_starts_awaiting, ← collected]
  case caused =>
    refine keeps.caused.note fun _ clock same => ?_
    cases same
    exact ⟨congrArg (· + 1) keeps.started, Docket.outstanding_asked _ _ (collected ▸ asked)⟩

/-- Without a reason to start, taking in the mail changes nothing. -/
theorem Keeps.collects (keeps : bench.Keeps told)
    (unasked : (bench.worker.collect bench.clock).pending.now = false) :
    { bench with worker := bench.worker.collect bench.clock }.Keeps told where
  log := keeps.log
  started := keeps.started
  stats := keeps.stats
  requests alive := (PendingWake.promote_idle _ _ unasked).1.trans (keeps.requests alive)
  phase := keeps.phase
  caused := keeps.caused

theorem Keeps.ends {run : Nat} (keeps : bench.Keeps told) (inRun : bench.InRun run) :
    (bench.finishRun run).Keeps (told ++ [.ends run bench.clock]) where
  log := by simp [finishRun, answer, keeps.log, Mark.log?]
  started := keeps.started.trans (by rw [Docket.of_concat]; rfl)
  stats := by
    simp [finishRun, answer, Worker.finish, keeps.stats, statsOf, Mark.isNotification,
      Mark.isDeferral, Mark.isEnd]
  requests _ := by
    rw [Docket.of_concat]
    exact keeps.requests inRun.alive
  phase := by
    obtain ⟨current, taken, flight⟩ := inRun.flight
    have phase := keeps.phase
    rw [flight] at phase
    rw [inRun.latest]
    exact .ends bench.clock phase.1
  caused := keeps.caused.note nofun

theorem Keeps.continues {run : Nat} {current : BenchRun} (keeps : bench.Keeps told)
    (inRun : bench.InRun run) (same : current.number = run) :
    { bench with worker := bench.worker.continueRun current }.Keeps told := by
  obtain ⟨before, taken, flight⟩ := inRun.flight
  have goesOn : bench.worker.continueRun current =
      { bench.worker with phase := .running current taken } := by
    simp [Worker.continueRun, flight]
  rw [goesOn]
  have phase := keeps.phase
  rw [flight] at phase
  exact ⟨keeps.log, keeps.started, keeps.stats, fun _ => keeps.requests inRun.alive,
    ⟨phase.1, same.trans inRun.latest, phase.2.2⟩, keeps.caused⟩

theorem perform_keeps (steps : List WorkStep) (run : Nat) (keeps : bench.Keeps told)
    (inRun : bench.InRun run) :
    (bench.perform run steps).Keeps (told ++ stepMarks bench.clock run steps) := by
  induction steps generalizing bench told with
  | nil => exact keeps.ends inRun
  | cons step rest ih =>
      cases step with
      | notify =>
          have next := ih (keeps.asks bench.notify_asks) (inRun.asks bench.notify_asks)
          rwa [List.append_assoc, bench.notify_asks.clock] at next
      | notifyAfter milliseconds =>
          have asks := bench.notifyAfter_asks milliseconds
          have next := ih (keeps.asks asks) (inRun.asks asks)
          rwa [List.append_assoc, asks.clock] at next
      | sleep milliseconds =>
          cases milliseconds with
          | zero => exact ih keeps inRun
          | succ before =>
              simp only [stepMarks, List.append_nil]
              exact keeps.continues inRun rfl
      | giveWay =>
          simp only [stepMarks, List.append_nil]
          exact (keeps.continues inRun rfl).congr rfl rfl rfl
      | crash => exact keeps.stop

theorem workerTurn_keeps (keeps : bench.Keeps told) :
    bench.workerTurn.Keeps (told ++ bench.workerMarks) := by
  cases phase : bench.worker.phase with
  | stopped => simpa [workerTurn, workerMarks, phase] using keeps
  | running run taken =>
      simp only [workerTurn, workerMarks, phase]
      split
      · exact perform_keeps run.rest run.number keeps (keeps.inRun phase)
      · simpa using keeps
  | waiting =>
      simp only [workerTurn, workerMarks, phase]
      split
      · rename_i asked
        have begun := keeps.starts asked phase rfl
        have next := perform_keeps (bench.work (bench.started + 1)) (bench.started + 1) begun
          ⟨⟨_, _, rfl⟩, rfl⟩
        rwa [List.append_assoc] at next
      · rename_i unasked
        simpa using keeps.collects (Bool.eq_false_iff.mpr unasked)

theorem step_keeps (event : BenchEvent) (keeps : bench.Keeps told) :
    (bench.step event).Keeps (told ++ bench.marks event) := by
  cases event with
  | notify => exact keeps.asks bench.notify_asks
  | notifyAfter milliseconds => exact keeps.asks (bench.notifyAfter_asks milliseconds)
  | flush call =>
      simp only [step, marks]
      split
      · exact keeps.asks (bench.flush_asks call)
      · simpa using keeps
  | turn task =>
      simp only [step, turnOf]
      cases task with
      | worker =>
          simp only [marks]
          split
          · exact workerTurn_keeps (keeps.congr rfl rfl rfl)
          · simpa using keeps
      | call call =>
          simp only [marks, List.append_nil]
          split
          · unfold callTurn
            split <;> exact keeps.congr rfl rfl rfl
          · exact keeps
  | pass target =>
      simp only [step, marks, advance, List.append_nil]
      split <;> exact keeps.congr rfl rfl rfl
  | stop => exact keeps.stop

theorem new_keeps (name : String) (work : Nat → List WorkStep) (ownRequests : Nat) :
    (new name work ownRequests).Keeps [] :=
  ⟨rfl, rfl, rfl, fun _ => rfl, .nothing, fun _ _ _ _ split => by simp at split⟩

theorem run_keeps (events : List BenchEvent) (keeps : bench.Keeps told) :
    (bench.run events).Keeps (told ++ bench.chronicle events) := by
  induction events generalizing bench told with
  | nil => simpa [chronicle, run] using keeps
  | cons event rest ih =>
      have next := ih (step_keeps event keeps)
      rwa [List.append_assoc] at next

theorem new_run_keeps (name : String) (work : Nat → List WorkStep) (ownRequests : Nat)
    (events : List BenchEvent) :
    ((new name work ownRequests).run events).Keeps ((new name work ownRequests).chronicle events) := by
  simpa using run_keeps events (new_keeps name work ownRequests)

end Bench

end WoundWait
