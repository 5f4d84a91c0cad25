import WoundWait.Proofs.WorkerReadiness

/-!
Requests that wait together share one run. A call that waits for a run is answered by the end of the
first run that starts after the call, and by nothing else.
-/

namespace WoundWait

/-- What a run serves is settled when it starts. -/
theorem served_isPrefix (told later : List Mark) :
    (Docket.of told).served <+: (Docket.of (told ++ later)).served := by
  induction later using List.reverseRecOn with
  | nil => simp
  | append_singleton later mark ih =>
      rw [← List.append_assoc, Docket.of_concat]
      cases mark with
      | asks request => cases request <;> exact ih
      | starts => exact ih.trans (List.prefix_append _ _)
      | ends | stops => exact ih

theorem served_by (before after : List Mark) (run : Nat) (clock : Instant) :
    (Docket.of (before ++ .starts run clock :: after)).served[(Docket.of before).served.length]? =
      some (Docket.of before).unserved := by
  rw [List.append_cons]
  obtain ⟨later, settled⟩ := served_isPrefix (before ++ [.starts run clock]) after
  rw [← settled, Docket.of_concat]
  simp [Docket.note]

namespace Bench

def callOf? (bench : Bench) (call : CallId) : Option BenchCall :=
  bench.calls.find? fun waiting => waiting.call == call

def answerTo (bench : Bench) (call : CallId) : Option FlushAnswer :=
  match bench.callOf? call with
  | some waiting => waiting.answer
  | none => (bench.answers.find? fun given => given.1 == call).map (·.2)

def IsOpen (bench : Bench) (call : CallId) : Prop :=
  bench.callOf? call = some { call, answer := none }

variable {bench after : Bench} {call : CallId}

theorem IsOpen.unanswered (isOpen : bench.IsOpen call) : bench.answerTo call = none := by
  simp [answerTo, show bench.callOf? call = _ from isOpen]

structure Spares (before after : Bench) (call : CallId) : Prop where
  isOpen : before.IsOpen call → after.IsOpen call
  answerTo : after.answerTo call = before.answerTo call

theorem spares_of_same (calls : after.calls = bench.calls) (answers : after.answers = bench.answers) :
    bench.Spares after call := by
  constructor
  · exact fun isOpen => by simpa only [IsOpen, callOf?, calls] using isOpen
  · simp only [answerTo, callOf?, calls, answers]

theorem spares_of_callOf? (calls : after.callOf? call = bench.callOf? call)
    (answers : (after.answers.find? fun given => given.1 == call) =
      bench.answers.find? fun given => given.1 == call) : bench.Spares after call := by
  constructor
  · exact fun isOpen => calls.trans isOpen
  · simp only [answerTo, calls, answers]

theorem callOf?_call {waiting : BenchCall} (found : bench.callOf? call = some waiting) :
    waiting.call = call := by
  simpa using List.find?_some found

theorem callOf?_answer (bench : Bench) (waiters : List CallId) (given : FlushAnswer)
    (call : CallId) :
    (bench.answer waiters given).callOf? call =
      (bench.callOf? call).map fun waiting =>
        if call ∈ waiters then { waiting with answer := some given } else waiting := by
  have named (waiting : BenchCall) :
      (if waiting.call ∈ waiters.filter fun waiter => bench.calls.any fun call => call.call == waiter
        then { waiting with answer := some given } else waiting).call = waiting.call := by
    split <;> rfl
  simp only [callOf?, answer, List.find?_map, Function.comp_def, named]
  refine Option.map_congr fun waiting found => ?_
  have name : waiting.call = call := callOf?_call found
  have present : (bench.calls.any fun waiting => waiting.call == call) = true :=
    List.any_eq_true.mpr ⟨waiting, List.mem_of_find?_eq_some found, by simp [name]⟩
  simp [name, present]

theorem answer_given (bench : Bench) (waiters : List CallId) (given : FlushAnswer)
    (isOpen : bench.IsOpen call) (waits : call ∈ waiters) :
    (bench.answer waiters given).answerTo call = some given := by
  simp [answerTo, callOf?_answer, show bench.callOf? call = _ from isOpen, waits]

theorem answer_spares (bench : Bench) (waiters : List CallId) (given : FlushAnswer)
    (spared : call ∉ waiters) : bench.Spares (bench.answer waiters given) call :=
  spares_of_callOf? (by simp [callOf?_answer, spared]) rfl

/-- A failure never turns into a success. -/
theorem answer_refuses (waiters : List CallId) (error : WorkerError)
    (refused : bench.answerTo call ≠ some (.ok ())) :
    (bench.answer waiters (.error error)).answerTo call ≠ some (.ok ()) := by
  by_cases waits : call ∈ waiters
  · cases found : bench.callOf? call with
    | none =>
        have same : (bench.answer waiters (.error error)).answerTo call = bench.answerTo call := by
          simp only [answerTo, callOf?_answer, found]
          rfl
        rwa [same]
    | some waiting => simp [answerTo, callOf?_answer, found, waits]
  · rwa [(bench.answer_spares waiters _ waits).answerTo]

theorem callTurn_spares (bench : Bench) (other call : CallId) :
    bench.Spares (bench.callTurn other) call := by
  unfold callTurn
  split
  · rename_i name given found
    by_cases same : other = call
    · subst same
      have mine : bench.callOf? other = some { call := name, answer := some given } := found
      have gone : (bench.calls.filter fun waiting => waiting.call != other).find?
          (fun waiting => waiting.call == other) = none := by
        simp
      constructor
      · exact fun isOpen => by cases mine.symm.trans isOpen
      · simp [answerTo, callOf?, gone, show List.find? _ bench.calls = _ from found]
    · refine spares_of_callOf? ?_ (by simp [same])
      simp only [callOf?, List.find?_filter]
      congr 1
      funext waiting
      by_cases named : waiting.call = call
      · simp [named, Ne.symm same]
      · simp [named]
  · exact spares_of_same rfl rfl

theorem notify_spares (bench : Bench) (call : CallId) : bench.Spares bench.notify call := by
  obtain ⟨ready, woken⟩ := wakeWorker_eq { bench with worker := bench.worker.notify }
  rw [notify, woken]
  exact spares_of_same rfl rfl

theorem notifyAfter_spares (bench : Bench) (milliseconds : Int) (call : CallId) :
    bench.Spares (bench.notifyAfter milliseconds) call := by
  obtain ⟨ready, woken⟩ := wakeWorker_eq
    { bench with worker := bench.worker.notifyAt (bench.clock + milliseconds) }
  rw [notifyAfter, woken]
  exact spares_of_same rfl rfl

theorem flush_calls (bench : Bench) (call : CallId) (alive : bench.worker.isStopped = false) :
    (bench.flush call).calls = bench.calls ++ [{ call, answer := none }] ∧
      (bench.flush call).answers = bench.answers := by
  let waiting : BenchCall := { call, answer := none }
  obtain ⟨ready, woken⟩ := wakeWorker_eq { bench with
    worker := bench.worker.send (.flush call)
    calls := bench.calls ++ [waiting] }
  simp only [flush, alive, Bool.false_eq_true, ↓reduceIte]
  exact woken ▸ ⟨rfl, rfl⟩

theorem flush_spares (bench : Bench) {other : CallId} (apart : other ≠ call) :
    bench.Spares (bench.flush other) call := by
  cases stopped : bench.worker.isStopped with
  | true =>
      simp only [flush, stopped, ↓reduceIte]
      exact spares_of_callOf? rfl (by simp [apart])
  | false =>
      obtain ⟨calls, answers⟩ := bench.flush_calls other stopped
      exact spares_of_callOf? (by simp [callOf?, calls, apart]) (by rw [answers])

/-! How a call fares -/

/-- What has become of a call that waits for a run, by the number of the run that is to answer it.
-/
inductive Fares (run : Nat) (call : CallId) (bench : Bench) : Prop where
  | waits (isOpen : bench.IsOpen call) (next : bench.started + 1 = run)
      (alive : bench.worker.isStopped = false) (asked : call ∈ bench.worker.requests.waiters)
      (untaken : call ∉ bench.worker.taken) (unended : ∀ clock, .ended run clock ∉ bench.log)
  | served (isOpen : bench.IsOpen call) (latest : bench.started = run)
      (taken : call ∈ bench.worker.taken) (unasked : call ∉ bench.worker.requests.waiters)
      (unended : ∀ clock, .ended run clock ∉ bench.log)
  | answered (clock : Instant) (ended : .ended run clock ∈ bench.log)
      (given : bench.answerTo call = some (.ok ())) (untaken : call ∉ bench.worker.taken)
      (unasked : call ∉ bench.worker.requests.waiters)
  | lost (stopped : bench.worker.isStopped = true)
      (refused : bench.answerTo call ≠ some (.ok ())) (unended : ∀ clock, .ended run clock ∉ bench.log)

variable {run : Nat}

theorem Fares.answered_iff (fares : bench.Fares run call) :
    bench.answerTo call = some (.ok ()) ↔ ∃ clock, .ended run clock ∈ bench.log := by
  cases fares with
  | waits isOpen _ _ _ _ unended | served isOpen _ _ _ unended =>
      simp [isOpen.unanswered, unended]
  | answered clock ended given => exact ⟨fun _ => ⟨clock, ended⟩, fun _ => given⟩
  | lost _ refused unended => simp [refused, unended]

theorem Fares.congr (fares : bench.Fares run call)
    (stopped : after.worker.isStopped = bench.worker.isStopped)
    (taken : after.worker.taken = bench.worker.taken)
    (asked : call ∈ after.worker.requests.waiters ↔ call ∈ bench.worker.requests.waiters)
    (started : after.started = bench.started) (log : after.log = bench.log)
    (spares : bench.Spares after call) : after.Fares run call := by
  cases fares with
  | waits isOpen next alive asks untaken unended =>
      exact .waits (spares.isOpen isOpen) (started ▸ next) (stopped.trans alive) (asked.mpr asks)
        (taken ▸ untaken) (log ▸ unended)
  | served isOpen latest takes unasked unended =>
      exact .served (spares.isOpen isOpen) (started.trans latest) (taken ▸ takes)
        (unasked ∘ asked.mp) (log ▸ unended)
  | answered clock ended given untaken unasked =>
      exact .answered clock (log ▸ ended) (spares.answerTo.trans given) (taken ▸ untaken)
        (unasked ∘ asked.mp)
  | lost gone refused unended =>
      exact .lost (stopped.trans gone) (spares.answerTo ▸ refused) (log ▸ unended)

theorem Fares.same (fares : bench.Fares run call) (worker : after.worker = bench.worker)
    (started : after.started = bench.started) (log : after.log = bench.log)
    (spares : bench.Spares after call) : after.Fares run call :=
  fares.congr (by rw [worker]) (by rw [worker]) (by rw [worker]) started log spares

/-- A request of somebody else changes nothing for the call. -/
theorem Fares.asks {request : WakeRequest CallId} (fares : bench.Fares run call)
    (asks : bench.Asks after request) (other : request.waiter? ≠ some call)
    (spares : bench.Spares after call) : after.Fares run call := by
  have asked : call ∈ after.worker.requests.waiters ↔ call ∈ bench.worker.requests.waiters := by
    rw [Worker.requests_waiters, Worker.requests_waiters, asks.receives.pending,
      asks.receives.mailbox, List.filterMap_append, ← List.append_assoc, List.mem_append]
    refine or_iff_left fun member => other ?_
    cases alive : bench.worker.isStopped <;> simp_all
  exact fares.congr asks.isStopped (by simp [Worker.taken, asks.receives.phase]) asked asks.started
    asks.log spares

theorem Fares.notify (fares : bench.Fares run call) : bench.notify.Fares run call :=
  fares.asks bench.notify_asks (by simp [WakeRequest.waiter?]) (bench.notify_spares call)

theorem Fares.notifyAfter (fares : bench.Fares run call) (milliseconds : Int) :
    (bench.notifyAfter milliseconds).Fares run call :=
  fares.asks (bench.notifyAfter_asks milliseconds) (by simp [WakeRequest.waiter?])
    (bench.notifyAfter_spares milliseconds call)

theorem Fares.flush {other : CallId} (fares : bench.Fares run call) (apart : other ≠ call) :
    (bench.flush other).Fares run call :=
  fares.asks (bench.flush_asks other) (fun same => apart (Option.some.inj same))
    (bench.flush_spares apart)

/-- Whoever waits when the worker stops is refused. -/
theorem stop_refuses (isOpen : bench.IsOpen call) (waits : call ∈ bench.worker.waiters) :
    bench.stop.answerTo call ≠ some (.ok ()) := by
  have halted : { bench with worker := bench.worker.stop }.IsOpen call := isOpen
  simp [Bench.stop, answer_given _ _ _ halted waits]

theorem stop_spares (bench : Bench) (call : CallId) (spared : call ∉ bench.worker.waiters) :
    bench.Spares bench.stop call :=
  have halted := { bench with worker := bench.worker.stop }.answer_spares bench.worker.waiters
    (.error bench.stoppedError) spared
  ⟨halted.isOpen, halted.answerTo⟩

theorem Fares.stop (fares : bench.Fares run call) : bench.stop.Fares run call := by
  cases fares with
  | waits isOpen _ _ asked _ unended =>
      exact .lost rfl (stop_refuses isOpen (by simp [Worker.waiters_split, asked])) unended
  | served isOpen _ taken _ unended =>
      exact .lost rfl (stop_refuses isOpen (by simp [Worker.waiters_split, taken])) unended
  | answered clock ended given untaken unasked =>
      have spares := bench.stop_spares call (by simp [Worker.waiters_split, untaken, unasked])
      refine .answered clock ended (spares.answerTo.trans given) ?_ ?_
      · exact List.not_mem_nil
      · exact List.not_mem_nil
  | lost _ refused unended => exact .lost rfl (answer_refuses _ _ refused) unended

/-! A run and the calls it answers -/

theorem finishRun_given (number : Nat) (isOpen : bench.IsOpen call)
    (taken : call ∈ bench.worker.taken) : (bench.finishRun number).answerTo call = some (.ok ()) :=
  { bench with
    worker := bench.worker.finish
    log := .ended number bench.clock :: bench.log }.answer_given bench.worker.taken (.ok ()) isOpen
      taken

theorem finishRun_spares (number : Nat) (untaken : call ∉ bench.worker.taken) :
    bench.Spares (bench.finishRun number) call :=
  have ended := { bench with
    worker := bench.worker.finish
    log := .ended number bench.clock :: bench.log }.answer_spares bench.worker.taken (.ok ()) untaken
  ⟨ended.isOpen, ended.answerTo⟩

theorem Fares.finishRun {number : Nat} (fares : bench.Fares run call) (inRun : bench.InRun number) :
    (bench.finishRun number).Fares run call := by
  cases fares with
  | waits isOpen next _ asked untaken unended =>
      have spares := finishRun_spares number untaken
      refine .waits (spares.isOpen isOpen) next rfl asked List.not_mem_nil fun clock ended => ?_
      rcases List.mem_cons.mp ended with same | earlier
      · -- The run that ends has started before the call.
        cases same
        have latest := inRun.latest
        omega
      · exact unended clock earlier
  | served isOpen latest taken unasked unended =>
      have number_eq : number = run := inRun.latest.trans latest
      exact .answered bench.clock (number_eq ▸ List.mem_cons_self) (finishRun_given number isOpen taken)
        List.not_mem_nil unasked
  | answered clock ended given untaken unasked =>
      have spares := finishRun_spares number untaken
      exact .answered clock (List.mem_cons_of_mem _ ended) (spares.answerTo.trans given)
        List.not_mem_nil unasked
  | lost stopped => cases stopped.symm.trans inRun.alive

theorem Fares.continues {number : Nat} {current : BenchRun} (fares : bench.Fares run call)
    (inRun : bench.InRun number) :
    { bench with worker := bench.worker.continueRun current }.Fares run call := by
  obtain ⟨before, taken, flight⟩ := inRun.flight
  have goesOn : bench.worker.continueRun current =
      { bench.worker with phase := .running current taken } := by
    simp [Worker.continueRun, flight]
  rw [goesOn]
  exact fares.congr (by simp [Worker.isStopped, flight]) (by simp [Worker.taken, flight]) Iff.rfl rfl
    rfl (spares_of_same rfl rfl)

/-- The run that starts takes all calls that wait. -/
theorem Fares.starts {number : Nat} (fares : bench.Fares run call)
    (waiting : bench.worker.phase = .waiting) (next : number = bench.started + 1) :
    { bench with
      started := number
      worker := (bench.worker.collect bench.clock).start { number, due := bench.clock, rest := [] }
      log := .started number bench.clock :: bench.log : Bench }.Fares run call := by
  have takes (current : BenchRun) :
      call ∈ ((bench.worker.collect bench.clock).start current).taken ↔
        call ∈ bench.worker.requests.waiters := by
    rw [← PendingWake.promote_waiters bench.worker.requests bench.clock]
    rfl
  have fresh {clock : Instant} (unended : ∀ clock, .ended run clock ∉ bench.log) :
      .ended run clock ∉ RunLog.started number bench.clock :: bench.log := by
    simpa using unended clock
  cases fares with
  | waits isOpen target _ asked _ unended =>
      exact .served isOpen (next.trans target) ((takes _).mpr asked) List.not_mem_nil
        fun _ => fresh unended
  | served _ _ taken => simp [Worker.taken, waiting] at taken
  | answered clock ended given _ unasked =>
      exact .answered clock (List.mem_cons_of_mem _ ended) given (unasked ∘ (takes _).mp) List.not_mem_nil
  | lost stopped => simp [Worker.isStopped, waiting] at stopped

theorem perform_fares (steps : List WorkStep) (number : Nat) (fares : bench.Fares run call)
    (inRun : bench.InRun number) : (bench.perform number steps).Fares run call := by
  induction steps generalizing bench with
  | nil => exact fares.finishRun inRun
  | cons step rest ih =>
      cases step with
      | notify => exact ih fares.notify (inRun.asks bench.notify_asks)
      | notifyAfter milliseconds =>
          exact ih (fares.notifyAfter milliseconds) (inRun.asks (bench.notifyAfter_asks milliseconds))
      | sleep milliseconds =>
          cases milliseconds with
          | zero => exact ih fares inRun
          | succ before => exact fares.continues inRun
      | giveWay => exact (fares.continues inRun).same rfl rfl rfl (spares_of_same rfl rfl)
      | crash => exact fares.stop

theorem workerTurn_fares {told : List Mark} (keeps : bench.Keeps told)
    (fares : bench.Fares run call) : bench.workerTurn.Fares run call := by
  cases phase : bench.worker.phase with
  | stopped => simpa only [workerTurn, phase] using fares
  | running current taken =>
      simp only [workerTurn, phase]
      split
      · exact perform_fares current.rest current.number fares (keeps.inRun phase)
      · exact fares
  | waiting =>
      simp only [workerTurn, phase]
      split
      · exact perform_fares _ _ (fares.starts phase rfl) ⟨⟨_, _, rfl⟩, rfl⟩
      · refine fares.congr rfl rfl ?_ rfl rfl (spares_of_same rfl rfl)
        rw [Worker.collect_requests, PendingWake.promote_waiters]

theorem step_fares {told : List Mark} (event : BenchEvent) (keeps : bench.Keeps told)
    (other : event ≠ .flush call) (fares : bench.Fares run call) :
    (bench.step event).Fares run call := by
  cases event with
  | notify => exact fares.notify
  | notifyAfter milliseconds => exact fares.notifyAfter milliseconds
  | flush name =>
      simp only [step]
      split
      · exact fares.flush fun same => other (by rw [same])
      · exact fares
  | turn task =>
      simp only [step, turnOf]
      split
      · have readied : { bench with ready := bench.ready.erase task }.Fares run call :=
          fares.same rfl rfl rfl (spares_of_same rfl rfl)
        cases task with
        | worker => exact workerTurn_fares (keeps.congr rfl rfl rfl) readied
        | call name =>
            have spares := callTurn_spares { bench with ready := bench.ready.erase (.call name) } name
              call
            refine readied.same ?_ ?_ ?_ spares <;> simp only [callTurn] <;> split <;> rfl
      · exact fares
  | pass target =>
      simp only [step, advance]
      split <;> exact fares.same rfl rfl rfl (spares_of_same rfl rfl)
  | stop => exact fares.stop

theorem run_fares {told : List Mark} (events : List BenchEvent) (keeps : bench.Keeps told)
    (others : .flush call ∉ events) (fares : bench.Fares run call) :
    (bench.run events).Fares run call := by
  induction events generalizing bench told with
  | nil => exact fares
  | cons event rest ih =>
      rw [List.mem_cons, not_or] at others
      exact ih (step_keeps event keeps) others.2 (step_fares event keeps (Ne.symm others.1) fares)

theorem isFree_iff : bench.isFree call = true ↔
    bench.callOf? call = none ∧ call ∉ bench.worker.waiters := by
  simp [isFree, callOf?]

theorem flush_isOpen (free : bench.isFree call = true) (alive : bench.worker.isStopped = false) :
    (bench.flush call).IsOpen call := by
  have unnamed := (isFree_iff.mp free).1
  unfold callOf? at unnamed
  simp [IsOpen, callOf?, (bench.flush_calls call alive).1, unnamed]

/-- A stopped worker refuses at once. -/
theorem flush_refuses (free : bench.isFree call = true) (stopped : bench.worker.isStopped = true) :
    (bench.flush call).answerTo call = some (.error bench.stoppedError) := by
  have unnamed := (isFree_iff.mp free).1
  unfold callOf? at unnamed
  simp [answerTo, callOf?, Bench.flush, stopped, unnamed]

/-- The next run is the one that answers a call. -/
theorem flush_fares {told : List Mark} (keeps : bench.Keeps told) (free : bench.isFree call = true) :
    (bench.flush call).Fares (bench.started + 1) call := by
  have asks := bench.flush_asks call
  have unended (clock : Instant) : .ended (bench.started + 1) clock ∉ (bench.flush call).log := by
    rw [asks.log]
    intro ended
    obtain ⟨inFlight, sequential⟩ := keeps.sequential
    have early := (sequential.ended_le ended).1
    omega
  cases stopped : bench.worker.isStopped with
  | true =>
      refine .lost (asks.isStopped.trans stopped) ?_ unended
      simp [flush_refuses free stopped]
  | false =>
      have asked : call ∈ (bench.flush call).worker.requests.waiters := by
        rw [asks.receives.requests stopped, List.foldl_cons, List.foldl_nil,
          PendingWake.absorb_waiters]
        simp [WakeRequest.waiter?]
      have untaken : call ∉ (bench.flush call).worker.taken := by
        have unnamed := (isFree_iff.mp free).2
        rw [Worker.waiters_split, List.mem_append, not_or] at unnamed
        simpa [Worker.taken, asks.receives.phase] using unnamed.1
      exact .waits (flush_isOpen free stopped) (by rw [asks.started]) (asks.isStopped.trans stopped)
        asked untaken unended

/-! What holds of all requests -/

/-- What holds of requests for a run as soon as possible once some events have happened to a bench.
-/
structure Coalesces (bench : Bench) (events : List BenchEvent) : Prop where
  recorded : (bench.run events).Keeps (bench.chronicle events)
  -- No run starts before the one before it has ended.
  apart : ∃ inFlight, Sequential (bench.run events).started inFlight (bench.run events).log
  -- Each request is served by one run, in the order in which they came, or is still to be served.
  once : (Docket.of (bench.chronicle events)).served.flatten ++
      (sinceStart (bench.chronicle events)).filterMap Mark.immediate? =
    (bench.chronicle events).filterMap Mark.immediate?
  -- A run starts for a reason, and serves all that came since the start before.
  serves : ∀ before run clock after, bench.chronicle events = before ++ .starts run clock :: after →
    ((sinceStart before).filterMap Mark.immediate? ≠ [] ∨ isDue clock (Docket.of before).armed) ∧
      (Docket.of (bench.chronicle events)).served[run - 1]? =
        some ((sinceStart before).filterMap Mark.immediate?)
  -- The worker holds what came since the last start, and nothing else.
  held : (bench.run events).worker.isStopped = false →
    (bench.run events).worker.requests.now =
        !((sinceStart (bench.chronicle events)).filterMap Mark.immediate?).isEmpty ∧
      (bench.run events).worker.requests.waiters =
        ((sinceStart (bench.chronicle events)).filterMap Mark.immediate?).filterMap
          WakeRequest.waiter?
  -- A worker with nothing left to do has served everything.
  prompt : (bench.run events).worker.phase = .waiting → .worker ∉ (bench.run events).ready →
    (sinceStart (bench.chronicle events)).filterMap Mark.immediate? = []
  -- A call is answered once the first run that starts after it has ended, and not before.
  answered : ∀ before call after, events = before ++ .flush call :: after →
    (bench.run before).isFree call = true → .flush call ∉ after →
      ((bench.run events).answerTo call = some (.ok ()) ↔
        ∃ clock, .ended ((bench.run before).started + 1) clock ∈ (bench.run events).log)

theorem run_requests_coalesce (name : String) (work : Nat → List WorkStep) (ownRequests : Nat)
    (events : List BenchEvent) : (new name work ownRequests).Coalesces events := by
  have recorded := new_run_keeps name work ownRequests events
  constructor
  case recorded => exact recorded
  case apart => exact recorded.sequential
  case once =>
    rw [← Docket.unserved_eq]
    exact Docket.served_flatten _
  case serves =>
    intro before run clock after split
    obtain ⟨number, cause⟩ := recorded.caused before run clock after split
    rw [← Docket.unserved_eq, split, number]
    exact ⟨cause, served_by before after _ clock⟩
  case held =>
    intro alive
    rw [← Docket.unserved_eq, recorded.requests alive]
    exact ⟨rfl, rfl⟩
  case prompt =>
    intro waiting unready
    have alive : ((new name work ownRequests).run events).worker.isStopped = false := by
      simp [Worker.isStopped, waiting]
    have rests := (new_run_attentive name work ownRequests events waiting).resolve_left unready
    have unasked := rests.requests.1
    rw [recorded.requests alive] at unasked
    rw [← Docket.unserved_eq]
    simpa [Docket.outstanding] using unasked
  case answered =>
    rintro before call after rfl free others
    have keeps := new_run_keeps name work ownRequests before
    have begun : ((new name work ownRequests).run before).step (.flush call) =
        ((new name work ownRequests).run before).flush call := if_pos free
    have fares := run_fares after (step_keeps (.flush call) keeps) others (begun ▸ flush_fares keeps free)
    have rejoined : (new name work ownRequests).run (before ++ .flush call :: after) =
        (((new name work ownRequests).run before).step (.flush call)).run after :=
      List.foldl_append
    rw [rejoined]
    exact fares.answered_iff

end Bench

end WoundWait
