import Mathlib.Data.List.Nodup
import WoundWait.Proofs.RequestCoalescing
import WoundWait.Proofs.WorkerStops

/-!
Nobody who waits for a run waits in vain. Each call gets one answer, also when the worker is stopped
or dies in the middle of a run: those who wait then are refused, and so is everybody who comes
later. A stopped worker starts no further run, and the run it was in is not counted.
-/

namespace WoundWait

namespace Bench

/-- All answers to calls of a name, newest first: the one that still has to be taken and those that
were taken. -/
def answersTo (bench : Bench) (call : CallId) : List FlushAnswer :=
  ((bench.callOf? call).bind fun waiting => waiting.answer).toList ++
    (bench.answers.filter fun given => given.1 == call).map fun given => given.2

variable {name : String} {bench first second third after : Bench} {call : CallId}

theorem answersTo_congr (calls : after.calls = bench.calls) (answers : after.answers = bench.answers) :
    after.answersTo call = bench.answersTo call := by
  simp only [answersTo, callOf?, calls, answers]

theorem isOpen_congr (calls : after.calls = bench.calls) : after.IsOpen call ↔ bench.IsOpen call := by
  simp only [IsOpen, callOf?, calls]

theorem isOpen_of_unanswered {waiting : BenchCall} (found : bench.callOf? call = some waiting)
    (unanswered : waiting.answer = none) : bench.IsOpen call := by
  have named := callOf?_call found
  rw [IsOpen, found]
  cases waiting
  cases named
  cases unanswered
  rfl

/-- The newest answer is the one that counts. -/
theorem answerTo_eq_head? (closed : ¬bench.IsOpen call) :
    bench.answerTo call = (bench.answersTo call).head? := by
  cases found : bench.callOf? call with
  | none => simp [answerTo, answersTo, found, List.head?_filter]
  | some waiting =>
      cases given : waiting.answer with
      | none => exact absurd (isOpen_of_unanswered found given) closed
      | some answer => simp [answerTo, answersTo, found, given]

/-! What a call hears -/

inductive Hears (name : String) (before after : Bench) (call : CallId) : Prop where
  | nothing (isOpen : after.IsOpen call ↔ before.IsOpen call)
      (kept : after.answersTo call = before.answersTo call)
  | answer (given : FlushAnswer) (fair : given = .ok () ∨ given = .error (.stopped name))
      (waited : before.IsOpen call) (closed : ¬after.IsOpen call)
      (told : after.answersTo call = given :: before.answersTo call)

theorem hears_of_same (calls : after.calls = bench.calls) (answers : after.answers = bench.answers) :
    bench.Hears name after call :=
  .nothing (isOpen_congr calls) (answersTo_congr calls answers)

/-- An answered call does not hear anything again. -/
theorem Hears.trans (sooner : first.Hears name second call) (later : second.Hears name third call) :
    first.Hears name third call := by
  cases sooner with
  | nothing isOpen kept =>
      cases later with
      | nothing isOpen' kept' => exact .nothing (isOpen'.trans isOpen) (kept'.trans kept)
      | answer given fair waited closed told =>
          exact .answer given fair (isOpen.mp waited) closed (told.trans (by rw [kept]))
  | answer given fair waited closed told =>
      cases later with
      | nothing isOpen' kept' =>
          exact .answer given fair waited (closed ∘ isOpen'.mp) (kept'.trans told)
      | answer _ _ reopened => exact absurd reopened closed

theorem Hears.grows (hears : first.Hears name second call) :
    first.answersTo call <:+ second.answersTo call := by
  cases hears with
  | nothing _ kept => exact kept ▸ List.suffix_refl _
  | answer given _ _ _ told => exact told ▸ List.suffix_cons given _

theorem answer_isOpen (bench : Bench) (waiters : List CallId) (given : FlushAnswer) :
    (bench.answer waiters given).IsOpen call ↔ bench.IsOpen call ∧ call ∉ waiters := by
  rw [IsOpen, callOf?_answer]
  by_cases waits : call ∈ waiters
  · simp [waits]
  · simp [waits, IsOpen]

theorem answer_tells (waiters : List CallId) (given : FlushAnswer) (isOpen : bench.IsOpen call)
    (waits : call ∈ waiters) :
    (bench.answer waiters given).answersTo call = given :: bench.answersTo call := by
  have taken : (bench.answer waiters given).answers = bench.answers := rfl
  simp [answersTo, callOf?_answer, show bench.callOf? call = _ from isOpen, waits, taken]

theorem answer_hears (waiters : List CallId) (given : FlushAnswer)
    (fair : given = .ok () ∨ given = .error (.stopped name))
    (waiting : ∀ waiter ∈ waiters, bench.IsOpen waiter) :
    bench.Hears name (bench.answer waiters given) call := by
  by_cases waits : call ∈ waiters
  · have isOpen := waiting call waits
    refine .answer given fair isOpen ?_ (answer_tells waiters given isOpen waits)
    simp [answer_isOpen, waits]
  · refine .nothing ?_ ?_
    · simp [answer_isOpen, waits]
    · have taken : (bench.answer waiters given).answers = bench.answers := rfl
      simp [answersTo, callOf?_answer, waits, taken]

/-- A call that takes its answer has heard it before. -/
theorem callTurn_kept (bench : Bench) (other call : CallId) :
    ((bench.callTurn other).IsOpen call ↔ bench.IsOpen call) ∧
      (bench.callTurn other).answersTo call = bench.answersTo call := by
  unfold callTurn
  split
  · rename_i named given found
    by_cases same : other = call
    · subst same
      have mine : bench.calls.find? (fun waiting => waiting.call == other) =
          some { call := named, answer := some given } := found
      have gone : (bench.calls.filter fun waiting => waiting.call != other).find?
          (fun waiting => waiting.call == other) = none := by
        simp
      constructor
      · simp [IsOpen, callOf?, gone, mine]
      · simp [answersTo, callOf?, gone, mine]
    · have others : (bench.calls.filter fun waiting => waiting.call != other).find?
          (fun waiting => waiting.call == call) = bench.callOf? call := by
        rw [List.find?_filter]
        refine congrArg (List.find? · bench.calls) (funext fun waiting => ?_)
        by_cases named : waiting.call = call
        · simp [named, Ne.symm same]
        · simp [named]
      constructor
      · rw [IsOpen, IsOpen, callOf?, others]
      · rw [answersTo, callOf?, others]
        simp [answersTo, same]
  · exact ⟨Iff.rfl, rfl⟩

/-! Who waits -/

structure Accounted (name : String) (bench : Bench) : Prop where
  named : bench.name = name
  distinct : (bench.calls.map BenchCall.call).Nodup
  single : bench.worker.waiters.Nodup
  waits : ∀ call, call ∈ bench.worker.waiters ↔ bench.IsOpen call
  halted : bench.worker.isStopped = true → bench.worker.waiters = []

theorem Accounted.congr (accounted : bench.Accounted name) (named : after.name = bench.name)
    (calls : after.calls = bench.calls) (waiters : after.worker.waiters = bench.worker.waiters)
    (stopped : after.worker.isStopped = bench.worker.isStopped) : after.Accounted name where
  named := named.trans accounted.named
  distinct := by rw [calls]; exact accounted.distinct
  single := by rw [waiters]; exact accounted.single
  waits call := by rw [waiters, accounted.waits, isOpen_congr calls]
  halted gone := waiters.trans (accounted.halted (stopped.symm.trans gone))

theorem Accounted.closed (accounted : bench.Accounted name) (stopped : bench.worker.isStopped = true) :
    ¬bench.IsOpen call := by
  rw [← accounted.waits, accounted.halted stopped]
  exact List.not_mem_nil

theorem new_accounted (name : String) (work : Nat → List WorkStep) (ownRequests : Nat) :
    (new name work ownRequests).Accounted name where
  named := rfl
  distinct := .nil
  single := .nil
  waits call := by simp [new, Worker.new, Worker.waiters, Worker.taken, PendingWake.none, IsOpen, callOf?]
  halted := nofun

theorem answer_names (bench : Bench) (waiters : List CallId) (given : FlushAnswer) :
    (bench.answer waiters given).calls.map BenchCall.call = bench.calls.map BenchCall.call := by
  simp only [answer, List.map_map]
  refine List.map_congr_left fun waiting _ => ?_
  simp only [Function.comp_apply]
  split <;> rfl

structure Attends (name : String) (before after : Bench) : Prop where
  accounted : after.Accounted name
  hears : ∀ call, before.Hears name after call

theorem Attends.trans (sooner : first.Attends name second) (later : second.Attends name third) :
    first.Attends name third :=
  ⟨later.accounted, fun call => (sooner.hears call).trans (later.hears call)⟩

theorem Accounted.attends (accounted : bench.Accounted name) (named : after.name = bench.name)
    (calls : after.calls = bench.calls) (answers : after.answers = bench.answers)
    (waiters : after.worker.waiters = bench.worker.waiters)
    (stopped : after.worker.isStopped = bench.worker.isStopped) : bench.Attends name after :=
  ⟨accounted.congr named calls waiters stopped, fun _ => hears_of_same calls answers⟩

theorem Accounted.wakes (accounted : bench.Accounted name) (worker : Worker BenchRun CallId)
    (request : WakeRequest CallId) (other : request.waiter? = none)
    (receives : bench.worker.Receives worker [request]) :
    bench.Attends name { bench with worker }.wakeWorker := by
  obtain ⟨ready, woken⟩ := wakeWorker_eq { bench with worker }
  rw [woken]
  refine accounted.attends rfl rfl rfl ?_ (Worker.isStopped_congr _ _ receives.phase)
  rw [receives.waiters]
  cases bench.worker.isStopped <;> simp [other]

theorem Accounted.notify (accounted : bench.Accounted name) : bench.Attends name bench.notify :=
  accounted.wakes bench.worker.notify .immediate rfl bench.worker.notify_receives

theorem Accounted.notifyAfter (accounted : bench.Accounted name) (milliseconds : Int) :
    bench.Attends name (bench.notifyAfter milliseconds) :=
  accounted.wakes (bench.worker.notifyAt (bench.clock + milliseconds))
    (.deferred (bench.clock + milliseconds)) rfl (bench.worker.notifyAt_receives _)

/-- Everybody who waits is refused. -/
theorem Accounted.stop (accounted : bench.Accounted name) : bench.Attends name bench.stop := by
  let halted : Bench := { bench with worker := bench.worker.stop }
  have isOpen (call : CallId) :
      bench.stop.IsOpen call ↔ bench.IsOpen call ∧ call ∉ bench.worker.waiters :=
    halted.answer_isOpen bench.worker.waiters (.error bench.stoppedError)
  constructor
  · constructor
    case named => exact accounted.named
    case distinct =>
      exact (halted.answer_names bench.worker.waiters _).symm ▸ accounted.distinct
    case single => exact .nil
    case waits =>
      intro call
      rw [isOpen, ← accounted.waits]
      constructor
      · exact nofun
      · rintro ⟨waits, spared⟩
        exact absurd waits spared
    case halted => exact fun _ => rfl
  · intro call
    have told : halted.Hears name bench.stop call := by
      refine answer_hears bench.worker.waiters (.error bench.stoppedError) (.inr ?_)
        fun waiter waits => ?_
      · rw [stoppedError, accounted.named]
      · exact (accounted.waits waiter).mp waits
    exact (hears_of_same rfl rfl : bench.Hears name halted call).trans told

/-! A run from its start to its end -/

theorem Accounted.finishRun (accounted : bench.Accounted name) (run : Nat) :
    bench.Attends name (bench.finishRun run) := by
  let ended : Bench := { bench with
    worker := bench.worker.finish
    log := .ended run bench.clock :: bench.log }
  -- Whoever the run has not taken waits for a later one.
  have split : bench.worker.waiters = bench.worker.taken ++ ended.worker.waiters := by
    rw [Worker.waiters_split, Worker.waiters_split ended.worker]
    rfl
  have single := accounted.single
  rw [split, List.nodup_append] at single
  have isOpen (call : CallId) :
      (bench.finishRun run).IsOpen call ↔ bench.IsOpen call ∧ call ∉ bench.worker.taken :=
    ended.answer_isOpen bench.worker.taken (.ok ())
  constructor
  · constructor
    case named => exact accounted.named
    case distinct => exact (ended.answer_names bench.worker.taken (.ok ())).symm ▸ accounted.distinct
    case single => exact single.2.1
    case waits =>
      intro call
      have kept : (bench.finishRun run).worker.waiters = ended.worker.waiters := rfl
      rw [isOpen, ← accounted.waits, split, List.mem_append, kept]
      constructor
      · intro waits
        exact ⟨.inr waits, fun taken => single.2.2 call taken call waits rfl⟩
      · rintro ⟨taken | waits, untaken⟩
        · exact absurd taken untaken
        · exact waits
    case halted => nofun
  · intro call
    have told : ended.Hears name (bench.finishRun run) call := by
      have answered : ended.Hears name (ended.answer bench.worker.taken (.ok ())) call := by
        refine answer_hears bench.worker.taken (.ok ()) (.inl rfl) fun waiter taken => ?_
        exact (accounted.waits waiter).mp (split ▸ List.mem_append_left _ taken)
      exact answered.trans (hears_of_same rfl rfl)
    exact (hears_of_same rfl rfl : bench.Hears name ended call).trans told

theorem Accounted.startsRun (accounted : bench.Accounted name)
    (waiting : bench.worker.phase = .waiting) :
    bench.Attends name { bench with
      started := bench.started + 1
      worker := (bench.worker.collect bench.clock).start
        { number := bench.started + 1, due := bench.clock, rest := [] }
      log := .started (bench.started + 1) bench.clock :: bench.log } := by
  refine accounted.attends rfl rfl rfl ?_ (by simp [Worker.isStopped, Worker.start, waiting])
  rw [← bench.worker.collect_waiters bench.clock]
  simp [Worker.waiters, Worker.taken, Worker.start, Worker.collect, waiting]

theorem Accounted.continues {run : Nat} {current : BenchRun} (accounted : bench.Accounted name)
    (inRun : bench.InRun run) :
    bench.Attends name { bench with worker := bench.worker.continueRun current } := by
  obtain ⟨before, taken, flight⟩ := inRun.flight
  have goesOn : bench.worker.continueRun current =
      { bench.worker with phase := .running current taken } := by
    simp [Worker.continueRun, flight]
  rw [goesOn]
  refine accounted.attends rfl rfl rfl ?_ ?_
  · simp [Worker.waiters, Worker.taken, flight]
  · simp [Worker.isStopped, flight]

theorem perform_attends (steps : List WorkStep) (run : Nat) (accounted : bench.Accounted name)
    (inRun : bench.InRun run) : bench.Attends name (bench.perform run steps) := by
  induction steps generalizing bench with
  | nil => exact accounted.finishRun run
  | cons step rest ih =>
      cases step with
      | notify =>
          exact accounted.notify.trans (ih accounted.notify.accounted (inRun.asks bench.notify_asks))
      | notifyAfter milliseconds =>
          have asked := accounted.notifyAfter milliseconds
          exact asked.trans (ih asked.accounted (inRun.asks (bench.notifyAfter_asks milliseconds)))
      | sleep milliseconds =>
          cases milliseconds with
          | zero => exact ih accounted inRun
          | succ before => exact accounted.continues inRun
      | giveWay =>
          have goesOn : bench.Attends name { bench with
              worker := bench.worker.continueRun ⟨run, bench.clock, rest⟩ } :=
            accounted.continues inRun
          exact goesOn.trans (goesOn.accounted.attends rfl rfl rfl rfl rfl)
      | crash => exact accounted.stop

theorem workerTurn_attends {told : List Mark} (keeps : bench.Keeps told)
    (accounted : bench.Accounted name) : bench.Attends name bench.workerTurn := by
  cases phase : bench.worker.phase with
  | stopped =>
      simp only [workerTurn, phase]
      exact accounted.attends rfl rfl rfl rfl rfl
  | running run taken =>
      simp only [workerTurn, phase]
      split
      · exact perform_attends run.rest run.number accounted (keeps.inRun phase)
      · exact accounted.attends rfl rfl rfl rfl rfl
  | waiting =>
      simp only [workerTurn, phase]
      have collected : bench.Attends name { bench with worker := bench.worker.collect bench.clock } :=
        accounted.attends rfl rfl rfl (bench.worker.collect_waiters bench.clock) rfl
      split
      · have begun := accounted.startsRun phase
        exact begun.trans (perform_attends _ _ begun.accounted ⟨⟨_, _, rfl⟩, rfl⟩)
      · exact collected

/-! Events -/

theorem Accounted.callTurn (accounted : bench.Accounted name) (other : CallId) :
    bench.Attends name (bench.callTurn other) := by
  have same : (bench.callTurn other).worker = bench.worker ∧
      (bench.callTurn other).name = bench.name ∧
      (bench.callTurn other).calls.Sublist bench.calls := by
    unfold Bench.callTurn
    split
    · exact ⟨rfl, rfl, List.filter_sublist⟩
    · exact ⟨rfl, rfl, List.Sublist.refl _⟩
  obtain ⟨worker, named, fewer⟩ := same
  constructor
  · constructor
    case named => exact named.trans accounted.named
    case distinct => exact accounted.distinct.sublist (fewer.map BenchCall.call)
    case single => exact worker ▸ accounted.single
    case waits =>
      intro call
      rw [worker, accounted.waits, (bench.callTurn_kept other call).1]
    case halted => exact worker ▸ accounted.halted
  · intro call
    have kept := bench.callTurn_kept other call
    exact .nothing kept.1 kept.2

theorem turnOf_attends {told : List Mark} (task : BenchTask) (keeps : bench.Keeps told)
    (accounted : bench.Accounted name) : bench.Attends name (bench.turnOf task) := by
  unfold turnOf
  split
  · have readied : bench.Attends name { bench with ready := bench.ready.erase task } :=
      accounted.attends rfl rfl rfl rfl rfl
    cases task with
    | worker => exact readied.trans (workerTurn_attends (keeps.congr rfl rfl rfl) readied.accounted)
    | call other => exact readied.trans (readied.accounted.callTurn other)
  · exact accounted.attends rfl rfl rfl rfl rfl

theorem Accounted.advance (accounted : bench.Accounted name) (target : Instant) :
    bench.Attends name (bench.advance target) := by
  unfold Bench.advance
  dsimp only
  split <;> exact accounted.attends rfl rfl rfl rfl rfl

/-- A call that begins is kept among those who wait, or refused at once. -/
theorem Accounted.flush (accounted : bench.Accounted name) (free : bench.isFree call = true) :
    (bench.flush call).Accounted name := by
  have receives := (bench.flush_asks call).receives
  have isStopped := Worker.isStopped_congr _ _ receives.phase
  have waiters := receives.waiters
  cases stopped : bench.worker.isStopped with
  | true =>
      refine accounted.congr ?_ ?_ ?_ isStopped <;> simp [Bench.flush, stopped]
  | false =>
      obtain ⟨unnamed, unasked⟩ := isFree_iff.mp free
      obtain ⟨calls, _⟩ := bench.flush_calls call stopped
      have joined : (bench.flush call).worker.waiters = bench.worker.waiters ++ [call] := by
        simp [waiters, stopped, WakeRequest.waiter?]
      constructor
      case named =>
        obtain ⟨ready, woken⟩ := wakeWorker_eq { bench with
          worker := bench.worker.send (.flush call)
          calls := bench.calls ++ [({ call, answer := none } : BenchCall)] }
        simp only [Bench.flush, stopped, Bool.false_eq_true, ↓reduceIte, woken]
        exact accounted.named
      case distinct =>
        rw [calls, List.map_append, List.nodup_append]
        refine ⟨accounted.distinct, (List.nodup_cons.mpr ⟨List.not_mem_nil, .nil⟩), ?_⟩
        rintro _ present _ new rfl
        obtain ⟨waiting, member, rfl⟩ := List.mem_map.mp present
        have missing := List.find?_eq_none.mp unnamed waiting member
        simp [List.mem_singleton.mp new] at missing
      case single =>
        rw [joined, List.nodup_append]
        refine ⟨accounted.single, (List.nodup_cons.mpr ⟨List.not_mem_nil, .nil⟩), ?_⟩
        rintro _ present _ new rfl
        exact unasked (List.mem_singleton.mp new ▸ present)
      case waits =>
        intro other
        rw [joined, List.mem_append, List.mem_singleton]
        by_cases same : other = call
        · subst same
          exact iff_of_true (.inr rfl) (flush_isOpen free stopped)
        · have kept : (bench.flush call).callOf? other = bench.callOf? other := by
            simp [callOf?, calls, Ne.symm same]
          rw [IsOpen, kept, or_iff_left same]
          exact accounted.waits other
      case halted =>
        intro gone
        cases stopped.symm.trans (isStopped.symm.trans gone)

theorem step_accounted {told : List Mark} (event : BenchEvent) (keeps : bench.Keeps told)
    (accounted : bench.Accounted name) : (bench.step event).Accounted name := by
  cases event with
  | notify => exact accounted.notify.accounted
  | notifyAfter milliseconds => exact (accounted.notifyAfter milliseconds).accounted
  | flush call =>
      simp only [step]
      split
      · rename_i free
        exact accounted.flush free
      · exact accounted
  | turn task => exact (turnOf_attends task keeps accounted).accounted
  | pass target => exact (accounted.advance target).accounted
  | stop => exact accounted.stop.accounted

theorem flush_kept (bench : Bench) {other : CallId} (apart : other ≠ call) :
    bench.Hears name (bench.flush other) call := by
  cases stopped : bench.worker.isStopped with
  | true =>
      refine .nothing ?_ ?_
      · simp [flush, stopped, IsOpen, callOf?]
      · simp [flush, stopped, answersTo, callOf?, apart]
  | false =>
      obtain ⟨calls, answers⟩ := bench.flush_calls other stopped
      have same : (bench.flush other).callOf? call = bench.callOf? call := by
        simp [callOf?, calls, apart]
      refine .nothing ?_ ?_
      · rw [IsOpen, IsOpen, same]
      · simp [answersTo, same, answers]

theorem step_hears {told : List Mark} (event : BenchEvent) (keeps : bench.Keeps told)
    (accounted : bench.Accounted name) (other : event ≠ .flush call) :
    bench.Hears name (bench.step event) call := by
  cases event with
  | notify => exact accounted.notify.hears call
  | notifyAfter milliseconds => exact (accounted.notifyAfter milliseconds).hears call
  | flush another =>
      simp only [step]
      split
      · exact bench.flush_kept fun same => other (by rw [same])
      · exact hears_of_same rfl rfl
  | turn task => exact (turnOf_attends task keeps accounted).hears call
  | pass target => exact (accounted.advance target).hears call
  | stop => exact accounted.stop.hears call

/-- Whoever asks a stopped worker is refused at once. -/
theorem flush_refused (free : bench.isFree call = true) (accounted : bench.Accounted name)
    (stopped : bench.worker.isStopped = true) :
    ¬(bench.flush call).IsOpen call ∧
      (bench.flush call).answersTo call = .error (.stopped name) :: bench.answersTo call := by
  have unnamed := (isFree_iff.mp free).1
  have error : bench.stoppedError = .stopped name := congrArg WorkerError.stopped accounted.named
  unfold callOf? at unnamed
  constructor
  · simp [IsOpen, callOf?, Bench.flush, stopped, unnamed]
  · simp [answersTo, callOf?, Bench.flush, stopped, unnamed, error]

theorem flush_waits (free : bench.isFree call = true) (alive : bench.worker.isStopped = false) :
    (bench.flush call).answersTo call = bench.answersTo call := by
  have unnamed := (isFree_iff.mp free).1
  obtain ⟨calls, answers⟩ := bench.flush_calls call alive
  unfold callOf? at unnamed
  simp [answersTo, callOf?, calls, answers, unnamed]

/-- Answers are never taken back. -/
theorem step_grows {told : List Mark} (event : BenchEvent) (keeps : bench.Keeps told)
    (accounted : bench.Accounted name) (call : CallId) :
    bench.answersTo call <:+ (bench.step event).answersTo call := by
  by_cases other : event = .flush call
  · subst other
    simp only [step]
    split
    · rename_i free
      cases stopped : bench.worker.isStopped with
      | true =>
          rw [(flush_refused free accounted stopped).2]
          exact List.suffix_cons _ _
      | false => exact flush_waits free stopped ▸ List.suffix_refl _
    · exact List.suffix_refl _
  · exact (step_hears event keeps accounted other).grows

/-! Refusals -/

theorem notify_calls (bench : Bench) :
    bench.notify.calls = bench.calls ∧ bench.notify.answers = bench.answers := by
  obtain ⟨ready, woken⟩ := wakeWorker_eq { bench with worker := bench.worker.notify }
  rw [notify, woken]
  exact ⟨rfl, rfl⟩

theorem notifyAfter_calls (bench : Bench) (milliseconds : Int) :
    (bench.notifyAfter milliseconds).calls = bench.calls ∧
      (bench.notifyAfter milliseconds).answers = bench.answers := by
  obtain ⟨ready, woken⟩ := wakeWorker_eq
    { bench with worker := bench.worker.notifyAt (bench.clock + milliseconds) }
  rw [notifyAfter, woken]
  exact ⟨rfl, rfl⟩

theorem Accounted.stop_refuses (accounted : bench.Accounted name) (isOpen : bench.IsOpen call) :
    bench.stop.answersTo call = .error (.stopped name) :: bench.answersTo call := by
  let halted : Bench := { bench with worker := bench.worker.stop }
  have error : bench.stoppedError = .stopped name := congrArg WorkerError.stopped accounted.named
  have told : bench.stop.answersTo call = .error bench.stoppedError :: halted.answersTo call :=
    halted.answer_tells bench.worker.waiters (.error bench.stoppedError) isOpen
      ((accounted.waits call).mpr isOpen)
  rw [told, error]
  exact congrArg _ (answersTo_congr rfl rfl)

/-- Work that fails ends before the run does; whoever the run was to answer is refused as well. -/
theorem perform_refuses (steps : List WorkStep) (run : Nat) (accounted : bench.Accounted name)
    (isOpen : bench.IsOpen call) (fails : WorkStep.failsNow steps = true) :
    (bench.perform run steps).answersTo call =
      .error (.stopped name) :: bench.answersTo call := by
  induction steps generalizing bench with
  | nil => cases fails
  | cons step rest ih =>
      cases step with
      | notify =>
          obtain ⟨calls, answers⟩ := bench.notify_calls
          rw [perform, ih accounted.notify.accounted ((isOpen_congr calls).mpr isOpen) fails,
            answersTo_congr calls answers]
      | notifyAfter milliseconds =>
          obtain ⟨calls, answers⟩ := bench.notifyAfter_calls milliseconds
          rw [perform, ih (accounted.notifyAfter milliseconds).accounted
            ((isOpen_congr calls).mpr isOpen) fails, answersTo_congr calls answers]
      | sleep milliseconds =>
          cases milliseconds with
          | zero => exact ih accounted isOpen fails
          | succ before => cases fails
      | giveWay => cases fails
      | crash => exact accounted.stop_refuses isOpen

theorem workerTurn_refuses (accounted : bench.Accounted name) (isOpen : bench.IsOpen call)
    (fails : WorkStep.failsNow bench.dueSteps = true) :
    bench.workerTurn.answersTo call = .error (.stopped name) :: bench.answersTo call := by
  cases phase : bench.worker.phase with
  | stopped => simp [dueSteps, phase, WorkStep.failsNow] at fails
  | running run taken =>
      by_cases due : run.due ≤ bench.clock
      · simp only [dueSteps, phase, due, ↓reduceIte] at fails
        simp only [workerTurn, phase, due, ↓reduceIte]
        exact perform_refuses run.rest run.number accounted isOpen fails
      · simp [dueSteps, phase, due, WorkStep.failsNow] at fails
  | waiting =>
      have collected : (bench.worker.collect bench.clock).pending =
          bench.worker.requests.promote bench.clock := rfl
      by_cases asked : (bench.worker.requests.promote bench.clock).now = true
      · simp only [dueSteps, phase, asked, ↓reduceIte] at fails
        simp only [workerTurn, phase, collected, asked, ↓reduceIte]
        exact perform_refuses _ _ (accounted.startsRun phase).accounted
          ((isOpen_congr rfl).mpr isOpen) fails
      · simp [dueSteps, phase, asked, WorkStep.failsNow] at fails

theorem step_refuses (event : BenchEvent) (accounted : bench.Accounted name)
    (isOpen : bench.IsOpen call) (cause : bench.StoppedBy event) :
    (bench.step event).answersTo call = .error (.stopped name) :: bench.answersTo call := by
  cases cause with
  | shutDown => exact accounted.stop_refuses isOpen
  | failed ready fails =>
      have readied : bench.Attends name { bench with ready := bench.ready.erase .worker } :=
        accounted.attends rfl rfl rfl rfl rfl
      simp only [step, turnOf, ready, ↓reduceIte]
      exact workerTurn_refuses readied.accounted ((isOpen_congr rfl).mpr isOpen) fails

/-! What holds of all who wait -/

theorem run_accounted {told : List Mark} (events : List BenchEvent) (keeps : bench.Keeps told)
    (accounted : bench.Accounted name) : (bench.run events).Accounted name := by
  induction events generalizing bench told with
  | nil => exact accounted
  | cons event rest ih =>
      exact ih (step_keeps event keeps) (step_accounted event keeps accounted)

theorem run_hears {told : List Mark} (events : List BenchEvent) (keeps : bench.Keeps told)
    (accounted : bench.Accounted name) (others : .flush call ∉ events) :
    bench.Hears name (bench.run events) call := by
  induction events generalizing bench told with
  | nil => exact hears_of_same rfl rfl
  | cons event rest ih =>
      rw [List.mem_cons, not_or] at others
      have first := step_hears event keeps accounted (Ne.symm others.1)
      exact first.trans (ih (step_keeps event keeps) (step_accounted event keeps accounted) others.2)

theorem run_grows {told : List Mark} (events : List BenchEvent) (keeps : bench.Keeps told)
    (accounted : bench.Accounted name) (call : CallId) :
    bench.answersTo call <:+ (bench.run events).answersTo call := by
  induction events generalizing bench told with
  | nil => exact List.suffix_refl _
  | cons event rest ih =>
      have first := step_grows event keeps accounted call
      exact first.trans (ih (step_keeps event keeps) (step_accounted event keeps accounted))

/-- A pending call without an answer is one that waits. -/
theorem Accounted.isOpen (accounted : bench.Accounted name) {waiting : BenchCall}
    (present : waiting ∈ bench.calls) (unanswered : waiting.answer = none) :
    bench.IsOpen waiting.call := by
  cases found : bench.callOf? waiting.call with
  | none =>
      have missing := List.find?_eq_none.mp found waiting present
      simp at missing
  | some other =>
      have same : other = waiting := List.inj_on_of_nodup_map accounted.distinct
        (List.mem_of_find?_eq_some found) present (callOf?_call found)
      exact isOpen_of_unanswered found (same ▸ unanswered)

/-- What has become of a call that began some time before, by the number of the first run that
started after it: it waits, or it has got one answer. -/
inductive Outcome (name : String) (run : Nat) (call : CallId) (before after : Bench) : Prop where
  | waits (isOpen : after.IsOpen call) (alive : after.worker.isStopped = false)
      (unanswered : after.answersTo call = before.answersTo call)
  | succeeds (told : after.answersTo call = .ok () :: before.answersTo call)
      (ended : ∃ clock, .ended run clock ∈ after.log)
  | refused (told : after.answersTo call = .error (.stopped name) :: before.answersTo call)
      (stopped : after.worker.isStopped = true) (unended : ∀ clock, .ended run clock ∉ after.log)

theorem Fares.stopped {run : Nat} {error : WorkerError} (fares : bench.Fares run call)
    (refused : bench.answerTo call = some (.error error)) :
    bench.worker.isStopped = true ∧ ∀ clock, .ended run clock ∉ bench.log := by
  cases fares with
  | waits isOpen | served isOpen => cases isOpen.unanswered.symm.trans refused
  | answered clock ended given => cases given.symm.trans refused
  | lost stopped _ unended => exact ⟨stopped, unended⟩

theorem flush_outcome {told : List Mark} (events : List BenchEvent) (keeps : bench.Keeps told)
    (accounted : bench.Accounted name) (free : bench.isFree call = true)
    (others : .flush call ∉ events) :
    Outcome name (bench.started + 1) call bench ((bench.flush call).run events) := by
  have begun : bench.step (.flush call) = bench.flush call := if_pos free
  have kept := begun ▸ step_keeps (.flush call) keeps
  have settled := accounted.flush free
  have fares := run_fares events kept others (flush_fares keeps free)
  have later := run_accounted events kept settled
  cases run_hears events kept settled others with
  | nothing isOpen same =>
      cases stopped : bench.worker.isStopped with
      | false =>
          have waits := isOpen.mpr (flush_isOpen free stopped)
          refine .waits waits ?_ (same.trans (flush_waits free stopped))
          exact Bool.eq_false_iff.mpr fun gone => later.closed gone waits
      | true =>
          obtain ⟨closed, refused⟩ := flush_refused free accounted stopped
          have answered := same.trans refused
          have given := answerTo_eq_head? (closed ∘ isOpen.mp)
          rw [answered] at given
          exact .refused answered (fares.stopped given).1 (fares.stopped given).2
  | answer given fair waited closed answered =>
      have alive : bench.worker.isStopped = false :=
        Bool.eq_false_iff.mpr fun gone => (flush_refused free accounted gone).1 waited
      rw [flush_waits free alive] at answered
      have given := answerTo_eq_head? closed
      rw [answered] at given
      rcases fair with rfl | rfl
      · exact .succeeds answered (fares.answered_iff.mp given)
      · exact .refused answered (fares.stopped given).1 (fares.stopped given).2

/-- What holds of all who wait for a run once some events have happened to a bench. -/
structure AnsweredOnce (bench : Bench) (events : List BenchEvent) : Prop where
  -- A call waits or has one answer: success once its run has ended, and else a refusal.
  once : ∀ before call after, events = before ++ .flush call :: after →
    (bench.run before).isFree call = true → .flush call ∉ after →
      Outcome bench.name ((bench.run before).started + 1) call (bench.run before) (bench.run events)
  -- Answers are never changed or taken back.
  kept : ∀ before after call, events = before ++ after →
    (bench.run before).answersTo call <:+ (bench.run events).answersTo call
  -- Whoever waits is kept by the worker: in its run, among its requests or in its mailbox.
  held : ∀ call, call ∈ (bench.run events).worker.waiters ↔ (bench.run events).IsOpen call
  -- A worker stops when it is stopped from outside or its work fails, and stays so.
  stops : ∀ event, ((bench.run events).step event).worker.isStopped = true ↔
    (bench.run events).worker.isStopped = true ∨ (bench.run events).StoppedBy event
  -- Whoever waits then is refused: in the mailbox, among the requests and in the run.
  refuses : ∀ event call, (bench.run events).StoppedBy event → (bench.run events).IsOpen call →
    ((bench.run events).step event).answersTo call =
      .error (.stopped bench.name) :: (bench.run events).answersTo call
  -- When the worker has stopped nobody is left without an answer.
  nobody : (bench.run events).worker.isStopped = true →
    ∀ waiting ∈ (bench.run events).calls, waiting.answer.isSome = true
  -- Whoever comes then is refused at once.
  late : ∀ call, (bench.run events).worker.isStopped = true →
    (bench.run events).isFree call = true →
      ((bench.run events).step (.flush call)).answersTo call =
        .error (.stopped bench.name) :: (bench.run events).answersTo call
  -- Runs are counted when they end. At most the last one has not ended.
  counted : (bench.run events).worker.stats.runs =
    (bench.chronicle events).countP Mark.isEnd
  apart : ∃ inFlight, Sequential (bench.run events).started inFlight (bench.run events).log
  -- The run in flight at a stop is not counted, and nothing starts, ends or is counted afterwards.
  cut : ∀ before event after, events = before ++ event :: after →
    (bench.run before).worker.isStopped ≠ true →
      ((bench.run before).step event).worker.isStopped = true →
        (bench.run before).CutsOff ((bench.run before).step event) ∧
          ((bench.run before).step event).Halts (bench.run events)
  -- Requests to a stopped worker are counted, and that is all.
  ignored : (bench.run events).worker.isStopped = true →
    let stopped := (bench.run events).worker
    (bench.run events).step .notify =
        { bench.run events with
          worker := { stopped with
            stats := { stopped.stats with notifications := stopped.stats.notifications + 1 } } } ∧
      ∀ milliseconds, (bench.run events).step (.notifyAfter milliseconds) =
        { bench.run events with
          worker := { stopped with
            stats := { stopped.stats with
              deferredRequests := stopped.stats.deferredRequests + 1 } } }

/-- Everybody who waits for a run is answered once, whenever and however the worker stops. -/
theorem run_flush_answered_once (name : String) (work : Nat → List WorkStep) (ownRequests : Nat)
    (events : List BenchEvent) : (new name work ownRequests).AnsweredOnce events := by
  have keeps (events : List BenchEvent) := new_run_keeps name work ownRequests events
  have accounted (events : List BenchEvent) : Accounted name ((new name work ownRequests).run events) :=
    run_accounted events (new_keeps name work ownRequests) (new_accounted name work ownRequests)
  have rejoined (before after : List BenchEvent) : (new name work ownRequests).run (before ++ after) =
      ((new name work ownRequests).run before).run after := List.foldl_append
  constructor
  case once =>
    rintro before call after rfl free others
    have begun : ((new name work ownRequests).run before).run (.flush call :: after) =
        (((new name work ownRequests).run before).flush call).run after :=
      congrArg (run · after) (if_pos free)
    rw [rejoined, begun]
    exact flush_outcome after (keeps before) (accounted before) free others
  case kept =>
    rintro before after call rfl
    exact rejoined before after ▸ run_grows after (keeps before) (accounted before) call
  case held => exact (accounted events).waits
  case stops => exact fun event => step_isStopped event (keeps events)
  case refuses =>
    intro event call cause isOpen
    exact step_refuses event (accounted events) isOpen cause
  case nobody =>
    intro stopped waiting present
    cases answer : waiting.answer with
    | some given => rfl
    | none => exact absurd ((accounted events).isOpen present answer) ((accounted events).closed stopped)
  case late =>
    intro call stopped free
    have begun : ((new name work ownRequests).run events).step (.flush call) =
        ((new name work ownRequests).run events).flush call := if_pos free
    exact begun ▸ (flush_refused free (accounted events) stopped).2
  case counted => exact congrArg WorkerStats.runs (keeps events).stats
  case apart => exact (keeps events).sequential
  case cut =>
    rintro before event after rfl alive stopped
    refine ⟨step_cutsOff event (keeps before) alive stopped, ?_⟩
    rw [rejoined]
    exact run_halts after stopped
  case ignored => exact fun stopped => ⟨notify_stopped stopped, notifyAfter_stopped stopped⟩

def fragile : Bench :=
  new "fragile" (fun _ => [.sleep 5, .crash]) 0

def occupied : Bench :=
  fragile.run [.flush 0, .turn .worker, .flush 1]

def overdue : Bench :=
  fragile.run [.flush 0, .turn .worker, .flush 1, .pass 5]

/-- Both are refused when the worker is stopped in the middle of the run, and when the run fails. -/
theorem fragile_flush_refused :
    occupied.worker.taken = [0] ∧ occupied.worker.mailbox = [.flush 1] ∧
      (occupied.step .stop).worker.isStopped = true ∧
      (∀ call ∈ [0, 1], (occupied.step .stop).answersTo call = [.error (.stopped "fragile")]) ∧
      overdue.worker.taken = [0] ∧ overdue.worker.mailbox = [.flush 1] ∧
      (overdue.step (.turn .worker)).worker.isStopped = true ∧
      ∀ call ∈ [0, 1],
        (overdue.step (.turn .worker)).answersTo call = [.error (.stopped "fragile")] := by
  have stopping := run_flush_answered_once "fragile" (fun _ => [.sleep 5, .crash]) 0
    [.flush 0, .turn .worker, .flush 1]
  have failing := run_flush_answered_once "fragile" (fun _ => [.sleep 5, .crash]) 0
    [.flush 0, .turn .worker, .flush 1, .pass 5]
  have fails : overdue.StoppedBy (.turn .worker) := .failed (by decide) rfl
  refine ⟨rfl, rfl, (stopping.stops .stop).mpr (.inr .shutDown), ?_, rfl, rfl,
    (failing.stops (.turn .worker)).mpr (.inr fails), ?_⟩
  · have refuses (call : CallId) (waits : call ∈ occupied.worker.waiters) :=
      stopping.refuses .stop call .shutDown ((stopping.held call).mp waits)
    simp only [List.forall_mem_cons, List.not_mem_nil, false_implies, implies_true, and_true]
    exact ⟨refuses 0 (by decide), refuses 1 (by decide)⟩
  · have refuses (call : CallId) (waits : call ∈ overdue.worker.waiters) :=
      failing.refuses (.turn .worker) call fails ((failing.held call).mp waits)
    simp only [List.forall_mem_cons, List.not_mem_nil, false_implies, implies_true, and_true]
    exact ⟨refuses 0 (by decide), refuses 1 (by decide)⟩

end Bench

end WoundWait
