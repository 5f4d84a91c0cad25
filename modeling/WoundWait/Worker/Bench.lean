import WoundWait.Cooperative
import WoundWait.Error
import WoundWait.Worker.Basic

/-!
One worker on its own, with work given as a list of steps for each run, under a virtual clock. The
work may ask its own worker for further runs, wait, or die in the middle of a run.
-/

namespace WoundWait

inductive WorkStep where
  | notify
  | notifyAfter (milliseconds : Int)
  -- Waits; waiting for no time at all does not give way.
  | sleep (milliseconds : Nat)
  | giveWay
  | crash
  deriving DecidableEq, Repr

structure BenchRun where
  number : Nat
  due : Instant
  rest : List WorkStep
  deriving DecidableEq, Repr

inductive RunLog where
  | started (run : Nat) (clock : Instant)
  | ended (run : Nat) (clock : Instant)
  deriving DecidableEq, Repr

abbrev CallId := Nat

abbrev FlushAnswer := Except WorkerError Unit

inductive BenchTask where
  | worker
  | call (call : CallId)
  deriving DecidableEq, Repr

structure BenchCall where
  call : CallId
  answer : Option FlushAnswer

structure Bench where
  name : String
  work : Nat → List WorkStep
  ownRequests : Nat
  clock : Instant
  worker : Worker BenchRun CallId
  started : Nat
  calls : List BenchCall
  ready : List BenchTask
  -- Newest first.
  log : List RunLog
  -- Answers given, newest first.
  answers : List (CallId × FlushAnswer)

namespace Bench

def new (name : String) (work : Nat → List WorkStep) (ownRequests : Nat) : Bench :=
  { name, work, ownRequests
    clock := 0
    worker := .new
    started := 0
    calls := []
    ready := [.worker]
    log := []
    answers := [] }

def wake (bench : Bench) (task : BenchTask) : Bench :=
  { bench with ready := Cooperative.enqueue bench.ready task }

def wakeWorker (bench : Bench) : Bench :=
  if bench.worker.isWaiting then bench.wake .worker else bench

def stoppedError (bench : Bench) : WorkerError :=
  .stopped bench.name

def answer (bench : Bench) (waiters : List CallId) (answer : FlushAnswer) : Bench :=
  let answered := waiters.filter fun waiter => bench.calls.any fun call => call.call == waiter
  { bench with
    calls := bench.calls.map fun call =>
      if call.call ∈ answered then { call with answer := some answer } else call
    ready := Cooperative.enqueueAll bench.ready (answered.map .call) }

def notify (bench : Bench) : Bench :=
  { bench with worker := bench.worker.notify }.wakeWorker

def notifyAfter (bench : Bench) (milliseconds : Int) : Bench :=
  { bench with worker := bench.worker.notifyAt (bench.clock + milliseconds) }.wakeWorker

def stop (bench : Bench) : Bench :=
  let waiters := bench.worker.waiters
  { bench with worker := bench.worker.stop }.answer waiters (.error bench.stoppedError)

def flush (bench : Bench) (call : CallId) : Bench :=
  if bench.worker.isStopped then
    { bench with answers := (call, .error bench.stoppedError) :: bench.answers }
  else
    let waiting : BenchCall := { call, answer := none }
    { bench with
      worker := bench.worker.send (.flush call)
      calls := bench.calls ++ [waiting] }.wakeWorker

def finishRun (bench : Bench) (run : Nat) : Bench :=
  let taken := bench.worker.taken
  let ended := { bench with
    worker := bench.worker.finish
    log := .ended run bench.clock :: bench.log }.answer taken (.ok ())
  { ended with ready := .worker :: ended.ready }

def perform (bench : Bench) (run : Nat) : List WorkStep → Bench
  | [] => bench.finishRun run
  | .notify :: rest => bench.notify.perform run rest
  | .notifyAfter milliseconds :: rest => (bench.notifyAfter milliseconds).perform run rest
  | .sleep 0 :: rest => bench.perform run rest
  | .sleep (before + 1) :: rest =>
      { bench with
        worker := bench.worker.continueRun
          { number := run, due := bench.clock + (before + 1 : Nat), rest } }
  | .giveWay :: rest =>
      { bench with
        worker := bench.worker.continueRun { number := run, due := bench.clock, rest } }.wake .worker
  | .crash :: _ => bench.stop

def startRun (bench : Bench) : Bench :=
  let number := bench.started + 1
  { bench with
    started := number
    worker := bench.worker.start { number, due := bench.clock, rest := [] }
    log := .started number bench.clock :: bench.log }.perform number (bench.work number)

def workerTurn (bench : Bench) : Bench :=
  match bench.worker.phase with
  | .stopped => bench
  | .running run _ =>
      if run.due ≤ bench.clock then bench.perform run.number run.rest else bench
  | .waiting =>
      let collected := { bench with worker := bench.worker.collect bench.clock }
      if collected.worker.pending.now then collected.startRun else collected

def callTurn (bench : Bench) (call : CallId) : Bench :=
  match bench.calls.find? fun waiting => waiting.call == call with
  | some { answer := some given, .. } =>
      { bench with
        calls := bench.calls.filter fun waiting => waiting.call != call
        answers := (call, given) :: bench.answers }
  | _ => bench

def turnOf (bench : Bench) (task : BenchTask) : Bench :=
  if task ∈ bench.ready then
    let resumed := { bench with ready := bench.ready.erase task }
    match task with
    | .worker => resumed.workerTurn
    | .call call => resumed.callTurn call
  else bench

def turn? (bench : Bench) : Option Bench :=
  bench.ready.head?.map bench.turnOf

def timer? (bench : Bench) : Option Instant :=
  match bench.worker.phase with
  | .running run _ => some run.due
  | _ => bench.worker.timer?

def advance (target : Instant) (bench : Bench) : Bench :=
  let moved := { bench with clock := max bench.clock target }
  if isDue moved.clock moved.timer? then moved.wake .worker else moved

/-- Each request is good for one run, each run for two turns of the worker, and each call for one
turn of its own. -/
def patience (bench : Bench) : Nat :=
  4 * (bench.ownRequests + bench.worker.mailbox.length + bench.ready.length +
    bench.calls.length + (bench.work (bench.started + 1)).length + 4)

instance : Cooperative Bench where
  clock := clock
  turn? := turn?
  timer? := timer?
  advance := advance
  patience := patience

def hasAnswered (call : CallId) (bench : Bench) : Bool :=
  bench.answers.any fun given => given.1 == call

def flushAndWait (bench : Bench) (call : CallId) : Bench :=
  let begun := bench.flush call
  Cooperative.settle
    (Cooperative.awaitWithin (hasAnswered call) begun.patience begun)

end Bench

end WoundWait
