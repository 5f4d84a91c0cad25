import WoundWait.Worker.Bench

/-!
Runs of a bench: requests, turns in any order, a moving clock, and a stop at any moment.
-/

namespace WoundWait

inductive BenchEvent where
  | notify
  | notifyAfter (milliseconds : Int)
  | flush (call : CallId)
  | turn (task : BenchTask)
  | pass (target : Instant)
  | stop
  deriving DecidableEq, Repr

namespace Bench

def isFree (bench : Bench) (call : CallId) : Bool :=
  !(bench.calls.any fun waiting => waiting.call == call) &&
    !bench.worker.waiters.contains call

def step (bench : Bench) : BenchEvent → Bench
  | .notify => bench.notify
  | .notifyAfter milliseconds => bench.notifyAfter milliseconds
  | .flush call => if bench.isFree call then bench.flush call else bench
  | .turn task => bench.turnOf task
  | .pass target => bench.advance target
  | .stop => bench.stop

def run (bench : Bench) (events : List BenchEvent) : Bench :=
  events.foldl step bench

end Bench

end WoundWait
