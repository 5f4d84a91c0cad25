import WoundWait.Worker.Bench

/-!
A family of runs that request further runs of their own worker, take time, and may fail.
-/

namespace WoundWait

structure Workload where
  notifyingRuns : Nat
  rearmingRuns : Nat
  rearmDelay : Int
  failingRun : Nat
  duration : Nat
  deriving DecidableEq, Repr

namespace Workload

def steps (workload : Workload) (run : Nat) : List WorkStep :=
  (if run ≤ workload.notifyingRuns then [.notify] else []) ++
    (if run ≤ workload.rearmingRuns then [.notifyAfter workload.rearmDelay] else []) ++
    (if run = workload.failingRun then [.crash] else []) ++
    [.sleep workload.duration]

def bench (workload : Workload) (name : String) : Bench :=
  Bench.new name workload.steps (workload.notifyingRuns + workload.rearmingRuns)

end Workload

end WoundWait
