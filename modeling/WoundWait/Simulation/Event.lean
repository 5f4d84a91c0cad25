import WoundWait.Simulation.Basic

/-!
Runs of a simulation: its tasks and those of the system take turns in whatever order, and time
passes when nobody is ready.
-/

namespace WoundWait

inductive SimulationEvent where
  | turn (task : Task)
  | pass (target : Instant)

namespace Simulation

variable {Source : Type}

def isRefused (worker : SimulationWorker Source) : Bool :=
  match worker.activity, worker.inbox with
  | .entering .., some (.entered (.error (.upgradeConflict ..))) => true
  | _, _ => false

/-- What may happen next. Between a refusal and the rollback that follows it a worker does not wait,
so nothing else happens. -/
structure Allows (simulation : Simulation Source) (event : SimulationEvent) : Prop where
  atOnce : ∀ number worker, simulation.workers[number]? = some worker → isRefused worker = true →
    event = .turn (.call number)
  idle : ∀ target, event = .pass target → simulation.system.ready = []

def step (simulation : Simulation Source) : SimulationEvent → Simulation Source
  | .turn task => simulation.turnOf task
  | .pass target => simulation.advance target

def run (simulation : Simulation Source) (events : List SimulationEvent) : Simulation Source :=
  events.foldl step simulation

def Allowed (simulation : Simulation Source) : List SimulationEvent → Prop
  | [] => True
  | event :: later => simulation.Allows event ∧ (simulation.step event).Allowed later

def next? (simulation : Simulation Source) : Option SimulationEvent :=
  match simulation.system.ready.head? with
  | some task => some (.turn task)
  | none => simulation.system.timer?.map .pass

def schedule : Nat → Simulation Source → List SimulationEvent
  | 0, _ => []
  | steps + 1, simulation =>
      match simulation.main with
      | .finished _ => []
      | _ =>
          match simulation.next? with
          | none => []
          | some event => event :: schedule steps (simulation.step event)

end Simulation

end WoundWait
