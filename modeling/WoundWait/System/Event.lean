import WoundWait.System.Basic

/-!
Runs of a system: whatever callers ask for and give up, in whatever order the tasks take their
turns, whenever and however far the clock moves, and whatever the queue delays or rejects.
-/

namespace WoundWait

inductive Event (State Result : Type) where
  | call (call : CallId) (request : Request State Result)
  | giveUp (call : CallId)
  | turn (task : Task)
  | pass (target : Instant)
  | assignRole (transaction : TransactionId) (role : CommitRole) (timestamp : Timestamp)
  | withRecord (transaction : TransactionId) (operation : Operation State Result)
  | notifyLock
  | notifyStorage
  | setGate (gateOpen : Bool)
  | setRejecting (rejecting : Bool)
  | setRefusals (refuses : Outcome → TransactionRecord State → Bool)
  | setDelays (abortDelay commitDelay : Nat)
  | setLag (lag : Outcome → TransactionRecord State → Nat)
  | stopLock
  | stopStorage

namespace System

variable {State Result : Type}

/-- A name may be used again when no pending call bears it and no worker keeps it. -/
def isFree (system : System State Result) (call : CallId) : Bool :=
  !(system.calls.any fun pending => pending.call == call) &&
    !system.lockWorker.waiters.contains call && !system.storageWorker.waiters.contains call

def giveUp (system : System State Result) (call : CallId) : System State Result :=
  { system with calls := system.calls.filter fun pending => pending.call != call }

def step (system : System State Result) : Event State Result → System State Result
  | .call call request => if system.isFree call then system.spawn call request else system
  | .giveUp call => system.giveUp call
  | .turn task => system.turnOf task
  | .pass target => system.advance target
  | .assignRole transaction role timestamp => system.assignRole transaction role timestamp
  | .withRecord transaction operation => (system.withRecord transaction operation).1
  | .notifyLock => system.notifyLock
  | .notifyStorage => system.notifyStorage
  | .setGate gateOpen => system.setGate gateOpen
  | .setRejecting rejecting => system.setRejecting rejecting
  | .setRefusals refuses => system.setRefusals refuses
  | .setDelays abortDelay commitDelay => system.setDelays abortDelay commitDelay
  | .setLag lag => system.setLag lag
  | .stopLock => system.stopLock
  | .stopStorage => system.stopStorage

def run (system : System State Result) (events : List (Event State Result)) :
    System State Result :=
  events.foldl step system

def Reachable (options : Options) (system : System State Result) : Prop :=
  ∃ events, system = (new options).run events

end System

end WoundWait
