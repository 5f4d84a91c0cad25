import WoundWait.Instant

/-!
A worker does one piece of work at a time, on request. Requests that arrive before a run starts
share that run; a request for a later instant is kept until the instant has come, and of several
only the earliest is kept.

A run in flight is any value; who waits for a run is named by any value. The worker says what a
request, a start, an end and a stop do to the requests and to those who wait.
-/

namespace WoundWait

inductive WakeRequest (Waiter : Type) where
  | immediate
  | deferred (instant : Instant)
  | flush (waiter : Waiter)
  deriving DecidableEq, Repr

structure PendingWake (Waiter : Type) where
  now : Bool
  deferred : Option Instant
  waiters : List Waiter
  deriving DecidableEq, Repr

namespace PendingWake

variable {Waiter : Type}

def none : PendingWake Waiter :=
  { now := false, deferred := .none, waiters := [] }

def absorb (pending : PendingWake Waiter) : WakeRequest Waiter → PendingWake Waiter
  | .immediate => { pending with now := true }
  | .deferred instant => { pending with deferred := earlier pending.deferred (some instant) }
  | .flush waiter => { pending with now := true, waiters := pending.waiters ++ [waiter] }

def promote (pending : PendingWake Waiter) (clock : Instant) : PendingWake Waiter :=
  if isDue clock pending.deferred then { pending with now := true, deferred := .none } else pending

end PendingWake

structure WorkerStats where
  notifications : Nat
  deferredRequests : Nat
  runs : Nat
  deriving DecidableEq, Repr

inductive WorkerPhase (Run Waiter : Type) where
  | waiting
  | running (run : Run) (taken : List Waiter)
  | stopped
  deriving DecidableEq, Repr

structure Worker (Run Waiter : Type) where
  mailbox : List (WakeRequest Waiter)
  pending : PendingWake Waiter
  phase : WorkerPhase Run Waiter
  stats : WorkerStats
  deriving DecidableEq, Repr

namespace WakeRequest

variable {Waiter : Type}

def waiter? : WakeRequest Waiter → Option Waiter
  | flush waiter => some waiter
  | _ => none

end WakeRequest

namespace Worker

variable {Run Waiter : Type}

def new : Worker Run Waiter :=
  { mailbox := []
    pending := .none
    phase := .waiting
    stats := { notifications := 0, deferredRequests := 0, runs := 0 } }

def isStopped (worker : Worker Run Waiter) : Bool :=
  match worker.phase with
  | .stopped => true
  | _ => false

def isWaiting (worker : Worker Run Waiter) : Bool :=
  match worker.phase with
  | .waiting => true
  | _ => false

def send (worker : Worker Run Waiter) (request : WakeRequest Waiter) : Worker Run Waiter :=
  if worker.isStopped then worker else { worker with mailbox := worker.mailbox ++ [request] }

def notify (worker : Worker Run Waiter) : Worker Run Waiter :=
  { worker.send .immediate with
    stats := { worker.stats with notifications := worker.stats.notifications + 1 } }

def notifyAt (worker : Worker Run Waiter) (instant : Instant) : Worker Run Waiter :=
  { worker.send (.deferred instant) with
    stats := { worker.stats with deferredRequests := worker.stats.deferredRequests + 1 } }

def collect (worker : Worker Run Waiter) (clock : Instant) : Worker Run Waiter :=
  { worker with
    mailbox := []
    pending := (worker.mailbox.foldl PendingWake.absorb worker.pending).promote clock }

/-- Starts the run that was asked for. A deferred request that is still to come stays. -/
def start (worker : Worker Run Waiter) (run : Run) : Worker Run Waiter :=
  { worker with
    pending := { worker.pending with now := false, waiters := [] }
    phase := .running run worker.pending.waiters }

def continueRun (worker : Worker Run Waiter) (run : Run) : Worker Run Waiter :=
  match worker.phase with
  | .running _ taken => { worker with phase := .running run taken }
  | _ => worker

def taken (worker : Worker Run Waiter) : List Waiter :=
  match worker.phase with
  | .running _ taken => taken
  | _ => []

def finish (worker : Worker Run Waiter) : Worker Run Waiter :=
  { worker with
    phase := .waiting
    stats := { worker.stats with runs := worker.stats.runs + 1 } }

def waiters (worker : Worker Run Waiter) : List Waiter :=
  worker.taken ++ worker.pending.waiters ++ worker.mailbox.filterMap WakeRequest.waiter?

def stop (worker : Worker Run Waiter) : Worker Run Waiter :=
  { worker with mailbox := [], pending := .none, phase := .stopped }

def timer? (worker : Worker Run Waiter) : Option Instant :=
  match worker.phase with
  | .waiting => worker.pending.deferred
  | _ => none

end Worker

end WoundWait
