import WoundWait.Instant

/-!
Cooperative tasks under a virtual clock. Tasks take turns; the clock stands still while any of them
is ready, and moves from one awaited instant to the next when all of them wait.
-/

namespace WoundWait

class Cooperative (System : Type) where
  clock : System → Instant
  turn? : System → Option System
  timer? : System → Option Instant
  advance : Instant → System → System
  patience : System → Nat

namespace Cooperative

variable {System : Type} [Cooperative System]

def settleWithin : Nat → System → System
  | 0, system => system
  | turns + 1, system =>
      match turn? system with
      | none => system
      | some next => settleWithin turns next

def settle (system : System) : System :=
  settleWithin (patience system) system

def sleepWithin : Nat → Instant → System → System
  | 0, target, system => advance target system
  | moves + 1, target, system =>
      match timer? system with
      | none => advance target system
      | some due =>
          if due ≤ target then sleepWithin moves target (settle (advance due system))
          else advance target system

/-- Lets the clock run up to an instant; all that is due by then has happened afterwards. Every move
takes the clock at least a millisecond further, which bounds their number. -/
def sleepUntil (target : Instant) (system : System) : System :=
  let settled := settle system
  settle (sleepWithin ((target - clock settled).toNat + 1) target settled)

def awaitWithin (reached : System → Bool) : Nat → System → System
  | 0, system => system
  | moves + 1, system =>
      let settled := settle system
      if reached settled then settled
      else
        match timer? settled with
        | none => settled
        | some due => awaitWithin reached moves (advance due settled)

def enqueue {Task : Type} [DecidableEq Task] (ready : List Task) (task : Task) : List Task :=
  if task ∈ ready then ready else ready ++ [task]

def enqueueAll {Task : Type} [DecidableEq Task] (ready tasks : List Task) : List Task :=
  tasks.foldl enqueue ready

end Cooperative

end WoundWait
