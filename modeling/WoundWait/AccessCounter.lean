import WoundWait.Word

/-!
Counts of the reads and writes a transaction made under one lock. The lock keeps its own counts and
compares them with the caller's.
-/

namespace WoundWait

structure AccessCounter where
  reads : Nat
  writes : Nat
  deriving DecidableEq, Repr

inductive AccessMode where
  | read
  | write
  deriving DecidableEq, Repr

namespace AccessCounter

def limit : Nat := Word.halfLimit

def zero : AccessCounter := ⟨0, 0⟩

instance : Inhabited AccessCounter := ⟨zero⟩

def total (counter : AccessCounter) : Nat :=
  counter.reads + counter.writes

def isEmpty (counter : AccessCounter) : Bool :=
  counter.total == 0

def exceeds (counter other : AccessCounter) : Bool :=
  other.reads < counter.reads || other.writes < counter.writes

def increment (count : Nat) : Nat :=
  if count < limit then count + 1 else count

def record (counter : AccessCounter) : AccessMode → AccessCounter
  | .read => { counter with reads := increment counter.reads }
  | .write => { counter with writes := increment counter.writes }

def text (counter : AccessCounter) : String :=
  "r" ++ toString counter.reads ++ "/w" ++ toString counter.writes

instance : ToString AccessCounter := ⟨text⟩

end AccessCounter

end WoundWait
