/-!
Points in time and spans of time. Instants are whole milliseconds on a virtual clock that starts at
zero; a request may name an instant before the start, so they are integers. Durations keep
nanoseconds because the options are built from them and round down.
-/

namespace WoundWait

abbrev Instant := Int

def earlier : Option Instant → Option Instant → Option Instant
  | none, second => second
  | some first, none => some first
  | some first, some second => some (min first second)

def earliest (instants : List (Option Instant)) : Option Instant :=
  instants.foldr earlier none

def isDue (clock : Instant) : Option Instant → Bool
  | none => false
  | some instant => instant ≤ clock

structure Duration where
  seconds : Nat
  nanoseconds : Nat
  deriving DecidableEq, Repr

namespace Duration

def ofParts (seconds nanoseconds : Nat) : Duration :=
  { seconds := seconds + nanoseconds / 1000000000
    nanoseconds := nanoseconds % 1000000000 }

def ofMilliseconds (milliseconds : Nat) : Duration :=
  { seconds := milliseconds / 1000
    nanoseconds := milliseconds % 1000 * 1000000 }

def milliseconds (duration : Duration) : Nat :=
  duration.seconds * 1000 + duration.nanoseconds / 1000000

end Duration

end WoundWait
