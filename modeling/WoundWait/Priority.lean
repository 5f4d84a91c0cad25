import WoundWait.Word

/-!
Priorities order transactions by their start. The smaller number started earlier and wins a
conflict.
-/

namespace WoundWait

structure Priority where
  value : Nat
  deriving DecidableEq, Repr

namespace Priority

def oldest : Priority := ⟨0⟩

instance : Inhabited Priority := ⟨oldest⟩

instance : LT Priority := ⟨fun first second => first.value < second.value⟩

instance : LE Priority := ⟨fun first second => first.value ≤ second.value⟩

instance (first second : Priority) : Decidable (first < second) :=
  inferInstanceAs (Decidable (first.value < second.value))

instance (first second : Priority) : Decidable (first ≤ second) :=
  inferInstanceAs (Decidable (first.value ≤ second.value))

instance : Ord Priority := ⟨fun first second => compare first.value second.value⟩

def isYoungerThan (priority other : Priority) : Bool :=
  other.value < priority.value

def text (priority : Priority) : String :=
  "prio:" ++ toString priority.value

instance : ToString Priority := ⟨text⟩

end Priority

/-- A point in universal time: seconds since 1970 and nanoseconds within the second, where a leap
second is written as the preceding second with a billion or more nanoseconds. -/
structure StartTime where
  seconds : Int
  nanoseconds : Nat
  deriving DecidableEq, Repr

namespace StartTime

/-- The calendar runs over some 262000 years either way, and only the last second of a minute can be
followed by a leap second. -/
def isValid (time : StartTime) : Bool :=
  -8334601228800 ≤ time.seconds && time.seconds ≤ 8210266876799 &&
    time.nanoseconds < 2000000000 &&
    (time.nanoseconds < 1000000000 || time.seconds % 60 == 59)

def nanosecondsSinceEpoch? (time : StartTime) : Option Int :=
  Word.signed? (time.seconds * 1000000000 + time.nanoseconds)

end StartTime

namespace Priority

/-- Nanoseconds since 1970. Times before that are as old as can be, and times that do not fit count
as the youngest. -/
def ofStartTime (time : StartTime) : Priority :=
  ⟨(max (time.nanosecondsSinceEpoch?.getD Word.signedLimit) 0).toNat⟩

end Priority

end WoundWait
