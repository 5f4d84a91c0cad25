import Mathlib
import WoundWait.Priority

/-!
How far priorities follow the calendar. They count nanoseconds from 1970 in 64 bits with a sign. A
start that these cannot hold counts as the youngest, whether it is too late or too early, and a leap
second goes on into the minute after it.
-/

namespace WoundWait

namespace StartTime

/-- Nanoseconds since 1970. A leap second takes the numbers of the second that follows it. -/
def instant (time : StartTime) : Int :=
  time.seconds * 1000000000 + time.nanoseconds

def NotLater (first second : StartTime) : Prop :=
  first.seconds < second.seconds ∨
    first.seconds = second.seconds ∧ first.nanoseconds ≤ second.nanoseconds

def IsBeforeEpoch (time : StartTime) : Prop :=
  time.seconds < 0

def IsBygone (time : StartTime) : Prop :=
  time.instant < -(Word.signedLimit : Int) - 1

def IsDistant (time : StartTime) : Prop :=
  (Word.signedLimit : Int) ≤ time.instant

/-- Neither too early nor too late for its nanoseconds to be told from those of other starts. -/
def IsCounted (time : StartTime) : Prop :=
  ¬ time.IsBygone ∧ ¬ time.IsDistant

def Overruns (first second : StartTime) : Prop :=
  second.seconds = first.seconds + 1 ∧ 1000000000 + second.nanoseconds < first.nanoseconds

theorem holdsSigned_iff (time : StartTime) :
    Word.holdsSigned time.instant = true ↔ ¬ time.IsBygone ∧ time.instant ≤ Word.signedLimit := by
  simp [Word.holdsSigned, IsBygone]

theorem nanoseconds_lt (time : StartTime) (valid : time.isValid = true) :
    time.nanoseconds < 2000000000 := by
  simp only [isValid, Bool.and_eq_true, decide_eq_true_eq] at valid
  exact valid.1.2

/-- Only what is left of a leap second gives the earlier of two starts more nanoseconds. -/
theorem NotLater.overruns_iff {first second : StartTime} (ordered : first.NotLater second)
    (valid : first.isValid = true) : second.instant < first.instant ↔ first.Overruns second := by
  have within := first.nanoseconds_lt valid
  unfold instant Overruns
  rcases ordered with earlier | ⟨same, inside⟩ <;> omega

theorem IsBeforeEpoch.instant_le_zero_iff {time : StartTime} (before : time.IsBeforeEpoch)
    (valid : time.isValid = true) : time.instant ≤ 0 ↔ ¬ time.Overruns ⟨0, 0⟩ := by
  have ordered : time.NotLater ⟨0, 0⟩ := .inl before
  rw [← ordered.overruns_iff valid, Int.not_lt]
  rfl

end StartTime

namespace Priority

open StartTime

theorem ofStartTime_bygone (time : StartTime) (bygone : time.IsBygone) :
    (ofStartTime time).value = Word.signedLimit := by
  have beyond : ¬ Word.holdsSigned time.instant = true :=
    fun held => (time.holdsSigned_iff.mp held).1 bygone
  have absent : time.nanosecondsSinceEpoch? = none := if_neg beyond
  simp [ofStartTime, absent]

theorem ofStartTime_distant (time : StartTime) (distant : time.IsDistant) :
    (ofStartTime time).value = Word.signedLimit := by
  by_cases held : Word.holdsSigned time.instant = true
  · have found : time.nanosecondsSinceEpoch? = some time.instant := if_pos held
    have last : time.instant = Word.signedLimit :=
      Int.le_antisymm (time.holdsSigned_iff.mp held).2 distant
    simp [ofStartTime, found, last]
  · have absent : time.nanosecondsSinceEpoch? = none := if_neg held
    simp [ofStartTime, absent]

theorem ofStartTime_counted (time : StartTime) (counted : time.IsCounted) :
    (ofStartTime time).value = time.instant.toNat := by
  have held : Word.holdsSigned time.instant = true :=
    time.holdsSigned_iff.mpr ⟨counted.1, Int.le_of_lt (Int.lt_of_not_ge counted.2)⟩
  have found : time.nanosecondsSinceEpoch? = some time.instant := if_pos held
  simp only [ofStartTime, found, Option.getD_some]
  omega

theorem ofStartTime_uncounted (time : StartTime) (uncounted : ¬ time.IsCounted) :
    (ofStartTime time).value = Word.signedLimit := by
  by_cases bygone : time.IsBygone
  · exact ofStartTime_bygone time bygone
  · apply ofStartTime_distant
    by_contra near
    exact uncounted ⟨bygone, near⟩

theorem counted_lt_limit (time : StartTime) (counted : time.IsCounted) :
    (ofStartTime time).value < Word.signedLimit := by
  rw [ofStartTime_counted time counted]
  have near : time.instant < (Word.signedLimit : Int) := Int.lt_of_not_ge counted.2
  have positive : 0 < Word.signedLimit := by decide
  omega

theorem ofStartTime_le_limit (time : StartTime) : (ofStartTime time).value ≤ Word.signedLimit := by
  by_cases counted : time.IsCounted
  · exact Nat.le_of_lt (counted_lt_limit time counted)
  · exact Nat.le_of_eq (ofStartTime_uncounted time counted)

theorem ofStartTime_oldest_iff (time : StartTime) :
    ofStartTime time = oldest ↔ ¬ time.IsBygone ∧ time.instant ≤ 0 := by
  have zero : ofStartTime time = oldest ↔ (ofStartTime time).value = 0 :=
    ⟨fun same => congrArg value same, fun same => congrArg Priority.mk same⟩
  have positive : 0 < Word.signedLimit := by decide
  rw [zero]
  by_cases counted : time.IsCounted
  · rw [ofStartTime_counted time counted, Int.toNat_eq_zero]
    exact ⟨fun past => ⟨counted.1, past⟩, And.right⟩
  · rw [ofStartTime_uncounted time counted]
    refine ⟨fun none => absurd none (Nat.ne_of_gt positive), ?_⟩
    rintro ⟨recent, past⟩
    refine absurd ⟨recent, fun distant => ?_⟩ counted
    have far : (Word.signedLimit : Int) ≤ time.instant := distant
    omega

/-! The order -/

/-- Nothing is below a start that cannot be counted; a bygone one is above all that can be, and else
the nanoseconds after 1970 decide. -/
theorem ofStartTime_le_iff (first second : StartTime) :
    ofStartTime first ≤ ofStartTime second ↔
      ¬ (second.IsCounted ∧
        (first.IsBygone ∨ 0 < first.instant ∧ second.instant < first.instant)) := by
  have below : ofStartTime first ≤ ofStartTime second ↔
      (ofStartTime first).value ≤ (ofStartTime second).value := Iff.rfl
  rw [below]
  by_cases late : second.IsCounted
  · have later := counted_lt_limit second late
    by_cases early : first.IsCounted
    · rw [ofStartTime_counted first early, ofStartTime_counted second late]
      have recent := early.1
      simp only [late, recent, true_and, false_or]
      omega
    · have youngest := ofStartTime_uncounted first early
      have opposed : first.IsBygone ∨ 0 < first.instant ∧ second.instant < first.instant := by
        by_cases bygone : first.IsBygone
        · exact .inl bygone
        · have far : (Word.signedLimit : Int) ≤ first.instant := by
            by_contra near
            exact early ⟨bygone, near⟩
          have near : second.instant < (Word.signedLimit : Int) := Int.lt_of_not_ge late.2
          have positive : 0 < (Word.signedLimit : Int) := by decide
          exact .inr ⟨by omega, by omega⟩
      simp only [late, opposed, and_self, not_true_eq_false, iff_false]
      omega
  · have youngest := ofStartTime_uncounted second late
    have least := ofStartTime_le_limit first
    simp only [late, false_and, not_false_eq_true, iff_true]
    omega

/-- Of two starts the one that is not later has the smaller priority, or the same, unless it is too
early to be counted, or in a leap second that the other one follows too soon. A start before 1970 is
as old as can be under the same conditions. -/
theorem ofStartTime_follows_calendar (first second : StartTime) (valid : first.isValid = true)
    (ordered : first.NotLater second) :
    (ofStartTime first ≤ ofStartTime second ↔
      ¬ (second.IsCounted ∧
        (first.IsBygone ∨ -1 ≤ first.seconds ∧ first.Overruns second))) ∧
      (first.IsBeforeEpoch →
        (ofStartTime first = oldest ↔ ¬ first.IsBygone ∧ ¬ first.Overruns ⟨0, 0⟩)) := by
  constructor
  · have overrun : 0 < first.instant ∧ second.instant < first.instant ↔
        -1 ≤ first.seconds ∧ first.Overruns second := by
      rw [ordered.overruns_iff valid]
      have within := first.nanoseconds_lt valid
      unfold instant Overruns
      omega
    rw [ofStartTime_le_iff, overrun]
  · intro before
    rw [ofStartTime_oldest_iff, before.instant_le_zero_iff valid]

/-- Half a second into the leap second of 2016 is earlier than a fifth of a second into 2017, and
has a larger priority. -/
theorem leapSecond_follows_calendar :
    (⟨1483228799, 1500000000⟩ : StartTime).isValid = true ∧
      NotLater ⟨1483228799, 1500000000⟩ ⟨1483228800, 200000000⟩ ∧
      Overruns ⟨1483228799, 1500000000⟩ ⟨1483228800, 200000000⟩ ∧
      ¬ ofStartTime ⟨1483228799, 1500000000⟩ ≤ ofStartTime ⟨1483228800, 200000000⟩ := by
  have valid : (⟨1483228799, 1500000000⟩ : StartTime).isValid = true := by decide
  have ordered : NotLater ⟨1483228799, 1500000000⟩ ⟨1483228800, 200000000⟩ := .inl (by decide)
  have overruns : Overruns ⟨1483228799, 1500000000⟩ ⟨1483228800, 200000000⟩ := by
    simp [Overruns]
  have counted : (⟨1483228800, 200000000⟩ : StartTime).IsCounted := by
    simp [IsCounted, IsBygone, IsDistant, instant, Word.signedLimit]
  refine ⟨valid, ordered, overruns, ?_⟩
  rw [(ofStartTime_follows_calendar _ _ valid ordered).1, not_not]
  exact ⟨counted, .inr ⟨by decide, overruns⟩⟩

/-- Of any two starts the one that is not later has the smaller priority, or the same, and every
start before 1970 is as old as can be. -/
def FollowsCalendar : Prop :=
  (∀ first second : StartTime, first.isValid = true → second.isValid = true →
      first.NotLater second → ofStartTime first ≤ ofStartTime second) ∧
    ∀ time : StartTime, time.isValid = true → time.IsBeforeEpoch → ofStartTime time = oldest

/-- Some minutes into the 21st of September 1677 a start is as young as can be. -/
theorem bygone_breaks_calendar : ¬ FollowsCalendar := by
  rintro ⟨_, follows⟩
  have oldest := follows ⟨-9223372037, 0⟩ (by decide) (by decide : (-9223372037 : Int) < 0)
  exact absurd oldest (by decide)

end Priority

end WoundWait
