import Mathlib.Tactic.SplitIfs
import WoundWait.Options

/-!
What is left of the durations that options are built with. A timeout is kept as milliseconds in 64
bits, so a duration of 2^64 milliseconds or more starts again from zero as often as these go into
it, and only what remains is read back, compared and checked.
-/

namespace WoundWait

namespace Duration

def length (duration : Duration) : Nat :=
  duration.seconds * 1000000000 + duration.nanoseconds

def IsValid (duration : Duration) : Prop :=
  duration.seconds ≤ Word.limit ∧ duration.nanoseconds < 1000000000

def RoundsDownTo (duration : Duration) (nanoseconds : Nat) : Prop :=
  1000000 ∣ nanoseconds ∧ nanoseconds ≤ duration.length ∧ duration.length < nanoseconds + 1000000

def lap : Nat := Word.limit + 1

def laps (duration : Duration) : Nat :=
  duration.milliseconds / lap

/-- What a timeout keeps of a duration. -/
structure Leaves (duration kept : Duration) : Prop where
  valid : kept.IsValid
  within : kept.length < lap * 1000000
  remainder : duration.RoundsDownTo (kept.length + duration.laps * lap * 1000000)
  faithful : duration.RoundsDownTo kept.length ↔ duration.length < lap * 1000000

theorem milliseconds_eq (duration : Duration) : duration.milliseconds = duration.length / 1000000 := by
  simp only [milliseconds, length]
  omega

theorem length_ofMilliseconds (milliseconds : Nat) :
    (ofMilliseconds milliseconds).length = milliseconds * 1000000 := by
  simp only [ofMilliseconds, length]
  omega

theorem truncate_add_laps (duration : Duration) :
    Word.truncate duration.milliseconds + duration.laps * lap = duration.milliseconds :=
  Nat.mod_add_div' duration.milliseconds lap

theorem truncate_lt_lap (milliseconds : Nat) : Word.truncate milliseconds < lap :=
  Nat.mod_lt milliseconds (Nat.succ_pos Word.limit)

theorem ofMilliseconds_valid (milliseconds : Nat) (within : milliseconds < lap) :
    (ofMilliseconds milliseconds).IsValid := by
  simp only [IsValid, ofMilliseconds, lap] at *
  omega

theorem roundsDownTo_milliseconds (duration : Duration) (milliseconds : Nat) :
    duration.RoundsDownTo (milliseconds * 1000000) ↔ milliseconds = duration.milliseconds := by
  rw [RoundsDownTo, milliseconds_eq]
  omega

/-- Nothing is lost before the first lap is full. -/
theorem truncate_eq_iff (duration : Duration) :
    Word.truncate duration.milliseconds = duration.milliseconds ↔ duration.length < lap * 1000000 := by
  rw [Word.truncate, Nat.mod_eq_iff_lt (Nat.succ_ne_zero Word.limit), milliseconds_eq,
    Nat.div_lt_iff_lt_mul (by decide), lap]

theorem leaves_stored (duration : Duration) :
    duration.Leaves (ofMilliseconds (Options.storedMilliseconds duration)) := by
  have within := truncate_lt_lap duration.milliseconds
  constructor
  · exact ofMilliseconds_valid _ within
  · rw [length_ofMilliseconds]
    exact Nat.mul_lt_mul_of_pos_right within (by decide)
  · rw [length_ofMilliseconds, ← Nat.add_mul, roundsDownTo_milliseconds]
    exact truncate_add_laps duration
  · rw [length_ofMilliseconds, roundsDownTo_milliseconds]
    exact truncate_eq_iff duration

/-- The longer of two durations leaves less if it is longer by less than the laps that it has more.
-/
theorem truncate_lt_iff (shorter longer : Duration) (ordered : shorter.length ≤ longer.length) :
    Word.truncate longer.milliseconds < Word.truncate shorter.milliseconds ↔
      longer.milliseconds < shorter.milliseconds + (longer.laps - shorter.laps) * lap := by
  have fewer : shorter.laps ≤ longer.laps := by
    rw [laps, laps, milliseconds_eq, milliseconds_eq]
    exact Nat.div_le_div_right (Nat.div_le_div_right ordered)
  have first := shorter.truncate_add_laps
  have second := longer.truncate_add_laps
  -- With the products of laps as atoms the rest is linear.
  have gained : (longer.laps - shorter.laps) * lap + shorter.laps * lap = longer.laps * lap := by
    rw [← Nat.add_mul, Nat.sub_add_cancel fewer]
  omega

end Duration

inductive BuiltTimeout where
  | lock
  | lockAcquire
  deriving DecidableEq, Repr

namespace BuiltTimeout

def set : BuiltTimeout → Options → Duration → Options
  | lock => Options.withLockTimeout
  | lockAcquire => Options.withLockAcquireTimeout

def read : BuiltTimeout → Options → Duration
  | lock => Options.lockTimeoutDuration
  | lockAcquire => Options.lockAcquireTimeoutDuration

end BuiltTimeout

inductive BuilderCall where
  | timeout (which : BuiltTimeout) (duration : Duration)
  | groupSize (size : Nat)
  deriving DecidableEq, Repr

namespace BuilderCall

def apply (options : Options) : BuilderCall → Options
  | timeout which duration => which.set options duration
  | groupSize size => options.withMaxLockGroupSize size

def duration? (which : BuiltTimeout) : BuilderCall → Option Duration
  | timeout other duration => if other = which then some duration else none
  | groupSize _ => none

def size? : BuilderCall → Option Nat
  | timeout .. => none
  | groupSize size => some size

def last? {α : Type} (said : BuilderCall → Option α) (calls : List BuilderCall) : Option α :=
  calls.reverse.findSome? said

theorem read_apply (which : BuiltTimeout) (options : Options) (call : BuilderCall) :
    which.read (call.apply options) = (call.duration? which).elim (which.read options)
      fun duration => .ofMilliseconds (Options.storedMilliseconds duration) := by
  cases call with
  | timeout other duration => cases other <;> cases which <;> rfl
  | groupSize size => cases which <;> rfl

theorem maxLockGroupSize_apply (options : Options) (call : BuilderCall) :
    (call.apply options).maxLockGroupSize = call.size?.elim options.maxLockGroupSize id := by
  cases call with
  | timeout which duration => cases which <;> rfl
  | groupSize size => rfl

end BuilderCall

namespace Options

open BuilderCall

def build (options : Options) (calls : List BuilderCall) : Options :=
  calls.foldl BuilderCall.apply options

/-- The induction is on the calls; what a call says is forgotten only for what a later one says. -/
theorem build_field {α β : Type} (field : Options → β) (said : BuilderCall → Option α)
    (keep : α → β)
    (applied : ∀ options call, field (call.apply options) = (said call).elim (field options) keep)
    (options : Options) (calls : List BuilderCall) :
    field (options.build calls) = (last? said calls).elim (field options) keep := by
  induction calls generalizing options with
  | nil => rfl
  | cons call later ih =>
      have rest := ih (call.apply options)
      simp only [build, last?, List.foldl_cons, List.reverse_cons, List.findSome?_append,
        List.findSome?_singleton] at rest ⊢
      rw [rest, applied]
      cases later.reverse.findSome? said <;> rfl

theorem read_build (options : Options) (calls : List BuilderCall) (which : BuiltTimeout)
    (duration : Duration) (given : last? (duration? which) calls = some duration) :
    which.read (options.build calls) = .ofMilliseconds (storedMilliseconds duration) := by
  rw [build_field which.read (duration? which) _ (read_apply which), given]
  rfl

theorem maxLockGroupSize_build (options : Options) (calls : List BuilderCall) (size : Nat)
    (given : last? size? calls = some size) : (options.build calls).maxLockGroupSize = size := by
  rw [build_field maxLockGroupSize size? id maxLockGroupSize_apply, given]
  rfl

theorem read_length_pos_iff (options : Options) :
    (∀ which : BuiltTimeout, 0 < (which.read options).length) ↔
      0 < options.lockTimeout ∧ 0 < options.lockAcquireTimeout := by
  have lock : (BuiltTimeout.lock.read options).length = options.lockTimeout * 1000000 :=
    Duration.length_ofMilliseconds options.lockTimeout
  have acquire :
      (BuiltTimeout.lockAcquire.read options).length = options.lockAcquireTimeout * 1000000 :=
    Duration.length_ofMilliseconds options.lockAcquireTimeout
  constructor
  · intro positive
    have first := positive .lock
    have second := positive .lockAcquire
    omega
  · rintro ⟨first, second⟩ (_ | _) <;> omega

theorem validate_iff (options : Options) :
    options.validate = .ok () ↔
      (∀ which : BuiltTimeout, 0 < (which.read options).length) ∧
        0 < options.maxLockGroupSize ∧ options.maxLockGroupSize ≤ groupSizeLimit := by
  rw [read_length_pos_iff, validate]
  split_ifs <;> simp only [false_iff, true_iff] <;> omega

theorem read_build_pos_iff (options : Options) (calls : List BuilderCall) (which : BuiltTimeout)
    (duration : Duration) (given : last? (duration? which) calls = some duration) :
    0 < (which.read (options.build calls)).length ↔ ¬ Duration.lap ∣ duration.milliseconds := by
  rw [options.read_build calls which duration given, Duration.length_ofMilliseconds,
    Nat.dvd_iff_mod_eq_zero]
  have stored : storedMilliseconds duration = duration.milliseconds % Duration.lap := rfl
  omega

/-- What comes of the durations in a chain of calls. -/
structure WrapsDurations (options : Options) (calls : List BuilderCall) : Prop where
  leaves : ∀ which duration, last? (duration? which) calls = some duration →
    duration.Leaves (which.read (options.build calls))
  -- The longer of two durations gives the shorter timeout if it is longer by less than the laps that it has
  -- more, and only then.
  overtakes : ∀ (base : Options) others which shorter longer,
    last? (duration? which) calls = some shorter → last? (duration? which) others = some longer →
    shorter.length ≤ longer.length →
      ((which.read (base.build others)).length < (which.read (options.build calls)).length ↔
        longer.milliseconds < shorter.milliseconds + (longer.laps - shorter.laps) * Duration.lap)
  accepted : ∀ lock acquire size, last? (duration? .lock) calls = some lock →
    last? (duration? .lockAcquire) calls = some acquire → last? size? calls = some size →
      ((options.build calls).validate = .ok () ↔
        (¬ Duration.lap ∣ lock.milliseconds ∧ ¬ Duration.lap ∣ acquire.milliseconds) ∧
          0 < size ∧ size ≤ groupSizeLimit)

/-- Whatever chain of calls options are built with, their timeouts are what is left of the last
durations. -/
theorem build_wraps_durations (options : Options) (calls : List BuilderCall) :
    WrapsDurations options calls := by
  constructor
  · intro which duration given
    rw [options.read_build calls which duration given]
    exact duration.leaves_stored
  · intro base others which shorter longer given later ordered
    rw [options.read_build calls which shorter given, base.read_build others which longer later,
      Duration.length_ofMilliseconds, Duration.length_ofMilliseconds,
      ← Duration.truncate_lt_iff shorter longer ordered]
    exact Nat.mul_lt_mul_right (by decide)
  · intro lock acquire size given acquireGiven sizeGiven
    rw [validate_iff, options.maxLockGroupSize_build calls size sizeGiven,
      ← options.read_build_pos_iff calls .lock lock given,
      ← options.read_build_pos_iff calls .lockAcquire acquire acquireGiven]
    apply and_congr_left'
    exact ⟨fun all => ⟨all .lock, all .lockAcquire⟩, fun both which => by cases which <;> simp [both]⟩

def secondLap : List BuilderCall :=
  [.timeout .lock ⟨0, 1000000⟩, .groupSize 4, .timeout .lockAcquire ⟨10, 0⟩,
    .timeout .lock ⟨18446744073709556, 616000000⟩]

/-- Five seconds are left of a duration of more than a lap, less than of eight, and the check
accepts them. -/
theorem secondLap_wraps_durations :
    Duration.Leaves ⟨18446744073709556, 616000000⟩ (standard.build secondLap).lockTimeoutDuration ∧
      (standard.build secondLap).lockTimeoutDuration.length <
        (standard.build [.timeout .lock ⟨8, 0⟩]).lockTimeoutDuration.length ∧
      (standard.build secondLap).validate = .ok () := by
  have short := build_wraps_durations standard [.timeout .lock ⟨8, 0⟩]
  have long := build_wraps_durations standard secondLap
  refine ⟨long.leaves .lock _ rfl, ?_, ?_⟩
  · exact (short.overtakes standard secondLap .lock _ _ rfl rfl (by decide)).mpr (by decide)
  · exact (long.accepted _ _ _ rfl rfl rfl).mpr (by decide)

/-! Durations of a lap and more -/

def KeepsDurations (which : BuiltTimeout) : Prop :=
  ∀ (options : Options) (duration : Duration), duration.IsValid →
    duration.RoundsDownTo (which.read (which.set options duration)).length

def KeepsOrder (which : BuiltTimeout) : Prop :=
  ∀ (options : Options) (shorter longer : Duration), shorter.IsValid → longer.IsValid →
    shorter.length ≤ longer.length →
      (which.read (which.set options shorter)).length ≤ (which.read (which.set options longer)).length

def AcceptsDurations : Prop :=
  ∀ (options : Options) (lock acquire : Duration) (size : Nat), lock.IsValid → acquire.IsValid →
    1000000 ≤ lock.length → 1000000 ≤ acquire.length → 0 < size → size ≤ groupSizeLimit →
      (options.build
        [.timeout .lock lock, .timeout .lockAcquire acquire, .groupSize size]).validate = .ok ()

/-- Of 2^64 milliseconds nothing is left, which is less than of one and refused by the check. -/
theorem fullLap_breaks_durations :
    (∀ which, ¬ KeepsDurations which ∧ ¬ KeepsOrder which) ∧ ¬ AcceptsDurations := by
  have full : (⟨18446744073709551, 616000000⟩ : Duration).IsValid := by
    simp [Duration.IsValid, Word.limit]
  have one : (⟨0, 1000000⟩ : Duration).IsValid := by
    simp [Duration.IsValid]
  refine ⟨fun which => ⟨fun keeps => ?_, fun keeps => ?_⟩, fun accepts => ?_⟩
  · have kept := keeps standard ⟨18446744073709551, 616000000⟩ full
    have nothing : (which.read (which.set standard ⟨18446744073709551, 616000000⟩)).length = 0 := by
      cases which <;> rfl
    rw [nothing] at kept
    exact absurd kept.2.2 (by decide)
  · have ordered := keeps standard ⟨0, 1000000⟩ ⟨18446744073709551, 616000000⟩ one full (by decide)
    cases which <;> exact absurd ordered (by decide)
  · have accepted := accepts standard ⟨18446744073709551, 616000000⟩ ⟨0, 1000000⟩ 1 full one
      (by decide) (by decide) (by decide) (by decide)
    cases accepted

end Options

end WoundWait
