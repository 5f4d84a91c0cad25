import WoundWait.Instant
import WoundWait.Word

/-!
Settings of a lock, their defaults, and the check that recovery can work with them.
-/

namespace WoundWait

structure Options where
  lockTimeout : Nat
  lockAcquireTimeout : Nat
  prepareTimeout : Nat
  maxLockGroupSize : Nat
  deriving DecidableEq, Repr

inductive OptionsError where
  | lockTimeoutZero
  | lockAcquireTimeoutZero
  | groupSizeZero
  | groupSizeTooLarge (size : Nat)
  | unparsable
  | unreadableLayer
  | illTypedSetting
  | unrenderable
  | invalidOverride
  deriving DecidableEq, Repr

namespace Options

instance : Inhabited Options := ⟨⟨8000, 10000, 20000, 1⟩⟩

def standard : Options := default

def groupSizeLimit : Nat := 20

end Options

def OptionsError.message : OptionsError → String
  | lockTimeoutZero => "lock_timeout_ms must be greater than zero"
  | lockAcquireTimeoutZero => "lock_acquire_timeout_ms must be greater than zero"
  | groupSizeZero => "max_lock_group_size must be at least 1"
  | groupSizeTooLarge size =>
      "max_lock_group_size " ++ toString size ++ " exceeds limit of " ++
        toString Options.groupSizeLimit
  | unparsable => "Failed to parse options TOML"
  | unreadableLayer => "Failed to build configuration"
  | illTypedSetting => "Failed to deserialize transactional state options"
  | unrenderable => "Failed to render options TOML"
  | invalidOverride => "Invalid lock options"

namespace Options

def validate (options : Options) : Except OptionsError Unit :=
  if options.lockTimeout = 0 then .error .lockTimeoutZero
  else if options.lockAcquireTimeout = 0 then .error .lockAcquireTimeoutZero
  else if options.maxLockGroupSize = 0 then .error .groupSizeZero
  else if groupSizeLimit < options.maxLockGroupSize then
    .error (.groupSizeTooLarge options.maxLockGroupSize)
  else .ok ()

def validated (options : Options) : Except OptionsError Options :=
  options.validate.map fun _ => options

def isMultiOccupant (options : Options) : Bool :=
  1 < options.maxLockGroupSize

def lockTimeoutDuration (options : Options) : Duration :=
  .ofMilliseconds options.lockTimeout

def lockAcquireTimeoutDuration (options : Options) : Duration :=
  .ofMilliseconds options.lockAcquireTimeout

def prepareTimeoutDuration (options : Options) : Duration :=
  .ofMilliseconds options.prepareTimeout

def storedMilliseconds (duration : Duration) : Nat :=
  Word.truncate duration.milliseconds

def withLockTimeout (options : Options) (timeout : Duration) : Options :=
  { options with lockTimeout := storedMilliseconds timeout }

def withLockAcquireTimeout (options : Options) (timeout : Duration) : Options :=
  { options with lockAcquireTimeout := storedMilliseconds timeout }

def withMaxLockGroupSize (options : Options) (size : Nat) : Options :=
  { options with maxLockGroupSize := size }

end Options

end WoundWait
