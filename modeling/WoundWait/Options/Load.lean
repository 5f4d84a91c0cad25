import WoundWait.Options.Toml
import WoundWait.Settings.Layer

/-!
Options from layers: the environment over a document over the defaults.
-/

namespace WoundWait

inductive OptionsFile where
  | unnamed
  | unreadable
  | content (text : String)
  deriving DecidableEq, Repr

namespace Options

def programName : String := "GRAINSTATE"

def settingNumber? (settings : Settings) (key : String) (fallback : Nat) : Option Nat :=
  match settings.find? key with
  | none => some fallback
  | some value => value.number?

def ofSettings? (settings : Settings) : Option Options :=
  let base := standard
  match settingNumber? settings "lock_timeout_ms" base.lockTimeout,
    settingNumber? settings "lock_acquire_timeout_ms" base.lockAcquireTimeout,
    settingNumber? settings "prepare_timeout_ms" base.prepareTimeout,
    settingNumber? settings "max_lock_group_size" base.maxLockGroupSize with
  | some lockTimeout, some lockAcquireTimeout, some prepareTimeout, some maxLockGroupSize =>
      some { lockTimeout, lockAcquireTimeout, prepareTimeout, maxLockGroupSize }
  | _, _, _, _ => none

def documentSettings? : OptionsFile → Option Settings
  | .unnamed => some []
  | .unreadable => none
  | .content text => (Toml.parse? text).map (Settings.addDocument [])

def load (file : OptionsFile) (program : String) (environment : List (String × String)) :
    Except OptionsError Options :=
  match documentSettings? file with
  | none => .error .unreadableLayer
  | some settings =>
      match ofSettings? (settings.addEnvironment program environment) with
      | none => .error .illTypedSetting
      | some options => options.validated

end Options

end WoundWait
