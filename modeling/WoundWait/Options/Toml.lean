import WoundWait.Options
import WoundWait.Toml.Document

/-!
Options as a TOML document: one integer for each setting. Settings that are not there have their
defaults, and other keys are passed over.
-/

namespace WoundWait

namespace Options

def keys : List String :=
  ["lock_timeout_ms", "lock_acquire_timeout_ms", "prepare_timeout_ms", "max_lock_group_size"]

def numbers (options : Options) : List Nat :=
  [options.lockTimeout, options.lockAcquireTimeout, options.prepareTimeout,
    options.maxLockGroupSize]

def tomlLine (key : String) (number : Nat) : String :=
  key ++ " = " ++ toString number ++ "\n"

def toToml (options : Options) : Except OptionsError String :=
  if options.numbers.all fun number => number ≤ Word.signedLimit then
    .ok (String.join (List.zipWith tomlLine keys options.numbers))
  else .error .unrenderable

def tomlNumber? (table : Toml.Table) (key : String) (fallback : Nat) : Option Nat :=
  match table.find? key with
  | none => some fallback
  | some (.scalar (.integer value)) => if 0 ≤ value then some value.toNat else none
  | some _ => none

def ofTable? (table : Toml.Table) : Option Options :=
  let base := standard
  match tomlNumber? table "lock_timeout_ms" base.lockTimeout,
    tomlNumber? table "lock_acquire_timeout_ms" base.lockAcquireTimeout,
    tomlNumber? table "prepare_timeout_ms" base.prepareTimeout,
    tomlNumber? table "max_lock_group_size" base.maxLockGroupSize with
  | some lockTimeout, some lockAcquireTimeout, some prepareTimeout, some maxLockGroupSize =>
      some { lockTimeout, lockAcquireTimeout, prepareTimeout, maxLockGroupSize }
  | _, _, _, _ => none

def ofToml (text : String) : Except OptionsError Options :=
  match (Toml.parse? text).bind ofTable? with
  | none => .error .unparsable
  | some options => options.validated

end Options

end WoundWait
