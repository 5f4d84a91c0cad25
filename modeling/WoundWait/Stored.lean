import WoundWait.Json.Value
import WoundWait.Priority
import WoundWait.TransactionId.Reader
import WoundWait.Simulation.Config
import WoundWait.Status

/-!
How values are kept in documents. Records are objects with one field for each of their parts, or
arrays of the parts in order; choices are their names.
-/

namespace WoundWait

class Stored (α : Type) where
  ofJson? : Json.Value → Option α
  toText : α → String

namespace Stored

open Json (Value)

def parse? {α : Type} [Stored α] (text : String) : Option α :=
  (Json.parse? text).bind ofJson?

/-! Numbers and strings -/

def natural? (limit : Nat) : Value → Option Nat
  | .number literal => literal.natural?.bind (Word.within? limit)
  | _ => none

def word? : Value → Option Nat := natural? Word.limit

def halfWord? : Value → Option Nat := natural? Word.halfLimit

def ratio? : Value → Option Float
  | .number literal => literal.float?
  | _ => none

def string? : Value → Option String
  | .string text => text
  | _ => none

def quote (text : String) : String :=
  "\"" ++ text ++ "\""

/-! Choices -/

def choice? {α : Type} (ofName? : String → Option α) : Value → Option α
  | .string (some name) => ofName? name
  | .object [(some name, .null)] => ofName? name
  | _ => none

/-! Records -/

def valuesOf (fields : List (Option String × Value)) (name : String) : List Value :=
  (fields.filter fun field => field.1 == some name).map fun field => field.2

def single? : List Value → Option (Option Value)
  | [] => some none
  | [value] => some (some value)
  | _ => none

/-- The parts of a record with named fields, in order; a part may be absent. Fields with other names
are passed over, and an array may be shorter than the record. -/
def parts? (names : List String) : Value → Option (List (Option Value))
  | .object fields =>
      if fields.all fun field => field.1.isSome then
        names.mapM fun name => single? (valuesOf fields name)
      else none
  | .array items =>
      if items.length ≤ names.length then
        some (items.map some ++ List.replicate (names.length - items.length) none)
      else none
  | _ => none

def orElse {α : Type} (decode : Value → Option α) (fallback : α) : Option Value → Option α
  | none => some fallback
  | some value => decode value

def field (name value : String) : String :=
  quote name ++ ":" ++ value

def object (fields : List String) : String :=
  "\x7b" ++ ",".intercalate fields ++ "\x7d"

/-! Types -/

instance : Stored TransactionId where
  ofJson? value := (string? value).bind TransactionId.ofText?
  toText transaction := quote transaction.uuid

instance : Stored Priority where
  ofJson? value := (word? value).map Priority.mk
  toText priority := toString priority.value

instance : Stored TransactionalStatus where
  ofJson? := choice? TransactionalStatus.ofName?
  toText status := quote status.name

instance : Stored CommitRole where
  ofJson? := choice? CommitRole.ofName?
  toText role := quote role.name

def counter? (value : Value) : Option AccessCounter :=
  match parts? ["reads", "writes"] value with
  | some [some reads, some writes] =>
      (halfWord? reads).bind fun reads => (halfWord? writes).map fun writes => ⟨reads, writes⟩
  | _ => none

instance : Stored AccessCounter where
  ofJson? := counter?
  toText counter :=
    object [field "reads" (toString counter.reads), field "writes" (toString counter.writes)]

def optionNames : List String :=
  ["lock_timeout_ms", "lock_acquire_timeout_ms", "prepare_timeout_ms", "max_lock_group_size"]

def options? (value : Value) : Option Options :=
  let base := Options.standard
  match parts? optionNames value with
  | some [lockTimeout, lockAcquireTimeout, prepareTimeout, maxLockGroupSize] => do
      return {
        lockTimeout := ← orElse word? base.lockTimeout lockTimeout
        lockAcquireTimeout := ← orElse word? base.lockAcquireTimeout lockAcquireTimeout
        prepareTimeout := ← orElse word? base.prepareTimeout prepareTimeout
        maxLockGroupSize := ← orElse word? base.maxLockGroupSize maxLockGroupSize }
  | _ => none

instance : Stored Options where
  ofJson? := options?
  toText options :=
    object (List.zipWith field optionNames
      ([options.lockTimeout, options.lockAcquireTimeout, options.prepareTimeout,
        options.maxLockGroupSize].map toString))

def configNames : List String :=
  ["transactions", "workers", "operations_per_transaction", "write_ratio", "abandon_ratio",
    "max_attempts", "retry_backoff_ms", "seed"]

def config? (value : Value) : Option SimulationConfig :=
  let base := SimulationConfig.standard
  match parts? configNames value with
  | some [transactions, workers, operations, writeRatio, abandonRatio, maxAttempts, retryBackoff,
      seed] => do
      return {
        transactions := ← orElse word? base.transactions transactions
        workers := ← orElse word? base.workers workers
        operationsPerTransaction := ← orElse halfWord? base.operationsPerTransaction operations
        writeRatio := ← orElse ratio? base.writeRatio writeRatio
        abandonRatio := ← orElse ratio? base.abandonRatio abandonRatio
        maxAttempts := ← orElse halfWord? base.maxAttempts maxAttempts
        retryBackoff := ← orElse word? base.retryBackoff retryBackoff
        seed := ← orElse word? base.seed seed }
  | _ => none

instance : Stored SimulationConfig where
  ofJson? := config?
  toText config :=
    object (List.zipWith field configNames
      [toString config.transactions, toString config.workers,
        toString config.operationsPerTransaction, FloatLayout.document.write config.writeRatio,
        FloatLayout.document.write config.abandonRatio, toString config.maxAttempts,
        toString config.retryBackoff, toString config.seed])

end Stored

end WoundWait
