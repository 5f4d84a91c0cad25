import WoundWait.Decimal.Reader
import WoundWait.Simulation.Config

/-!
The arguments of the command line and how they are read. An option stands at most once; its value is
the next argument or follows an equals sign, and after a short name it may follow at once. A value
that begins with a hyphen has to follow an equals sign.
-/

namespace WoundWait

structure Arguments where
  config : Option String
  workload : SimulationConfig
  lockAcquireTimeout : Option Nat
  lockTimeout : Option Nat
  maxLockGroupSize : Option Nat
  printConfig : Bool
  json : Bool

inductive ValueOption where
  | config
  | transactions
  | workers
  | operations
  | writeRatio
  | abandonRatio
  | maxAttempts
  | retryBackoff
  | seed
  | lockAcquireTimeout
  | lockTimeout
  | maxLockGroupSize
  deriving DecidableEq, Repr

inductive Flag where
  | printConfig
  | json
  | help
  | version
  deriving DecidableEq, Repr

inductive CommandOption where
  | value (option : ValueOption)
  | flag (option : Flag)
  deriving DecidableEq, Repr

namespace CommandOption

def all : List (CommandOption × String × Option Char) :=
  [(value .config, "config", some 'c'),
    (value .transactions, "transactions", some 't'),
    (value .workers, "workers", some 'w'),
    (value .operations, "operations", none),
    (value .writeRatio, "write-ratio", none),
    (value .abandonRatio, "abandon-ratio", none),
    (value .maxAttempts, "max-attempts", none),
    (value .retryBackoff, "retry-backoff-ms", none),
    (value .seed, "seed", none),
    (value .lockAcquireTimeout, "lock-acquire-timeout-ms", none),
    (value .lockTimeout, "lock-timeout-ms", none),
    (value .maxLockGroupSize, "max-lock-group-size", none),
    (flag .printConfig, "print-config", none),
    (flag .json, "json", none),
    (flag .help, "help", some 'h'),
    (flag .version, "version", some 'V')]

def ofLong? (name : String) : Option CommandOption :=
  (all.find? fun entry => entry.2.1 == name).map fun entry => entry.1

def ofShort? (name : Char) : Option CommandOption :=
  (all.find? fun entry => entry.2.2 == some name).map fun entry => entry.1

end CommandOption

inductive CommandRequest where
  | run (arguments : Arguments)
  | help
  | version
  | misuse

namespace Arguments

def standard : Arguments :=
  { config := none
    workload := .standard
    lockAcquireTimeout := none
    lockTimeout := none
    maxLockGroupSize := none
    printConfig := false
    json := false }

def word? (text : String) : Option Nat :=
  DecimalText.unsigned? Word.limit text

def halfWord? (text : String) : Option Nat :=
  (DecimalText.signed? text).bind fun value =>
    if 0 ≤ value then Word.within? Word.halfLimit value.toNat else none

def setValue? (arguments : Arguments) (option : ValueOption) (text : String) :
    Option Arguments :=
  let workload := arguments.workload
  match option with
  | .config => if text.isEmpty then none else some { arguments with config := some text }
  | .transactions => (word? text).map fun transactions =>
      { arguments with workload := { workload with transactions } }
  | .workers => (word? text).map fun workers =>
      { arguments with workload := { workload with workers } }
  | .operations => (halfWord? text).map fun operationsPerTransaction =>
      { arguments with workload := { workload with operationsPerTransaction } }
  | .writeRatio => (DecimalText.float? text).map fun writeRatio =>
      { arguments with workload := { workload with writeRatio } }
  | .abandonRatio => (DecimalText.float? text).map fun abandonRatio =>
      { arguments with workload := { workload with abandonRatio } }
  | .maxAttempts => (halfWord? text).map fun maxAttempts =>
      { arguments with workload := { workload with maxAttempts } }
  | .retryBackoff => (word? text).map fun retryBackoff =>
      { arguments with workload := { workload with retryBackoff } }
  | .seed => (word? text).map fun seed =>
      { arguments with workload := { workload with seed } }
  | .lockAcquireTimeout => (word? text).map fun timeout =>
      { arguments with lockAcquireTimeout := some timeout }
  | .lockTimeout => (word? text).map fun timeout =>
      { arguments with lockTimeout := some timeout }
  | .maxLockGroupSize => (word? text).map fun size =>
      { arguments with maxLockGroupSize := some size }

/-- The arguments read so far, and the options that may not come again. -/
structure Draft where
  arguments : Arguments
  seen : List CommandOption

def Draft.addValue? (draft : Draft) (option : ValueOption) (text : String) : Option Draft :=
  if .value option ∈ draft.seen then none
  else (draft.arguments.setValue? option text).map fun arguments =>
    { arguments, seen := .value option :: draft.seen }

def Draft.addFlag (draft : Draft) (option : Flag) : Except CommandRequest Draft :=
  if .flag option ∈ draft.seen then .error .misuse
  else
    let seen := .flag option :: draft.seen
    match option with
    | .printConfig => .ok { arguments := { draft.arguments with printConfig := true }, seen }
    | .json => .ok { arguments := { draft.arguments with json := true }, seen }
    | .help => .error .help
    | .version => .error .version

inductive Word where
  | option (option : CommandOption) (attached : Option String)
  | operands
  | other

def splitEquals (characters : List Char) : String × Option String :=
  let name := String.ofList (characters.takeWhile (· != '='))
  match characters.dropWhile (· != '=') with
  | [] => (name, none)
  | _ :: value => (name, some (String.ofList value))

def attachedValue : List Char → Option String
  | [] => none
  | '=' :: value => some (String.ofList value)
  | value => some (String.ofList value)

def readWord (text : String) : Word :=
  match text.toList with
  | ['-', '-'] => .operands
  | '-' :: '-' :: rest =>
      let split := splitEquals rest
      match CommandOption.ofLong? split.1 with
      | some option => .option option split.2
      | none => .other
  | '-' :: short :: rest =>
      match CommandOption.ofShort? short with
      | some (.flag option) => .option (.flag option) none
      | some (.value option) => .option (.value option) (attachedValue rest)
      | none => .other
  | _ => .other

/-- A lone hyphen is a value; other texts that begin with one are not. -/
def isValue (text : String) : Bool :=
  text == "-" || text.toList.head? != some '-'

def Draft.read (draft : Draft) : List String → CommandRequest
  | [] => .run draft.arguments
  | text :: rest =>
      match readWord text with
      | .other => .misuse
      | .operands => if rest.isEmpty then .run draft.arguments else .misuse
      | .option (.flag _) (some _) => .misuse
      | .option (.flag option) none =>
          match draft.addFlag option with
          | .ok extended => extended.read rest
          | .error request => request
      | .option (.value option) (some value) =>
          match draft.addValue? option value with
          | some extended => extended.read rest
          | none => .misuse
      | .option (.value option) none =>
          match rest with
          | [] => .misuse
          | value :: others =>
              if isValue value then
                match draft.addValue? option value with
                | some extended => extended.read others
                | none => .misuse
              else .misuse

def parse (texts : List String) : CommandRequest :=
  Draft.read { arguments := standard, seen := [] } texts

end Arguments

end WoundWait
