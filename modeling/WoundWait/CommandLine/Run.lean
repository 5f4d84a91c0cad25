import WoundWait.CommandLine.Arguments
import WoundWait.Options.Load
import WoundWait.Simulation.Basic

/-!
What the program does with its arguments: which options are in force, what is printed, and the code
it ends with.
-/

namespace WoundWait

structure CommandOutcome where
  code : Nat
  output : String
  error : String
  deriving DecidableEq, Repr

namespace Arguments

def override (arguments : Arguments) (layered : Options) : Options :=
  let withAcquire :=
    match arguments.lockAcquireTimeout with
    | some timeout => layered.withLockAcquireTimeout (.ofMilliseconds timeout)
    | none => layered
  let withTimeout :=
    match arguments.lockTimeout with
    | some timeout => withAcquire.withLockTimeout (.ofMilliseconds timeout)
    | none => withAcquire
  match arguments.maxLockGroupSize with
  | some size => withTimeout.withMaxLockGroupSize size
  | none => withTimeout

/-- The options in force. The layers have to be valid on their own, and again with the overrides. -/
def options (arguments : Arguments) (file : OptionsFile) (environment : List (String × String)) :
    Except OptionsError Options :=
  match Options.load file Options.programName environment with
  | .error error => .error error
  | .ok layered =>
      let overridden := arguments.override layered
      match overridden.validate with
      | .ok () => .ok overridden
      | .error _ => .error .invalidOverride

end Arguments

namespace SimulationReport

def counts (report : SimulationReport) : List (String × Nat) :=
  [("committed", report.tally.committed),
    ("abandoned", report.tally.abandoned),
    ("gave_up", report.tally.gaveUp),
    ("restarts", report.tally.restarts),
    ("upgrade_conflicts", report.tally.upgradeConflicts),
    ("broken_locks", report.tally.brokenLocks),
    ("validation_failures", report.tally.validationFailures),
    ("commits_enqueued", report.commitsEnqueued),
    ("aborts_reported", report.abortsReported),
    ("storage_flushes", report.storageFlushes),
    ("lock_ticks", report.lockTicks),
    ("elapsed_ms", report.elapsed)]

def jsonText (report : SimulationReport) : String :=
  let line (count : String × Nat) := "  \"" ++ count.1 ++ "\": " ++ toString count.2
  "\x7b\n" ++ ",\n".intercalate (report.counts.map line) ++ "\n\x7d\n"

def padded (label : String) : String :=
  label ++ String.ofList (List.replicate (21 - label.length) ' ')

def plainText (report : SimulationReport) : String :=
  let label (name : String) := padded (name.map fun character =>
    if character = '_' then ' ' else character)
  let line (count : String × Nat) :=
    if count.1 = "elapsed_ms" then padded "elapsed" ++ toString count.2 ++ " ms\n"
    else label count.1 ++ toString count.2 ++ "\n"
  String.join (report.counts.map line)

end SimulationReport

namespace Arguments

def printed (output : String) : CommandOutcome :=
  { code := 0, output, error := "" }

def failed (message : String) : CommandOutcome :=
  { code := 1, output := "", error := "Error: " ++ message }

def simulate (arguments : Arguments) (options : Options) : CommandOutcome :=
  match Simulation.validated? arguments.workload options with
  | .error error => failed error.message
  | .ok () =>
      match (Simulation.seeded arguments.workload options).finish.result with
      | .error error => failed error.message
      | .ok report => printed (if arguments.json then report.jsonText else report.plainText)

def execute (arguments : Arguments) (file : OptionsFile) (environment : List (String × String)) :
    CommandOutcome :=
  match arguments.options file environment with
  | .error error => failed error.message
  | .ok options =>
      if arguments.printConfig then
        match options.toToml with
        | .ok text => printed text
        | .error error => failed error.message
      else arguments.simulate options

end Arguments

namespace CommandRequest

def versionText : String := "contention-sim 0.1.0\n"

def helpEntries : List (String × String) :=
  [("  -c, --config <CONFIG>",
      "Lock options file (TOML); GRAINSTATE_* variables override it"),
    ("  -t, --transactions <TRANSACTIONS>", "Number of transactions to run [default: 200]"),
    ("  -w, --workers <WORKERS>", "Concurrent workers issuing transactions [default: 8]"),
    ("      --operations <OPERATIONS>", "Operations per transaction [default: 3]"),
    ("      --write-ratio <WRITE_RATIO>",
      "Probability that an operation writes [default: 0.5]"),
    ("      --abandon-ratio <ABANDON_RATIO>",
      "Probability that a transaction is abandoned before commit [default: 0]"),
    ("      --max-attempts <MAX_ATTEMPTS>",
      "Attempts per transaction before giving up [default: 1000]"),
    ("      --retry-backoff-ms <RETRY_BACKOFF_MS>",
      "Pause between attempts in milliseconds [default: 1]"),
    ("      --seed <SEED>", "Workload random seed [default: 7]"),
    ("      --lock-acquire-timeout-ms <LOCK_ACQUIRE_TIMEOUT_MS>",
      "Override lock_acquire_timeout_ms"),
    ("      --lock-timeout-ms <LOCK_TIMEOUT_MS>", "Override lock_timeout_ms"),
    ("      --max-lock-group-size <MAX_LOCK_GROUP_SIZE>", "Override max_lock_group_size"),
    ("      --print-config", "Print the effective lock options and exit"),
    ("      --json", "Emit the report as JSON"),
    ("  -h, --help", "Print help"),
    ("  -V, --version", "Print version")]

def helpText : String :=
  "Drives a transactional state lock with competing transactions\n\n" ++
    "Usage: contention-sim [OPTIONS]\n\nOptions:\n" ++
    String.join (helpEntries.map fun entry => entry.1 ++ "\n          " ++ entry.2 ++ "\n")

def file? : CommandRequest → Option String
  | run arguments => arguments.config
  | _ => none

def execute (request : CommandRequest) (file : OptionsFile)
    (environment : List (String × String)) : CommandOutcome :=
  match request with
  | run arguments => arguments.execute file environment
  | help => Arguments.printed helpText
  | version => Arguments.printed versionText
  | misuse => { code := 2, output := "", error := "" }

end CommandRequest

end WoundWait
