import WoundWait.Simulation.Config
import WoundWait.System.Basic
import WoundWait.Ledger

/-!
Workers that run transactions against one lock and restart those that lose it, and a last task that
waits for the workers, for the lock to become idle and for the storage worker.

Each simulation worker is a task and waits for one call at a time; the call bears the worker's
number. The last task's calls bear the number after them. Where the plans of the transactions come
from is left open: any source will do.
-/

namespace WoundWait

inductive SimulationError where
  | config (error : ConfigError)
  | options (error : OptionsError)
  | unsettled (limit : Nat)
  | lockWorkerStopped
  | storageWorkerStopped
  | unfinished

def spanText (milliseconds : Nat) : String :=
  let places := (toString (1000 + milliseconds % 1000)).drop 1
  let shown := String.ofList (places.toString.toList.reverse.dropWhile (· == '0')).reverse
  if milliseconds = 0 then "0ns"
  else if milliseconds < 1000 then toString milliseconds ++ "ms"
  else if shown.isEmpty then toString (milliseconds / 1000) ++ "s"
  else toString (milliseconds / 1000) ++ "." ++ shown ++ "s"

def SimulationError.message : SimulationError → String
  | config error => error.message
  | options error => error.message
  | unsettled limit => "lock did not settle within " ++ spanText limit
  | lockWorkerStopped => "lock worker stopped"
  | storageWorkerStopped => "storage worker stopped"
  | unfinished => "simulation did not finish"

structure Tally where
  committed : Nat
  abandoned : Nat
  gaveUp : Nat
  restarts : Nat
  upgradeConflicts : Nat
  brokenLocks : Nat
  validationFailures : Nat
  deriving DecidableEq, Repr

def Tally.zero : Tally :=
  { committed := 0, abandoned := 0, gaveUp := 0, restarts := 0, upgradeConflicts := 0,
    brokenLocks := 0, validationFailures := 0 }

structure SimulationReport where
  tally : Tally
  commitsEnqueued : Nat
  abortsReported : Nat
  storageFlushes : Nat
  lockTicks : Nat
  elapsed : Nat
  deriving DecidableEq, Repr

structure Attempt where
  transaction : TransactionId
  priority : Priority
  plan : TransactionPlan
  number : Nat
  deriving DecidableEq, Repr

inductive Activity where
  | seeking
  | entering (attempt : Attempt) (seen : AccessCounter) (mode : AccessMode)
      (rest : List AccessMode)
  | givingWay (attempt : Attempt)
  | validating (attempt : Attempt) (seen : AccessCounter)
  | awaitingExit (attempt : Attempt) (deadline : Instant)
  | polling (attempt : Attempt) (deadline : Instant)
  | backingOff (attempt : Attempt)
  | finished
  deriving DecidableEq, Repr

inductive MainActivity where
  | joining
  | settling (deadline : Instant)
  | pausing (deadline : Instant)
  | flushing
  | finished (result : Except SimulationError SimulationReport)

abbrev LedgerSystem := System Ledger Int64

abbrev LedgerRequest := Request Ledger Int64

abbrev LedgerAnswer := Answer Ledger Int64

structure SimulationWorker (Source : Type) where
  source : Source
  activity : Activity
  inbox : Option LedgerAnswer

structure Simulation (Source : Type) where
  config : SimulationConfig
  draw : Source → TransactionPlan × Source
  system : LedgerSystem
  workers : List (SimulationWorker Source)
  main : MainActivity
  mainInbox : Option LedgerAnswer
  begun : Nat
  -- How many commit roles were assigned; it serves as a clock for commits.
  decisions : Nat
  tally : Tally

namespace Simulation

variable {Source : Type}

def mainCall (simulation : Simulation Source) : CallId :=
  simulation.workers.length

def new (config : SimulationConfig) (options : Options)
    (draw : Source → TransactionPlan × Source) (source : Nat → Source) : Simulation Source :=
  let start : LedgerSystem := System.new options
  let numbers := List.range config.workers
  { config
    draw
    system := { start with ready := start.ready ++ numbers.map Task.call }
    workers := numbers.map fun number =>
      { source := source number, activity := .seeking, inbox := none }
    main := .joining
    mainInbox := none
    begun := 0
    decisions := 0
    tally := .zero }

def validated? (config : SimulationConfig) (options : Options) : Except SimulationError Unit :=
  match config.validate with
  | .error error => .error (.config error)
  | .ok () =>
      match options.validate with
      | .error error => .error (.options error)
      | .ok () => .ok ()

/-! What a worker does next -/

/-- A worker's next move: a change of the simulation, what the worker then waits for, and the call
that it waits in. A worker without a call seeks its next transaction, or has finished. -/
structure Move (Source : Type) where
  simulation : Simulation Source
  activity : Activity
  request : Option LedgerRequest

def tallied (simulation : Simulation Source) (change : Tally → Tally) : Simulation Source :=
  { simulation with tally := change simulation.tally }

def operate (simulation : Simulation Source) (attempt : Attempt) (seen : AccessCounter) :
    List AccessMode → Move Source
  | mode :: rest =>
      { simulation
        activity := .entering attempt seen mode rest
        request := some (.enter
          { transaction := attempt.transaction
            priority := attempt.priority
            counter := seen
            mode
            operation :=
              match mode with
              | .read => Ledger.readBalance
              | .write => Ledger.postEntry 1 }) }
  | [] =>
      if attempt.plan.abandons then
        { simulation := simulation.tallied fun tally =>
            { tally with abandoned := tally.abandoned + 1 }
          activity := .seeking
          request := none }
      else
        { simulation
          activity := .validating attempt seen
          request := some (.validate attempt.transaction seen) }

def beginAttempt (simulation : Simulation Source) (attempt : Attempt) : Move Source :=
  simulation.operate attempt .zero attempt.plan.modes

def restart (simulation : Simulation Source) (attempt : Attempt) : Move Source :=
  { simulation := simulation.tallied fun tally => { tally with restarts := tally.restarts + 1 }
    activity := .backingOff attempt
    request := some (.sleep simulation.config.retryBackoff) }

def breakAttempt (simulation : Simulation Source) (attempt : Attempt) : Move Source :=
  restart (simulation.tallied fun tally => { tally with brokenLocks := tally.brokenLocks + 1 })
    attempt

def seek (simulation : Simulation Source) (source : Source) : Move Source × Source :=
  let begun := { simulation with begun := simulation.begun + 1 }
  if simulation.begun < simulation.config.transactions then
    let drawn := simulation.draw source
    (begun.beginAttempt
      { transaction := .ofNat simulation.begun
        priority := ⟨simulation.begun + 1⟩
        plan := drawn.1
        number := 1 }, drawn.2)
  else
    ({ simulation := begun, activity := .finished, request := none }, source)

def retry (simulation : Simulation Source) (attempt : Attempt) : Move Source :=
  if attempt.number < simulation.config.maxAttempts then
    simulation.beginAttempt { attempt with number := attempt.number + 1 }
  else
    { simulation := simulation.tallied fun tally => { tally with gaveUp := tally.gaveUp + 1 }
      activity := .seeking
      request := none }

def decide (simulation : Simulation Source) (attempt : Attempt) (seen : AccessCounter) :
    Move Source :=
  let role := if 0 < seen.writes then CommitRole.localCommit else CommitRole.readOnly
  if (simulation.system.lock.find? attempt.transaction).isSome then
    let system := simulation.system.assignRole attempt.transaction role simulation.decisions
    { simulation := { simulation with system, decisions := simulation.decisions + 1 }
      activity := .awaitingExit attempt (system.clock + system.lock.options.lockTimeout)
      request := some .recover }
  else simulation.breakAttempt attempt

def checkExit (simulation : Simulation Source) (attempt : Attempt) (deadline : Instant) :
    Move Source :=
  if (simulation.system.lock.find? attempt.transaction).isSome then
    if deadline ≤ simulation.system.clock then simulation.breakAttempt attempt
    else
      { simulation
        activity := .polling attempt deadline
        request := some (.sleep simulation.config.retryBackoff) }
  else if simulation.system.queue.isCommitted attempt.transaction then
    { simulation := simulation.tallied fun tally =>
        { tally with committed := tally.committed + 1 }
      activity := .seeking
      request := none }
  else simulation.breakAttempt attempt

def react (simulation : Simulation Source) (activity : Activity) (answer : LedgerAnswer) :
    Move Source :=
  match activity, answer with
  | .entering attempt seen mode rest, .entered (.ok _) =>
      simulation.operate attempt (seen.record mode) rest
  | .entering attempt _ _ _, .entered (.error (.upgradeConflict ..)) =>
      { simulation := simulation.tallied fun tally =>
          { tally with upgradeConflicts := tally.upgradeConflicts + 1 }
        activity := .givingWay attempt
        request := some (.rollback attempt.transaction false) }
  | .entering attempt _ _ _, .entered (.error (.brokenLock ..)) =>
      simulation.breakAttempt attempt
  | .entering attempt _ _ _, .entered (.error (.operation _)) =>
      { simulation
        activity := .givingWay attempt
        request := some (.rollback attempt.transaction false) }
  | .givingWay attempt, _ => simulation.restart attempt
  | .validating attempt seen, .validated .ok _ => simulation.decide attempt seen
  | .validating attempt _, .validated .lockValidationFailed _ =>
      restart (simulation.tallied fun tally =>
        { tally with validationFailures := tally.validationFailures + 1 }) attempt
  | .validating attempt _, .validated .. => simulation.breakAttempt attempt
  | .awaitingExit attempt deadline, .flushed (.ok ()) => simulation.checkExit attempt deadline
  | .awaitingExit attempt _, .flushed (.error _) => simulation.breakAttempt attempt
  | .polling attempt deadline, _ =>
      { simulation
        activity := .awaitingExit attempt deadline
        request := some .recover }
  | .backingOff attempt, _ => simulation.retry attempt
  | activity, _ => { simulation, activity, request := none }

/-! Turns -/

def goRound (simulation : Simulation Source) (task : Task) : Simulation Source :=
  { simulation with
    system := { simulation.system with ready := task :: simulation.system.ready } }

def setWorker (simulation : Simulation Source) (number : Nat)
    (worker : SimulationWorker Source) : Simulation Source :=
  { simulation with workers := simulation.workers.set number worker }

/-- Carries out a worker's move. A worker that need not wait goes round again before any other task;
one that has finished readies the last task. -/
def carryOut (number : Nat) (source : Source) (move : Move Source) : Simulation Source :=
  let simulation := move.simulation
  match move.request with
  | some request =>
      let begun := simulation.system.begin number request
      let moved := { simulation with system := begun.1 }.setWorker number
        { source, activity := move.activity, inbox := begun.2 }
      if begun.2.isSome then moved.goRound (.call number) else moved
  | none =>
      let moved := simulation.setWorker number { source, activity := move.activity, inbox := none }
      match move.activity with
      | .finished => { moved with system := moved.system.wake (.call moved.mainCall) }
      | _ => moved.goRound (.call number)

def workerTurn (simulation : Simulation Source) (number : Nat)
    (worker : SimulationWorker Source) : Simulation Source :=
  match worker.activity with
  | .finished => simulation
  | .seeking =>
      let sought := simulation.seek worker.source
      carryOut number sought.2 sought.1
  | activity =>
      match worker.inbox with
      | some answer => carryOut number worker.source (simulation.react activity answer)
      | none =>
          let resumed := simulation.system.resume number
          let waited := { simulation with system := resumed.1 }
          match resumed.2 with
          | none => waited
          | some answer => carryOut number worker.source (waited.react activity answer)

def allFinished (simulation : Simulation Source) : Bool :=
  simulation.workers.all fun worker => worker.activity == .finished

def report (simulation : Simulation Source) : SimulationReport :=
  let system := simulation.system
  { tally := simulation.tally
    commitsEnqueued := system.queue.commitCount
    abortsReported := system.queue.aborts.length
    storageFlushes := system.storageWorker.stats.runs
    lockTicks := system.lockWorker.stats.runs
    elapsed := system.clock.toNat }

def mainAwaits (simulation : Simulation Source) (main : MainActivity) (request : LedgerRequest) :
    Simulation Source :=
  let begun := simulation.system.begin simulation.mainCall request
  let moved := { simulation with system := begun.1, main, mainInbox := begun.2 }
  if begun.2.isSome then moved.goRound (.call simulation.mainCall) else moved

def settleLimit (simulation : Simulation Source) : Nat :=
  let options := simulation.system.lock.options
  options.lockAcquireTimeout + options.lockTimeout

def conclude (simulation : Simulation Source) (error : SimulationError) : Simulation Source :=
  { simulation with main := .finished (.error error) }

def mainReact (simulation : Simulation Source) (answer : LedgerAnswer) : Simulation Source :=
  match simulation.main, answer with
  | .settling deadline, .flushed (.ok ()) =>
      if simulation.system.lock.snapshot.isIdle then simulation.mainAwaits .flushing .flushStorage
      else if deadline ≤ simulation.system.clock then
        simulation.conclude (.unsettled simulation.settleLimit)
      else
        simulation.mainAwaits (.pausing deadline) (.sleep (max simulation.config.retryBackoff 10))
  | .settling _, .flushed (.error _) => simulation.conclude .lockWorkerStopped
  | .pausing deadline, _ => simulation.mainAwaits (.settling deadline) .recover
  | .flushing, .flushed (.ok ()) =>
      { simulation with main := .finished (.ok simulation.report) }
  | .flushing, .flushed (.error _) => simulation.conclude .storageWorkerStopped
  | _, _ => simulation

def mainTurn (simulation : Simulation Source) : Simulation Source :=
  match simulation.main with
  | .finished _ => simulation
  | .joining =>
      if simulation.allFinished then
        simulation.mainAwaits (.settling (simulation.system.clock + simulation.settleLimit))
          .recover
      else simulation
  | _ =>
      match simulation.mainInbox with
      | some answer => { simulation with mainInbox := none }.mainReact answer
      | none =>
          let resumed := simulation.system.resume simulation.mainCall
          let waited := { simulation with system := resumed.1 }
          match resumed.2 with
          | none => waited
          | some answer => waited.mainReact answer

def turnOf (simulation : Simulation Source) (task : Task) : Simulation Source :=
  match task with
  | .call number =>
      if task ∈ simulation.system.ready then
        let resumed := { simulation with
          system := { simulation.system with ready := simulation.system.ready.erase task } }
        match simulation.workers[number]? with
        | some worker => resumed.workerTurn number worker
        | none => resumed.mainTurn
      else simulation
  | _ => { simulation with system := simulation.system.turnOf task }

def turn? (simulation : Simulation Source) : Option (Simulation Source) :=
  simulation.system.ready.head?.map simulation.turnOf

def advance (target : Instant) (simulation : Simulation Source) : Simulation Source :=
  { simulation with system := simulation.system.advance target }

def step? (simulation : Simulation Source) : Option (Simulation Source) :=
  match simulation.turn? with
  | some next => some next
  | none => simulation.system.timer?.map fun due => simulation.advance due

def finishWithin : Nat → Simulation Source → Simulation Source
  | 0, simulation => simulation
  | steps + 1, simulation =>
      match simulation.main with
      | .finished _ => simulation
      | _ =>
          match simulation.step? with
          | none => simulation
          | some next => finishWithin steps next

/-- A bound on the steps of a simulation. An attempt makes a few calls for each operation and then
looks for its exit at most once a millisecond; each call is good for a few turns. -/
def stepBound (config : SimulationConfig) (options : Options) : Nat :=
  let waits := options.lockTimeout + options.lockAcquireTimeout + config.retryBackoff + 20
  let calls := config.operationsPerTransaction + waits
  1000 * (config.transactions + 1) * (config.workers + 1) * (config.maxAttempts + 1) * calls

def finish (simulation : Simulation Source) : Simulation Source :=
  finishWithin (stepBound simulation.config simulation.system.lock.options) simulation

def result (simulation : Simulation Source) : Except SimulationError SimulationReport :=
  match simulation.main with
  | .finished result => result
  | _ => .error .unfinished

def seeded (config : SimulationConfig) (options : Options) : Simulation RandomSource :=
  new config options (TransactionPlan.draw config) fun worker =>
    .ofSeed (.ofNat (config.seed + worker))

end Simulation

end WoundWait
