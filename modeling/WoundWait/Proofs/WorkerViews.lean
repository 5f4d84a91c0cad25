import WoundWait.Proofs.CallerKnowledge
import WoundWait.Proofs.PromptQueue
import WoundWait.Simulation.Event

/-!
The workers of a simulation, each seen as what it waits for and what it knows. A worker's move
depends on the lock and on the queue only through a few facts, so the moves are told apart here
without the machinery that carries them out.
-/

namespace WoundWait

structure WorkerView where
  activity : Activity
  inbox : Option LedgerAnswer

def SimulationWorker.view {Source : Type} (worker : SimulationWorker Source) : WorkerView :=
  ⟨worker.activity, worker.inbox⟩

abbrev LedgerAction := LockAction Ledger Int64

namespace Activity

def attempt? : Activity → Option Attempt
  | seeking | finished => none
  | entering attempt .. | givingWay attempt | validating attempt _ | awaitingExit attempt _
  | polling attempt _ | backingOff attempt => some attempt

def transaction? (activity : Activity) : Option TransactionId :=
  activity.attempt?.map fun attempt => attempt.transaction

def awaits? : Activity → Option TransactionId
  | awaitingExit attempt _ | polling attempt _ => some attempt.transaction
  | _ => none

theorem awaits?_transaction? (activity : Activity) (transaction : TransactionId)
    (awaits : activity.awaits? = some transaction) :
    activity.transaction? = some transaction := by
  cases activity with
  | awaitingExit | polling => exact awaits
  | _ => cases awaits

end Activity

def Attempt.request (attempt : Attempt) (seen : AccessCounter) (mode : AccessMode) :
    EntryRequest Ledger Int64 :=
  { transaction := attempt.transaction
    priority := attempt.priority
    counter := seen
    mode
    operation :=
      match mode with
      | .read => Ledger.readBalance
      | .write => Ledger.postEntry 1 }

theorem Attempt.request_operation (attempt : Attempt) (seen : AccessCounter) (mode : AccessMode)
    (record : TransactionRecord Ledger) :
    ∃ balance, (record.run (attempt.request seen mode).operation).1 = .ok balance := by
  cases mode <;> exact ⟨_, rfl⟩

/-- What the workers share, and where each of them is. -/
structure WorkerPool where
  config : SimulationConfig
  lock : Lock Ledger
  handed : List (Parcel Ledger)
  tally : Tally
  begun : Nat
  views : List WorkerView

def Lock.reception (lock : Lock Ledger) (clock : Instant) (request : EntryRequest Ledger Int64) :
    LedgerAnswer :=
  .entered
    (match lock.enter clock request with
    | .error refusal => .error refusal
    | .ok entry => entry.result.mapError .operation)

inductive Stands (lock : Lock Ledger) : WorkerView → Prop where
  | seeking : Stands lock ⟨.seeking, none⟩
  | finished : Stands lock ⟨.finished, none⟩
  | admitted (attempt : Attempt) (seen : AccessCounter) (mode : AccessMode)
      (rest : List AccessMode) (balance : Int64)
      (knows : lock.Knows attempt.transaction (seen.record mode)) :
      Stands lock ⟨.entering attempt seen mode rest, some (.entered (.ok balance))⟩
  | refused (attempt : Attempt) (seen : AccessCounter) (mode : AccessMode)
      (rest : List AccessMode) (transaction holder : TransactionId)
      (resident : lock.Absent attempt.transaction ↔ seen = .zero) :
      Stands lock ⟨.entering attempt seen mode rest,
        some (.entered (.error (.upgradeConflict transaction holder)))⟩
  | broken (attempt : Attempt) (seen : AccessCounter) (mode : AccessMode)
      (rest : List AccessMode) (transaction : TransactionId) (context : String)
      (counted : seen ≠ .zero) (absent : lock.Absent attempt.transaction) :
      Stands lock ⟨.entering attempt seen mode rest,
        some (.entered (.error (.brokenLock transaction context)))⟩
  | givingWay (attempt : Attempt) (answer : LedgerAnswer)
      (absent : lock.Absent attempt.transaction) : Stands lock ⟨.givingWay attempt, some answer⟩
  | valid (attempt : Attempt) (seen : AccessCounter) (record : Option (TransactionRecord Ledger))
      (knows : lock.Knows attempt.transaction seen) :
      Stands lock ⟨.validating attempt seen, some (.validated .ok record)⟩
  | invalid (attempt : Attempt) (seen : AccessCounter)
      (record : Option (TransactionRecord Ledger)) (absent : lock.Absent attempt.transaction) :
      Stands lock ⟨.validating attempt seen, some (.validated .brokenLock record)⟩
  | awaiting (attempt : Attempt) (deadline : Instant)
      (leaves : lock.LeavesBy attempt.transaction deadline) :
      Stands lock ⟨.awaitingExit attempt deadline, none⟩
  | polling (attempt : Attempt) (deadline : Instant) (inbox : Option LedgerAnswer)
      (leaves : lock.LeavesBy attempt.transaction deadline) :
      Stands lock ⟨.polling attempt deadline, inbox⟩
  | backingOff (attempt : Attempt) (inbox : Option LedgerAnswer)
      (absent : lock.Absent attempt.transaction) : Stands lock ⟨.backingOff attempt, inbox⟩

namespace WorkerView

def isRefused (view : WorkerView) : Bool :=
  match view.activity, view.inbox with
  | .entering .., some (.entered (.error (.upgradeConflict ..))) => true
  | _, _ => false

end WorkerView

/-- Unless it was refused, a worker relies on nothing but that its record is as it was, or gone. -/
theorem Stands.lasts {lock after : Lock Ledger} {view : WorkerView} (stands : Stands lock view)
    (unrefused : view.isRefused = false)
    (fewer : ∀ member ∈ after.members,
      view.activity.transaction? = some member.transaction → member ∈ lock.members) :
    Stands after view := by
  have absent (attempt : Attempt) (mine : view.activity.attempt? = some attempt)
      (absent : lock.Absent attempt.transaction) : after.Absent attempt.transaction := by
    intro member present named
    have own : view.activity.transaction? = some member.transaction := by
      simp [Activity.transaction?, mine, named]
    exact absent member (fewer member present own) named
  have knows (attempt : Attempt) (seen : AccessCounter)
      (mine : view.activity.attempt? = some attempt)
      (knows : lock.Knows attempt.transaction seen) : after.Knows attempt.transaction seen := by
    intro member present named
    have own : view.activity.transaction? = some member.transaction := by
      simp [Activity.transaction?, mine, named]
    exact knows member (fewer member present own) named
  have leaves (attempt : Attempt) (deadline : Instant)
      (mine : view.activity.attempt? = some attempt)
      (leaves : lock.LeavesBy attempt.transaction deadline) :
      after.LeavesBy attempt.transaction deadline := by
    intro member present named
    have own : view.activity.transaction? = some member.transaction := by
      simp [Activity.transaction?, mine, named]
    exact leaves member (fewer member present own) named
  cases stands with
  | seeking => exact .seeking
  | finished => exact .finished
  | admitted attempt seen mode rest balance known =>
      exact .admitted attempt seen mode rest balance (knows attempt _ rfl known)
  | refused => cases unrefused
  | broken attempt seen mode rest transaction context counted gone =>
      exact .broken attempt seen mode rest transaction context counted (absent attempt rfl gone)
  | givingWay attempt answer gone => exact .givingWay attempt answer (absent attempt rfl gone)
  | valid attempt seen record known => exact .valid attempt seen record (knows attempt _ rfl known)
  | invalid attempt seen record gone => exact .invalid attempt seen record (absent attempt rfl gone)
  | awaiting attempt deadline known => exact .awaiting attempt deadline (leaves attempt _ rfl known)
  | polling attempt deadline inbox known =>
      exact .polling attempt deadline inbox (leaves attempt _ rfl known)
  | backingOff attempt inbox gone => exact .backingOff attempt inbox (absent attempt rfl gone)

namespace WorkerPool

def committed (pool : WorkerPool) : List TransactionId :=
  (pool.handed.filter fun parcel => parcel.1 == .commit).map fun parcel => parcel.2.transaction

inductive Comes (pool : WorkerPool) : WorkerView → Attempt → AccessCounter → Nat → Prop where
  | first (priority : Priority) (plan : TransactionPlan)
      (left : pool.begun < pool.config.transactions) (somewhat : plan.modes ≠ []) :
      Comes pool ⟨.seeking, none⟩
        { transaction := .ofNat pool.begun, priority, plan, number := 1 } .zero (pool.begun + 1)
  | next (attempt : Attempt) (seen : AccessCounter) (mode : AccessMode) (rest : List AccessMode)
      (balance : Int64) :
      Comes pool ⟨.entering attempt seen mode rest, some (.entered (.ok balance))⟩ attempt
        (seen.record mode) pool.begun
  | again (attempt : Attempt) (inbox : Option LedgerAnswer)
      (left : attempt.number < pool.config.maxAttempts) :
      Comes pool ⟨.backingOff attempt, inbox⟩ { attempt with number := attempt.number + 1 } .zero
        pool.begun

inductive Held : WorkerView → Attempt → Prop where
  | entering (attempt : Attempt) (seen : AccessCounter) (mode : AccessMode)
      (rest : List AccessMode) (transaction : TransactionId) (context : String) :
      Held ⟨.entering attempt seen mode rest,
        some (.entered (.error (.brokenLock transaction context)))⟩ attempt
  | validating (attempt : Attempt) (seen : AccessCounter) (inbox : Option LedgerAnswer) :
      Held ⟨.validating attempt seen, inbox⟩ attempt
  | awaiting (attempt : Attempt) (deadline : Instant) :
      Held ⟨.awaitingExit attempt deadline, none⟩ attempt

/-- A worker's moves: where it is afterwards, the tally, how many transactions are begun, and the
action that it does. -/
inductive Moves (pool : WorkerPool) (clock : Instant) :
    WorkerView → WorkerView → Tally → Nat → Option LedgerAction → Prop where
  | stays (view : WorkerView) : Moves pool clock view view pool.tally pool.begun none
  | finishes (none : pool.config.transactions ≤ pool.begun) :
      Moves pool clock ⟨.seeking, .none⟩ ⟨.finished, .none⟩ pool.tally (pool.begun + 1) .none
  | enters (view : WorkerView) (attempt : Attempt) (seen : AccessCounter) (mode : AccessMode)
      (rest : List AccessMode) (begun : Nat) (comes : pool.Comes view attempt seen begun) :
      Moves pool clock view
        ⟨.entering attempt seen mode rest,
          some (pool.lock.reception clock (attempt.request seen mode))⟩
        pool.tally begun (some (.enter (attempt.request seen mode)))
  | abandons (attempt : Attempt) (seen : AccessCounter) (mode : AccessMode) (balance : Int64) :
      Moves pool clock ⟨.entering attempt seen mode [], some (.entered (.ok balance))⟩
        ⟨.seeking, none⟩ { pool.tally with abandoned := pool.tally.abandoned + 1 } pool.begun none
  | validates (attempt : Attempt) (seen : AccessCounter) (mode : AccessMode) (balance : Int64)
      (status : TransactionalStatus) (record : Option (TransactionRecord Ledger))
      (stands : Stands pool.lock ⟨.validating attempt (seen.record mode),
        some (.validated status record)⟩) :
      Moves pool clock ⟨.entering attempt seen mode [], some (.entered (.ok balance))⟩
        ⟨.validating attempt (seen.record mode), some (.validated status record)⟩ pool.tally
        pool.begun none
  | givesWay (attempt : Attempt) (seen : AccessCounter) (mode : AccessMode)
      (rest : List AccessMode) (transaction holder : TransactionId) (answer : LedgerAnswer) :
      Moves pool clock
        ⟨.entering attempt seen mode rest,
          some (.entered (.error (.upgradeConflict transaction holder)))⟩
        ⟨.givingWay attempt, some answer⟩
        { pool.tally with upgradeConflicts := pool.tally.upgradeConflicts + 1 } pool.begun
        (some (.rollback attempt.transaction false))
  | restarts (attempt : Attempt) (answer : LedgerAnswer) (inbox : Option LedgerAnswer) :
      Moves pool clock ⟨.givingWay attempt, some answer⟩ ⟨.backingOff attempt, inbox⟩
        { pool.tally with restarts := pool.tally.restarts + 1 } pool.begun none
  | breaks (view : WorkerView) (attempt : Attempt) (inbox : Option LedgerAnswer)
      (held : Held view attempt) (absent : pool.lock.Absent attempt.transaction)
      (uncommitted : view.activity.awaits? ≠ none → attempt.transaction ∉ pool.committed) :
      Moves pool clock view ⟨.backingOff attempt, inbox⟩
        { pool.tally with
          restarts := pool.tally.restarts + 1
          brokenLocks := pool.tally.brokenLocks + 1 } pool.begun none
  | decides (attempt : Attempt) (seen : AccessCounter) (record : Option (TransactionRecord Ledger))
      (role : CommitRole) (timestamp : Timestamp) (ready : role.isExitReady = true)
      (resident : (pool.lock.find? attempt.transaction).isSome = true) :
      Moves pool clock ⟨.validating attempt seen, some (.validated .ok record)⟩
        ⟨.awaitingExit attempt (clock + pool.lock.options.lockTimeout), none⟩ pool.tally pool.begun
        (some (.assignRole attempt.transaction role timestamp))
  | polls (attempt : Attempt) (deadline : Instant) (inbox : Option LedgerAnswer)
      (resident : (pool.lock.find? attempt.transaction).isSome = true) :
      Moves pool clock ⟨.awaitingExit attempt deadline, none⟩ ⟨.polling attempt deadline, inbox⟩
        pool.tally pool.begun none
  | looks (attempt : Attempt) (deadline : Instant) (inbox : Option LedgerAnswer) :
      Moves pool clock ⟨.polling attempt deadline, inbox⟩ ⟨.awaitingExit attempt deadline, none⟩
        pool.tally pool.begun none
  | commits (attempt : Attempt) (deadline : Instant)
      (left : attempt.transaction ∈ pool.committed) :
      Moves pool clock ⟨.awaitingExit attempt deadline, none⟩ ⟨.seeking, none⟩
        { pool.tally with committed := pool.tally.committed + 1 } pool.begun none
  | givesUp (attempt : Attempt) (inbox : Option LedgerAnswer)
      (last : pool.config.maxAttempts ≤ attempt.number) :
      Moves pool clock ⟨.backingOff attempt, inbox⟩ ⟨.seeking, none⟩
        { pool.tally with gaveUp := pool.tally.gaveUp + 1 } pool.begun none

end WorkerPool

end WoundWait
