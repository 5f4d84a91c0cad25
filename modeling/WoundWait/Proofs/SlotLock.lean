import WoundWait.Proofs.LockAction
import WoundWait.System.Basic

/-!
A lock that has room for one record, and why a lock for groups of at most one transaction is no
different from it. Reads and writes are the same to it: whoever else is there has to give way, or is
older and stays.
-/

namespace WoundWait

variable {State Result : Type}

structure Slot (State : Type) where
  options : Options
  holder : Option (TransactionRecord State)
  admissions : Nat

inductive Alarm where
  | silent
  | now
  | due (instant : Instant)
  deriving DecidableEq, Repr

structure Reaction (State Result : Type) where
  alarm : Alarm
  lost : List (TransactionRecord State)
  answer : Answer State Result

def Reaction.plain (answer : Answer State Result) : Reaction State Result :=
  { alarm := .silent, lost := [], answer }

namespace Slot

def new (options : Options) : Slot State :=
  { options, holder := none, admissions := 0 }

def find? (slot : Slot State) (transaction : TransactionId) : Option (TransactionRecord State) :=
  slot.holder.filter fun holder => holder.transaction == transaction

def rival? (slot : Slot State) (transaction : TransactionId) : Option (TransactionRecord State) :=
  slot.holder.filter fun holder => holder.transaction != transaction

def cleared (slot : Slot State) : Slot State :=
  { slot with holder := none }

def refusal? (slot : Slot State) (request : EntryRequest State Result) : Option LockError :=
  match slot.find? request.transaction with
  | some record =>
      if request.counter.exceeds record.accesses then some (.counterAhead request.transaction)
      else none
  | none =>
      if request.counter.isEmpty then
        (slot.holder.filter fun holder => holder.priority < request.priority).map fun holder =>
          .upgradeConflict request.transaction holder.transaction
      else some (.notResident request.transaction)

def entrant (slot : Slot State) (clock : Instant) (request : EntryRequest State Result) :
    TransactionRecord State :=
  (slot.find? request.transaction).getD
    (.fresh slot.admissions request.transaction request.priority
      (clock + slot.options.lockAcquireTimeout))

def seat (slot : Slot State) (clock : Instant) (request : EntryRequest State Result) :
    Reaction State Result × Slot State :=
  let displaced := slot.rival? request.transaction
  let outcome := (slot.entrant clock request).run request.operation
  ({ alarm := if displaced.isSome then .now else .due outcome.2.deadline
     lost := displaced.toList
     answer := .entered (outcome.1.mapError .operation) },
    { slot with
      holder := some (outcome.2.countAccess request.mode)
      admissions :=
        if (slot.find? request.transaction).isSome then slot.admissions else slot.admissions + 1 })

def enter (slot : Slot State) (clock : Instant) (request : EntryRequest State Result) :
    Reaction State Result × Slot State :=
  match slot.refusal? request with
  | some refusal => (.plain (.entered (.error refusal)), slot)
  | none => slot.seat clock request

def validate (slot : Slot State) (transaction : TransactionId) (counter : AccessCounter) :
    Reaction State Result × Slot State :=
  match slot.find? transaction with
  | none => (.plain (.validated .brokenLock none), slot)
  | some record =>
      if record.accesses = counter then (.plain (.validated .ok (some record)), slot)
      else
        ({ alarm := .now, lost := [record], answer := .validated .lockValidationFailed (some record) },
          slot.cleared)

def rollback (slot : Slot State) (transaction : TransactionId) (notify : Bool) :
    Reaction State Result × Slot State :=
  match slot.find? transaction with
  | none => (.plain .rolledBack, slot)
  | some record =>
      ({ alarm := .now, lost := if notify then [record] else [], answer := .rolledBack },
        slot.cleared)

def abortAll (slot : Slot State) : Reaction State Result × Slot State :=
  ({ alarm := if slot.holder.isSome then .now else .silent
     lost := slot.holder.toList
     answer := .aborted slot.holder.toList.length }, slot.cleared)

def assignRole (slot : Slot State) (clock : Instant) (transaction : TransactionId)
    (role : CommitRole) (timestamp : Timestamp) : Slot State :=
  match slot.find? transaction with
  | none => slot
  | some record =>
      { slot with
        holder := some (record.assignRole role timestamp (clock + slot.options.lockTimeout)) }

def withRecord (slot : Slot State) (transaction : TransactionId)
    (operation : Operation State Result) : Option (Except Failure Result × Slot State) :=
  (slot.find? transaction).map fun record =>
    let outcome := record.run operation
    (outcome.1, { slot with holder := some outcome.2 })

/-- One look at the holder: it goes without a word if it was aborted, it leaves if it may, it loses
the lock if it has stayed too long, and else it is left until its deadline. -/
def tick (slot : Slot State) (clock : Instant) : TickDecision State × Slot State :=
  match slot.holder with
  | none => (.idle, slot)
  | some holder =>
      if holder.role = .aborted then (.idle, slot.cleared)
      else if holder.role.isExitReady then (.exit [holder], slot.cleared)
      else if holder.deadline ≤ clock then (.breakLock [holder], slot.cleared)
      else (.recheck holder.deadline, slot)

variable {slot : Slot State} {transaction : TransactionId}

theorem find?_some {record : TransactionRecord State}
    (found : slot.find? transaction = some record) :
    slot.holder = some record ∧ record.transaction = transaction := by
  simpa [find?, Option.filter_eq_some_iff] using found

theorem rival?_resident {record : TransactionRecord State}
    (found : slot.find? transaction = some record) : slot.rival? transaction = none := by
  rcases find?_some found with ⟨held, named⟩
  simp [rival?, held, named]

theorem rival?_absent (absent : slot.find? transaction = none) :
    slot.rival? transaction = slot.holder := by
  unfold find? at absent
  cases held : slot.holder with
  | none => simp [rival?, held]
  | some holder =>
      have other : holder.transaction ≠ transaction := by simpa [held] using absent
      simp [rival?, held, other]

end Slot

namespace Lock

structure Fits (lock : Lock State) (slot : Slot State) : Prop where
  narrow : lock.options.maxLockGroupSize ≤ 1
  options : slot.options = lock.options
  admissions : slot.admissions = lock.admissions
  members : lock.members = slot.holder.toList
  timed : lock.IsTimed

variable {lock : Lock State} {slot : Slot State}

theorem new_fits (options : Options) (narrow : options.maxLockGroupSize ≤ 1) :
    (new options : Lock State).Fits (.new options) :=
  ⟨narrow, rfl, rfl, rfl, fun _ present => nomatch present⟩

theorem Fits.find? (fits : lock.Fits slot) (transaction : TransactionId) :
    lock.find? transaction = slot.find? transaction := by
  rw [find?_members, fits.members, Slot.find?]
  cases slot.holder with
  | none => rfl
  | some holder =>
      by_cases same : holder.transaction = transaction <;>
        simp [Option.filter, same]

theorem Fits.others (fits : lock.Fits slot) (transaction : TransactionId) :
    lock.others transaction = (slot.rival? transaction).toList := by
  rw [Lock.others, fits.members, Slot.rival?]
  cases slot.holder with
  | none => rfl
  | some holder =>
      by_cases same : holder.transaction = transaction <;>
        simp [Option.filter, same]

theorem Fits.distinct (fits : lock.Fits slot) : lock.HasDistinctNames := by
  rw [HasDistinctNames, fits.members]
  cases slot.holder <;> simp

/-- The group's deadline is the holder's. -/
theorem Fits.deadline (fits : lock.Fits slot) (holder : TransactionRecord State)
    (held : slot.holder = some holder) :
    lock.group.bind LockGroup.deadline = some holder.deadline := by
  have members := fits.members
  cases present : lock.group with
  | none => simp [lock.members_none present, held] at members
  | some group =>
      rw [lock.members_some group present, held] at members
      have timed := fits.timed group present
      simp only [LockGroup.IsTimed, members] at timed
      exact timed

/-- Whoever else is there stands in the way, because there is no place left. -/
theorem Fits.rivals (fits : lock.Fits slot) (request : EntryRequest State Result) :
    lock.rivals request = (slot.rival? request.transaction).toList := by
  rw [← fits.others, Lock.others, Lock.rivals]
  refine List.filter_congr fun member resident => ?_
  by_cases same : member.transaction = request.transaction
  · simp [same]
  · have members := fits.members
    cases held : slot.holder with
    | none => simp [members, held] at resident
    | some holder =>
        have absent : lock.find? request.transaction = none := by
          rw [find?_none]
          simp_all
        have full : lock.isFullFor request.transaction = true := by
          simp [isFullFor, absent, members, held, fits.narrow]
        simp [LockGroup.conflictsWith, full]

/-! Entries -/

theorem Fits.entrant (fits : lock.Fits slot) (clock : Instant)
    (request : EntryRequest State Result) : lock.entrant clock request = slot.entrant clock request := by
  rw [Lock.entrant, Slot.entrant, fits.find?, fits.options, fits.admissions]

/-- Whoever is admitted is alone. -/
theorem Fits.present (fits : lock.Fits slot) (clock : Instant)
    (request : EntryRequest State Result) :
    lock.present clock request = [slot.entrant clock request] := by
  rw [Lock.present, stayers, fits.rivals, newcomers, fits.find?, fits.entrant, fits.members]
  cases found : slot.find? request.transaction with
  | none =>
      rw [Slot.rival?_absent found]
      unfold Slot.find? at found
      cases held : slot.holder with
      | none => simp
      | some holder =>
          have other : holder.transaction ≠ request.transaction := by simpa [held] using found
          simp [other]
  | some record => simp [Slot.rival?_resident found, (Slot.find?_some found).1, Slot.entrant, found]

theorem Fits.refused (fits : lock.Fits slot) (clock : Instant)
    (request : EntryRequest State Result) (refusal : LockError)
    (refused : slot.refusal? request = some refusal) :
    lock.enter clock request = .error refusal := by
  unfold Slot.refusal? at refused
  cases found : slot.find? request.transaction with
  | some record =>
      simp only [found, Option.ite_none_right_eq_some, Option.some.injEq] at refused
      obtain ⟨ahead, rfl⟩ := refused
      simp [enter, grant, fits.find?, found, ahead]
  | none =>
      by_cases fresh : request.counter.isEmpty = true
      · simp only [found, fresh, ↓reduceIte, Option.map_eq_some_iff, Option.filter_eq_some_iff,
          decide_eq_true_eq] at refused
        obtain ⟨holder, ⟨held, older⟩, rfl⟩ := refused
        have rivals : lock.rivals request = [holder] := by
          simp [fits.rivals, Slot.rival?_absent found, held]
        obtain ⟨named, done, refuses⟩ := lock.enter_refuses clock request
          (by simp [CountsAgree, fits.find?, found, fresh])
          (fun unopposed => unopposed holder (by simp [rivals]) older)
        have same : named = holder := by simpa [rivals] using refuses.rival
        rw [done, same]
      · simp only [found, fresh, Bool.false_eq_true, ↓reduceIte, Option.some.injEq] at refused
        subst refused
        simp [enter, grant, fits.find?, found, fresh]

theorem Fits.admitted (fits : lock.Fits slot) (clock : Instant)
    (request : EntryRequest State Result) (admitted : slot.refusal? request = none) :
    ∃ entry, lock.enter clock request = .ok entry ∧ lock.Admits clock request entry := by
  unfold Slot.refusal? at admitted
  cases found : slot.find? request.transaction with
  | some record =>
      simp only [found, ite_eq_right_iff, reduceCtorEq, imp_false] at admitted
      apply lock.enter_admits clock request
      · simpa [CountsAgree, fits.find?, found] using admitted
      · simp [Unopposed, fits.rivals, Slot.rival?_resident found]
  | none =>
      by_cases fresh : request.counter.isEmpty = true
      · simp only [found, fresh, ↓reduceIte, Option.map_eq_none_iff] at admitted
        apply lock.enter_admits clock request
        · simp [CountsAgree, fits.find?, found, fresh]
        · simpa [Unopposed, fits.rivals, Slot.rival?_absent found, Option.filter_eq_none_iff]
            using admitted
      · simp [found, fresh] at admitted

theorem Fits.refused_iff (fits : lock.Fits slot) (clock : Instant)
    (request : EntryRequest State Result) (refusal : LockError) :
    lock.enter clock request = .error refusal ↔ slot.refusal? request = some refusal := by
  constructor
  · intro refused
    cases judged : slot.refusal? request with
    | none =>
        obtain ⟨entry, done, _⟩ := fits.admitted clock request judged
        cases done.symm.trans refused
    | some other =>
        cases (fits.refused clock request other judged).symm.trans refused
        rfl
  · exact fits.refused clock request refusal

theorem Fits.admits (fits : lock.Fits slot) {clock : Instant}
    {request : EntryRequest State Result} {entry : Entry State Result}
    (admits : lock.Admits clock request entry) : entry.lock.Fits (slot.seat clock request).2 := by
  constructor
  case narrow => rw [admits.options]; exact fits.narrow
  case options => rw [admits.options]; exact fits.options
  case admissions =>
    rw [admits.admissions, newcomers, fits.find?, ← fits.admissions, Slot.seat]
    cases slot.find? request.transaction <;> simp
  case members =>
    have named := lock.entrant_transaction clock request
    rw [fits.entrant] at named
    simp [admits.members, fits.present, fits.entrant, named, Slot.seat, TransactionRecord.settle]
  case timed => exact admits.timed fits.distinct fits.timed

/-! Everything else -/

theorem Fits.cleared (fits : lock.Fits slot) {after : Lock State} (members : after.members = [])
    (options : after.options = lock.options) (admissions : after.admissions = lock.admissions)
    (timed : after.IsTimed) : after.Fits slot.cleared where
  narrow := options ▸ fits.narrow
  options := fits.options.trans options.symm
  admissions := fits.admissions.trans admissions.symm
  members := members
  timed := timed

theorem Fits.removed (fits : lock.Fits slot) {transaction : TransactionId}
    {record : TransactionRecord State} (found : slot.find? transaction = some record) :
    (lock.remove transaction).Fits slot.cleared := by
  refine fits.cleared ?_ rfl rfl (lock.remove_isTimed transaction fits.timed)
  rw [members_remove, fits.others, Slot.rival?_resident found]
  rfl

theorem Fits.emptied (fits : lock.Fits slot) : lock.emptied.Fits slot.cleared :=
  fits.cleared lock.members_emptied rfl rfl lock.emptied_isTimed

theorem Fits.residents (fits : lock.Fits slot) : lock.residents = slot.holder.toList := by
  have same := lock.residents_perm
  rw [fits.members] at same
  cases held : slot.holder with
  | none => exact (held ▸ same).eq_nil
  | some holder => exact (held ▸ same).eq_singleton

theorem Fits.assignRole (fits : lock.Fits slot) (clock : Instant) {transaction : TransactionId}
    {record : TransactionRecord State} (found : slot.find? transaction = some record)
    (role : CommitRole) (timestamp : Timestamp) :
    (lock.assignRole clock transaction role timestamp).Fits
      (slot.assignRole clock transaction role timestamp) := by
  rcases Slot.find?_some found with ⟨held, named⟩
  simp only [Slot.assignRole, found]
  refine ⟨fits.narrow, fits.options, fits.admissions, ?_, lock.assignRole_isTimed clock _ _ _⟩
  simp [members_assignRole, fits.members, held, named, fits.options]

theorem Fits.withRecord (fits : lock.Fits slot) {transaction : TransactionId}
    {record : TransactionRecord State} (found : slot.find? transaction = some record)
    (operation : Operation State Result) :
    (lock.modify transaction fun _ => (record.run operation).2).Fits
      { slot with holder := some (record.run operation).2 } := by
  rcases Slot.find?_some found with ⟨held, named⟩
  refine ⟨fits.narrow, fits.options, fits.admissions, ?_, ?_⟩
  · simp [members_modify, fits.members, held, named]
  · intro group present
    obtain ⟨before, there, same⟩ := Option.map_eq_some_iff.mp present
    rw [← same]
    apply before.modify_isTimed _ _ (fits.timed before there)
    intro member resident _
    rw [← lock.members_some before there, fits.members, held] at resident
    rw [List.mem_singleton.mp resident]
    rfl

theorem Looks.nobody {clock : Instant} {decision : TickDecision State} {after : Lock State}
    (looks : lock.Looks clock decision after) (nobody : lock.remaining = []) :
    decision = .idle ∧ after.members = [] := by
  cases looks with
  | empty => exact ⟨rfl, rfl⟩
  | exit somebody => exact absurd nobody somebody
  | broken group _ unready | waiting group _ _ unready | untimed group _ unready =>
      obtain ⟨member, remains, _⟩ := unready
      simp [nobody] at remains

/-- With one member left, all that matters is this member. -/
theorem Looks.alone {clock : Instant} {decision : TickDecision State} {after : Lock State}
    (looks : lock.Looks clock decision after) (timed : lock.IsTimed)
    (holder : TransactionRecord State) (alone : lock.remaining = [holder]) :
    decision =
        (if holder.role.isExitReady then .exit [holder]
        else if holder.deadline ≤ clock then .breakLock [holder]
        else .recheck holder.deadline) ∧
      after.members =
        if holder.role.isExitReady || decide (holder.deadline ≤ clock) then [] else [holder] := by
  cases looks with
  | empty nobody => simp [alone] at nobody
  | exit somebody ready =>
      have leaves : holder.role.isExitReady = true := ready holder (by simp [alone])
      exact ⟨by simp [leaves, alone], by simp [leaves, members]⟩
  | broken group present unready late =>
      have stays : holder.role.isExitReady = false := by simpa [alone] using unready
      have expired : holder.deadline ≤ clock := by
        simpa [alone] using lock.expired_late timed group present clock late
      exact ⟨by simp [stays, expired, alone],
        by simp [expired, members, LockGroup.emptied]⟩
  | waiting group deadline present unready early next =>
      have stays : holder.role.isExitReady = false := by simpa [alone] using unready
      have kept := lock.members_purgeAborted group present
      have own := lock.purgeAborted_isTimed timed group present
      rw [LockGroup.IsTimed, kept, alone, next] at own
      have same : deadline = holder.deadline := Option.some.inj own
      have before : ¬ holder.deadline ≤ clock := Int.not_le.mpr (same ▸ early)
      exact ⟨by simp [stays, before, same], by simp [stays, before, members, kept, alone]⟩
  | untimed group present unready unknown =>
      exact absurd unknown (lock.remaining_known timed group present unready)

theorem Fits.tick (fits : lock.Fits slot) (clock : Instant) :
    (lock.tick clock).1 = (slot.tick clock).1 ∧ (lock.tick clock).2.Fits (slot.tick clock).2 := by
  have looks := lock.tick_looks clock
  generalize (lock.tick clock).1 = decision, (lock.tick clock).2 = after at looks ⊢
  have leaves (members : after.members = []) : after.Fits slot.cleared :=
    fits.cleared members (lock.looks_options _ _ _ looks) (lock.looks_admissions _ _ _ looks)
      (lock.looks_isTimed _ _ _ looks fits.timed)
  have remaining : lock.remaining = slot.holder.toList.filter fun holder => holder.role != .aborted := by
    rw [Lock.remaining, fits.members]
  cases held : slot.holder with
  | none =>
      obtain ⟨idle, members⟩ := looks.nobody (by simp [remaining, held])
      have same : slot.cleared = slot := by
        cases slot
        cases held
        rfl
      simp only [Slot.tick, held]
      exact ⟨idle, same ▸ leaves members⟩
  | some holder =>
      simp only [Slot.tick, held]
      by_cases aborted : holder.role = .aborted
      · obtain ⟨idle, members⟩ := looks.nobody (by simp [remaining, held, aborted])
        rw [if_pos aborted]
        exact ⟨idle, leaves members⟩
      · obtain ⟨decided, members⟩ := looks.alone fits.timed holder (by simp [remaining, held, aborted])
        rw [if_neg aborted]
        by_cases ready : holder.role.isExitReady = true
        · simp only [ready, ↓reduceIte, Bool.true_or] at decided members ⊢
          exact ⟨decided, leaves members⟩
        by_cases late : holder.deadline ≤ clock
        · simp only [ready, late, decide_true, Bool.or_true, ↓reduceIte] at decided members ⊢
          exact ⟨decided, leaves members⟩
        · simp only [ready, late, decide_false, Bool.or_self, Bool.false_eq_true,
            ↓reduceIte] at decided members ⊢
          exact ⟨decided, lock.looks_options _ _ _ looks ▸ fits.narrow,
            fits.options.trans (lock.looks_options _ _ _ looks).symm,
            fits.admissions.trans (lock.looks_admissions _ _ _ looks).symm, by rw [members, held]; rfl,
            lock.looks_isTimed _ _ _ looks fits.timed⟩

end Lock

end WoundWait
