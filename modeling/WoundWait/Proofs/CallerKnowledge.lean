import WoundWait.Proofs.LockOccupancy
import WoundWait.Proofs.LockDepartures

/-!
What a caller knows of its record. A record is only touched in the name of its transaction, so a
caller's knowledge lasts until it comes back to the lock: the record is as the caller left it, or
gone.
-/

namespace WoundWait

variable {State Result : Type}

def LockAction.subject? : LockAction State Result → Option TransactionId
  | .enter request => some request.transaction
  | .validate transaction _ | .rollback transaction _ | .assignRole transaction _ _
  | .edit transaction _ => some transaction
  | .abortAll | .tick => none

namespace AccessCounter

theorem exceeds_self (counter : AccessCounter) : counter.exceeds counter = false := by
  simp [exceeds]

theorem isEmpty_iff (counter : AccessCounter) : counter.isEmpty = true ↔ counter = .zero := by
  cases counter with
  | mk reads writes => simp [isEmpty, total, zero]

theorem record_ne_zero (counter : AccessCounter) (mode : AccessMode) :
    counter.record mode ≠ .zero := by
  intro none
  have counted := counter.record_total_pos mode
  rw [none] at counted
  cases counted

end AccessCounter

namespace Lock

def Absent (lock : Lock State) (transaction : TransactionId) : Prop :=
  ∀ member ∈ lock.members, member.transaction ≠ transaction

/-- If the transaction has a record, it has counted these accesses, and nothing was decided. -/
def Knows (lock : Lock State) (transaction : TransactionId) (seen : AccessCounter) : Prop :=
  ∀ member ∈ lock.members, member.transaction = transaction →
    member.accesses = seen ∧ member.role = .notYetDetermined

def LeavesBy (lock : Lock State) (transaction : TransactionId) (deadline : Instant) : Prop :=
  ∀ member ∈ lock.members, member.transaction = transaction → member.deadline = deadline

theorem absent_knows (lock : Lock State) (transaction : TransactionId) (seen : AccessCounter)
    (absent : lock.Absent transaction) : lock.Knows transaction seen :=
  fun member present named => absurd named (absent member present)

/-- A change of the records of one transaction. -/
theorem mem_changed (records : List (TransactionRecord State)) (transaction : TransactionId)
    (change : TransactionRecord State → TransactionRecord State) (member : TransactionRecord State)
    (kept : ∀ record ∈ records, record.transaction = transaction →
      (change record).transaction = transaction)
    (different : transaction ≠ member.transaction)
    (present : member ∈ records.map fun record =>
      if record.transaction = transaction then change record else record) : member ∈ records := by
  obtain ⟨record, resident, same⟩ := List.mem_map.mp present
  by_cases named : record.transaction = transaction
  · simp only [named, ↓reduceIte] at same
    subst same
    exact absurd (kept record resident named).symm different
  · simp only [named, ↓reduceIte] at same
    exact same ▸ resident

theorem admits_others (lock : Lock State) (clock : Instant) (request : EntryRequest State Result)
    (entry : Entry State Result) (admits : lock.Admits clock request entry)
    (member : TransactionRecord State) (present : member ∈ entry.lock.members)
    (different : request.transaction ≠ member.transaction) : member ∈ lock.members := by
  rw [admits.members] at present
  have there := mem_changed _ request.transaction
    (fun _ => (lock.entrant clock request).settle request.mode request.operation) member
    (fun _ _ _ => lock.entrant_transaction clock request) different present
  rcases List.mem_append.mp there with stays | comes
  · exact (lock.stayers_sublist request).subset stays
  · rw [lock.mem_newcomers clock request member comes, lock.entrant_transaction] at different
    exact absurd rfl different

/-- An action leaves alone whoever it is not about, except that it may remove them. -/
theorem perform_others (lock : Lock State) (clock : Instant) (action : LockAction State Result)
    (member : TransactionRecord State) (present : member ∈ (lock.perform clock action).members)
    (other : action.subject? ≠ some member.transaction) : member ∈ lock.members := by
  cases action with
  | enter request =>
      cases outcome : lock.enter clock request with
      | error refusal => simpa [perform, outcome] using present
      | ok entry =>
          simp only [perform, outcome] at present
          exact lock.admits_others clock request entry (lock.enter_ok clock request entry outcome).2.2
            member present fun same => other (congrArg some same)
  | validate transaction counter =>
      cases outcome : lock.validate transaction counter with
      | notResident => simpa [perform, outcome] using present
      | confirmed record => simpa [perform, outcome] using present
      | refuted record after =>
          obtain ⟨_, _, same⟩ := lock.validate_refuted after transaction counter record outcome
          simp only [perform, outcome, same, members_remove] at present
          exact ((lock.mem_others transaction member).mp present).1
  | rollback transaction notify =>
      cases found : lock.find? transaction with
      | none => simpa [perform, found] using present
      | some record =>
          simp only [perform, found, members_remove] at present
          exact ((lock.mem_others transaction member).mp present).1
  | abortAll => simp [perform] at present
  | assignRole transaction role timestamp =>
      by_cases resident : (lock.find? transaction).isSome = true
      · simp only [perform, resident, ↓reduceIte, members_assignRole] at present
        exact mem_changed _ transaction
          (fun record => record.assignRole role timestamp (clock + lock.options.lockTimeout)) member
          (fun _ _ named => named) (fun same => other (congrArg some same)) present
      · simpa [perform, resident] using present
  | edit transaction operation =>
      cases outcome : lock.withRecord transaction operation with
      | none => simpa [perform, outcome] using present
      | some pair =>
          obtain ⟨result, after⟩ := pair
          obtain ⟨record, found, same⟩ :=
            lock.withRecord_some after transaction operation result outcome
          obtain ⟨_, named⟩ := lock.find?_some transaction record found
          simp only [perform, outcome, same, members_modify] at present
          exact mem_changed _ transaction (fun _ => (record.run operation).2) member
            (fun _ _ _ => named) (fun same => other (congrArg some same)) present
  | tick =>
      rcases Lock.looks_members _ _ _ _ (lock.tick_looks clock) with nobody | remain
      · rw [perform, nobody] at present
        cases present
      · rw [perform, remain] at present
        exact List.mem_of_mem_filter present

/-! Entries of those who know their record -/

structure KnownOrFresh (lock : Lock State) (request : EntryRequest State Result) : Prop where
  knows : lock.Knows request.transaction request.counter
  fresh : request.counter = .zero → lock.Absent request.transaction

inductive Enters (lock : Lock State) (clock : Instant) (request : EntryRequest State Result) :
    Except LockError (Entry State Result) → Prop where
  | admitted (entry : Entry State Result) (admits : lock.Admits clock request entry)
      (knows : entry.lock.Knows request.transaction (request.counter.record request.mode))
      (comes : (lock.newcomers clock request).length = if request.counter = .zero then 1 else 0) :
      Enters lock clock request (.ok entry)
  | refused (holder : TransactionId)
      (resident : lock.Absent request.transaction ↔ request.counter = .zero) :
      Enters lock clock request (.error (.upgradeConflict request.transaction holder))
  | broken (counted : request.counter ≠ .zero) (absent : lock.Absent request.transaction) :
      Enters lock clock request (.error (.notResident request.transaction))

theorem knownOrFresh_agree (lock : Lock State) (request : EntryRequest State Result)
    (knownOrFresh : lock.KnownOrFresh request) :
    lock.CountsAgree request ↔ (lock.Absent request.transaction ↔ request.counter = .zero) := by
  cases found : lock.find? request.transaction with
  | none =>
      have absent : lock.Absent request.transaction := (lock.find?_none _).mp found
      simp [CountsAgree, found, AccessCounter.isEmpty_iff, absent]
  | some record =>
      obtain ⟨resident, named⟩ := lock.find?_some _ record found
      have known := (knownOrFresh.knows record resident named).1
      have present : ¬ lock.Absent request.transaction := fun absent => absent record resident named
      have counted : request.counter ≠ .zero := fun none => present (knownOrFresh.fresh none)
      simp [CountsAgree, found, known, AccessCounter.exceeds_self, present, counted]

theorem enter_knownOrFresh (lock : Lock State) (clock : Instant) (request : EntryRequest State Result)
    (knownOrFresh : lock.KnownOrFresh request) :
    lock.Enters clock request (lock.enter clock request) := by
  by_cases agree : lock.CountsAgree request
  · have resident := (lock.knownOrFresh_agree request knownOrFresh).mp agree
    by_cases unopposed : lock.Unopposed request
    · obtain ⟨entry, outcome, admits⟩ := lock.enter_admits clock request agree unopposed
      rw [outcome]
      have entrant : (lock.entrant clock request).accesses = request.counter ∧
          (lock.entrant clock request).role = .notYetDetermined := by
        cases found : lock.find? request.transaction with
        | none =>
            have none := resident.mp ((lock.find?_none _).mp found)
            simp [Lock.entrant, found, TransactionRecord.fresh, none]
        | some record =>
            obtain ⟨there, named⟩ := lock.find?_some _ record found
            simpa [Lock.entrant, found] using knownOrFresh.knows record there named
      refine .admitted entry admits ?_ ?_
      · intro member present named
        rw [admits.members] at present
        obtain ⟨before, there, same⟩ := List.mem_map.mp present
        by_cases own : before.transaction = request.transaction
        · simp only [own, ↓reduceIte] at same
          subst same
          exact ⟨congrArg (·.record request.mode) entrant.1, entrant.2⟩
        · simp only [own, ↓reduceIte] at same
          exact absurd (same ▸ named) own
      · cases found : lock.find? request.transaction with
        | none =>
            have none := resident.mp ((lock.find?_none _).mp found)
            simp [newcomers, found, none]
        | some record =>
            obtain ⟨there, named⟩ := lock.find?_some _ record found
            have counted : request.counter ≠ .zero := fun none =>
              resident.mpr none record there named
            simp [newcomers, found, counted]
    · obtain ⟨holder, outcome, _⟩ := lock.enter_refuses clock request agree unopposed
      rw [outcome]
      exact .refused holder.transaction resident
  · -- Whoever has a record knows its counts, so the record is gone.
    have absent : lock.find? request.transaction = none := by
      cases found : lock.find? request.transaction with
      | none => rfl
      | some record =>
          obtain ⟨there, named⟩ := lock.find?_some _ record found
          have known := (knownOrFresh.knows record there named).1
          exact absurd (by simp [CountsAgree, found, known, AccessCounter.exceeds_self]) agree
    have counted : request.counter.isEmpty = false := by simpa [CountsAgree, absent] using agree
    have outcome : lock.enter clock request = .error (.notResident request.transaction) := by
      simp [enter, grant, absent, counted]
    rw [outcome]
    refine .broken ?_ ((lock.find?_none _).mp absent)
    intro none
    rw [none] at counted
    cases counted

end Lock

end WoundWait
