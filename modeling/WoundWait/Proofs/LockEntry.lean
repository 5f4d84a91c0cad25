import WoundWait.Proofs.ConflictScan
import WoundWait.Proofs.LockMembers

/-!
What an entry into a lock comes to. The members in conflict with the entrant decide: an older one of
them refuses the entrant, else all other members go if there is one in conflict, and nobody goes if
there is none.
-/

namespace WoundWait

variable {State Result : Type}

def EntryRequest.visit (transaction : TransactionId) (priority : Priority) (counter : AccessCounter)
    (mode : AccessMode) : EntryRequest State Unit :=
  { transaction, priority, counter, mode, operation := fun record => (.ok (), record.state) }

namespace Lock

def CountsAgree (lock : Lock State) (request : EntryRequest State Result) : Prop :=
  match lock.find? request.transaction with
  | some record => request.counter.exceeds record.accesses = false
  | none => request.counter.isEmpty = true

def isFullFor (lock : Lock State) (transaction : TransactionId) : Bool :=
  (lock.find? transaction).isNone && decide (lock.options.maxLockGroupSize ≤ lock.members.length)

def rivals (lock : Lock State) (request : EntryRequest State Result) :
    List (TransactionRecord State) :=
  lock.members.filter fun member => member.transaction != request.transaction &&
    LockGroup.conflictsWith request.mode (lock.isFullFor request.transaction) member

def Unopposed (lock : Lock State) (request : EntryRequest State Result) : Prop :=
  ∀ rival ∈ lock.rivals request, ¬ rival.priority < request.priority

def stayers (lock : Lock State) (request : EntryRequest State Result) :
    List (TransactionRecord State) :=
  if (lock.rivals request).isEmpty then lock.members
  else lock.members.filter fun member => member.transaction == request.transaction

def wounds (lock : Lock State) (request : EntryRequest State Result) :
    List (TransactionRecord State) :=
  if (lock.rivals request).isEmpty then [] else lock.others request.transaction

def entrant (lock : Lock State) (clock : Instant) (request : EntryRequest State Result) :
    TransactionRecord State :=
  (lock.find? request.transaction).getD
    (.fresh lock.admissions request.transaction request.priority
      (clock + lock.options.lockAcquireTimeout))

def newcomers (lock : Lock State) (clock : Instant) (request : EntryRequest State Result) :
    List (TransactionRecord State) :=
  if (lock.find? request.transaction).isSome then [] else [lock.entrant clock request]

def present (lock : Lock State) (clock : Instant) (request : EntryRequest State Result) :
    List (TransactionRecord State) :=
  lock.stayers request ++ lock.newcomers clock request

structure Admits (lock : Lock State) (clock : Instant) (request : EntryRequest State Result)
    (entry : Entry State Result) : Prop where
  result : entry.result = ((lock.entrant clock request).run request.operation).1
  wounded : entry.wounded = lock.wounds request
  members : entry.lock.members = (lock.present clock request).map fun member =>
      if member.transaction = request.transaction then
        (lock.entrant clock request).settle request.mode request.operation
      else member
  admissions : entry.lock.admissions =
    lock.admissions + (lock.newcomers clock request).length
  options : entry.lock.options = lock.options
  timed : lock.HasDistinctNames → lock.IsTimed → entry.lock.IsTimed

theorem mem_rivals (lock : Lock State) (request : EntryRequest State Result)
    (member : TransactionRecord State) :
    member ∈ lock.rivals request ↔
      member ∈ lock.members ∧ member.transaction ≠ request.transaction ∧
        (request.mode = .write ∨ member.hasWrites = true ∨
          (lock.find? request.transaction = none ∧
            lock.options.maxLockGroupSize ≤ lock.members.length)) := by
  simp only [rivals, LockGroup.conflictsWith, isFullFor, List.mem_filter, Bool.and_eq_true,
    Bool.or_eq_true, bne_iff_ne, beq_iff_eq, decide_eq_true_eq, Option.isNone_iff_eq_none]
  rw [or_assoc, or_comm, or_assoc]

theorem mem_others (lock : Lock State) (transaction : TransactionId)
    (member : TransactionRecord State) :
    member ∈ lock.others transaction ↔ member ∈ lock.members ∧ member.transaction ≠ transaction := by
  simp [others]

theorem rivals_subset_others (lock : Lock State) (request : EntryRequest State Result)
    (member : TransactionRecord State) (rival : member ∈ lock.rivals request) :
    member ∈ lock.others request.transaction := by
  obtain ⟨present, different, _⟩ := (lock.mem_rivals request member).mp rival
  exact (lock.mem_others request.transaction member).mpr ⟨present, different⟩

theorem entrant_transaction (lock : Lock State) (clock : Instant)
    (request : EntryRequest State Result) :
    (lock.entrant clock request).transaction = request.transaction := by
  cases found : lock.find? request.transaction with
  | none => simp [entrant, found, TransactionRecord.fresh]
  | some record => simpa [entrant, found] using (lock.find?_some _ record found).2

theorem getD_empty_members (lock : Lock State) :
    (lock.group.getD .empty).members = lock.members := by
  cases present : lock.group <;> simp [members, present, LockGroup.empty]

theorem getD_empty_isTimed (lock : Lock State) (timed : lock.IsTimed) :
    (lock.group.getD .empty).IsTimed := by
  cases present : lock.group with
  | none => exact LockGroup.empty_isTimed
  | some group => exact timed group present

/-! Conflicts -/

structure Resolves (lock : Lock State) (request : EntryRequest State Result)
    (remaining : LockGroup State) (wounded : List (TransactionRecord State)) : Prop where
  members : remaining.members = lock.stayers request
  wounded : wounded = lock.wounds request
  timed : lock.IsTimed → remaining.IsTimed

structure Refuses (lock : Lock State) (request : EntryRequest State Result)
    (holder : TransactionRecord State) : Prop where
  rival : holder ∈ lock.rivals request
  older : holder.priority < request.priority
  oldest : ∀ rival ∈ lock.rivals request, rival.priority < request.priority →
    holder.priority ≤ rival.priority

theorem group_rivals (lock : Lock State) (request : EntryRequest State Result) :
    (lock.group.getD .empty).rivals request.transaction request.mode
      (lock.isFullFor request.transaction) = lock.rivals request := by
  rw [LockGroup.rivals, getD_empty_members]
  rfl

theorem resolveConflict_spec (lock : Lock State) (request : EntryRequest State Result) :
    (lock.Unopposed request ∧ ∃ remaining wounded,
      resolveConflict (lock.group.getD .empty) request.transaction request.mode request.priority
        (lock.isFullFor request.transaction) = .ok (remaining, wounded) ∧
      lock.Resolves request remaining wounded) ∨
    ∃ holder,
      resolveConflict (lock.group.getD .empty) request.transaction request.mode request.priority
        (lock.isFullFor request.transaction) =
          .error (.upgradeConflict request.transaction holder.transaction) ∧
      lock.Refuses request holder := by
  have reports := (lock.group.getD .empty).conflict_reports request.transaction request.mode
    request.priority (lock.isFullFor request.transaction)
  rw [group_rivals] at reports
  unfold resolveConflict
  cases outcome : (lock.group.getD .empty).conflict request.transaction request.mode
      request.priority (lock.isFullFor request.transaction) with
  | absent =>
      rw [outcome] at reports
      have nobody : lock.rivals request = [] := reports
      refine .inl ⟨by simp [Unopposed, nobody], _, _, rfl, ?_, ?_, lock.getD_empty_isTimed⟩
      · simp [stayers, nobody, getD_empty_members]
      · simp [wounds, nobody]
  | resolvable =>
      rw [outcome] at reports
      obtain ⟨somebody, noneOlder⟩ := reports
      have found : (lock.rivals request).isEmpty = false := by simpa using somebody
      refine .inl ⟨noneOlder, _, _, rfl, ?_, ?_, fun _ => LockGroup.refreshDeadline_isTimed _⟩
      · simp [stayers, found, LockGroup.eraseOthers, getD_empty_members]
      · simp [wounds, found, LockGroup.others, others, getD_empty_members]
  | unresolvable name holderPriority =>
      rw [outcome] at reports
      obtain ⟨⟨holder, rival, named, aged, older⟩, oldest⟩ := reports
      subst named aged
      exact .inr ⟨holder, rfl, rival, older, oldest⟩

theorem isFullFor_resident (lock : Lock State) (transaction : TransactionId)
    (record : TransactionRecord State) (found : lock.find? transaction = some record) :
    lock.isFullFor transaction = false := by
  simp [isFullFor, found]

theorem isFullFor_newcomer (lock : Lock State) (transaction : TransactionId)
    (absent : lock.find? transaction = none) :
    lock.isFullFor transaction =
      decide (lock.options.maxLockGroupSize ≤ (lock.group.getD .empty).size) := by
  simp [isFullFor, absent, LockGroup.size, getD_empty_members]

structure Grants (lock : Lock State) (clock : Instant) (request : EntryRequest State Result)
    (granted : Lock State) (wounded : List (TransactionRecord State)) : Prop where
  wounded : wounded = lock.wounds request
  members : granted.members = lock.present clock request
  admissions : granted.admissions = lock.admissions + (lock.newcomers clock request).length
  options : granted.options = lock.options
  timed : lock.IsTimed → granted.IsTimed

theorem grant_disagrees (lock : Lock State) (clock : Instant) (request : EntryRequest State Result)
    (disagree : ¬ lock.CountsAgree request) :
    lock.grant clock request = .error (.notResident request.transaction) ∨
      lock.grant clock request = .error (.counterAhead request.transaction) := by
  cases found : lock.find? request.transaction with
  | none =>
      have counted : request.counter.isEmpty = false := by simpa [CountsAgree, found] using disagree
      exact .inl (by simp [grant, found, counted])
  | some record =>
      have ahead : request.counter.exceeds record.accesses = true := by
        simpa [CountsAgree, found] using disagree
      exact .inr (by simp [grant, found, ahead])

theorem grant_spec (lock : Lock State) (clock : Instant) (request : EntryRequest State Result)
    (agree : lock.CountsAgree request) :
    (lock.Unopposed request ∧ ∃ granted wounded,
      lock.grant clock request = .ok (granted, wounded) ∧
      lock.Grants clock request granted wounded) ∨
    ∃ holder,
      lock.grant clock request =
        .error (.upgradeConflict request.transaction holder.transaction) ∧
      lock.Refuses request holder := by
  have resolved := lock.resolveConflict_spec request
  cases found : lock.find? request.transaction with
  | none =>
      have fresh : request.counter.isEmpty = true := by simpa [CountsAgree, found] using agree
      rw [lock.isFullFor_newcomer _ found] at resolved
      rcases resolved with ⟨unopposed, remaining, wounded, done, resolves⟩ | ⟨holder, done, refuses⟩
      · have granted : lock.grant clock request = .ok
            ({ lock with
                group := some (remaining.insert (lock.entrant clock request))
                admissions := lock.admissions + 1 }, wounded) := by
          simp [grant, found, fresh, done, entrant]
        refine .inl ⟨unopposed, _, wounded, granted, resolves.wounded, ?_, ?_, rfl, ?_⟩
        · simp [members, LockGroup.insert, resolves.members, present, newcomers, found]
        · simp [newcomers, found]
        · intro _ group present
          cases present
          exact LockGroup.refreshDeadline_isTimed _
      · exact .inr ⟨holder, by simp [grant, found, fresh, done], refuses⟩
  | some record =>
      have known : request.counter.exceeds record.accesses = false := by
        simpa [CountsAgree, found] using agree
      rw [lock.isFullFor_resident _ record found] at resolved
      rcases resolved with ⟨unopposed, remaining, wounded, done, resolves⟩ | ⟨holder, done, refuses⟩
      · have granted : lock.grant clock request =
            .ok ({ lock with group := some remaining }, wounded) := by
          simp [grant, found, known, done]
        refine .inl ⟨unopposed, _, wounded, granted, resolves.wounded, ?_, ?_, rfl, ?_⟩
        · simp [members, resolves.members, present, newcomers, found]
        · simp [newcomers, found]
        · intro timed group present
          cases present
          exact resolves.timed timed
      · exact .inr ⟨holder, by simp [grant, found, known, done], refuses⟩

/-! Entries -/

theorem stayers_sublist (lock : Lock State) (request : EntryRequest State Result) :
    (lock.stayers request).Sublist lock.members := by
  unfold stayers
  split
  · exact List.Sublist.refl _
  · exact List.filter_sublist

/-- The operation finds the record that was there, or the one just made. -/
theorem grants_find? (lock granted : Lock State) (clock : Instant)
    (request : EntryRequest State Result) (wounded : List (TransactionRecord State))
    (grants : lock.Grants clock request granted wounded) :
    granted.find? request.transaction = some (lock.entrant clock request) := by
  rw [find?_members, grants.members, present, List.find?_append]
  cases found : lock.find? request.transaction with
  | none =>
      have absent : (lock.stayers request).find?
          (fun member => member.transaction == request.transaction) = none := by
        rw [List.find?_eq_none]
        intro member stays
        have present := (lock.stayers_sublist request).subset stays
        simpa using (lock.find?_none request.transaction).mp found member present
      simp [absent, newcomers, found, lock.entrant_transaction clock request]
  | some record =>
      rw [find?_members] at found
      have stays : (lock.stayers request).find?
          (fun member => member.transaction == request.transaction) = some record := by
        unfold stayers
        split
        · exact found
        · rw [List.find?_filter]
          simpa [← beq_eq_decide] using found
      have entrant : lock.entrant clock request = record := by
        simp [Lock.entrant, find?_members, found]
      simp [stays, entrant]

theorem mem_newcomers (lock : Lock State) (clock : Instant) (request : EntryRequest State Result)
    (member : TransactionRecord State) (comes : member ∈ lock.newcomers clock request) :
    member = lock.entrant clock request := by
  unfold newcomers at comes
  split at comes
  · cases comes
  · exact List.mem_singleton.mp comes

/-- Only the entrant's own record bears its name. -/
theorem present_entrant (lock : Lock State) (clock : Instant) (request : EntryRequest State Result)
    (distinct : lock.HasDistinctNames) (member : TransactionRecord State)
    (there : member ∈ lock.present clock request)
    (named : member.transaction = request.transaction) : member = lock.entrant clock request := by
  rcases List.mem_append.mp there with stays | comes
  · have resident := (lock.stayers_sublist request).subset stays
    have found := lock.find?_of_mem distinct member resident
    rw [named] at found
    simp [entrant, found]
  · exact lock.mem_newcomers clock request member comes

theorem entrant_present (lock : Lock State) (clock : Instant) (request : EntryRequest State Result) :
    lock.entrant clock request ∈ lock.present clock request := by
  cases found : lock.find? request.transaction with
  | none =>
      apply List.mem_append_right
      simp [newcomers, found]
  | some record =>
      obtain ⟨resident, named⟩ := lock.find?_some _ record found
      have same : lock.entrant clock request = record := by simp [entrant, found]
      apply List.mem_append_left
      rw [same, stayers]
      split
      · exact resident
      · exact List.mem_filter.mpr ⟨resident, beq_iff_eq.mpr named⟩

/-- What an operation leaves alone is the same before and after an entry. -/
theorem admits_view {Item : Type} (view : TransactionRecord State → Item) (lock : Lock State)
    (clock : Instant) (request : EntryRequest State Result) (entry : Entry State Result)
    (distinct : lock.HasDistinctNames) (admits : lock.Admits clock request entry)
    (settled : ∀ record : TransactionRecord State,
      view (record.settle request.mode request.operation) = view record) :
    entry.lock.members.map view = (lock.present clock request).map view := by
  rw [admits.members, List.map_map]
  apply List.map_congr_left
  intro member there
  by_cases named : member.transaction = request.transaction
  · rw [Function.comp_apply, if_pos named, settled,
      lock.present_entrant clock request distinct member there named]
  · rw [Function.comp_apply, if_neg named]

theorem enter_admits (lock : Lock State) (clock : Instant) (request : EntryRequest State Result)
    (agree : lock.CountsAgree request) (unopposed : lock.Unopposed request) :
    ∃ entry, lock.enter clock request = .ok entry ∧ lock.Admits clock request entry := by
  rcases lock.grant_spec clock request agree with
    ⟨_, granted, wounded, done, grants⟩ | ⟨holder, _, refuses⟩
  · have found := lock.grants_find? granted clock request wounded grants
    refine ⟨_, by simp only [enter, done, found]; rfl, rfl, grants.wounded, ?_,
      grants.admissions, grants.options, ?_⟩
    · rw [members_modify, grants.members]
      rfl
    · intro distinct timed group present
      obtain ⟨before, there, same⟩ := Option.map_eq_some_iff.mp present
      rw [← same]
      apply before.modify_isTimed _ _ (grants.timed timed before there)
      intro member resident named
      rw [← granted.members_some before there, grants.members] at resident
      rw [lock.present_entrant clock request distinct member resident named]
      rfl
  · exact absurd refuses.older (unopposed holder refuses.rival)

theorem enter_refuses (lock : Lock State) (clock : Instant) (request : EntryRequest State Result)
    (agree : lock.CountsAgree request) (opposed : ¬ lock.Unopposed request) :
    ∃ holder, lock.enter clock request =
        .error (.upgradeConflict request.transaction holder.transaction) ∧
      lock.Refuses request holder := by
  rcases lock.grant_spec clock request agree with ⟨unopposed, _⟩ | ⟨holder, done, refuses⟩
  · exact absurd unopposed opposed
  · exact ⟨holder, by simp only [enter, done], refuses⟩

end Lock

end WoundWait
