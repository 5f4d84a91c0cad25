import Mathlib.Data.List.Nodup
import Mathlib.Order.Bounds.Basic
import WoundWait.Lock.Basic
import WoundWait.Proofs.EarliestInstant

/-!
The members of a lock, and what each piece of work on the lock does to them.
-/

namespace WoundWait

variable {State Result : Type}

def TransactionRecord.settle (record : TransactionRecord State) (mode : AccessMode)
    (operation : Operation State Result) : TransactionRecord State :=
  (record.run operation).2.countAccess mode

namespace LockGroup

@[simp] theorem members_refreshDeadline (group : LockGroup State) :
    group.refreshDeadline.members = group.members := rfl

/-- The group's deadline is the earliest of its members'. -/
def IsTimed (group : LockGroup State) : Prop :=
  group.deadline = earliest (group.members.map fun member => some member.deadline)

theorem refreshDeadline_isTimed (group : LockGroup State) : group.refreshDeadline.IsTimed := rfl

theorem empty_isTimed : (empty : LockGroup State).IsTimed := rfl

theorem emptied_isTimed (group : LockGroup State) : group.emptied.IsTimed := rfl

/-- A change that leaves the members' deadlines alone need not renew the group's. -/
theorem modify_isTimed (group : LockGroup State) (transaction : TransactionId)
    (change : TransactionRecord State → TransactionRecord State) (timed : group.IsTimed)
    (kept : ∀ member ∈ group.members, member.transaction = transaction →
      (change member).deadline = member.deadline) :
    (group.modify transaction change).IsTimed := by
  have deadlines : (group.modify transaction change).members.map
      (fun member => some member.deadline) = group.members.map fun member => some member.deadline := by
    rw [modify, List.map_map]
    apply List.map_congr_left
    intro member present
    by_cases same : member.transaction = transaction
    · simp [same, kept member present same]
    · simp [same]
  rw [IsTimed, deadlines]
  exact timed

@[simp] theorem members_keepOnly (group : LockGroup State)
    (stays : TransactionRecord State → Bool) :
    (group.keepOnly stays).members = group.members.filter stays := by
  unfold keepOnly
  split
  · rename_i everybody
    exact (List.filter_eq_self.mpr (List.all_eq_true.mp everybody)).symm
  · rfl

@[simp] theorem fillCount_keepOnly (group : LockGroup State)
    (stays : TransactionRecord State → Bool) :
    (group.keepOnly stays).fillCount = group.fillCount := by
  unfold keepOnly
  split <;> rfl

/-- Where everybody stays the deadline is as it was. -/
theorem keepOnly_isTimed (group : LockGroup State) (stays : TransactionRecord State → Bool)
    (timed : group.IsTimed) : (group.keepOnly stays).IsTimed := by
  unfold keepOnly
  split
  · exact timed
  · exact refreshDeadline_isTimed _

theorem isTimed_deadline (group : LockGroup State) (timed : group.IsTimed)
    (present : group.members ≠ []) : ∃ deadline, group.deadline = some deadline := by
  have instants : group.members.map (fun member => member.deadline) ≠ [] := by simpa using present
  obtain ⟨deadline, found⟩ := earliest_exists _ instants
  refine ⟨deadline, ?_⟩
  rw [timed, ← found, List.map_map]
  rfl

theorem isTimed_le (group : LockGroup State) (timed : group.IsTimed) (deadline : Instant)
    (found : group.deadline = some deadline) (member : TransactionRecord State)
    (present : member ∈ group.members) : deadline ≤ member.deadline := by
  apply earliest_le (group.members.map fun member => member.deadline) deadline member.deadline
  · rw [← found, timed, List.map_map]
    rfl
  · exact List.mem_map_of_mem present

theorem isTimed_mem (group : LockGroup State) (timed : group.IsTimed) (deadline : Instant)
    (found : group.deadline = some deadline) : ∃ member ∈ group.members, member.deadline = deadline := by
  have mine : deadline ∈ group.members.map fun member => member.deadline := by
    apply earliest_mem
    rw [← found, timed, List.map_map]
    rfl
  exact List.mem_map.mp mine

theorem isTimed_none (group : LockGroup State) (timed : group.IsTimed) :
    group.deadline = none ↔ group.members = [] := by
  constructor
  · intro never
    by_contra somebody
    obtain ⟨deadline, found⟩ := group.isTimed_deadline timed somebody
    cases never.symm.trans found
  · intro nobody
    rw [timed, nobody]
    rfl

theorem isTimed_isLeast (group : LockGroup State) (timed : group.IsTimed) (deadline : Instant) :
    group.deadline = some deadline ↔
      IsLeast {instant | ∃ member ∈ group.members, member.deadline = instant} deadline := by
  have least (found : Instant) (kept : group.deadline = some found) :
      IsLeast {instant | ∃ member ∈ group.members, member.deadline = instant} found := by
    refine ⟨group.isTimed_mem timed found kept, ?_⟩
    rintro instant ⟨member, present, rfl⟩
    exact group.isTimed_le timed found kept member present
  constructor
  · exact least deadline
  · rintro earliest
    obtain ⟨member, present, _⟩ := earliest.1
    obtain ⟨found, kept⟩ := group.isTimed_deadline timed (List.ne_nil_of_mem present)
    rw [kept, (least found kept).unique earliest]

theorem isExpired_iff (group : LockGroup State) (timed : group.IsTimed) (clock : Instant) :
    group.isExpired clock = true ↔ ∃ member ∈ group.members, member.deadline ≤ clock := by
  rw [isExpired, timed, earliest_isDue]
  simp

end LockGroup

namespace Lock

def members (lock : Lock State) : List (TransactionRecord State) :=
  (lock.group.map LockGroup.members).getD []

def others (lock : Lock State) (transaction : TransactionId) : List (TransactionRecord State) :=
  lock.members.filter fun member => member.transaction != transaction

def remaining (lock : Lock State) : List (TransactionRecord State) :=
  lock.members.filter fun member => member.role != .aborted

/-- The group, if there is one, keeps the earliest of its members' deadlines. -/
def IsTimed (lock : Lock State) : Prop :=
  ∀ group, lock.group = some group → group.IsTimed

def HasDistinctNames (lock : Lock State) : Prop :=
  (lock.members.map fun member => member.transaction).Nodup

theorem members_none (lock : Lock State) (absent : lock.group = none) : lock.members = [] := by
  simp [members, absent]

theorem members_some (lock : Lock State) (group : LockGroup State)
    (present : lock.group = some group) : lock.members = group.members := by
  simp [members, present]

@[simp] theorem members_new (options : Options) : (new options : Lock State).members = [] := rfl

theorem find?_members (lock : Lock State) (transaction : TransactionId) :
    lock.find? transaction =
      lock.members.find? fun member => member.transaction == transaction := by
  cases present : lock.group with
  | none => simp [find?, members, present]
  | some group => simp [find?, members, present, LockGroup.find?]

theorem find?_some (lock : Lock State) (transaction : TransactionId)
    (record : TransactionRecord State) (found : lock.find? transaction = some record) :
    record ∈ lock.members ∧ record.transaction = transaction := by
  rw [find?_members] at found
  exact ⟨List.mem_of_find?_eq_some found, by simpa using List.find?_some found⟩

theorem find?_none (lock : Lock State) (transaction : TransactionId) :
    lock.find? transaction = none ↔
      ∀ member ∈ lock.members, member.transaction ≠ transaction := by
  simp [find?_members]

theorem find?_of_mem (lock : Lock State) (distinct : lock.HasDistinctNames)
    (member : TransactionRecord State) (present : member ∈ lock.members) :
    lock.find? member.transaction = some member := by
  cases found : lock.find? member.transaction with
  | none => exact absurd rfl ((lock.find?_none _).mp found member present)
  | some record =>
      obtain ⟨resident, named⟩ := lock.find?_some _ record found
      rw [List.inj_on_of_nodup_map distinct resident present named]

theorem members_modify (lock : Lock State) (transaction : TransactionId)
    (change : TransactionRecord State → TransactionRecord State) :
    (lock.modify transaction change).members = lock.members.map fun member =>
      if member.transaction = transaction then change member else member := by
  cases present : lock.group <;> simp [modify, members, present, LockGroup.modify]

theorem members_remove (lock : Lock State) (transaction : TransactionId) :
    (lock.remove transaction).members = lock.others transaction := by
  cases present : lock.group <;> simp [remove, members, others, present, LockGroup.erase]

@[simp] theorem members_emptied (lock : Lock State) : lock.emptied.members = [] := by
  cases present : lock.group <;> simp [emptied, members, present, LockGroup.emptied]

theorem members_assignRole (lock : Lock State) (clock : Instant) (transaction : TransactionId)
    (role : CommitRole) (timestamp : Timestamp) :
    (lock.assignRole clock transaction role timestamp).members = lock.members.map fun member =>
      if member.transaction = transaction then
        member.assignRole role timestamp (clock + lock.options.lockTimeout)
      else member := by
  cases present : lock.group <;> simp [assignRole, members, present, LockGroup.modify]

theorem residents_perm (lock : Lock State) : lock.residents.Perm lock.members := by
  cases present : lock.group with
  | none => simp [residents, members, present]
  | some group =>
      simp only [residents, members, present, Option.map_some, Option.getD_some]
      exact List.mergeSort_perm _ _

theorem withRecord_some (lock after : Lock State) (transaction : TransactionId)
    (operation : Operation State Result) (result : Except Failure Result)
    (done : lock.withRecord transaction operation = some (result, after)) :
    ∃ record, lock.find? transaction = some record ∧
      after = lock.modify transaction fun _ => (record.run operation).2 := by
  obtain ⟨record, found, same⟩ := Option.map_eq_some_iff.mp done
  exact ⟨record, found, (congrArg Prod.snd same).symm⟩

theorem validate_refuted (lock after : Lock State) (transaction : TransactionId)
    (counter : AccessCounter) (record : TransactionRecord State)
    (refuted : lock.validate transaction counter = .refuted record after) :
    lock.find? transaction = some record ∧ record.accesses ≠ counter ∧
      after = lock.remove transaction := by
  cases found : lock.find? transaction with
  | none => simp [validate, found] at refuted
  | some resident =>
      by_cases same : resident.accesses = counter
      · simp [validate, found, same] at refuted
      · simp only [validate, found, same, ↓reduceIte, Validation.refuted.injEq] at refuted
        obtain ⟨rfl, rfl⟩ := refuted
        exact ⟨rfl, same, rfl⟩

/-! The group's deadline after each piece of work -/

theorem remove_isTimed (lock : Lock State) (transaction : TransactionId) (timed : lock.IsTimed) :
    (lock.remove transaction).IsTimed := by
  intro group present
  obtain ⟨before, there, same⟩ := Option.map_eq_some_iff.mp present
  rw [← same]
  exact before.keepOnly_isTimed _ (timed before there)

theorem emptied_isTimed (lock : Lock State) : lock.emptied.IsTimed := by
  intro group present
  obtain ⟨before, _, same⟩ := Option.map_eq_some_iff.mp present
  rw [← same]
  exact before.emptied_isTimed

theorem assignRole_isTimed (lock : Lock State) (clock : Instant) (transaction : TransactionId)
    (role : CommitRole) (timestamp : Timestamp) :
    (lock.assignRole clock transaction role timestamp).IsTimed := by
  intro group present
  obtain ⟨before, _, same⟩ := Option.map_eq_some_iff.mp present
  rw [← same]
  exact LockGroup.refreshDeadline_isTimed _

end Lock

end WoundWait
