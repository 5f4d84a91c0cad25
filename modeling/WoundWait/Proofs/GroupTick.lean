import WoundWait.Proofs.LockMembers

/-!
What one look at the group decides. Members that no abort was noted for remain, and what becomes of
them depends on whether all of them may leave and whether one of them has stayed too long.
-/

namespace WoundWait

variable {State : Type}

namespace Lock

/-- The outcomes of one look, told apart by the members that remain and the deadline their group
keeps. -/
inductive Looks (lock : Lock State) (clock : Instant) : TickDecision State → Lock State → Prop where
  | empty (nobody : lock.remaining = []) :
      Looks lock clock .idle { lock with group := none }
  | exit (somebody : lock.remaining ≠ [])
      (ready : ∀ member ∈ lock.remaining, member.role.isExitReady = true) :
      Looks lock clock (.exit (lock.remaining.mergeSort TransactionRecord.commitsBefore))
        { lock with group := none }
  | broken (group : LockGroup State) (present : lock.group = some group)
      (unready : ∃ member ∈ lock.remaining, member.role.isExitReady = false)
      (expired : group.purgeAborted.isExpired clock = true) :
      Looks lock clock (.breakLock (lock.remaining.mergeSort TransactionRecord.agesBefore))
        { lock with group := some group.purgeAborted.emptied }
  | waiting (group : LockGroup State) (deadline : Instant) (present : lock.group = some group)
      (unready : ∃ member ∈ lock.remaining, member.role.isExitReady = false)
      (early : clock < deadline) (next : group.purgeAborted.deadline = some deadline) :
      Looks lock clock (.recheck deadline) { lock with group := some group.purgeAborted }
  | untimed (group : LockGroup State) (present : lock.group = some group)
      (unready : ∃ member ∈ lock.remaining, member.role.isExitReady = false)
      (unknown : group.purgeAborted.deadline = none) :
      Looks lock clock .idle { lock with group := some group.purgeAborted }

theorem members_purgeAborted (lock : Lock State) (group : LockGroup State)
    (present : lock.group = some group) : group.purgeAborted.members = lock.remaining := by
  simp [LockGroup.purgeAborted, remaining, members, present]

theorem purgeAborted_isTimed (lock : Lock State) (timed : lock.IsTimed) (group : LockGroup State)
    (present : lock.group = some group) : group.purgeAborted.IsTimed :=
  group.keepOnly_isTimed _ (timed group present)

theorem tick_looks (lock : Lock State) (clock : Instant) :
    lock.Looks clock (lock.tick clock).1 (lock.tick clock).2 := by
  cases present : lock.group with
  | none =>
      have nobody : lock.remaining = [] := by simp [remaining, lock.members_none present]
      have idle : lock.tick clock = (.idle, { lock with group := none }) := by
        simp only [tick, present]
        rw [← present]
      rw [idle]
      exact .empty nobody
  | some group =>
      have kept := lock.members_purgeAborted group present
      simp only [tick, present]
      -- In the order of the look: nobody left, everybody ready, somebody late, a deadline known.
      by_cases nobody : lock.remaining = []
      · simp only [LockGroup.isEmpty, kept, nobody, List.isEmpty_nil, ↓reduceIte]
        exact .empty nobody
      have somebody : lock.remaining.isEmpty = false := by simpa using nobody
      simp only [LockGroup.isEmpty, kept, somebody, Bool.false_eq_true, ↓reduceIte]
      by_cases ready : group.purgeAborted.allExitReady = true
      · simp only [ready, ↓reduceIte, LockGroup.exiting, kept]
        simp only [LockGroup.allExitReady, kept, List.all_eq_true] at ready
        exact .exit nobody ready
      have unready : ∃ member ∈ lock.remaining, member.role.isExitReady = false := by
        simpa [LockGroup.allExitReady, kept] using ready
      simp only [ready, Bool.false_eq_true, ↓reduceIte]
      by_cases expired : group.purgeAborted.isExpired clock = true
      · simp only [expired, ↓reduceIte, LockGroup.drained, kept]
        exact .broken group present unready expired
      simp only [expired, Bool.false_eq_true, ↓reduceIte]
      cases next : group.purgeAborted.deadline with
      | none => exact .untimed group present unready next
      | some deadline =>
          have early : clock < deadline := by simpa [LockGroup.isExpired, next] using expired
          exact .waiting group deadline present unready early next

/-! What the group's deadline says of the members' -/

theorem expired_late (lock : Lock State) (timed : lock.IsTimed) (group : LockGroup State)
    (present : lock.group = some group) (clock : Instant)
    (expired : group.purgeAborted.isExpired clock = true) :
    ∃ member ∈ lock.remaining, member.deadline ≤ clock := by
  rw [← lock.members_purgeAborted group present]
  exact (group.purgeAborted.isExpired_iff (lock.purgeAborted_isTimed timed group present) clock).mp
    expired

theorem remaining_isLeast (lock : Lock State) (timed : lock.IsTimed) (group : LockGroup State)
    (present : lock.group = some group) (deadline : Instant)
    (next : group.purgeAborted.deadline = some deadline) :
    IsLeast { instant | ∃ member ∈ lock.remaining, member.deadline = instant } deadline := by
  rw [← lock.members_purgeAborted group present]
  exact (group.purgeAborted.isTimed_isLeast (lock.purgeAborted_isTimed timed group present)
    deadline).mp next

theorem remaining_early (lock : Lock State) (timed : lock.IsTimed) (group : LockGroup State)
    (present : lock.group = some group) (clock deadline : Instant) (early : clock < deadline)
    (next : group.purgeAborted.deadline = some deadline) :
    ∀ member ∈ lock.remaining, clock < member.deadline := by
  intro member stays
  exact Int.lt_of_lt_of_le early
    ((lock.remaining_isLeast timed group present deadline next).2 ⟨member, stays, rfl⟩)

/-- A group that keeps its members' deadlines knows one as long as somebody remains. -/
theorem remaining_known (lock : Lock State) (timed : lock.IsTimed) (group : LockGroup State)
    (present : lock.group = some group)
    (unready : ∃ member ∈ lock.remaining, member.role.isExitReady = false) :
    group.purgeAborted.deadline ≠ none := by
  obtain ⟨member, stays, _⟩ := unready
  rw [← lock.members_purgeAborted group present] at stays
  exact fun unknown => List.ne_nil_of_mem stays
    ((group.purgeAborted.isTimed_none (lock.purgeAborted_isTimed timed group present)).mp unknown)

theorem looks_options (lock after : Lock State) (clock : Instant) (decision : TickDecision State)
    (looks : lock.Looks clock decision after) : after.options = lock.options := by
  cases looks <;> rfl

theorem looks_admissions (lock after : Lock State) (clock : Instant)
    (decision : TickDecision State) (looks : lock.Looks clock decision after) :
    after.admissions = lock.admissions := by
  cases looks <;> rfl

/-- A look without a consequence leaves no group behind. -/
theorem Looks.idle_group {lock after : Lock State} {clock : Instant}
    {decision : TickDecision State} (looks : lock.Looks clock decision after)
    (timed : lock.IsTimed) (idle : decision = .idle) : after.group = none := by
  cases looks with
  | empty => rfl
  | untimed group present unready unknown =>
      exact absurd unknown (lock.remaining_known timed group present unready)
  | exit | broken | waiting => cases idle

theorem looks_isTimed (lock after : Lock State) (clock : Instant) (decision : TickDecision State)
    (looks : lock.Looks clock decision after) (timed : lock.IsTimed) : after.IsTimed := by
  intro group present
  cases looks with
  | empty => cases present
  | exit => cases present
  | broken before =>
      cases present
      exact before.purgeAborted.emptied_isTimed
  | waiting before _ there | untimed before there =>
      cases present
      exact lock.purgeAborted_isTimed timed before there

theorem looks_members (lock after : Lock State) (clock : Instant) (decision : TickDecision State)
    (looks : lock.Looks clock decision after) :
    after.members = [] ∨ after.members = lock.remaining := by
  cases looks with
  | empty => exact .inl rfl
  | exit => exact .inl rfl
  | broken => exact .inl rfl
  | waiting group _ present | untimed group present =>
      exact .inr (lock.members_purgeAborted group present)

end Lock

end WoundWait
