import WoundWait.Proofs.GroupTick

/-!
Where a look leaves each member of the group. A member whose transaction was aborted is purged; all
others share one place, which depends on whether all of them may leave and whether one of them has
stayed too long.
-/

namespace WoundWait

variable {State : Type}

inductive Place where
  | purged
  | exits
  | broken
  | stays
  deriving DecidableEq, Repr

namespace TickDecision

def exiting : TickDecision State → List (TransactionRecord State)
  | exit records => records
  | _ => []

def breaking : TickDecision State → List (TransactionRecord State)
  | breakLock records => records
  | _ => []

end TickDecision

namespace Lock

/-- The place of all members that remain after the purge. Whether they may leave comes before
whether they have stayed too long. -/
def lot (lock : Lock State) (clock : Instant) : Place :=
  if ∀ member ∈ lock.remaining, member.role.isExitReady = true then .exits
  else if ∃ member ∈ lock.remaining, member.deadline ≤ clock then .broken
  else .stays

def place (lock : Lock State) (clock : Instant) (member : TransactionRecord State) : Place :=
  if member.role = .aborted then .purged else lock.lot clock

def placed (lock : Lock State) (clock : Instant) (place : Place) :
    List (TransactionRecord State) :=
  lock.members.filter fun member => lock.place clock member == place

theorem lot_ne_purged (lock : Lock State) (clock : Instant) : lock.lot clock ≠ .purged := by
  unfold lot
  split
  · simp
  · split <;> simp

theorem placed_purged (lock : Lock State) (clock : Instant) :
    lock.placed clock .purged = lock.members.filter fun member => member.role == .aborted := by
  apply List.filter_congr
  intro member _
  by_cases aborted : member.role = .aborted
  · simp [place, aborted]
  · simp [place, aborted, lock.lot_ne_purged clock]

/-- Whoever is not purged is where all others are. -/
theorem placed_lot (lock : Lock State) (clock : Instant) (place : Place) (kept : place ≠ .purged) :
    lock.placed clock place = if lock.lot clock = place then lock.remaining else [] := by
  by_cases same : lock.lot clock = place
  · rw [if_pos same]
    apply List.filter_congr
    intro member _
    by_cases aborted : member.role = .aborted
    · simp [Lock.place, aborted, kept.symm]
    · simp [Lock.place, aborted, same]
  · rw [if_neg same]
    apply List.filter_eq_nil_iff.mpr
    intro member _
    by_cases aborted : member.role = .aborted
    · simp [Lock.place, aborted, kept.symm]
    · simp [Lock.place, aborted, same]

theorem lot_exits (lock : Lock State) (clock : Instant)
    (ready : ∀ member ∈ lock.remaining, member.role.isExitReady = true) :
    lock.lot clock = .exits :=
  if_pos ready

theorem lot_unready (lock : Lock State) (clock : Instant)
    (unready : ∃ member ∈ lock.remaining, member.role.isExitReady = false) :
    lock.lot clock =
      if ∃ member ∈ lock.remaining, member.deadline ≤ clock then .broken else .stays := by
  obtain ⟨member, stays, waits⟩ := unready
  apply if_neg
  intro ready
  rw [ready member stays] at waits
  cases waits

/-- The purged members and those that remain are all members. -/
theorem purged_perm (lock : Lock State) (clock : Instant) :
    (lock.placed clock .purged ++ lock.remaining).Perm lock.members := by
  rw [placed_purged]
  have split := List.filter_append_perm (fun member => member.role == .aborted) lock.members
  simpa [remaining, bne, Bool.not_eq_true] using split

/-- Each member is in the place it is to have, as it was, and the group and the next look are as
these places demand. -/
structure Partitions (lock : Lock State) (clock : Instant) (decision : TickDecision State)
    (after : Lock State) : Prop where
  once : (lock.placed clock .purged ++ decision.exiting ++ decision.breaking ++ after.members).Perm
    lock.members
  exits : decision.exiting.Perm (lock.placed clock .exits)
  broken : decision.breaking.Perm (lock.placed clock .broken)
  stays : after.members = lock.placed clock .stays
  -- The group is discarded unless somebody is broken or stays.
  discarded : after.group = none ↔
    lock.placed clock .broken = [] ∧ lock.placed clock .stays = []
  filled : ∀ group, after.group = some group →
    ∃ found, lock.group = some found ∧ group.fillCount = found.fillCount
  emptied : lock.placed clock .broken ≠ [] →
    ∃ group, after.group = some group ∧ group.members = [] ∧ group.deadline = none
  -- Nothing is done exactly when nobody remains, and then there is no group any more.
  idle : decision = .idle ↔ lock.remaining = []
  -- The next look is asked for exactly when somebody stays, for the smallest of their deadlines.
  recheck : ∀ instant, decision = .recheck instant ↔ lock.placed clock .stays ≠ [] ∧
    IsLeast { deadline | ∃ member ∈ lock.remaining, member.deadline = deadline } instant
  later : ∀ instant, decision = .recheck instant → clock < instant

/-- Those who remain are in one of three places, all of them in the same. -/
theorem placed_remaining (lock : Lock State) (clock : Instant) :
    lock.placed clock .exits ++ lock.placed clock .broken ++ lock.placed clock .stays =
      lock.remaining := by
  rw [lock.placed_lot clock .exits (by decide), lock.placed_lot clock .broken (by decide),
    lock.placed_lot clock .stays (by decide)]
  have kept := lock.lot_ne_purged clock
  cases same : lock.lot clock <;> simp_all

theorem once_placed (lock after : Lock State) (clock : Instant) (decision : TickDecision State)
    (exits : decision.exiting.Perm (lock.placed clock .exits))
    (broken : decision.breaking.Perm (lock.placed clock .broken))
    (stays : after.members = lock.placed clock .stays) :
    (lock.placed clock .purged ++ decision.exiting ++ decision.breaking ++ after.members).Perm
      lock.members := by
  have shared : (decision.exiting ++ decision.breaking ++ after.members).Perm lock.remaining := by
    rw [← lock.placed_remaining clock, stays]
    exact (exits.append broken).append_right _
  rw [List.append_assoc, List.append_assoc]
  rw [List.append_assoc] at shared
  exact (shared.append_left _).trans (lock.purged_perm clock)

/-- Whatever the roles and the deadlines of the members, one look puts each of them in one place. -/
theorem tick_partitions (lock : Lock State) (timed : lock.IsTimed) (clock : Instant) :
    lock.Partitions clock (lock.tick clock).1 (lock.tick clock).2 := by
  have exits := lock.placed_lot clock .exits (by decide)
  have broken := lock.placed_lot clock .broken (by decide)
  have stays := lock.placed_lot clock .stays (by decide)
  have looks := lock.tick_looks clock
  generalize (lock.tick clock).1 = decision at looks
  generalize (lock.tick clock).2 = after at looks
  -- Each outcome leaves at most one of the three places filled.
  cases looks with
  | empty nobody =>
      simp only [nobody, ite_self] at exits broken stays
      have gone : ({ lock with group := none } : Lock State).members = lock.placed clock .stays :=
        stays.symm
      exact
        { once := lock.once_placed _ clock .idle (exits ▸ .nil) (broken ▸ .nil) gone
          exits := exits ▸ .nil
          broken := broken ▸ .nil
          stays := gone
          discarded := by simp [broken, stays]
          filled := nofun
          emptied := fun somebody => absurd broken somebody
          idle := by simp [nobody]
          recheck := by simp [stays]
          later := nofun }
  | exit somebody ready =>
      simp only [lock.lot_exits clock ready, ↓reduceIte, reduceCtorEq] at exits broken stays
      have leaves : (lock.remaining.mergeSort TransactionRecord.commitsBefore).Perm
          (lock.placed clock .exits) := exits ▸ List.mergeSort_perm _ _
      have gone : ({ lock with group := none } : Lock State).members = lock.placed clock .stays :=
        stays.symm
      exact
        { once := lock.once_placed _ clock (.exit _) leaves (broken ▸ .nil) gone
          exits := leaves
          broken := broken ▸ .nil
          stays := gone
          discarded := by simp [broken, stays]
          filled := nofun
          emptied := fun somebody => absurd broken somebody
          idle := by simp [somebody]
          recheck := by simp [stays]
          later := nofun }
  | broken group present unready expired =>
      have late := lock.expired_late timed group present clock expired
      simp only [lock.lot_unready clock unready, if_pos late, ↓reduceIte, reduceCtorEq]
        at exits broken stays
      have lost : (lock.remaining.mergeSort TransactionRecord.agesBefore).Perm
          (lock.placed clock .broken) := broken ▸ List.mergeSort_perm _ _
      have gone : ({ lock with group := some group.purgeAborted.emptied } : Lock State).members =
          lock.placed clock .stays := stays.symm
      have somebody : lock.remaining ≠ [] := List.ne_nil_of_mem unready.choose_spec.1
      exact
        { once := lock.once_placed _ clock (.breakLock _) (exits ▸ .nil) lost gone
          exits := exits ▸ .nil
          broken := lost
          stays := gone
          discarded := by simp [broken, somebody]
          filled := by
            rintro _ ⟨⟩
            exact ⟨group, present, group.fillCount_keepOnly _⟩
          emptied := fun _ => ⟨_, rfl, rfl, rfl⟩
          idle := by simp [somebody]
          recheck := by simp [stays]
          later := nofun }
  | waiting group deadline present unready early next =>
      have unhurried := lock.remaining_early timed group present clock deadline early next
      have punctual : ¬ ∃ member ∈ lock.remaining, member.deadline ≤ clock := by
        rintro ⟨member, stays, late⟩
        exact absurd (unhurried member stays) (Int.not_lt.mpr late)
      simp only [lock.lot_unready clock unready, if_neg punctual, ↓reduceIte, reduceCtorEq]
        at exits broken stays
      have kept := lock.members_purgeAborted group present
      have same : ({ lock with group := some group.purgeAborted } : Lock State).members =
          lock.placed clock .stays := kept.trans stays.symm
      have somebody : lock.remaining ≠ [] := List.ne_nil_of_mem unready.choose_spec.1
      have least := lock.remaining_isLeast timed group present deadline next
      exact
        { once := lock.once_placed _ clock (.recheck deadline) (exits ▸ .nil) (broken ▸ .nil) same
          exits := exits ▸ .nil
          broken := broken ▸ .nil
          stays := same
          discarded := by simp [stays, somebody]
          filled := by
            rintro _ ⟨⟩
            exact ⟨group, present, group.fillCount_keepOnly _⟩
          emptied := fun somebody => absurd broken somebody
          idle := by simp [somebody]
          recheck := fun instant => by
            constructor
            · rintro ⟨⟩
              exact ⟨stays ▸ somebody, least⟩
            · rintro ⟨_, smallest⟩
              rw [least.unique smallest]
          later := by
            rintro _ ⟨⟩
            exact early }
  | untimed group present unready unknown =>
      exact absurd unknown (lock.remaining_known timed group present unready)

def mixed : Lock Nat :=
  { options := ⟨100, 100, 100, 3⟩
    group := some
      { members :=
          [{ TransactionRecord.fresh 0 (.ofNat 1) ⟨1⟩ 100 with role := .aborted },
            .fresh 1 (.ofNat 2) ⟨2⟩ 200,
            { TransactionRecord.fresh 2 (.ofNat 3) ⟨3⟩ 300 with role := .localCommit }]
        fillCount := 3
        deadline := some 100 }
    admissions := 3 }

/-- Nobody is broken: without the aborted member the group's deadline is 200. -/
theorem aborted_tick_partitions : mixed.IsTimed ∧ (mixed.tick 150).1 = .recheck 200 ∧
    mixed.Partitions 150 (mixed.tick 150).1 (mixed.tick 150).2 := by
  have timed : mixed.IsTimed := by
    rintro group ⟨⟩
    rfl
  exact ⟨timed, rfl, mixed.tick_partitions timed 150⟩

end Lock

end WoundWait
