import WoundWait.Proofs.CallPieces
import WoundWait.Proofs.WriterExclusivity

/-!
When a group needs no look. A group that has members, none of them aborted and not all of them ready
to leave, can be left alone until its deadline, and every action that changes this asks for a look.
-/

namespace WoundWait

variable {State Result : Type}

namespace Lock

structure Unfinished (lock : Lock State) : Prop where
  unaborted : ∀ member ∈ lock.members, member.role ≠ .aborted
  unready : ∃ member ∈ lock.members, member.role.isExitReady = false

def deadline? (lock : Lock State) : Option Instant :=
  lock.group.bind LockGroup.deadline

/-- Unless a look has been asked for, there is nothing to be done before the next deferred request.
-/
def Guarded (lock : Lock State) (requests : PendingWake CallId) : Prop :=
  requests.now = false →
    lock.group = none ∨ (lock.Unfinished ∧ ComesBy requests.deferred lock.deadline?)

theorem guarded_asked (lock : Lock State) (requests : PendingWake CallId)
    (asked : requests.now = true) : lock.Guarded requests := by
  intro unasked
  rw [asked] at unasked
  cases unasked

theorem guarded_absorb (lock : Lock State) (requests : PendingWake CallId)
    (sent : List (WakeRequest CallId)) (guarded : lock.Guarded requests) :
    lock.Guarded (sent.foldl PendingWake.absorb requests) := by
  intro unasked
  have before : requests.now = false := by
    by_contra asked
    have still := PendingWake.absorbAll_now sent requests (Bool.not_eq_false _ ▸ asked)
    rw [unasked] at still
    cases still
  rcases guarded before with none | ⟨unfinished, timely⟩
  · exact .inl none
  · exact .inr ⟨unfinished, (PendingWake.absorbAll_deferred sent requests).trans timely⟩

theorem immediate_guarded (lock : Lock State) (requests : PendingWake CallId) :
    lock.Guarded ([WakeRequest.immediate].foldl PendingWake.absorb requests) :=
  lock.guarded_asked _ rfl

theorem deadline?_exists (lock : Lock State) (timed : lock.IsTimed) (present : lock.members ≠ []) :
    ∃ deadline, lock.deadline? = some deadline := by
  cases found : lock.group with
  | none => exact absurd (lock.members_none found) present
  | some group =>
      rw [lock.members_some group found] at present
      obtain ⟨deadline, same⟩ := group.isTimed_deadline (timed group found) present
      exact ⟨deadline, by simp [deadline?, found, same]⟩

theorem unfinished_members (lock : Lock State) (unfinished : lock.Unfinished) :
    lock.members ≠ [] := by
  obtain ⟨member, present, _⟩ := unfinished.unready
  exact List.ne_nil_of_mem present

/-- Whether a lock is unfinished only depends on the roles of its members. -/
theorem unfinished_of_roles (lock : Lock State) (records : List (TransactionRecord State))
    (roles : lock.members.map (fun member => member.role) = records.map fun member => member.role)
    (unaborted : ∀ member ∈ records, member.role ≠ .aborted)
    (unready : ∃ member ∈ records, member.role.isExitReady = false) : lock.Unfinished := by
  constructor
  · intro member present
    have role := List.mem_map_of_mem (f := fun member => member.role) present
    rw [roles] at role
    obtain ⟨record, there, same⟩ := List.mem_map.mp role
    rw [← same]
    exact unaborted record there
  · obtain ⟨record, there, unready⟩ := unready
    have role := List.mem_map_of_mem (f := fun member => member.role) there
    rw [← roles] at role
    obtain ⟨member, present, same⟩ := List.mem_map.mp role
    refine ⟨member, present, ?_⟩
    rw [same]
    exact unready

/-! Entries -/

theorem entrant_role (lock : Lock State) (clock : Instant) (request : EntryRequest State Result) :
    lock.entrant clock request ∈ lock.members ∨
      (lock.entrant clock request).role = .notYetDetermined := by
  cases found : lock.find? request.transaction with
  | none => exact .inr (by simp [entrant, found, TransactionRecord.fresh])
  | some record =>
      left
      simpa [entrant, found] using (lock.find?_some _ record found).1

/-- Who is not wounded has no rivals to be wounded for. -/
theorem unharmed_stayers (lock : Lock State) (clock : Instant) (request : EntryRequest State Result)
    (entry : Entry State Result) (admits : lock.Admits clock request entry)
    (unharmed : entry.wounded.isEmpty = true) : lock.stayers request = lock.members := by
  have empty : lock.wounds request = [] := by
    rw [← admits.wounded]
    exact List.isEmpty_iff.mp unharmed
  by_cases nobody : (lock.rivals request).isEmpty = true
  · simp [stayers, nobody]
  · obtain ⟨rival, conflict⟩ := List.exists_mem_of_ne_nil _ (by simpa using nobody)
    have other := lock.rivals_subset_others request rival conflict
    simp only [wounds, nobody, Bool.false_eq_true, ↓reduceIte] at empty
    rw [empty] at other
    cases other

theorem admits_roles (lock : Lock State) (clock : Instant) (request : EntryRequest State Result)
    (entry : Entry State Result) (distinct : lock.HasDistinctNames)
    (admits : lock.Admits clock request entry) :
    entry.lock.members.map (fun member => member.role) =
      (lock.present clock request).map fun member => member.role :=
  lock.admits_view _ clock request entry distinct admits fun _ => rfl

theorem entry_unfinished (lock : Lock State) (clock : Instant) (request : EntryRequest State Result)
    (entry : Entry State Result) (distinct : lock.HasDistinctNames)
    (admits : lock.Admits clock request entry) (unharmed : entry.wounded.isEmpty = true)
    (before : lock.group = none ∨ lock.Unfinished) : entry.lock.Unfinished := by
  have roles := lock.admits_roles clock request entry distinct admits
  have stayers := lock.unharmed_stayers clock request entry admits unharmed
  have unaborted : ∀ member ∈ lock.members, member.role ≠ .aborted := by
    rcases before with discarded | unfinished
    · simp [lock.members_none discarded]
    · exact unfinished.unaborted
  apply entry.lock.unfinished_of_roles (lock.present clock request) roles
  · intro member there
    rcases List.mem_append.mp there with stays | comes
    · exact unaborted member (stayers ▸ stays)
    · rw [lock.mem_newcomers clock request member comes]
      rcases lock.entrant_role clock request with resident | fresh
      · exact unaborted _ resident
      · simp [fresh]
  · rcases before with discarded | unfinished
    · have absent : lock.find? request.transaction = none := by
        simp [find?_members, lock.members_none discarded]
      refine ⟨lock.entrant clock request, ?_, ?_⟩
      · simp [present, newcomers, absent]
      · simp [entrant, absent, TransactionRecord.fresh, CommitRole.isExitReady]
    · obtain ⟨member, present, unready⟩ := unfinished.unready
      exact ⟨member, List.mem_append_left _ (stayers.symm ▸ present), unready⟩

theorem enter_guarded (lock : Lock State) (clock : Instant) (request : EntryRequest State Result)
    (requests : PendingWake CallId) (distinct : lock.HasDistinctNames) (timed : lock.IsTimed)
    (guarded : lock.Guarded requests) :
    (lock.perform clock (.enter request)).Guarded
      ((lock.wakes clock (.enter request)).foldl PendingWake.absorb requests) := by
  cases outcome : lock.enter clock request with
  | error refusal => simpa [perform, wakes, outcome] using guarded
  | ok entry =>
      have admits := (lock.enter_ok clock request entry outcome).2.2
      simp only [perform, wakes, outcome]
      by_cases unharmed : entry.wounded.isEmpty = true
      · simp only [unharmed, ↓reduceIte]
        intro unasked
        right
        have before : requests.now = false := by
          cases next : entry.lock.group.bind LockGroup.deadline <;>
            simpa [next] using unasked
        have unfinished : entry.lock.Unfinished := by
          apply lock.entry_unfinished clock request entry distinct admits unharmed
          exact (guarded before).imp_right And.left
        obtain ⟨deadline, next⟩ := entry.lock.deadline?_exists (admits.timed distinct timed)
          (entry.lock.unfinished_members unfinished)
        refine ⟨unfinished, ?_⟩
        rw [next]
        rw [deadline?] at next
        simp only [next, Option.map_some, Option.toList_some, List.foldl_cons, List.foldl_nil]
        exact earlier_comesBy_right requests.deferred (some deadline)
      · simp only [unharmed, Bool.false_eq_true, ↓reduceIte]
        exact entry.lock.immediate_guarded requests

/-! Other actions -/

/-- An edit leaves the roles and the deadlines alone. -/
theorem edit_guarded (lock : Lock State) (clock : Instant) (transaction : TransactionId)
    (operation : Operation State Result) (requests : PendingWake CallId)
    (distinct : lock.HasDistinctNames) (guarded : lock.Guarded requests) :
    (lock.perform clock (.edit transaction operation)).Guarded requests := by
  cases outcome : lock.withRecord transaction operation with
  | none => simpa [perform, outcome] using guarded
  | some pair =>
      obtain ⟨result, after⟩ := pair
      obtain ⟨record, found, same⟩ := lock.withRecord_some after transaction operation result outcome
      obtain ⟨present, named⟩ := lock.find?_some transaction record found
      subst named
      simp only [perform, outcome, same]
      intro unasked
      rcases guarded unasked with discarded | ⟨unfinished, timely⟩
      · exact absurd present (by simp [lock.members_none discarded])
      · right
        constructor
        · refine unfinished_of_roles _ lock.members ?_ unfinished.unaborted unfinished.unready
          rw [lock.members_edited distinct record present fun member => (member.run operation).2,
            List.map_map]
          apply List.map_congr_left
          intro member _
          by_cases own : member.transaction = record.transaction
          · simp only [Function.comp_apply, own, ↓reduceIte]
            rfl
          · simp [own]
        · have same : (lock.modify record.transaction fun _ =>
              (record.run operation).2).deadline? = lock.deadline? := by
            cases found : lock.group <;> simp [deadline?, modify, found, LockGroup.modify]
          rw [same]
          exact timely

theorem perform_guarded (lock : Lock State) (clock : Instant) (action : LockAction State Result)
    (requests : PendingWake CallId) (distinct : lock.HasDistinctNames) (timed : lock.IsTimed)
    (guarded : lock.Guarded requests) (other : action ≠ .tick) :
    (lock.perform clock action).Guarded
      ((lock.wakes clock action).foldl PendingWake.absorb requests) := by
  cases action with
  | enter request => exact lock.enter_guarded clock request requests distinct timed guarded
  | validate transaction counter =>
      cases outcome : lock.validate transaction counter with
      | notResident => simpa [perform, wakes, outcome] using guarded
      | confirmed record => simpa [perform, wakes, outcome] using guarded
      | refuted record after =>
          simp only [perform, wakes, outcome]
          exact after.immediate_guarded requests
  | rollback transaction notify =>
      cases found : lock.find? transaction with
      | none => simpa [perform, wakes, found] using guarded
      | some record =>
          simp only [perform, wakes, found]
          exact (lock.remove transaction).immediate_guarded requests
  | abortAll =>
      by_cases nobody : lock.residents.isEmpty = true
      · -- A group without members would have been asked to be discarded already.
        have empty : lock.members = [] := by
          rw [List.isEmpty_iff] at nobody
          have same := lock.residents_perm
          rw [nobody] at same
          exact same.nil_eq.symm
        simp only [perform, wakes, nobody, ↓reduceIte, List.foldl_nil]
        intro unasked
        rcases guarded unasked with discarded | ⟨unfinished, _⟩
        · exact .inl (by simp [emptied, discarded])
        · exact absurd empty (lock.unfinished_members unfinished)
      · simp only [perform, wakes, nobody, Bool.false_eq_true, ↓reduceIte]
        exact lock.emptied.immediate_guarded requests
  | assignRole transaction role timestamp =>
      by_cases resident : (lock.find? transaction).isSome = true
      · simp only [perform, wakes, resident, ↓reduceIte]
        exact immediate_guarded _ requests
      · simpa [perform, wakes, resident] using guarded
  | edit transaction operation =>
      exact lock.edit_guarded clock transaction operation requests distinct guarded
  | tick => exact absurd rfl other

/-! Looks -/

/-- A look that finds a deadline to wait for has found the group unfinished. -/
theorem recheck_guarded (lock after : Lock State) (clock deadline : Instant)
    (requests : PendingWake CallId) (looked : lock.tick clock = (.recheck deadline, after))
    (told : ComesBy requests.deferred (some deadline)) : after.Guarded requests := by
  have looks := lock.tick_looks clock
  rw [looked] at looks
  generalize decided : (TickDecision.recheck deadline : TickDecision State) = decision at looks
  intro _
  cases looks with
  | empty | exit | broken | untimed => cases decided
  | waiting group instant present unready early next =>
      cases decided
      have members := lock.members_purgeAborted group present
      right
      constructor
      · apply unfinished_of_roles _ lock.remaining _ _ unready
        · rw [members_some _ group.purgeAborted rfl, members]
        · intro member stays
          simpa using (List.mem_filter.mp stays).2
      · simpa [deadline?, next] using told

end Lock

end WoundWait
