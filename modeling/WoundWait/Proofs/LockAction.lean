import WoundWait.Proofs.LockEntry
import WoundWait.Proofs.GroupTick

/-!
All work on a lock as data. An action is done at once, whoever asks for it and however long others
have waited, so a lock has been through a list of actions and of the instants at which they were
done.
-/

namespace WoundWait

inductive LockAction (State Result : Type) where
  | enter (request : EntryRequest State Result)
  | validate (transaction : TransactionId) (counter : AccessCounter)
  | rollback (transaction : TransactionId) (notify : Bool)
  | abortAll
  | assignRole (transaction : TransactionId) (role : CommitRole) (timestamp : Timestamp)
  | edit (transaction : TransactionId) (operation : Operation State Result)
  | tick

variable {State Result : Type}

def TransactionRecord.credentials (record : TransactionRecord State) :
    TransactionId × Nat × Priority × AccessCounter :=
  (record.transaction, record.serial, record.priority, record.accesses)

namespace Lock

/-- The lock after an action. An action that is refused, or finds nothing to do, changes nothing. -/
def perform (lock : Lock State) (clock : Instant) : LockAction State Result → Lock State
  | .enter request =>
      match lock.enter clock request with
      | .ok entry => entry.lock
      | .error _ => lock
  | .validate transaction counter =>
      match lock.validate transaction counter with
      | .refuted _ after => after
      | _ => lock
  | .rollback transaction _ =>
      match lock.find? transaction with
      | some _ => lock.remove transaction
      | none => lock
  | .abortAll => lock.emptied
  | .assignRole transaction role timestamp =>
      if (lock.find? transaction).isSome then lock.assignRole clock transaction role timestamp
      else lock
  | .edit transaction operation =>
      match lock.withRecord transaction operation with
      | some (_, after) => after
      | none => lock
  | .tick => (lock.tick clock).2

def IsAdmission (lock : Lock State) (clock : Instant) (action : LockAction State Result) : Prop :=
  ∃ request entry, action = .enter request ∧ lock.enter clock request = .ok entry

theorem enter_disagrees (lock : Lock State) (clock : Instant)
    (request : EntryRequest State Result) (disagree : ¬ lock.CountsAgree request) :
    lock.enter clock request = .error (.notResident request.transaction) ∨
      lock.enter clock request = .error (.counterAhead request.transaction) := by
  rcases lock.grant_disagrees clock request disagree with refused | refused
  · exact .inl (by simp only [enter, refused])
  · exact .inr (by simp only [enter, refused])

theorem enter_ok (lock : Lock State) (clock : Instant) (request : EntryRequest State Result)
    (entry : Entry State Result) (admitted : lock.enter clock request = .ok entry) :
    lock.CountsAgree request ∧ lock.Unopposed request ∧ lock.Admits clock request entry := by
  by_cases agree : lock.CountsAgree request
  · by_cases unopposed : lock.Unopposed request
    · obtain ⟨other, done, admits⟩ := lock.enter_admits clock request agree unopposed
      rw [admitted] at done
      cases done
      exact ⟨agree, unopposed, admits⟩
    · obtain ⟨holder, refused, _⟩ := lock.enter_refuses clock request agree unopposed
      rw [admitted] at refused
      cases refused
  · rcases lock.enter_disagrees clock request agree with refused | refused <;>
      (rw [admitted] at refused; cases refused)

theorem members_edited (lock : Lock State) (distinct : lock.HasDistinctNames)
    (record : TransactionRecord State) (present : record ∈ lock.members)
    (change : TransactionRecord State → TransactionRecord State) :
    (lock.modify record.transaction fun _ => change record).members =
      lock.members.map fun member =>
        if member.transaction = record.transaction then change member else member := by
  rw [members_modify]
  apply List.map_congr_left
  intro member resident
  split
  · rename_i named
    rw [List.inj_on_of_nodup_map distinct resident present named]
  · rfl

/-- A change of one record that the view does not show. -/
theorem map_unseen {Item : Type} (view : TransactionRecord State → Item)
    (members : List (TransactionRecord State)) (transaction : TransactionId)
    (change : TransactionRecord State → TransactionRecord State)
    (kept : ∀ member ∈ members, member.transaction = transaction →
      view (change member) = view member) :
    (members.map fun member =>
      if member.transaction = transaction then change member else member).map view =
        members.map view := by
  rw [List.map_map]
  apply List.map_congr_left
  intro member resident
  by_cases named : member.transaction = transaction
  · simp [named, kept member resident named]
  · simp [named]

/-- Every action but an admission takes members away, and leaves what neither a decision nor an edit
touches. -/
theorem perform_sublist {Item : Type} (view : TransactionRecord State → Item) (lock : Lock State)
    (distinct : lock.HasDistinctNames) (clock : Instant) (action : LockAction State Result)
    (other : ¬ lock.IsAdmission clock action)
    (assigned : ∀ record role timestamp renewed,
      action = .assignRole record.transaction role timestamp →
        view (record.assignRole role timestamp renewed) = view record)
    (edited : ∀ record operation, action = .edit record.transaction operation →
      record ∈ lock.members → view (record.run operation).2 = view record) :
    ((lock.perform clock action).members.map view).Sublist (lock.members.map view) := by
  cases action with
  | enter request =>
      cases outcome : lock.enter clock request with
      | error refusal => simp [perform, outcome]
      | ok entry => exact absurd ⟨request, entry, rfl, outcome⟩ other
  | validate transaction counter =>
      cases outcome : lock.validate transaction counter with
      | notResident => simp [perform, outcome]
      | confirmed record => simp [perform, outcome]
      | refuted record after =>
          obtain ⟨_, _, same⟩ := lock.validate_refuted after transaction counter record outcome
          simp only [perform, outcome, same, members_remove]
          exact List.filter_sublist.map _
  | rollback transaction notify =>
      cases found : lock.find? transaction with
      | none => simp [perform, found]
      | some record =>
          simp only [perform, found, members_remove]
          exact List.filter_sublist.map _
  | abortAll => simp [perform]
  | assignRole transaction role timestamp =>
      by_cases resident : (lock.find? transaction).isSome = true
      · simp only [perform, resident, ↓reduceIte, members_assignRole]
        rw [map_unseen]
        exact fun member _ named => assigned member _ _ _ (named ▸ rfl)
      · simp [perform, resident]
  | edit transaction operation =>
      cases outcome : lock.withRecord transaction operation with
      | none => simp [perform, outcome]
      | some pair =>
          obtain ⟨result, after⟩ := pair
          obtain ⟨record, found, same⟩ :=
            lock.withRecord_some after transaction operation result outcome
          obtain ⟨present, named⟩ := lock.find?_some transaction record found
          subst named
          simp only [perform, outcome, same]
          rw [lock.members_edited distinct record present fun member => (member.run operation).2,
            map_unseen]
          intro member resident same
          rw [List.inj_on_of_nodup_map distinct resident present same]
          exact edited record operation rfl present
  | tick =>
      rcases lock.looks_members _ clock _ (lock.tick_looks clock) with none | some
      · simp [perform, none]
      · simp only [perform, some]
        exact List.filter_sublist.map _

/-- Only an admission adds a record or counts an access; every other action takes members away or
leaves what identifies them. -/
theorem perform_credentials (lock : Lock State) (distinct : lock.HasDistinctNames)
    (clock : Instant) (action : LockAction State Result) (other : ¬ lock.IsAdmission clock action) :
    ((lock.perform clock action).members.map TransactionRecord.credentials).Sublist
      (lock.members.map TransactionRecord.credentials) :=
  lock.perform_sublist _ distinct clock action other (fun _ _ _ _ _ => rfl) fun _ _ _ _ => rfl

/-- Only an admission is counted as one, and nothing changes the options. -/
theorem perform_fixed (lock : Lock State) (clock : Instant) (action : LockAction State Result)
    (other : ¬ lock.IsAdmission clock action) :
    (lock.perform clock action).options = lock.options ∧
      (lock.perform clock action).admissions = lock.admissions := by
  cases action with
  | enter request =>
      cases outcome : lock.enter clock request with
      | error refusal => simp [perform, outcome]
      | ok entry => exact absurd ⟨request, entry, rfl, outcome⟩ other
  | validate transaction counter =>
      cases outcome : lock.validate transaction counter with
      | notResident => simp [perform, outcome]
      | confirmed record => simp [perform, outcome]
      | refuted record after =>
          obtain ⟨_, _, same⟩ := lock.validate_refuted after transaction counter record outcome
          simp [perform, outcome, same, remove]
  | rollback transaction notify =>
      cases found : lock.find? transaction <;> simp [perform, found, remove]
  | abortAll => exact ⟨rfl, rfl⟩
  | assignRole transaction role timestamp =>
      by_cases resident : (lock.find? transaction).isSome = true <;>
        simp [perform, resident, assignRole]
  | edit transaction operation =>
      cases found : lock.find? transaction <;> simp [perform, withRecord, found, modify]
  | tick =>
      exact ⟨lock.looks_options _ clock _ (lock.tick_looks clock),
        lock.looks_admissions _ clock _ (lock.tick_looks clock)⟩

theorem perform_options (lock : Lock State) (clock : Instant) (action : LockAction State Result) :
    (lock.perform clock action).options = lock.options := by
  by_cases admission : lock.IsAdmission clock action
  · obtain ⟨request, entry, rfl, admitted⟩ := admission
    simpa [perform, admitted] using (lock.enter_ok clock request entry admitted).2.2.options
  · exact (lock.perform_fixed clock action admission).1

theorem perform_isTimed (lock : Lock State) (clock : Instant) (action : LockAction State Result)
    (distinct : lock.HasDistinctNames) (timed : lock.IsTimed) :
    (lock.perform clock action).IsTimed := by
  cases action with
  | enter request =>
      cases outcome : lock.enter clock request with
      | error refusal => simpa [perform, outcome] using timed
      | ok entry =>
          simp only [perform, outcome]
          exact (lock.enter_ok clock request entry outcome).2.2.timed distinct timed
  | validate transaction counter =>
      cases outcome : lock.validate transaction counter with
      | notResident => simpa [perform, outcome] using timed
      | confirmed record => simpa [perform, outcome] using timed
      | refuted record after =>
          obtain ⟨_, _, same⟩ := lock.validate_refuted after transaction counter record outcome
          simp only [perform, outcome, same]
          exact lock.remove_isTimed transaction timed
  | rollback transaction notify =>
      cases found : lock.find? transaction with
      | none => simpa [perform, found] using timed
      | some record =>
          simp only [perform, found]
          exact lock.remove_isTimed transaction timed
  | abortAll => exact lock.emptied_isTimed
  | assignRole transaction role timestamp =>
      by_cases resident : (lock.find? transaction).isSome = true
      · simp only [perform, resident, ↓reduceIte]
        exact lock.assignRole_isTimed clock transaction role timestamp
      · simpa [perform, resident] using timed
  | edit transaction operation =>
      cases outcome : lock.withRecord transaction operation with
      | none => simpa [perform, outcome] using timed
      | some pair =>
          obtain ⟨result, after⟩ := pair
          obtain ⟨record, found, same⟩ :=
            lock.withRecord_some after transaction operation result outcome
          simp only [perform, outcome, same]
          intro group present
          obtain ⟨before, there, same⟩ := Option.map_eq_some_iff.mp present
          rw [← same]
          apply before.modify_isTimed _ _ (timed before there)
          intro member resident named
          rw [← lock.members_some before there] at resident
          have own := lock.find?_of_mem distinct member resident
          rw [named, found] at own
          cases own
          rfl
  | tick => exact lock.looks_isTimed _ clock _ (lock.tick_looks clock) timed

end Lock

end WoundWait
