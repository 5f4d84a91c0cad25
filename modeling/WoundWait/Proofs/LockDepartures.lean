import WoundWait.Proofs.CallPieces
import WoundWait.Proofs.WriterExclusivity

/-!
How records leave a lock. Every action keeps the tally: who was resident or comes in is afterwards
resident, on the way to the queue, or gone without a word.
-/

namespace WoundWait

variable {State Result : Type}

/-- What tells one admission from all others. -/
def TransactionRecord.admission (record : TransactionRecord State) : Nat × TransactionId :=
  (record.serial, record.transaction)

namespace Lock

/-- The ways in which an action makes a record leave, and what it is handed over for, if it is. -/
inductive Leaves (lock : Lock State) (clock : Instant) :
    LockAction State Result → TransactionRecord State → Option Outcome → Prop where
  | committed (record : TransactionRecord State) (stays : record ∈ lock.remaining)
      (ready : ∀ member ∈ lock.remaining, member.role.isExitReady = true) :
      Leaves lock clock .tick record (some .commit)
  | overdue (record : TransactionRecord State) (stays : record ∈ lock.remaining)
      (unready : ∃ member ∈ lock.remaining, member.role.isExitReady = false)
      (late : ∃ member ∈ lock.remaining, member.deadline ≤ clock) :
      Leaves lock clock .tick record (some (.abort .brokenLock))
  | purged (record : TransactionRecord State) (resident : record ∈ lock.members)
      (aborted : record.role = .aborted) : Leaves lock clock .tick record none
  | wounded (request : EntryRequest State Result) (record rival : TransactionRecord State)
      (other : record ∈ lock.others request.transaction) (agree : lock.CountsAgree request)
      (conflict : rival ∈ lock.rivals request) (unopposed : lock.Unopposed request) :
      Leaves lock clock (.enter request) record (some (.abort .brokenLock))
  | refuted (record : TransactionRecord State) (counter : AccessCounter)
      (resident : record ∈ lock.members) (differs : record.accesses ≠ counter) :
      Leaves lock clock (.validate record.transaction counter) record (some (.abort .brokenLock))
  | rolledBack (record : TransactionRecord State) (resident : record ∈ lock.members) :
      Leaves lock clock (.rollback record.transaction true) record (some (.abort .brokenLock))
  | withdrawn (record : TransactionRecord State) (resident : record ∈ lock.members) :
      Leaves lock clock (.rollback record.transaction false) record none
  | expelled (record : TransactionRecord State) (resident : record ∈ lock.members) :
      Leaves lock clock .abortAll record (some (.abort .brokenLock))

def silences (lock : Lock State) : LockAction State Result → List (TransactionRecord State)
  | .rollback transaction notify => if notify then [] else (lock.find? transaction).toList
  | .tick => lock.members.filter fun member => member.role == .aborted
  | _ => []

def admits (lock : Lock State) (clock : Instant) :
    LockAction State Result → List (Nat × TransactionId)
  | .enter request =>
      match lock.enter clock request with
      | .ok _ => (lock.newcomers clock request).map TransactionRecord.admission
      | .error _ => []
  | _ => []

theorem Leaves.outcome {lock : Lock State} {clock : Instant} {action : LockAction State Result}
    {record : TransactionRecord State} {outcome : Outcome}
    (leaves : lock.Leaves clock action record (some outcome)) :
    outcome = .commit ∨ outcome = .abort .brokenLock := by
  cases leaves with
  | committed => exact .inl rfl
  | overdue | wounded | refuted | rolledBack | expelled => exact .inr rfl

theorem silences_leaves (lock : Lock State) (clock : Instant) (action : LockAction State Result)
    (record : TransactionRecord State) (silent : record ∈ lock.silences action) :
    lock.Leaves clock action record none := by
  cases action with
  | rollback transaction notify =>
      cases notify with
      | true => cases silent
      | false =>
          have found : lock.find? transaction = some record := by simpa [silences] using silent
          obtain ⟨resident, named⟩ := lock.find?_some transaction record found
          subst named
          exact .withdrawn record resident
  | tick =>
      obtain ⟨resident, aborted⟩ := List.mem_filter.mp silent
      exact .purged record resident (by simpa using aborted)
  | _ => cases silent

theorem tick_leaves (lock : Lock State) (timed : lock.IsTimed) (clock : Instant)
    (parcel : Parcel State)
    (leaves : parcel ∈ lock.handsOver clock (.tick : LockAction State Result)) :
    lock.Leaves clock (.tick : LockAction State Result) parcel.2 (some parcel.1) := by
  have looks := lock.tick_looks clock
  cases looked : lock.tick clock with
  | mk decision after =>
      rw [looked] at looks
      simp only [handsOver, looked] at leaves
      cases looks with
      | empty => cases leaves
      | exit somebody ready =>
          obtain ⟨record, stays, same⟩ := List.mem_map.mp leaves
          subst same
          exact .committed record (List.mem_mergeSort.mp stays) ready
      | broken group present unready expired =>
          obtain ⟨record, stays, same⟩ := List.mem_map.mp leaves
          subst same
          exact .overdue record (List.mem_mergeSort.mp stays) unready
            (lock.expired_late timed group present clock expired)
      | waiting | untimed => cases leaves

theorem enter_leaves (lock : Lock State) (clock : Instant) (request : EntryRequest State Result)
    (parcel : Parcel State) (leaves : parcel ∈ lock.handsOver clock (.enter request)) :
    lock.Leaves clock (.enter request) parcel.2 (some parcel.1) := by
  cases outcome : lock.enter clock request with
  | error refusal => simp [handsOver, outcome] at leaves
  | ok entry =>
      simp only [handsOver, outcome] at leaves
      obtain ⟨record, out, same⟩ := List.mem_map.mp leaves
      subst same
      obtain ⟨agree, unopposed, admits⟩ := lock.enter_ok clock request entry outcome
      rw [admits.wounded, wounds] at out
      by_cases nobody : (lock.rivals request).isEmpty = true
      · simp [nobody] at out
      · simp only [nobody, Bool.false_eq_true, ↓reduceIte] at out
        obtain ⟨rival, conflict⟩ := List.exists_mem_of_ne_nil _ (by simpa using nobody)
        exact .wounded request record rival out agree conflict unopposed

/-- Without a look, nobody leaves because of a deadline. -/
theorem handsOver_unlooked (lock : Lock State) (clock : Instant) (action : LockAction State Result)
    (other : action ≠ .tick) (parcel : Parcel State) (leaves : parcel ∈ lock.handsOver clock action) :
    lock.Leaves clock action parcel.2 (some parcel.1) := by
  cases action with
  | enter request => exact lock.enter_leaves clock request parcel leaves
  | validate transaction counter =>
      cases outcome : lock.validate transaction counter with
      | notResident => simp [handsOver, outcome] at leaves
      | confirmed record => simp [handsOver, outcome] at leaves
      | refuted record after =>
          obtain ⟨found, differs, _⟩ := lock.validate_refuted after transaction counter record outcome
          obtain ⟨resident, named⟩ := lock.find?_some transaction record found
          simp only [handsOver, outcome, List.mem_singleton] at leaves
          subst leaves named
          exact .refuted record counter resident differs
  | rollback transaction notify =>
      cases notify with
      | false => cases leaves
      | true =>
          obtain ⟨record, found, same⟩ := List.mem_map.mp leaves
          obtain ⟨resident, named⟩ := lock.find?_some transaction record (by simpa using found)
          subst same named
          exact .rolledBack record resident
  | abortAll =>
      obtain ⟨record, there, same⟩ := List.mem_map.mp leaves
      subst same
      exact .expelled record (lock.residents_perm.subset there)
  | tick => exact absurd rfl other
  | assignRole transaction role timestamp => cases leaves
  | edit transaction operation => cases leaves

theorem handsOver_leaves (lock : Lock State) (timed : lock.IsTimed) (clock : Instant)
    (action : LockAction State Result) (parcel : Parcel State)
    (leaves : parcel ∈ lock.handsOver clock action) :
    lock.Leaves clock action parcel.2 (some parcel.1) := by
  by_cases look : action = .tick
  · subst look
    exact lock.tick_leaves timed clock parcel leaves
  · exact lock.handsOver_unlooked clock action look parcel leaves

/-- Only a look hands anything over for commit. -/
theorem handsOver_aborts (lock : Lock State) (clock : Instant) (action : LockAction State Result)
    (other : action ≠ .tick) :
    ∀ parcel ∈ lock.handsOver clock action, parcel.1 ≠ .commit := by
  intro parcel leaves commits
  have cause := lock.handsOver_unlooked clock action other parcel leaves
  rw [commits] at cause
  cases cause with
  | committed => exact other rfl

/-! The tally -/

/-- One record goes, and it is the only one of its name. -/
theorem others_perm (lock : Lock State) (distinct : lock.HasDistinctNames)
    (transaction : TransactionId) (record : TransactionRecord State)
    (found : lock.find? transaction = some record) :
    (lock.others transaction ++ [record]).Perm lock.members := by
  obtain ⟨resident, named⟩ := lock.find?_some transaction record found
  let own := lock.members.filter fun member => !(member.transaction != transaction)
  have split : (lock.others transaction ++ own).Perm lock.members :=
    List.filter_append_perm (fun member : TransactionRecord State =>
      member.transaction != transaction) lock.members
  have present : record ∈ own := List.mem_filter.mpr ⟨resident, by simpa using named⟩
  have names : (own.map fun member => member.transaction).Nodup :=
    (List.filter_sublist.map _).nodup distinct
  have short : own.length ≤ 1 := by
    apply length_le_one own transaction names
    intro member there
    simpa using (List.mem_filter.mp there).2
  rw [singleton_of_length own record present short] at split
  exact split

theorem stayers_perm (lock : Lock State) (request : EntryRequest State Result) :
    (lock.stayers request ++ lock.wounds request).Perm lock.members := by
  by_cases nobody : (lock.rivals request).isEmpty = true
  · simp [stayers, wounds, nobody]
  · simp only [stayers, wounds, nobody, Bool.false_eq_true, ↓reduceIte, others]
    exact List.filter_append_perm (fun member => member.transaction == request.transaction)
      lock.members

theorem remaining_perm (Result : Type) (lock : Lock State) :
    (lock.remaining ++ lock.silences (.tick : LockAction State Result)).Perm lock.members := by
  have split := List.filter_append_perm (fun member => member.role != .aborted) lock.members
  simpa [remaining, silences, bne] using split

theorem admits_admissions (lock : Lock State) (clock : Instant)
    (request : EntryRequest State Result) (entry : Entry State Result)
    (distinct : lock.HasDistinctNames) (admits : lock.Admits clock request entry) :
    entry.lock.members.map TransactionRecord.admission =
      (lock.present clock request).map TransactionRecord.admission :=
  lock.admits_view _ clock request entry distinct admits fun _ => rfl

def departed (lock : Lock State) (clock : Instant) (action : LockAction State Result) :
    List (Nat × TransactionId) :=
  (lock.handsOver clock action).map (fun parcel => parcel.2.admission) ++
    (lock.silences action).map TransactionRecord.admission

theorem enter_tally (lock : Lock State) (distinct : lock.HasDistinctNames) (clock : Instant)
    (request : EntryRequest State Result) :
    ((lock.perform clock (.enter request)).members.map TransactionRecord.admission ++
      lock.departed clock (.enter request)).Perm
        (lock.members.map TransactionRecord.admission ++ lock.admits clock (.enter request)) := by
  cases outcome : lock.enter clock request with
  | error refusal =>
      simp only [perform, departed, handsOver, silences, Lock.admits, outcome]
      exact List.Perm.refl _
  | ok entry =>
      have admits := (lock.enter_ok clock request entry outcome).2.2
      have split := (lock.stayers_perm request).map TransactionRecord.admission
      simp only [perform, departed, handsOver, silences, Lock.admits, outcome, admits.wounded,
        lock.admits_admissions clock request entry distinct admits, present, List.map_append,
        List.map_map, List.map_nil, List.append_nil] at split ⊢
      calc
        _ = (lock.stayers request).map TransactionRecord.admission ++
              ((lock.newcomers clock request).map TransactionRecord.admission ++
                (lock.wounds request).map TransactionRecord.admission) := List.append_assoc ..
        List.Perm _ ((lock.stayers request).map TransactionRecord.admission ++
              ((lock.wounds request).map TransactionRecord.admission ++
                (lock.newcomers clock request).map TransactionRecord.admission)) :=
          List.perm_append_comm.append_left _
        _ = (lock.stayers request).map TransactionRecord.admission ++
              (lock.wounds request).map TransactionRecord.admission ++
                (lock.newcomers clock request).map TransactionRecord.admission :=
          (List.append_assoc ..).symm
        List.Perm _ _ := split.append_right _

theorem tick_tally (lock : Lock State) (clock : Instant) :
    ((lock.perform clock (.tick : LockAction State Result)).members.map TransactionRecord.admission ++
      lock.departed clock (.tick : LockAction State Result)).Perm
        (lock.members.map TransactionRecord.admission) := by
  have split := (lock.remaining_perm Result).map TransactionRecord.admission
  have looks := lock.tick_looks clock
  cases looked : lock.tick clock with
  | mk decision after =>
      rw [looked] at looks
      -- Who remains is handed over in some order, or stays.
      have given (outcome : Outcome)
          (before : TransactionRecord State → TransactionRecord State → Bool) :
          (((lock.remaining.mergeSort before).map fun record => (outcome, record)).map
            fun parcel => parcel.2.admission).Perm
              (lock.remaining.map TransactionRecord.admission) := by
        rw [List.map_map]
        exact (List.mergeSort_perm lock.remaining before).map _
      rw [List.map_append] at split
      simp only [perform, departed, handsOver, looked]
      cases looks with
      | empty nobody =>
          rw [nobody] at split
          exact split
      | exit somebody ready => exact ((given _ _).append_right _).trans split
      | broken => exact ((given _ _).append_right _).trans split
      | waiting group _ present | untimed group present =>
          rw [members_some _ group.purgeAborted rfl, lock.members_purgeAborted group present]
          exact split

theorem remove_tally (lock : Lock State) (distinct : lock.HasDistinctNames)
    (transaction : TransactionId) (record : TransactionRecord State)
    (found : lock.find? transaction = some record) :
    ((lock.remove transaction).members.map TransactionRecord.admission ++ [record.admission]).Perm
      (lock.members.map TransactionRecord.admission) := by
  have split := (lock.others_perm distinct transaction record found).map TransactionRecord.admission
  rw [List.map_append, ← members_remove] at split
  exact split

theorem edited_admissions (records : List (TransactionRecord State)) (transaction : TransactionId)
    (change : TransactionRecord State → TransactionRecord State)
    (kept : ∀ record, (change record).admission = record.admission) :
    (records.map fun record => if record.transaction = transaction then change record else record).map
      TransactionRecord.admission = records.map TransactionRecord.admission := by
  rw [List.map_map]
  apply List.map_congr_left
  intro record _
  by_cases named : record.transaction = transaction <;> simp [named, kept]

theorem perform_tally (lock : Lock State) (distinct : lock.HasDistinctNames) (clock : Instant)
    (action : LockAction State Result) :
    ((lock.perform clock action).members.map TransactionRecord.admission ++
      lock.departed clock action).Perm
        (lock.members.map TransactionRecord.admission ++ lock.admits clock action) := by
  cases action with
  | enter request => exact lock.enter_tally distinct clock request
  | validate transaction counter =>
      cases outcome : lock.validate transaction counter with
      | notResident => simp [perform, departed, handsOver, silences, Lock.admits, outcome]
      | confirmed record => simp [perform, departed, handsOver, silences, Lock.admits, outcome]
      | refuted record after =>
          obtain ⟨found, _, same⟩ := lock.validate_refuted after transaction counter record outcome
          subst same
          have split := lock.remove_tally distinct transaction record found
          simpa [perform, departed, handsOver, silences, Lock.admits, outcome] using split
  | rollback transaction notify =>
      cases found : lock.find? transaction with
      | none => cases notify <;> simp [perform, departed, handsOver, silences, Lock.admits, found]
      | some record =>
          have split := lock.remove_tally distinct transaction record found
          cases notify <;>
            simpa [perform, departed, handsOver, silences, Lock.admits, found] using split
  | abortAll =>
      have same := lock.residents_perm.map TransactionRecord.admission
      simpa [perform, departed, handsOver, silences, Lock.admits, Function.comp_def] using same
  | assignRole transaction role timestamp =>
      by_cases resident : (lock.find? transaction).isSome = true
      · have same := edited_admissions lock.members transaction (fun record => record.assignRole role
          timestamp (clock + lock.options.lockTimeout)) fun _ => rfl
        simp [perform, departed, handsOver, silences, Lock.admits, resident, members_assignRole, same]
      · simp [perform, departed, handsOver, silences, Lock.admits, resident]
  | edit transaction operation =>
      cases outcome : lock.withRecord transaction operation with
      | none => simp [perform, departed, handsOver, silences, Lock.admits, outcome]
      | some pair =>
          obtain ⟨result, after⟩ := pair
          obtain ⟨record, found, same⟩ :=
            lock.withRecord_some after transaction operation result outcome
          obtain ⟨resident, named⟩ := lock.find?_some transaction record found
          subst named same
          have kept := edited_admissions lock.members record.transaction
            (fun member => (member.run operation).2) fun _ => rfl
          have members := lock.members_edited distinct record resident
            fun member => (member.run operation).2
          simp [perform, departed, handsOver, silences, Lock.admits, outcome, members, kept]
  | tick =>
      have nobody : lock.admits clock (.tick : LockAction State Result) = [] := rfl
      rw [nobody, List.append_nil]
      exact lock.tick_tally clock

/-- An action makes one record at most, and it is told from all earlier ones by their number. -/
theorem admits_cases (lock : Lock State) (clock : Instant) (action : LockAction State Result) :
    (lock.admits clock action = [] ∧ (lock.perform clock action).admissions = lock.admissions) ∨
      ∃ transaction, lock.admits clock action = [(lock.admissions, transaction)] ∧
        (lock.perform clock action).admissions = lock.admissions + 1 := by
  by_cases admission : lock.IsAdmission clock action
  · obtain ⟨request, entry, rfl, admitted⟩ := admission
    have counted := (lock.enter_ok clock request entry admitted).2.2.admissions
    cases found : lock.find? request.transaction with
    | none =>
        refine .inr ⟨request.transaction, ?_, ?_⟩
        · simp [admits, admitted, newcomers, entrant, found, TransactionRecord.fresh,
            TransactionRecord.admission]
        · simpa [perform, admitted, newcomers, found] using counted
    | some record =>
        left
        constructor
        · simp [admits, admitted, newcomers, found]
        · simpa [perform, admitted, newcomers, found] using counted
  · refine .inl ⟨?_, (lock.perform_fixed clock action admission).2⟩
    cases action with
    | enter request =>
        cases outcome : lock.enter clock request with
        | error refusal => simp [admits, outcome]
        | ok entry => exact absurd ⟨request, entry, rfl, outcome⟩ admission
    | _ => rfl

end Lock

end WoundWait
