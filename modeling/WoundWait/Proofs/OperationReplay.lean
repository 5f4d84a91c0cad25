import WoundWait.Proofs.LockDepartures

/-!
The work that is done on the records of a lock. An entry runs its operation and counts an access, an
edit only runs its operation; nothing else changes a record's copy. What a record holds can be told
again from the work that was done on it.
-/

namespace WoundWait

variable {State Result : Type}

structure Copy (State : Type) where
  state : Option State
  accesses : AccessCounter

def Copy.blank : Copy State :=
  { state := none, accesses := .zero }

namespace TransactionRecord

def copy (record : TransactionRecord State) : Copy State :=
  { state := record.state, accesses := record.accesses }

def withCopy (record : TransactionRecord State) (copy : Copy State) : TransactionRecord State :=
  { record with state := copy.state, accesses := copy.accesses }

def essence (record : TransactionRecord State) : (Nat × TransactionId) × Copy State :=
  (record.admission, record.copy)

end TransactionRecord

/-- An operation that was run, with the record that it saw and the access that was counted for it,
if one was. -/
structure Work (State Result : Type) where
  seen : TransactionRecord State
  mode : Option AccessMode
  operation : Operation State Result

namespace Work

def admission (work : Work State Result) : Nat × TransactionId :=
  work.seen.admission

def redo (copy : Copy State) (work : Work State Result) : Copy State :=
  { state := (work.operation (work.seen.withCopy copy)).2
    accesses := work.mode.elim copy.accesses copy.accesses.record }

/-- What work makes of nothing when it is done again. -/
def replay (works : List (Work State Result)) : Copy State :=
  works.foldl redo .blank

def on (admission : Nat × TransactionId) (works : List (Work State Result)) :
    List (Work State Result) :=
  works.filter fun work => work.admission == admission

theorem replay_append (works later : List (Work State Result)) :
    replay (works ++ later) = later.foldl redo (replay works) :=
  List.foldl_append

theorem on_append (admission : Nat × TransactionId) (works later : List (Work State Result)) :
    on admission (works ++ later) = on admission works ++ on admission later :=
  List.filter_append ..

theorem on_nil (admission : Nat × TransactionId) (works : List (Work State Result))
    (others : ∀ work ∈ works, work.admission ≠ admission) : on admission works = [] := by
  rw [on, List.filter_eq_nil_iff]
  intro work done same
  exact others work done (by simpa using same)

end Work

namespace Lock

def meets? (lock : Lock State) (clock : Instant) (request : EntryRequest State Result) :
    Option (TransactionRecord State) :=
  match lock.grant clock request with
  | .ok (granted, _) => granted.find? request.transaction
  | .error _ => none

def works (lock : Lock State) (clock : Instant) : LockAction State Result → List (Work State Result)
  | .enter request =>
      (lock.meets? clock request).toList.map fun seen =>
        { seen, mode := some request.mode, operation := request.operation }
  | .edit transaction operation =>
      (lock.find? transaction).toList.map fun seen => { seen, mode := none, operation }
  | _ => []

theorem enter_meets? (lock : Lock State) (clock : Instant) (request : EntryRequest State Result) :
    (lock.meets? clock request = none ∧ ∃ refusal, lock.enter clock request = .error refusal) ∨
      (lock.meets? clock request = some (lock.entrant clock request) ∧
        ∃ entry, lock.enter clock request = .ok entry ∧ lock.Admits clock request entry) := by
  by_cases agree : lock.CountsAgree request
  · rcases lock.grant_spec clock request agree with
      ⟨unopposed, granted, wounded, done, grants⟩ | ⟨holder, done, _⟩
    · refine .inr ⟨?_, lock.enter_admits clock request agree unopposed⟩
      simp only [meets?, done]
      exact lock.grants_find? granted clock request wounded grants
    · exact .inl ⟨by simp only [meets?, done], _, by simp only [enter, done]; rfl⟩
  · rcases lock.grant_disagrees clock request agree with done | done <;>
      exact .inl ⟨by simp only [meets?, done], _, by simp only [enter, done]; rfl⟩

theorem works_entered (lock : Lock State) (clock : Instant) (request : EntryRequest State Result)
    (entry : Entry State Result) (admitted : lock.enter clock request = .ok entry) :
    lock.works clock (.enter request) =
      [{ seen := lock.entrant clock request, mode := some request.mode,
         operation := request.operation }] := by
  rcases lock.enter_meets? clock request with ⟨_, refusal, refused⟩ | ⟨meets, _⟩
  · cases admitted.symm.trans refused
  · simp [works, meets]

theorem works_refused (lock : Lock State) (clock : Instant) (request : EntryRequest State Result)
    (refusal : LockError) (refused : lock.enter clock request = .error refusal) :
    lock.works clock (.enter request) = [] := by
  rcases lock.enter_meets? clock request with ⟨meets, _⟩ | ⟨_, entry, admitted, _⟩
  · simp [works, meets]
  · cases admitted.symm.trans refused

/-- The operation runs on a resident record, or on one that was made for it just now. -/
theorem works_seen (lock : Lock State) (clock : Instant) (action : LockAction State Result)
    (work : Work State Result) (done : work ∈ lock.works clock action) :
    work.seen ∈ lock.members ∨
      (work.seen.copy = .blank ∧ work.seen.serial = lock.admissions ∧
        (lock.perform clock action).admissions = lock.admissions + 1) := by
  have resident (transaction : TransactionId) (record : TransactionRecord State)
      (found : lock.find? transaction = some record) : record ∈ lock.members :=
    (lock.find?_some transaction record found).1
  cases action with
  | enter request =>
      rcases lock.enter_meets? clock request with ⟨meets, _⟩ | ⟨meets, entry, admitted, admits⟩
      · simp [works, meets] at done
      · simp only [works, meets, Option.toList_some, List.map_cons, List.map_nil,
          List.mem_singleton] at done
        subst done
        have counted := admits.admissions
        cases found : lock.find? request.transaction with
        | some record =>
            left
            simpa [entrant, found] using resident _ record found
        | none =>
            right
            simp only [entrant, found, Option.getD_none]
            exact ⟨rfl, rfl, by simpa [perform, admitted, newcomers, found] using counted⟩
  | edit transaction operation =>
      cases found : lock.find? transaction with
      | none => simp [works, found] at done
      | some record =>
          simp only [works, found, Option.toList_some, List.map_cons, List.map_nil,
            List.mem_singleton] at done
          subst done
          exact .inl (resident _ record found)
  | _ => cases done

/-- An action that does no work leaves every copy as it was, or takes it away. -/
theorem perform_unworked (lock : Lock State) (distinct : lock.HasDistinctNames) (clock : Instant)
    (action : LockAction State Result) (unworked : lock.works clock action = []) :
    ((lock.perform clock action).members.map TransactionRecord.essence).Sublist
      (lock.members.map TransactionRecord.essence) := by
  apply lock.perform_sublist _ distinct clock action
  · rintro ⟨request, entry, rfl, admitted⟩
    simp [lock.works_entered clock request entry admitted] at unworked
  · exact fun _ _ _ _ _ => rfl
  · rintro record operation rfl resident
    simp [works, lock.find?_of_mem distinct record resident] at unworked

inductive CopyOrigin (lock : Lock State) (clock : Instant) (action : LockAction State Result)
    (member : TransactionRecord State) : Prop where
  | worked (work : Work State Result) (done : lock.works clock action = [work])
      (same : member.admission = work.admission) (copy : member.copy = work.redo work.seen.copy)
  | kept (before : TransactionRecord State) (resident : before ∈ lock.members)
      (same : member.admission = before.admission) (copy : member.copy = before.copy)
      (idle : ∀ work ∈ lock.works clock action, work.admission ≠ member.admission)

theorem enter_copies (lock : Lock State) (clock : Instant) (request : EntryRequest State Result)
    (entry : Entry State Result) (admitted : lock.enter clock request = .ok entry)
    (member : TransactionRecord State) (present : member ∈ entry.lock.members) :
    lock.CopyOrigin clock (.enter request) member := by
  have done := lock.works_entered clock request entry admitted
  have named := lock.entrant_transaction clock request
  rw [(lock.enter_ok clock request entry admitted).2.2.members] at present
  obtain ⟨before, there, same⟩ := List.mem_map.mp present
  by_cases own : before.transaction = request.transaction
  · simp only [own, ↓reduceIte] at same
    subst same
    exact .worked _ done rfl rfl
  · simp only [own, ↓reduceIte] at same
    subst same
    rcases List.mem_append.mp there with stays | comes
    · refine .kept before ((lock.stayers_sublist request).subset stays) rfl rfl ?_
      intro work worked same
      rw [done, List.mem_singleton] at worked
      subst worked
      exact own ((congrArg Prod.snd same).symm.trans named)
    · rw [lock.mem_newcomers clock request before comes] at own
      exact absurd named own

theorem edit_copies (lock : Lock State) (clock : Instant) (transaction : TransactionId)
    (operation : Operation State Result) (record : TransactionRecord State)
    (found : lock.find? transaction = some record) (member : TransactionRecord State)
    (present : member ∈ (lock.perform clock (.edit transaction operation)).members) :
    lock.CopyOrigin clock (.edit transaction operation) member := by
  have done : lock.works clock (.edit transaction operation) =
      [{ seen := record, mode := none, operation }] := by simp [works, found]
  have named := (lock.find?_some transaction record found).2
  simp only [perform, withRecord, found, Option.map_some, members_modify] at present
  obtain ⟨before, there, same⟩ := List.mem_map.mp present
  by_cases own : before.transaction = transaction
  · simp only [own, ↓reduceIte] at same
    subst same
    exact .worked _ done rfl rfl
  · simp only [own, ↓reduceIte] at same
    subst same
    refine .kept before there rfl rfl ?_
    intro work worked same
    rw [done, List.mem_singleton] at worked
    subst worked
    exact own ((congrArg Prod.snd same).symm.trans named)

theorem perform_copies (lock : Lock State) (distinct : lock.HasDistinctNames) (clock : Instant)
    (action : LockAction State Result) (member : TransactionRecord State)
    (present : member ∈ (lock.perform clock action).members) : lock.CopyOrigin clock action member := by
  have unworked (nothing : lock.works clock action = []) : lock.CopyOrigin clock action member := by
    have fewer := lock.perform_unworked distinct clock action nothing
    obtain ⟨before, resident, same⟩ := List.mem_map.mp (fewer.subset (List.mem_map_of_mem present))
    exact .kept before resident (congrArg Prod.fst same).symm (congrArg Prod.snd same).symm
      (by simp [nothing])
  cases action with
  | enter request =>
      cases outcome : lock.enter clock request with
      | error refusal => exact unworked (lock.works_refused clock request refusal outcome)
      | ok entry =>
          simp only [perform, outcome] at present
          exact lock.enter_copies clock request entry outcome member present
  | edit transaction operation =>
      cases found : lock.find? transaction with
      | none => exact unworked (by simp [works, found])
      | some record => exact lock.edit_copies clock transaction operation record found member present
  | _ => exact unworked rfl

theorem Leaves.resident {lock : Lock State} {clock : Instant} {action : LockAction State Result}
    {record : TransactionRecord State} {outcome : Option Outcome}
    (leaves : lock.Leaves clock action record outcome) : record ∈ lock.members := by
  cases leaves with
  | committed _ stays | overdue _ stays => exact List.mem_of_mem_filter stays
  | wounded _ _ _ other => exact ((lock.mem_others _ record).mp other).1
  | purged _ resident | refuted _ _ resident | rolledBack _ resident | withdrawn _ resident
  | expelled _ resident => exact resident

/-- Nobody works on a record in the same breath in which it leaves. -/
theorem Leaves.unworked {lock : Lock State} {clock : Instant} {action : LockAction State Result}
    {record : TransactionRecord State} {outcome : Option Outcome}
    (leaves : lock.Leaves clock action record outcome) :
    ∀ work ∈ lock.works clock action, work.admission ≠ record.admission := by
  intro work done same
  cases leaves with
  | wounded request _ _ other =>
      rcases lock.enter_meets? clock request with ⟨meets, _⟩ | ⟨meets, _⟩
      · simp [works, meets] at done
      · simp only [works, meets, Option.toList_some, List.map_cons, List.map_nil,
          List.mem_singleton] at done
        subst done
        have named : record.transaction = request.transaction :=
          (congrArg Prod.snd same).symm.trans (lock.entrant_transaction clock request)
        exact ((lock.mem_others _ record).mp other).2 named
  | _ => cases done

end Lock

end WoundWait
