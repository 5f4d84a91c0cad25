import Mathlib
import WoundWait.Proofs.CommitDecisions
import WoundWait.Proofs.LockWakeUps

/-!
Until when a record may stay. Its deadline is told by the instant at which it was made and those at
which it was decided that it may leave for commit; nothing else that happens to the lock moves it.
The group keeps the earliest deadline of its members.
-/

namespace WoundWait

variable {State Result : Type}

/-- Until when a record may stay that was made at one instant, and allowed to leave at others,
oldest first. Only the latest of these counts. -/
def Options.term (options : Options) (made : Instant) (released : List Instant) : Instant :=
  match released.getLast? with
  | none => made + options.lockAcquireTimeout
  | some latest => latest + options.lockTimeout

theorem Options.term_released (options : Options) (made latest : Instant) (released : List Instant) :
    options.term made (released ++ [latest]) = latest + options.lockTimeout := by
  simp [term]

namespace Lock

inductive DeadlineOrigin (lock : Lock State) (clock : Instant) (action : LockAction State Result)
    (member : TransactionRecord State) : Prop where
  | kept (before : TransactionRecord State) (resident : before ∈ lock.members)
      (same : before.admission = member.admission) (deadline : before.deadline = member.deadline)
      (unreleased : ∀ role timestamp, action = .assignRole member.transaction role timestamp →
        role.isExitReady = false)
  | released (before : TransactionRecord State) (role : CommitRole) (timestamp : Timestamp)
      (decided : action = .assignRole member.transaction role timestamp)
      (ready : role.isExitReady = true) (found : lock.find? member.transaction = some before)
      (same : before.admission = member.admission)
      (deadline : member.deadline = clock + lock.options.lockTimeout)
  | made (serial : member.serial = lock.admissions)
      (admitted : lock.admits clock action = [member.admission])
      (deadline : member.deadline = clock + lock.options.lockAcquireTimeout)

theorem enter_deadlineOrigin (lock : Lock State) (distinct : lock.HasDistinctNames)
    (clock : Instant) (request : EntryRequest State Result) (entry : Entry State Result)
    (admitted : lock.enter clock request = .ok entry) (member : TransactionRecord State)
    (present : member ∈ entry.lock.members) :
    lock.DeadlineOrigin clock (.enter request) member := by
  have admits := (lock.enter_ok clock request entry admitted).2.2
  have views : entry.lock.members.map (fun record => (record.admission, record.deadline)) =
      (lock.present clock request).map fun record => (record.admission, record.deadline) :=
    lock.admits_view _ clock request entry distinct admits fun _ => rfl
  obtain ⟨before, there, same⟩ := List.mem_map.mp (views ▸ List.mem_map_of_mem present)
  obtain ⟨same, deadline⟩ := Prod.mk.inj same
  rcases List.mem_append.mp there with stays | comes
  · exact .kept before ((lock.stayers_sublist request).subset stays) same deadline nofun
  · have fresh := lock.mem_newcomers clock request before comes
    cases found : lock.find? request.transaction with
    | some resident => simp [newcomers, found] at comes
    | none =>
        have made : lock.admits clock (.enter request) = [before.admission] := by
          simp [Lock.admits, admitted, newcomers, found, fresh]
        rw [entrant, found, Option.getD_none] at fresh
        refine .made ?_ (same ▸ made) (deadline ▸ ?_)
        · exact (congrArg Prod.fst same).symm.trans (by rw [fresh]; rfl)
        · rw [fresh]
          rfl

theorem assignRole_deadlineOrigin (lock : Lock State) (clock : Instant)
    (transaction : TransactionId) (role : CommitRole) (timestamp : Timestamp)
    (distinct : lock.HasDistinctNames) (member : TransactionRecord State)
    (present : member ∈ (lock.perform clock
      (.assignRole transaction role timestamp : LockAction State Result)).members) :
    lock.DeadlineOrigin clock (.assignRole transaction role timestamp : LockAction State Result) member := by
  have elsewhere (other : member.transaction ≠ transaction) (role' : CommitRole)
      (timestamp' : Timestamp)
      (same : (.assignRole transaction role timestamp : LockAction State Result) =
        .assignRole member.transaction role' timestamp') : role'.isExitReady = false := by
    cases same
    exact absurd rfl other
  by_cases resident : (lock.find? transaction).isSome = true
  · simp only [perform, resident, ↓reduceIte, members_assignRole] at present
    obtain ⟨before, there, same⟩ := List.mem_map.mp present
    by_cases own : before.transaction = transaction
    · simp only [own, ↓reduceIte] at same
      subst own same
      cases ready : role.isExitReady with
      | true =>
          exact .released before role timestamp rfl ready (lock.find?_of_mem distinct before there)
            rfl (if_pos ready)
      | false =>
          refine .kept before there rfl (by simp [TransactionRecord.assignRole, ready]) ?_
          rintro role' timestamp' same
          cases same
          exact ready
    · simp only [own, ↓reduceIte] at same
      subst same
      exact .kept before there rfl rfl (elsewhere own)
  · simp only [perform, resident, Bool.false_eq_true, ↓reduceIte] at present
    have absent := (lock.find?_none transaction).mp (by simpa using resident) member present
    exact .kept member present rfl rfl (elsewhere absent)

/-- Nothing but a decision that the member may leave moves its deadline. -/
theorem perform_deadlineOrigin (lock : Lock State) (distinct : lock.HasDistinctNames)
    (clock : Instant) (action : LockAction State Result) (member : TransactionRecord State)
    (present : member ∈ (lock.perform clock action).members) :
    lock.DeadlineOrigin clock action member := by
  have kept (other : ¬ lock.IsAdmission clock action)
      (undecided : ∀ transaction role timestamp, action ≠ .assignRole transaction role timestamp) :
      lock.DeadlineOrigin clock action member := by
    have fewer := lock.perform_sublist (fun record => (record.admission, record.deadline)) distinct
      clock action other (fun _ _ _ _ same => absurd same (undecided _ _ _)) fun _ _ _ _ => rfl
    obtain ⟨before, resident, same⟩ := List.mem_map.mp (fewer.subset (List.mem_map_of_mem present))
    exact .kept before resident (congrArg Prod.fst same) (congrArg Prod.snd same)
      fun role timestamp same => absurd same (undecided _ role timestamp)
  cases action with
  | enter request =>
      cases outcome : lock.enter clock request with
      | error refusal =>
          apply kept
          · rintro ⟨other, entry, same, admitted⟩
            cases same
            cases outcome.symm.trans admitted
          · intro transaction role timestamp same
            cases same
      | ok entry =>
          simp only [perform, outcome] at present
          exact lock.enter_deadlineOrigin distinct clock request entry outcome member present
  | assignRole transaction role timestamp =>
      exact lock.assignRole_deadlineOrigin clock transaction role timestamp distinct member present
  | validate | rollback | abortAll | edit | tick =>
      apply kept
      · rintro ⟨request, entry, same, _⟩
        cases same
      · intro transaction role timestamp same
        cases same

end Lock

namespace System

/-! Histories -/

def arrivals (system : System State Result) (event : Event State Result) :
    List ((Nat × TransactionId) × Instant) :=
  (system.admits event).map fun admission => (admission, system.clock)

def releases (system : System State Result) :
    Event State Result → List ((Nat × TransactionId) × Instant)
  | .assignRole transaction role _ =>
      if role.isExitReady then
        (system.lock.find? transaction).toList.map fun record => (record.admission, system.clock)
      else []
  | _ => []

def instantsOf (admission : Nat × TransactionId) (history : List ((Nat × TransactionId) × Instant)) :
    List Instant :=
  (history.filter fun mark => mark.1 == admission).map Prod.snd

theorem instantsOf_append (admission : Nat × TransactionId)
    (history later : List ((Nat × TransactionId) × Instant)) :
    instantsOf admission (history ++ later) =
      instantsOf admission history ++ instantsOf admission later := by
  simp [instantsOf]

theorem instantsOf_nil (admission : Nat × TransactionId)
    (history : List ((Nat × TransactionId) × Instant))
    (others : ∀ mark ∈ history, mark.1 ≠ admission) : instantsOf admission history = [] := by
  have none : history.filter (fun mark => mark.1 == admission) = [] := by
    rw [List.filter_eq_nil_iff]
    exact fun mark present same => others mark present (beq_iff_eq.mp same)
  rw [instantsOf, none]
  rfl

/-- Nothing has happened yet to a record that comes later than all that is told of. -/
theorem instantsOf_earlier (admission : Nat × TransactionId)
    (history : List ((Nat × TransactionId) × Instant))
    (past : ∀ mark ∈ history, mark.1.1 < admission.1) : instantsOf admission history = [] := by
  apply instantsOf_nil
  intro mark marked same
  exact Nat.lt_irrefl _ (same ▸ past mark marked)

structure Scheduled (options : Options) (system : System State Result)
    (arrived released : List ((Nat × TransactionId) × Instant)) : Prop where
  past : ∀ mark ∈ arrived ++ released, mark.1.1 < system.lock.admissions
  members : ∀ member ∈ system.lock.members, ∃ made,
    instantsOf member.admission arrived = [made] ∧
      member.deadline = options.term made (instantsOf member.admission released)

theorem new_scheduled (options : Options) :
    (new options : System State Result).Scheduled options [] [] := by
  constructor
  · intro mark present
    cases present
  · intro member present
    cases present

section

variable {options : Options} {system : System State Result} {done : List (Work State Result)}
  {arrived released : List ((Nat × TransactionId) × Instant)}

theorem releases_resident (system : System State Result) (event : Event State Result)
    (mark : (Nat × TransactionId) × Instant) (marked : mark ∈ system.releases event) :
    ∃ transaction role timestamp record, event = .assignRole transaction role timestamp ∧
      role.isExitReady = true ∧ system.lock.find? transaction = some record ∧
      mark = (record.admission, system.clock) := by
  cases event with
  | assignRole transaction role timestamp =>
      cases ready : role.isExitReady with
      | false => simp [releases, ready] at marked
      | true =>
          simp only [releases, ready, ↓reduceIte] at marked
          obtain ⟨record, found, same⟩ := List.mem_map.mp marked
          exact ⟨transaction, role, timestamp, record, rfl, ready, by simpa using found, same.symm⟩
  | _ => cases marked

theorem releases_nil (system : System State Result) (event : Event State Result)
    (member : TransactionRecord State)
    (unreleased : ∀ role timestamp, event = .assignRole member.transaction role timestamp →
      role.isExitReady = false) :
    instantsOf member.admission (system.releases event) = [] := by
  apply instantsOf_nil
  intro mark marked own
  obtain ⟨transaction, role, timestamp, record, rfl, ready, found, rfl⟩ :=
    system.releases_resident event mark marked
  have named : transaction = member.transaction :=
    (system.lock.find?_some _ record found).2.symm.trans (congrArg Prod.snd own)
  cases ready.symm.trans (unreleased role timestamp (named ▸ rfl))

/-- Whatever record an event makes bears the next number. -/
theorem arrivals_serial (system : System State Result) (event : Event State Result)
    (named : system.Named) (mark : (Nat × TransactionId) × Instant)
    (marked : mark ∈ system.arrivals event) :
    mark.1.1 = system.lock.admissions ∧
      (system.step event).lock.admissions = system.lock.admissions + 1 := by
  obtain ⟨admission, admitted, rfl⟩ := List.mem_map.mp marked
  rw [system.step_lock event named]
  cases action : system.action? event with
  | none => simp [admits, action] at admitted
  | some action' =>
      simp only [admits, action, Option.elim_some] at admitted
      rcases system.lock.admits_cases system.clock action' with
        ⟨nobody, _⟩ | ⟨transaction, somebody, next⟩
      · rw [nobody] at admitted
        cases admitted
      · rw [somebody, List.mem_singleton] at admitted
        subst admitted
        exact ⟨rfl, next⟩

theorem step_past_marks (isolated : system.Isolated options done)
    (scheduled : system.Scheduled options arrived released) (event : Event State Result) :
    ∀ mark ∈ (arrived ++ system.arrivals event) ++ (released ++ system.releases event),
      mark.1.1 < (system.step event).lock.admissions := by
  have grown : system.lock.admissions ≤ (system.step event).lock.admissions := by
    rw [system.step_lock event isolated.orderly.named]
    cases system.action? event with
    | none => exact Nat.le_refl _
    | some action => exact system.lock.perform_admissions_le system.clock action
  have old (mark : (Nat × TransactionId) × Instant) (before : mark ∈ arrived ++ released) :
      mark.1.1 < (system.step event).lock.admissions :=
    Nat.lt_of_lt_of_le (scheduled.past mark before) grown
  intro mark present
  simp only [List.mem_append] at present
  rcases present with (before | now) | before | now
  · exact old mark (List.mem_append_left _ before)
  · obtain ⟨serial, next⟩ := system.arrivals_serial event isolated.orderly.named mark now
    omega
  · exact old mark (List.mem_append_right _ before)
  · obtain ⟨_, _, _, record, _, _, found, rfl⟩ := system.releases_resident event mark now
    have resident := (system.lock.find?_some _ record found).1
    exact Nat.lt_of_lt_of_le (isolated.lock.numbered record resident) grown

/-- A record that was there before was not made just now. -/
theorem arrivals_old (isolated : system.Isolated options done) (event : Event State Result)
    (before : TransactionRecord State) (resident : before ∈ system.lock.members) :
    instantsOf before.admission (system.arrivals event) = [] := by
  apply instantsOf_nil
  intro mark marked same
  have numbered := isolated.lock.numbered before resident
  have serial := (system.arrivals_serial event isolated.orderly.named mark marked).1
  have own : mark.1.1 = before.serial := congrArg Prod.fst same
  omega

/-- Where the deadline of a resident record comes from after an event. -/
theorem step_deadlineOrigin (orderly : system.Orderly options) (event : Event State Result)
    (member : TransactionRecord State) (present : member ∈ (system.step event).lock.members) :
    (∃ before ∈ system.lock.members, before.admission = member.admission ∧
        before.deadline = member.deadline ∧
        ∀ role timestamp, event = .assignRole member.transaction role timestamp →
          role.isExitReady = false) ∨
      (∃ before role timestamp, event = .assignRole member.transaction role timestamp ∧
        role.isExitReady = true ∧ system.lock.find? member.transaction = some before ∧
        before.admission = member.admission ∧
        member.deadline = system.clock + options.lockTimeout) ∨
      (member.serial = system.lock.admissions ∧ system.admits event = [member.admission] ∧
        member.deadline = system.clock + options.lockAcquireTimeout) := by
  rw [system.step_lock event orderly.named] at present
  cases action : system.action? event with
  | none =>
      rw [action] at present
      refine .inl ⟨member, present, rfl, rfl, ?_⟩
      rintro role timestamp rfl
      cases action
  | some action' =>
      rw [action] at present
      cases system.lock.perform_deadlineOrigin orderly.kept.distinct system.clock action' member
          present with
      | kept before resident same deadline unreleased =>
          refine .inl ⟨before, resident, same, deadline, ?_⟩
          rintro role timestamp rfl
          exact unreleased role timestamp (Option.some.inj action).symm
      | released before role timestamp decided ready found same deadline =>
          subst decided
          refine .inr (.inl ⟨before, role, timestamp, ?_, ready, found, same, ?_⟩)
          · exact system.action?_assignRole event _ _ _ action
          · rw [← orderly.options]
            exact deadline
      | made serial admitted deadline =>
          refine .inr (.inr ⟨serial, by simpa [admits, action] using admitted, ?_⟩)
          rw [← orderly.options]
          exact deadline

theorem step_scheduled (isolated : system.Isolated options done)
    (scheduled : system.Scheduled options arrived released) (event : Event State Result) :
    (system.step event).Scheduled options (arrived ++ system.arrivals event)
      (released ++ system.releases event) := by
  refine ⟨step_past_marks isolated scheduled event, ?_⟩
  intro member present
  rw [instantsOf_append, instantsOf_append]
  rcases step_deadlineOrigin isolated.orderly event member present with
    ⟨before, resident, same, deadline, unreleased⟩ |
    ⟨before, role, timestamp, event_eq, ready, found, same, deadline⟩ |
    ⟨serial, admitted, deadline⟩
  · obtain ⟨made, arrival, term⟩ := scheduled.members before resident
    refine ⟨made, ?_, ?_⟩
    · rw [← same, arrival, arrivals_old isolated event before resident, List.append_nil]
    · rw [system.releases_nil event member unreleased, List.append_nil, ← deadline, ← same]
      exact term
  · have resident := (system.lock.find?_some _ before found).1
    obtain ⟨made, arrival, _⟩ := scheduled.members before resident
    have now : instantsOf member.admission (system.releases event) = [system.clock] := by
      simp [event_eq, releases, ready, found, same, instantsOf]
    refine ⟨made, ?_, ?_⟩
    · rw [← same, arrival, arrivals_old isolated event before resident, List.append_nil]
    · rw [now, options.term_released, deadline]
  · have unmade : instantsOf member.admission arrived = [] :=
      instantsOf_earlier _ _ fun mark marked =>
        Nat.lt_of_lt_of_eq (scheduled.past mark (List.mem_append_left _ marked)) serial.symm
    have unreleased : instantsOf member.admission (released ++ system.releases event) = [] := by
      apply instantsOf_earlier
      intro mark marked
      apply Nat.lt_of_lt_of_eq _ serial.symm
      rcases List.mem_append.mp marked with before | now
      · exact scheduled.past mark (List.mem_append_right _ before)
      · obtain ⟨_, _, _, record, _, _, found, rfl⟩ := system.releases_resident event mark now
        exact isolated.lock.numbered record (system.lock.find?_some _ record found).1
    refine ⟨system.clock, ?_, ?_⟩
    · rw [unmade]
      simp [arrivals, admitted, instantsOf]
    · rw [← instantsOf_append, unreleased]
      exact deadline

end

theorem run_scheduled (options : Options) (system : System State Result)
    (events : List (Event State Result)) (done : List (Work State Result))
    (arrived released : List ((Nat × TransactionId) × Instant))
    (isolated : system.Isolated options done)
    (scheduled : system.Scheduled options arrived released) :
    (system.run events).Scheduled options (arrived ++ gather arrivals system events)
      (released ++ gather releases system events) := by
  induction events generalizing system done arrived released with
  | nil => simpa [gather, run] using scheduled
  | cons event later ih =>
      have rest := ih (system.step event) _ _ _ (step_isolated options system event done isolated)
        (step_scheduled isolated scheduled event)
      rwa [List.append_assoc, List.append_assoc] at rest

/-- How the deadlines are kept after a run. -/
structure KeepsDeadlines (options : Options) (events : List (Event State Result)) : Prop where
  group : ∀ group, ((new options).run events).lock.group = some group →
    (group.deadline = none ↔ group.members = []) ∧
      ∀ deadline, group.deadline = some deadline ↔
        IsLeast {instant | ∃ member ∈ group.members, member.deadline = instant} deadline
  -- A record was made once, and what it was allowed since then tells its deadline.
  members : ∀ member ∈ ((new options).run events).lock.members, ∃ made,
    instantsOf member.admission (gather arrivals (new options) events) = [made] ∧
      member.deadline =
        options.term made (instantsOf member.admission (gather releases (new options) events))
  -- Unless it is allowed to leave, whatever happens next leaves the deadline of a resident record as it
  -- is.
  unmoved : ∀ event, ∀ before ∈ ((new options).run events).lock.members,
    ∀ after ∈ (((new options).run events).step event).lock.members,
      after.admission = before.admission →
      (∀ role timestamp, event = .assignRole before.transaction role timestamp →
        role.isExitReady = false) →
      after.deadline = before.deadline

/-- In every run the group's deadline is the earliest of its members', and a member's is the instant
at which it came plus the time it has to be decided about, or the latest instant at which it was
allowed to leave plus the time it has to do so. -/
theorem run_deadlines_earliest (options : Options) (events : List (Event State Result)) :
    KeepsDeadlines options events := by
  have isolated := run_isolated options (new options : System State Result) events []
    (new_isolated options)
  have watched : ((new options).run events).Watched options := run_watched options events
  have scheduled := run_scheduled options (new options : System State Result) events [] [] []
    (new_isolated options) (new_scheduled options)
  constructor
  · intro group present
    have timed := watched.timed group present
    exact ⟨group.isTimed_none timed, group.isTimed_isLeast timed⟩
  · exact scheduled.members
  · intro event before resident after present same unreleased
    have unique (other : TransactionRecord State)
        (there : other ∈ ((new options).run events).lock.members)
        (equal : other.admission = before.admission) : other = before :=
      List.inj_on_of_nodup_map isolated.orderly.kept.distinct there resident
        (congrArg Prod.snd equal)
    have named : after.transaction = before.transaction := congrArg Prod.snd same
    rcases step_deadlineOrigin isolated.orderly event after present with
      ⟨other, there, equal, deadline, _⟩ | ⟨_, role, timestamp, event_eq, ready, _⟩ |
      ⟨serial, _⟩
    · rw [← deadline, unique other there (equal.trans same)]
    · cases ready.symm.trans (unreleased role timestamp (named ▸ event_eq))
    · have numbered := isolated.lock.numbered before resident
      have number : after.serial = before.serial := congrArg Prod.fst same
      omega

end System

end WoundWait
