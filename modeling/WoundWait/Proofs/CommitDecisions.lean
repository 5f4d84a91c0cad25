import Mathlib
import WoundWait.Proofs.RecordIsolation

/-!
What is decided about a resident transaction. The last decision that is noted for it counts, so a
record that is to be aborted is handed over for commit only if another decision has come before the
next look at the group; nothing else that happens to the lock revives it.
-/

namespace WoundWait

variable {State Result : Type}

namespace Lock

inductive RoleOrigin (lock : Lock State) (action : LockAction State Result)
    (member : TransactionRecord State) : Prop where
  | kept (before : TransactionRecord State) (resident : before ∈ lock.members)
      (same : before.admission = member.admission) (role : before.role = member.role)
  | assigned (before : TransactionRecord State) (timestamp : Timestamp)
      (decided : action = .assignRole member.transaction member.role timestamp)
      (found : lock.find? member.transaction = some before)
      (same : before.admission = member.admission)
  | made (serial : member.serial = lock.admissions) (undecided : member.role = .notYetDetermined)

theorem enter_roleOrigin (lock : Lock State) (distinct : lock.HasDistinctNames) (clock : Instant)
    (request : EntryRequest State Result) (entry : Entry State Result)
    (admits : lock.Admits clock request entry) (member : TransactionRecord State)
    (present : member ∈ entry.lock.members) : lock.RoleOrigin (.enter request) member := by
  rw [admits.members] at present
  obtain ⟨before, there, same⟩ := List.mem_map.mp present
  have unchanged : before.admission = member.admission ∧ before.role = member.role := by
    subst same
    by_cases own : before.transaction = request.transaction
    · rw [lock.present_entrant clock request distinct before there own]
      simp only [lock.entrant_transaction clock request, ↓reduceIte]
      exact ⟨rfl, rfl⟩
    · simp [own]
  rcases List.mem_append.mp there with stays | comes
  · exact .kept before ((lock.stayers_sublist request).subset stays) unchanged.1 unchanged.2
  · cases found : lock.find? request.transaction with
    | some resident => simp [newcomers, found] at comes
    | none =>
        have fresh := lock.mem_newcomers clock request before comes
        rw [entrant, found, Option.getD_none] at fresh
        apply RoleOrigin.made
        · exact (congrArg Prod.fst unchanged.1).symm.trans (by rw [fresh]; rfl)
        · exact unchanged.2.symm.trans (by rw [fresh]; rfl)

theorem assignRole_roleOrigin (lock : Lock State) (clock : Instant) (transaction : TransactionId)
    (role : CommitRole) (timestamp : Timestamp) (distinct : lock.HasDistinctNames)
    (member : TransactionRecord State)
    (present : member ∈ (lock.perform clock
      (.assignRole transaction role timestamp : LockAction State Result)).members) :
    lock.RoleOrigin (.assignRole transaction role timestamp : LockAction State Result) member := by
  by_cases resident : (lock.find? transaction).isSome = true
  · simp only [perform, resident, ↓reduceIte, members_assignRole] at present
    obtain ⟨before, there, same⟩ := List.mem_map.mp present
    by_cases own : before.transaction = transaction
    · simp only [own, ↓reduceIte] at same
      subst own same
      exact .assigned before timestamp rfl (lock.find?_of_mem distinct before there) rfl
    · simp only [own, ↓reduceIte] at same
      subst same
      exact .kept before there rfl rfl
  · simp only [perform, resident, Bool.false_eq_true, ↓reduceIte] at present
    exact .kept member present rfl rfl

/-- Nothing but a decision changes the role of a member. -/
theorem perform_roleOrigin (lock : Lock State) (distinct : lock.HasDistinctNames) (clock : Instant)
    (action : LockAction State Result) (member : TransactionRecord State)
    (present : member ∈ (lock.perform clock action).members) : lock.RoleOrigin action member := by
  have kept (other : ¬ lock.IsAdmission clock action)
      (undecided : ∀ transaction role timestamp, action ≠ .assignRole transaction role timestamp) :
      lock.RoleOrigin action member := by
    have fewer := lock.perform_sublist (fun record => (record.admission, record.role)) distinct clock
      action other (fun _ _ _ _ same => absurd same (undecided _ _ _)) fun _ _ _ _ => rfl
    obtain ⟨before, resident, same⟩ := List.mem_map.mp (fewer.subset (List.mem_map_of_mem present))
    exact .kept before resident (congrArg Prod.fst same) (congrArg Prod.snd same)
  cases action with
  | enter request =>
      cases outcome : lock.enter clock request with
      | error refusal =>
          apply kept
          · rintro ⟨other, entry, same, admitted⟩
            cases same
            cases outcome.symm.trans admitted
          · intro transaction role timestamp same
            cases same
      | ok entry =>
          simp only [perform, outcome] at present
          exact lock.enter_roleOrigin distinct clock request entry
            (lock.enter_ok clock request entry outcome).2.2 member present
  | assignRole transaction role timestamp =>
      exact lock.assignRole_roleOrigin clock transaction role timestamp distinct member present
  | validate | rollback | abortAll | edit | tick =>
      apply kept
      · rintro ⟨request, entry, same, _⟩
        cases same
      · intro transaction role timestamp same
        cases same

end Lock

namespace System

/-- Decisions come from outside; no call and no look at the group makes one. -/
theorem action?_assignRole (system : System State Result) (event : Event State Result)
    (transaction : TransactionId) (role : CommitRole) (timestamp : Timestamp)
    (action : system.action? event = some (.assignRole transaction role timestamp)) :
    event = .assignRole transaction role timestamp := by
  cases event with
  | call call request =>
      by_cases free : system.isFree call = true
      · simp only [action?, free, ↓reduceIte] at action
        cases request with
        | enter request =>
            by_cases gate : system.queue.gateOpen = true <;> simp [requestAction?, gate] at action
        | _ => simp [requestAction?] at action
      · simp [action?, free] at action
  | turn task =>
      by_cases ready : task ∈ system.ready
      · simp only [action?, ready, ↓reduceIte] at action
        cases task with
        | storage => cases action
        | lock =>
            simp only [turnAction?, lookAction?] at action
            split at action <;> cases action
        | call call =>
            obtain ⟨pending, _, same⟩ := Option.bind_eq_some_iff.mp action
            cases stage : pending.stage with
            | atGate request =>
                by_cases gate : system.queue.gateOpen = true <;> simp [stage, stageAction?, gate] at same
            | _ => simp [stage, stageAction?] at same
      · simp [action?, ready] at action
  | assignRole =>
      cases action
      rfl
  | _ => cases action

def Overruled (system : System State Result) (events : List (Event State Result))
    (record : TransactionRecord State) : Prop :=
  ∃ before role timestamp after resident,
    events = before ++ .assignRole record.transaction role timestamp :: after ∧
      role.isExitReady = true ∧
      (system.run before).lock.find? record.transaction = some resident ∧
      resident.admission = record.admission

theorem Overruled.later {system : System State Result} {event : Event State Result}
    {events : List (Event State Result)} {record : TransactionRecord State}
    (overruled : (system.step event).Overruled events record) :
    system.Overruled (event :: events) record := by
  rcases overruled with ⟨before, role, timestamp, after, resident, rfl, decided⟩
  exact ⟨event :: before, role, timestamp, after, resident, rfl, decided⟩

structure Undecided (system : System State Result) (admission : Nat × TransactionId) : Prop where
  past : admission.1 < system.lock.admissions
  unready : ∀ member ∈ system.lock.members, member.admission = admission →
    member.role.isExitReady = false

theorem step_undecided (system : System State Result) (event : Event State Result)
    (named : system.Named) (kept : system.lock.WellKept) (record : TransactionRecord State)
    (undecided : system.Undecided record.admission) :
    (system.step event).Undecided record.admission ∨
      ∀ events, system.Overruled (event :: events) record := by
  have past := undecided.past
  have grown : system.lock.admissions ≤ (system.step event).lock.admissions := by
    rw [system.step_lock event named]
    cases system.action? event with
    | none => exact Nat.le_refl _
    | some action => exact system.lock.perform_admissions_le system.clock action
  by_cases overruled : ∃ role timestamp resident,
      event = .assignRole record.transaction role timestamp ∧ role.isExitReady = true ∧
        system.lock.find? record.transaction = some resident ∧
        resident.admission = record.admission
  · right
    intro events
    rcases overruled with ⟨role, timestamp, resident, rfl, decided⟩
    exact ⟨[], role, timestamp, events, resident, rfl, decided⟩
  · refine .inl ⟨Nat.lt_of_lt_of_le past grown, ?_⟩
    intro member present same
    rw [system.step_lock event named] at present
    cases action : system.action? event with
    | none =>
        rw [action] at present
        exact undecided.unready member present same
    | some action' =>
        rw [action] at present
        cases system.lock.perform_roleOrigin kept.distinct system.clock action' member present with
        | kept before resident equal role =>
            exact role ▸ undecided.unready before resident (equal.trans same)
        | made serial fresh => simp [fresh, CommitRole.isExitReady]
        | assigned before timestamp decided found equal =>
            subst decided
            have acts := system.action?_assignRole event _ _ _ action
            have mine : member.transaction = record.transaction := congrArg Prod.snd same
            rw [mine] at acts found
            cases ready : member.role.isExitReady with
            | false => rfl
            | true =>
                exact absurd ⟨member.role, timestamp, before, acts, ready, found, equal.trans same⟩
                  overruled

/-- Who may not leave for commit does not come to do so but by another decision. -/
theorem run_undecided (options : Options) (system : System State Result)
    (events : List (Event State Result)) (orderly : system.Orderly options)
    (record : TransactionRecord State) (undecided : system.Undecided record.admission) :
    (system.run events).Undecided record.admission ∨ system.Overruled events record := by
  induction events generalizing system with
  | nil => exact .inl undecided
  | cons event rest ih =>
      rcases system.step_undecided event orderly.named orderly.kept record undecided with still | done
      · rcases ih (system.step event) (step_orderly options system event orderly) still with
          later | overruled
        · exact .inl later
        · exact .inr overruled.later
      · exact .inr (done rest)

theorem Overruled.extend {system : System State Result} {before : List (Event State Result)}
    {record : TransactionRecord State} (overruled : system.Overruled before record)
    (after : List (Event State Result)) : system.Overruled (before ++ after) record := by
  rcases overruled with ⟨first, role, timestamp, second, resident, rfl, decided⟩
  exact ⟨first, role, timestamp, second ++ after, resident, by simp, decided⟩

/-- A look hands over for commit whom the decisions allow to leave, and nobody else does so. -/
theorem commits_overruled (options : Options) (system : System State Result)
    (events : List (Event State Result)) (orderly : system.Orderly options)
    (through : ∀ event ∈ events, ¬ IsDirect event) (record handed : TransactionRecord State)
    (undecided : system.Undecided record.admission) (same : handed.admission = record.admission)
    (left : (.commit, handed) ∈ gather parcels system events) : system.Overruled events record := by
  obtain ⟨before, event, after, rfl, member⟩ := (mem_gather _ _ _ _).mp left
  rcases run_undecided options system before orderly record undecided with still | overruled
  · rw [parcels_lock _ event (through event (by simp))] at member
    cases action : (system.run before).action? event with
    | none =>
        rw [action] at member
        cases member
    | some action' =>
        rw [action] at member
        cases Lock.handsOver_leaves _ (orderly.run before).kept.timed _ action' _ member with
        | committed _ stays ready =>
            have unready := still.unready handed (List.mem_of_mem_filter stays) same
            cases (ready handed stays).symm.trans unready
  · exact overruled.extend _

/-- Whoever is resident has not been on the way to the queue before. -/
theorem resident_unmoved (options : Options) (events : List (Event State Result))
    (through : ∀ event ∈ events, ¬ IsDirect event) (record : TransactionRecord State)
    (resident : record ∈ ((new options).run events).lock.members) :
    ∀ parcel ∈ gather parcels (new options) events, parcel.2.admission ≠ record.admission := by
  intro parcel left same
  have orderly : (new options : System State Result).Orderly options := run_orderly options []
  have tally := run_tally options (new options) events orderly through (· == record.admission)
  have custody := run_custody (new options) events orderly.named fun other =>
    other.2.admission == record.admission
  have nothing : (new options : System State Result).lock.members.countP (fun other =>
      other.admission == record.admission) + (new options : System State Result).handed.countP
      (fun other => other.2.admission == record.admission) +
      (new options : System State Result).held.countP
      (fun other => other.2.admission == record.admission) = 0 := rfl
  have single : (gather admits (new options) events).countP (· == record.admission) ≤ 1 :=
    List.nodup_iff_count_le_one.mp (admitted_nodup options events) record.admission
  have there : 0 < ((new options).run events).lock.members.countP fun other =>
      other.admission == record.admission := List.countP_pos_iff.mpr ⟨record, resident, by simp⟩
  have gone : 0 < (gather parcels (new options) events).countP fun other =>
      other.2.admission == record.admission :=
    List.countP_pos_iff.mpr ⟨parcel, left, by simp [same]⟩
  omega

theorem aborted_undecided (options : Options) (before : List (Event State Result))
    (timestamp : Timestamp) (record : TransactionRecord State)
    (found : ((new options).run before).lock.find? record.transaction = some record) :
    (((new options).run before).step
      (.assignRole record.transaction .aborted timestamp)).Undecided record.admission := by
  generalize reached : (new options : System State Result).run before = system at found
  have isolated : system.Isolated options (gather works (new options) before) :=
    reached ▸ run_isolated options (new options) before [] (new_isolated options)
  have resident := (system.lock.find?_some _ record found).1
  have lock : (system.step (.assignRole record.transaction .aborted timestamp)).lock =
      system.lock.assignRole system.clock record.transaction .aborted timestamp := by
    rw [system.step_lock _ isolated.orderly.named]
    simp [action?, lockAfter, Lock.perform, found]
  constructor
  · rw [lock]
    exact isolated.lock.numbered record resident
  · intro member present same
    rw [lock, Lock.members_assignRole] at present
    obtain ⟨earlier, _, rfl⟩ := List.mem_map.mp present
    have mine : earlier.transaction = record.transaction := by
      by_cases own : earlier.transaction = record.transaction
      · exact own
      · rw [if_neg own] at same
        exact congrArg Prod.snd same
    simp [mine, TransactionRecord.assignRole, CommitRole.isExitReady]

/-! Runs -/

/-- Whatever happens after it was decided to abort a resident transaction, its record is never
handed over for commit. -/
def AbortsAreFinal (options : Options) (events : List (Event State Result)) : Prop :=
  ∀ before transaction timestamp after record,
    events = before ++ .assignRole transaction .aborted timestamp :: after →
    ((new options).run before).lock.find? transaction = some record →
    ∀ handed, (.commit, handed) ∈ ((new options).run events).handed ∨
        (.commit, handed) ∈ withheld options events →
      handed.admission ≠ record.admission

/-- After it was decided to abort a resident transaction, its record is handed over for commit only
if another decision allows it to leave before it has gone. -/
def AbortsStand (options : Options) (events : List (Event State Result)) : Prop :=
  ∀ before transaction timestamp after record,
    events = before ++ .assignRole transaction .aborted timestamp :: after →
    ((new options).run before).lock.find? transaction = some record →
    ∀ handed, (.commit, handed) ∈ ((new options).run events).handed ∨
        (.commit, handed) ∈ withheld options events →
      handed.admission = record.admission →
        (((new options).run before).step (.assignRole transaction .aborted timestamp)).Overruled
          after record

/-- In every run in which the queue is only used by the lock, a decision to abort stands until
another one is noted for the same record. -/
theorem run_aborts_stand (options : Options) (events : List (Event State Result))
    (through : ∀ event ∈ events, ¬ IsDirect event) : AbortsStand options events := by
  intro before transaction timestamp after record split found handed moved same
  have left := moved_parcels options events (.commit, handed) moved
  subst split
  obtain ⟨resident, rfl⟩ := ((new options).run before).lock.find?_some transaction record found
  rw [gather_append, List.mem_append] at left
  have earlier : ∀ event ∈ before, ¬ IsDirect event := fun event member =>
    through event (List.mem_append_left _ member)
  rcases left with early | late
  · exact absurd same (resident_unmoved options before earlier record resident _ early)
  · have undecided := aborted_undecided options before timestamp record found
    have orderly := step_orderly options _ (.assignRole record.transaction .aborted timestamp)
      (run_orderly options before)
    rw [gather, List.mem_append] at late
    rcases late with now | later
    · -- The decision itself hands nothing over.
      cases now
    · exact commits_overruled options _ after orderly
        (fun event member => through event (by simp [member])) record handed undecided same later

def recanted : List (Event Nat Unit) :=
  [.call 0 (.enter (.visit (.ofNat 1) ⟨1⟩ .zero .write)),
    .assignRole (.ofNat 1) .aborted (-7),
    .assignRole (.ofNat 1) .localCommit (-3),
    .turn .lock]

theorem recanted_aborts_stand :
    (∀ event ∈ recanted, ¬ IsDirect event) ∧
      ((new ⟨8000, 10000, 20000, 1⟩).run recanted).handed.map
        (fun parcel => (parcel.1, parcel.2.admission)) = [(.commit, 0, .ofNat 1)] ∧
      AbortsStand ⟨8000, 10000, 20000, 1⟩ recanted := by
  have through : ∀ event ∈ recanted, ¬ IsDirect event := by simp [recanted, IsDirect]
  refine ⟨through, ?_, run_aborts_stand ⟨8000, 10000, 20000, 1⟩ recanted through⟩
  cbv

/-- The later decision counts, and the record is handed over for commit. -/
theorem recanted_committed : ¬ AbortsAreFinal ⟨8000, 10000, 20000, 1⟩ recanted := by
  intro final
  have entered : ∃ record : TransactionRecord Nat,
      ((new ⟨8000, 10000, 20000, 1⟩ : System Nat Unit).run (recanted.take 1)).lock.find? (.ofNat 1) =
        some record ∧ record.admission = (0, .ofNat 1) := ⟨_, by cbv, rfl⟩
  have told : ((new ⟨8000, 10000, 20000, 1⟩).run recanted).handed.map
      (fun parcel => (parcel.1, parcel.2.admission)) = [(.commit, 0, .ofNat 1)] := by cbv
  obtain ⟨⟨outcome, handed⟩, member, same⟩ := List.mem_map.mp (told ▸ List.mem_singleton_self _)
  obtain ⟨rfl, left⟩ := Prod.mk.inj same
  obtain ⟨record, found, admitted⟩ := entered
  exact final (recanted.take 1) (.ofNat 1) (-7) (recanted.drop 2) record rfl found handed (.inl member)
    (left.trans admitted.symm)

end System

end WoundWait
