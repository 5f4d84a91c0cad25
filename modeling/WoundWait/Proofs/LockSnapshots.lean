import Mathlib
import WoundWait.Proofs.RecordDisposition
import WoundWait.Proofs.ReaderSharing

/-!
What a snapshot tells of a lock. It lists the resident transactions once, oldest first, and of two
of one priority the smaller identity first. Its count is of the records that entered the group since
the group was made: whoever leaves stays counted, and only a look that discards the group starts the
count again.
-/

namespace WoundWait

variable {State Result : Type}

theorem TransactionId.toNat_inj {first second : TransactionId}
    (same : first.toNat = second.toNat) : first = second := by
  cases first
  cases second
  exact congrArg TransactionId.mk (BitVec.eq_of_toNat_eq same)

namespace TransactionRecord

def RanksBefore (first second : TransactionRecord State) : Prop :=
  first.priority < second.priority ∨
    first.priority = second.priority ∧ first.transaction.toNat < second.transaction.toNat

theorem listsBefore_iff (first second : TransactionRecord State) :
    first.listsBefore second = true ↔ first.priority.value < second.priority.value ∨
      first.priority.value = second.priority.value ∧
        first.transaction.toNat ≤ second.transaction.toNat := by
  have same : first.priority = second.priority ↔ first.priority.value = second.priority.value :=
    ⟨congrArg Priority.value, congrArg Priority.mk⟩
  simp only [listsBefore, Bool.or_eq_true, Bool.and_eq_true, decide_eq_true_eq, beq_iff_eq, same]
  rfl

theorem listsBefore_total (first second : TransactionRecord State) :
    (first.listsBefore second || second.listsBefore first) = true := by
  rw [Bool.or_eq_true, listsBefore_iff, listsBefore_iff]
  omega

theorem listsBefore_trans (first second third : TransactionRecord State)
    (sooner : first.listsBefore second = true) (later : second.listsBefore third = true) :
    first.listsBefore third = true := by
  rw [listsBefore_iff] at *
  omega

/-- Of two transactions one always ranks before the other. -/
theorem listsBefore_ranksBefore (first second : TransactionRecord State)
    (listed : first.listsBefore second = true) (apart : first.transaction ≠ second.transaction) :
    first.RanksBefore second := by
  have different : first.transaction.toNat ≠ second.transaction.toNat :=
    fun same => apart (TransactionId.toNat_inj same)
  rcases (first.listsBefore_iff second).mp listed with older | ⟨same, smaller⟩
  · exact .inl older
  · exact .inr ⟨congrArg Priority.mk same, Nat.lt_of_le_of_ne smaller different⟩

end TransactionRecord

namespace Lock

/-- The members in the order in which a snapshot lists them. -/
theorem snapshot_lists (lock : Lock State) (distinct : lock.HasDistinctNames) :
    ∃ listed : List (TransactionRecord State), listed.Perm lock.members ∧
      listed.Pairwise TransactionRecord.RanksBefore ∧
      lock.snapshot.members = listed.map fun member => member.transaction := by
  cases present : lock.group with
  | none =>
      refine ⟨[], ?_, .nil, ?_⟩
      · rw [lock.members_none present]
      · simp [snapshot, present]
  | some group =>
      have all := group.members.mergeSort_perm TransactionRecord.listsBefore
      have sorted := List.pairwise_mergeSort TransactionRecord.listsBefore_trans
        TransactionRecord.listsBefore_total group.members
      have apart : ((group.members.mergeSort TransactionRecord.listsBefore).map
          fun member => member.transaction).Nodup := by
        rw [HasDistinctNames, lock.members_some group present] at distinct
        exact (all.map _).nodup_iff.mpr distinct
      refine ⟨group.members.mergeSort TransactionRecord.listsBefore, ?_, ?_, ?_⟩
      · rw [lock.members_some group present]
        exact all
      · exact (sorted.and (List.pairwise_map.mp apart)).imp fun pair =>
          TransactionRecord.listsBefore_ranksBefore _ _ pair.1 pair.2
      · simp [snapshot, present, LockGroup.transactions]

/-! What is counted -/

theorem snapshot_fillCount (lock : Lock State) :
    lock.snapshot.fillCount = (lock.group.getD .empty).fillCount := by
  cases present : lock.group <;> simp [snapshot, present, LockGroup.empty]

/-- A newcomer is counted, whoever is wounded for it, and a resident is not. -/
theorem enter_fills (lock : Lock State) (clock : Instant) (request : EntryRequest State Result)
    (entry : Entry State Result) (admitted : lock.enter clock request = .ok entry) :
    entry.lock.group.isSome = true ∧
      entry.lock.snapshot.fillCount =
        lock.snapshot.fillCount + (lock.newcomers clock request).length := by
  have counted := lock.enter_filled clock request entry admitted
  rw [lock.strangers_single clock request] at counted
  rw [snapshot_fillCount, snapshot_fillCount]
  exact counted

def Discards (lock : Lock State) (action : LockAction State Result) : Prop :=
  action = .tick ∧ ∀ member ∈ lock.remaining, member.role.isExitReady = true

inductive Fills (lock : Lock State) (clock : Instant) (action : LockAction State Result)
    (after : Lock State) : Prop where
  | discarded (discards : lock.Discards action) (gone : after.group = none)
  | counted (kept : ¬ lock.Discards action)
      (present : lock.group.isSome = true → after.group.isSome = true)
      (count : after.snapshot.fillCount =
        lock.snapshot.fillCount + (lock.admits clock action).length)

theorem looks_fills (lock after : Lock State) (clock : Instant) (decision : TickDecision State)
    (looks : lock.Looks clock decision after) :
    lock.Fills clock (.tick : LockAction State Result) after := by
  have unready (member : TransactionRecord State) (stays : member ∈ lock.remaining)
      (holds : member.role.isExitReady = false) :
      ¬ lock.Discards (.tick : LockAction State Result) := by
    rintro ⟨_, ready⟩
    cases holds.symm.trans (ready member stays)
  cases looks with
  | empty nobody => exact .discarded ⟨rfl, by simp [nobody]⟩ rfl
  | exit _ ready => exact .discarded ⟨rfl, ready⟩ rfl
  | broken group present somebody =>
      obtain ⟨member, stays, holds⟩ := somebody
      refine .counted (unready member stays holds) (fun _ => rfl) ?_
      simp [snapshot, present, admits, LockGroup.emptied, LockGroup.purgeAborted]
  | waiting group _ present somebody | untimed group present somebody =>
      obtain ⟨member, stays, holds⟩ := somebody
      refine .counted (unready member stays holds) (fun _ => rfl) ?_
      simp [snapshot, present, admits, LockGroup.purgeAborted]

/-- The group that is there is changed, and its count is not. -/
theorem group_fills (lock : Lock State) (clock : Instant) (action : LockAction State Result)
    (change : LockGroup State → LockGroup State) (other : action ≠ .tick)
    (nobody : lock.admits clock action = [])
    (kept : ∀ group, (change group).fillCount = group.fillCount) :
    lock.Fills clock action { lock with group := lock.group.map change } := by
  refine .counted (fun discards => other discards.1) (fun present => ?_) ?_
  · simpa using present
  · cases present : lock.group <;> simp [snapshot, present, nobody, kept]

theorem perform_fills (lock : Lock State) (clock : Instant) (action : LockAction State Result) :
    lock.Fills clock action (lock.perform clock action) := by
  have untouched (other : action ≠ .tick) (nobody : lock.admits clock action = []) :
      lock.Fills clock action lock :=
    .counted (fun discards => other discards.1) id (by simp [nobody])
  cases action with
  | enter request =>
      cases outcome : lock.enter clock request with
      | error refusal =>
          simpa [perform, outcome] using untouched (by simp) (by simp [admits, outcome])
      | ok entry =>
          obtain ⟨there, count⟩ := lock.enter_fills clock request entry outcome
          simp only [perform, outcome]
          refine .counted (by simp [Discards]) (fun _ => there) ?_
          simp [admits, outcome, count]
  | validate transaction counter =>
      cases outcome : lock.validate transaction counter with
      | notResident => simpa [perform, outcome] using untouched (by simp) rfl
      | confirmed record => simpa [perform, outcome] using untouched (by simp) rfl
      | refuted record after =>
          obtain ⟨_, _, same⟩ := lock.validate_refuted after transaction counter record outcome
          simp only [perform, outcome, same]
          exact lock.group_fills clock _ _ (by simp) rfl fun group => group.fillCount_keepOnly _
  | rollback transaction notify =>
      cases found : lock.find? transaction with
      | none => simpa [perform, found] using untouched (by simp) rfl
      | some record =>
          simp only [perform, found]
          exact lock.group_fills clock _ _ (by simp) rfl fun group => group.fillCount_keepOnly _
  | abortAll => exact lock.group_fills clock _ _ (by simp) rfl fun _ => rfl
  | assignRole transaction role timestamp =>
      by_cases resident : (lock.find? transaction).isSome = true
      · simp only [perform, resident, ↓reduceIte]
        exact lock.group_fills clock _ _ (by simp) rfl fun _ => rfl
      · simpa [perform, resident] using untouched (by simp) rfl
  | edit transaction operation =>
      cases found : lock.find? transaction with
      | none => simpa [perform, withRecord, found] using untouched (by simp) rfl
      | some record =>
          simp only [perform, withRecord, found, Option.map_some]
          exact lock.group_fills clock _ _ (by simp) rfl fun _ => rfl
  | tick => exact lock.looks_fills _ clock _ (lock.tick_looks clock)

/-! Where records come from -/

inductive RankOrigin (lock : Lock State) (clock : Instant) (action : LockAction State Result)
    (member : TransactionRecord State) : Prop where
  | kept (before : TransactionRecord State) (resident : before ∈ lock.members)
      (same : before.admission = member.admission) (ranked : before.priority = member.priority)
  | made (request : EntryRequest State Result) (asked : action = .enter request)
      (admitted : lock.admits clock action = [member.admission])
      (ranked : member.priority = request.priority)

theorem enter_rankOrigin (lock : Lock State) (distinct : lock.HasDistinctNames) (clock : Instant)
    (request : EntryRequest State Result) (entry : Entry State Result)
    (admitted : lock.enter clock request = .ok entry) (member : TransactionRecord State)
    (present : member ∈ entry.lock.members) :
    lock.RankOrigin clock (.enter request) member := by
  have admits := (lock.enter_ok clock request entry admitted).2.2
  have views : entry.lock.members.map (fun record => (record.admission, record.priority)) =
      (lock.present clock request).map fun record => (record.admission, record.priority) :=
    lock.admits_view _ clock request entry distinct admits fun _ => rfl
  obtain ⟨before, there, same⟩ := List.mem_map.mp (views ▸ List.mem_map_of_mem present)
  obtain ⟨same, ranked⟩ := Prod.mk.inj same
  rcases List.mem_append.mp there with stays | comes
  · exact .kept before ((lock.stayers_sublist request).subset stays) same ranked
  · have fresh := lock.mem_newcomers clock request before comes
    cases found : lock.find? request.transaction with
    | some resident => simp [newcomers, found] at comes
    | none =>
        have made : lock.admits clock (.enter request) = [before.admission] := by
          simp [Lock.admits, admitted, newcomers, found, fresh]
        refine .made request rfl (same ▸ made) (ranked ▸ ?_)
        rw [fresh, entrant, found]
        rfl

/-- Only an admission gives a record its priority. -/
theorem perform_rankOrigin (lock : Lock State) (distinct : lock.HasDistinctNames)
    (clock : Instant) (action : LockAction State Result) (member : TransactionRecord State)
    (present : member ∈ (lock.perform clock action).members) : lock.RankOrigin clock action member := by
  by_cases admission : lock.IsAdmission clock action
  · obtain ⟨request, entry, rfl, admitted⟩ := admission
    simp only [perform, admitted] at present
    exact lock.enter_rankOrigin distinct clock request entry admitted member present
  · have fewer := lock.perform_sublist (fun record => (record.admission, record.priority)) distinct
      clock action admission (fun _ _ _ _ _ => rfl) fun _ _ _ _ => rfl
    obtain ⟨before, resident, same⟩ := List.mem_map.mp (fewer.subset (List.mem_map_of_mem present))
    exact .kept before resident (congrArg Prod.fst same) (congrArg Prod.snd same)

end Lock

namespace System

def ranks (system : System State Result) (event : Event State Result) :
    List ((Nat × TransactionId) × Priority) :=
  match system.action? event with
  | some (.enter request) =>
      (system.admits event).map fun admission => (admission, request.priority)
  | _ => []

def Discards (system : System State Result) (event : Event State Result) : Prop :=
  ∃ action, system.action? event = some action ∧ system.lock.Discards action

inductive Fills (system : System State Result) (event : Event State Result) : Prop where
  | discarded (discards : system.Discards event)
      (gone : (system.step event).lock.group = none)
  | counted (kept : ¬ system.Discards event)
      (present : system.lock.group.isSome = true →
        (system.step event).lock.group.isSome = true)
      (count : (system.step event).lock.snapshot.fillCount =
        system.lock.snapshot.fillCount + (system.admits event).length)

theorem step_fills (system : System State Result) (event : Event State Result)
    (named : system.Named) : system.Fills event := by
  have after := system.step_lock event named
  cases action : system.action? event with
  | none =>
      rw [action, lockAfter_none] at after
      refine .counted ?_ (after ▸ id) ?_
      · rintro ⟨done, same, _⟩
        cases action.symm.trans same
      · simp [after, admits, action]
  | some done =>
      have same : (system.step event).lock = system.lock.perform system.clock done := by
        rw [after, action]
        rfl
      have discards : system.Discards event ↔ system.lock.Discards done := by
        simp [Discards, action]
      cases system.lock.perform_fills system.clock done with
      | discarded ends gone => exact .discarded (discards.mpr ends) (same ▸ gone)
      | counted kept present count =>
          refine .counted (mt discards.mp kept) (same ▸ present) ?_
          rw [same, count]
          simp [admits, action]

section

variable {system : System State Result} {options : Options}

theorem Fills.grows {event : Event State Result} (fills : system.Fills event)
    (request : EntryRequest State Result) (entry : Entry State Result)
    (action : system.action? event = some (.enter request))
    (newcomer : system.lock.find? request.transaction = none)
    (admitted : system.lock.enter system.clock request = .ok entry) :
    (system.step event).lock.snapshot.fillCount = system.lock.snapshot.fillCount + 1 := by
  cases fills with
  | discarded discards =>
      obtain ⟨done, same, look, _⟩ := discards
      cases action.symm.trans (look ▸ same)
  | counted _ _ count =>
      rw [count]
      simp [admits, action, Lock.admits, admitted, Lock.newcomers, newcomer]

/-- Without an entry of a newcomer nothing is admitted. -/
theorem admits_nil (system : System State Result) (event : Event State Result)
    (nobody : ∀ request entry, system.action? event = some (.enter request) →
      system.lock.enter system.clock request = .ok entry →
        (system.lock.find? request.transaction).isSome = true) :
    system.admits event = [] := by
  cases action : system.action? event with
  | none => simp [admits, action]
  | some done =>
      cases done with
      | enter request =>
          cases outcome : system.lock.enter system.clock request with
          | error refusal => simp [admits, action, Lock.admits, outcome]
          | ok entry =>
              have resident := nobody request entry action outcome
              simp [admits, action, Lock.admits, outcome, Lock.newcomers, resident]
      | _ => simp [admits, action, Lock.admits]

theorem Fills.unmoved {event : Event State Result} (fills : system.Fills event)
    (stays : ¬ system.Discards event) (nobody : system.admits event = []) :
    (system.step event).lock.snapshot.fillCount = system.lock.snapshot.fillCount := by
  cases fills with
  | discarded discards => exact absurd discards stays
  | counted _ _ count => rw [count, nobody, List.length_nil, Nat.add_zero]

theorem Fills.restarts {event : Event State Result} (fills : system.Fills event)
    (fewer : (system.step event).lock.snapshot.fillCount < system.lock.snapshot.fillCount) :
    system.Discards event := by
  cases fills with
  | discarded discards => exact discards
  | counted _ _ count => omega

theorem Fills.ends {event : Event State Result} (fills : system.Fills event)
    (discards : system.Discards event) : (system.step event).lock.group = none := by
  cases fills with
  | discarded _ gone => exact gone
  | counted kept => exact absurd discards kept

/-! Nobody is listed who is not counted -/

theorem step_enough (orderly : system.Orderly options) (event : Event State Result)
    (enough : system.lock.members.length ≤ system.lock.snapshot.fillCount) :
    (system.step event).lock.members.length ≤ (system.step event).lock.snapshot.fillCount := by
  cases system.step_fills event orderly.named with
  | discarded _ gone => simp [Lock.members_none _ gone]
  | counted _ _ count =>
      rw [count, system.step_lock event orderly.named]
      cases action : system.action? event with
      | none => simpa [admits, action] using enough
      | some done =>
          have tally := (system.lock.perform_tally orderly.kept.distinct system.clock done).length_eq
          simp only [List.length_append, List.length_map] at tally
          simp only [lockAfter, admits, action, Option.elim_some]
          omega

theorem run_enough (options : Options) (events : List (Event State Result)) :
    let lock := ((new options : System State Result).run events).lock
    lock.members.length ≤ lock.snapshot.fillCount := by
  have both : ((new options : System State Result).run events).Orderly options ∧
      ((new options : System State Result).run events).lock.members.length ≤
        ((new options : System State Result).run events).lock.snapshot.fillCount := by
    apply run_invariant (fun system : System State Result => system.Orderly options ∧
      system.lock.members.length ≤ system.lock.snapshot.fillCount) (new options) events
    · intro system event _ holds
      exact ⟨step_orderly options system event holds.1, step_enough holds.1 event holds.2⟩
    · exact ⟨run_orderly options [], Nat.le_refl _⟩
  exact both.2

/-! What records were admitted with -/

theorem ranks_admits (system : System State Result) (event : Event State Result) :
    (system.ranks event).map Prod.fst = system.admits event := by
  cases action : system.action? event with
  | none => simp [ranks, admits, action]
  | some done => cases done <;> simp [ranks, admits, action, Lock.admits, Function.comp_def]

theorem gather_ranks (system : System State Result) (events : List (Event State Result)) :
    (gather ranks system events).map Prod.fst = gather admits system events := by
  induction events generalizing system with
  | nil => rfl
  | cons event later ih => rw [gather, gather, List.map_append, ih, ranks_admits]

theorem step_ranks (orderly : system.Orderly options) (event : Event State Result)
    (history : List ((Nat × TransactionId) × Priority))
    (told : ∀ member ∈ system.lock.members, (member.admission, member.priority) ∈ history) :
    ∀ member ∈ (system.step event).lock.members,
      (member.admission, member.priority) ∈ history ++ system.ranks event := by
  intro member present
  rw [system.step_lock event orderly.named] at present
  cases action : system.action? event with
  | none =>
      rw [action] at present
      exact List.mem_append_left _ (told member present)
  | some done =>
      rw [action] at present
      cases system.lock.perform_rankOrigin orderly.kept.distinct system.clock done member present with
      | kept before resident same ranked =>
          rw [← same, ← ranked]
          exact List.mem_append_left _ (told before resident)
      | made request asked admitted ranked =>
          subst asked
          apply List.mem_append_right
          simp [ranks, admits, action, admitted, ranked]

theorem run_ranks (options : Options) (system : System State Result)
    (events : List (Event State Result)) (history : List ((Nat × TransactionId) × Priority))
    (orderly : system.Orderly options)
    (told : ∀ member ∈ system.lock.members, (member.admission, member.priority) ∈ history) :
    ∀ member ∈ (system.run events).lock.members,
      (member.admission, member.priority) ∈ history ++ gather ranks system events := by
  induction events generalizing system history with
  | nil => simpa [gather, run] using told
  | cons event later ih =>
      have rest := ih (system.step event) (history ++ system.ranks event)
        (step_orderly options system event orderly) (step_ranks orderly event history told)
      rwa [List.append_assoc] at rest

/-- A record is admitted once, so it has been given one priority. -/
theorem run_ranked (options : Options) (events : List (Event State Result))
    (member : TransactionRecord State)
    (resident : member ∈ ((new options).run events).lock.members) (priority : Priority) :
    (member.admission, priority) ∈ gather ranks (new options) events ↔
      priority = member.priority := by
  have mine : (member.admission, member.priority) ∈ gather ranks (new options) events :=
    run_ranks options (new options) events [] (run_orderly options []) (by simp [new]) member resident
  have once : ((gather ranks (new options : System State Result) events).map Prod.fst).Nodup := by
    rw [gather_ranks]
    exact admitted_nodup options events
  constructor
  · intro told
    exact congrArg Prod.snd (List.inj_on_of_nodup_map once told mine rfl)
  · rintro rfl
    exact mine

end

/-! Since when there is a group -/

structure MadeSince (options : Options) (earlier later : List (Event State Result)) : Prop where
  absent : ((new options).run earlier).lock.group = none
  since : ∀ first, first <+: later → first ≠ [] →
    ((new options).run (earlier ++ first)).lock.group.isSome = true

theorem run_append (system : System State Result) (earlier later : List (Event State Result)) :
    system.run (earlier ++ later) = (system.run earlier).run later :=
  List.foldl_append

theorem madeSince_exists (options : Options) (events : List (Event State Result)) :
    ∃ earlier later, events = earlier ++ later ∧ MadeSince options earlier later := by
  induction events using List.reverseRecOn with
  | nil => exact ⟨[], [], rfl, rfl, fun first start some => absurd (List.prefix_nil.mp start) some⟩
  | append_singleton before event ih =>
      cases present : ((new options).run (before ++ [event])).lock.group with
      | none =>
          refine ⟨before ++ [event], [], (List.append_nil _).symm, present, ?_⟩
          exact fun first start some => absurd (List.prefix_nil.mp start) some
      | some group =>
          obtain ⟨earlier, later, rfl, made⟩ := ih
          refine ⟨earlier, later ++ [event], List.append_assoc _ _ _, made.absent, ?_⟩
          intro first start some
          rcases List.prefix_concat_iff.mp start with rfl | start
          · rw [← List.append_assoc, present]
            rfl
          · exact made.since first start some

/-- As long as the group is there, every admission is counted, and nothing else. -/
theorem run_fills (options : Options) (system : System State Result)
    (events : List (Event State Result)) (orderly : system.Orderly options)
    (there : ∀ first, first <+: events → first ≠ [] →
      (system.run first).lock.group.isSome = true) :
    (system.run events).lock.snapshot.fillCount =
      system.lock.snapshot.fillCount + (gather admits system events).length := by
  induction events generalizing system with
  | nil => rfl
  | cons event later ih =>
      have rest := ih (system.step event) (step_orderly options system event orderly) fun first start _ =>
        there (event :: first) ((List.prefix_cons_inj event).mpr start) (List.cons_ne_nil _ _)
      have next := there [event] ⟨later, rfl⟩ (List.cons_ne_nil _ _)
      cases system.step_fills event orderly.named with
      | discarded _ gone =>
          have absent : (system.run [event]).lock.group = none := gone
          simp [absent] at next
      | counted _ _ count =>
          rw [gather, List.length_append, ← Nat.add_assoc, ← count]
          exact rest

theorem MadeSince.counts {options : Options} {earlier later : List (Event State Result)}
    (made : MadeSince options earlier later) :
    ((new options).run (earlier ++ later)).lock.snapshot.fillCount =
      (gather admits ((new options).run earlier) later).length := by
  have count := run_fills options ((new options).run earlier) later (run_orderly options earlier)
    fun first start some => by
      rw [← run_append]
      exact made.since first start some
  rw [run_append, count, Lock.snapshot_fillCount, made.absent]
  exact Nat.zero_add _

/-- What a snapshot tells after a run, and how its count goes on. -/
structure SnapshotExact (options : Options) (events : List (Event State Result)) : Prop where
  listed : ∃ listed : List (TransactionRecord State),
    listed.Perm ((new options).run events).lock.members ∧
      listed.Pairwise TransactionRecord.RanksBefore ∧
      ((new options).run events).lock.snapshot.members = listed.map fun member => member.transaction
  ranked : ∀ member ∈ ((new options).run events).lock.members, ∀ priority,
    (member.admission, priority) ∈ gather ranks (new options) events ↔ priority = member.priority
  -- The count is of the records made since the present group was.
  made : ∃ earlier later, events = earlier ++ later ∧ MadeSince options earlier later
  counted : ∀ earlier later, events = earlier ++ later → MadeSince options earlier later →
    ((new options).run events).lock.snapshot.fillCount =
      (gather admits ((new options).run earlier) later).length
  enough : ((new options).run events).lock.snapshot.members.length ≤
    ((new options).run events).lock.snapshot.fillCount
  grows : ∀ event request entry,
    ((new options).run events).action? event = some (.enter request) →
    ((new options).run events).lock.find? request.transaction = none →
    ((new options).run events).lock.enter ((new options).run events).clock request = .ok entry →
      (((new options).run events).step event).lock.snapshot.fillCount =
        ((new options).run events).lock.snapshot.fillCount + 1
  unmoved : ∀ event, ¬ ((new options).run events).Discards event →
    (∀ request entry, ((new options).run events).action? event = some (.enter request) →
      ((new options).run events).lock.enter ((new options).run events).clock request = .ok entry →
        (((new options).run events).lock.find? request.transaction).isSome = true) →
      (((new options).run events).step event).lock.snapshot.fillCount =
        ((new options).run events).lock.snapshot.fillCount
  -- Only a look that leaves nobody behind makes the count smaller, and it discards the group.
  restarts : ∀ event, (((new options).run events).step event).lock.snapshot.fillCount <
      ((new options).run events).lock.snapshot.fillCount → ((new options).run events).Discards event
  discarded : ∀ event, ((new options).run events).Discards event →
    (((new options).run events).step event).lock.group = none

/-- In every run a snapshot lists the resident transactions once and in order, and counts the
records that were made since the group was. -/
theorem run_snapshot_exact (options : Options) (events : List (Event State Result)) :
    SnapshotExact options events := by
  have orderly : ((new options : System State Result).run events).Orderly options :=
    run_orderly options events
  have fills (event : Event State Result) : ((new options).run events).Fills event :=
    step_fills _ event orderly.named
  obtain ⟨listed, all, order, shown⟩ :=
    ((new options).run events).lock.snapshot_lists orderly.kept.distinct
  constructor
  · exact ⟨listed, all, order, shown⟩
  · exact run_ranked options events
  · exact madeSince_exists options events
  · rintro earlier later rfl made
    exact made.counts
  · rw [shown, List.length_map, all.length_eq]
    exact run_enough options events
  · exact fun event => (fills event).grows
  · exact fun event stays nobody => (fills event).unmoved stays (admits_nil _ event nobody)
  · exact fun event => (fills event).restarts
  · exact fun event => (fills event).ends

end System

end WoundWait
