import WoundWait.Proofs.TaskLiveness

/-!
The lock becomes idle. Every deadline comes within the two timeouts of the clock, whatever is done
to the lock; once the workers have finished, nobody comes any more, so the last task finds the lock
idle no later than that.
-/

namespace WoundWait

variable {State Result : Type}

namespace Lock

def LapsesBy (lock : Lock State) (last : Instant) : Prop :=
  ∀ member ∈ lock.members, member.deadline ≤ last

section

variable (lock : Lock State) (clock last : Instant)

/-- Whoever comes in has a new deadline, and nobody else has. -/
theorem enter_deadline (distinct : lock.HasDistinctNames) (request : EntryRequest State Result)
    (entry : Entry State Result) (admits : lock.Admits clock request entry)
    (member : TransactionRecord State) (present : member ∈ entry.lock.members) :
    (∃ before ∈ lock.members, before.transaction = member.transaction ∧
        before.deadline = member.deadline) ∨
      member.deadline = clock + lock.options.lockAcquireTimeout := by
  rw [admits.members] at present
  obtain ⟨before, there, same⟩ := List.mem_map.mp present
  have kept : before.transaction = member.transaction ∧ before.deadline = member.deadline := by
    subst same
    by_cases own : before.transaction = request.transaction
    · rw [lock.present_entrant clock request distinct before there own]
      simp only [lock.entrant_transaction clock request, ↓reduceIte]
      exact ⟨(lock.entrant_transaction clock request).symm, rfl⟩
    · simp [own]
  rcases List.mem_append.mp there with stays | comes
  · exact .inl ⟨before, (lock.stayers_sublist request).subset stays, kept⟩
  · cases found : lock.find? request.transaction with
    | some resident => simp [newcomers, found] at comes
    | none =>
        rw [← kept.2, lock.mem_newcomers clock request before comes, entrant, found]
        exact .inr rfl

theorem enter_lapses (distinct : lock.HasDistinctNames) (request : EntryRequest State Result)
    (entry : Entry State Result) (admits : lock.Admits clock request entry)
    (acquires : clock + lock.options.lockAcquireTimeout ≤ last) (lapses : lock.LapsesBy last) :
    entry.lock.LapsesBy last := by
  intro member present
  rcases lock.enter_deadline clock distinct request entry admits member present with
    ⟨before, there, _, same⟩ | fresh
  · exact same ▸ lapses before there
  · exact fresh ▸ acquires

theorem assignRole_lapses (transaction : TransactionId) (role : CommitRole) (timestamp : Timestamp)
    (leaves : clock + lock.options.lockTimeout ≤ last) (lapses : lock.LapsesBy last) :
    (lock.assignRole clock transaction role timestamp).LapsesBy last := by
  intro member present
  rw [members_assignRole] at present
  obtain ⟨before, there, same⟩ := List.mem_map.mp present
  have kept := lapses before there
  subst same
  split
  · simp only [TransactionRecord.assignRole]
    split
    · exact leaves
    · exact kept
  · exact kept

/-- An action gives no more time than the longer of the two timeouts. -/
theorem perform_lapses (distinct : lock.HasDistinctNames) (action : LockAction State Result)
    (acquires : clock + lock.options.lockAcquireTimeout ≤ last)
    (leaves : clock + lock.options.lockTimeout ≤ last) (lapses : lock.LapsesBy last) :
    (lock.perform clock action).LapsesBy last := by
  have kept (other : ¬ lock.IsAdmission clock action)
      (undecided : ∀ transaction role timestamp, action ≠ .assignRole transaction role timestamp) :
      (lock.perform clock action).LapsesBy last := by
    have fewer := lock.perform_sublist (fun record => record.deadline) distinct clock action other
      (fun _ _ _ _ same => absurd same (undecided _ _ _)) fun _ _ _ _ => rfl
    intro member present
    obtain ⟨before, resident, same⟩ := List.mem_map.mp (fewer.subset (List.mem_map_of_mem present))
    exact Int.le_trans (Int.le_of_eq same.symm) (lapses before resident)
  cases action with
  | enter request =>
      cases outcome : lock.enter clock request with
      | error refusal =>
          simp only [perform, outcome]
          exact lapses
      | ok entry =>
          simp only [perform, outcome]
          exact lock.enter_lapses clock last distinct request entry
            (lock.enter_ok clock request entry outcome).2.2 acquires lapses
  | assignRole transaction role timestamp =>
      simp only [perform]
      split
      · exact lock.assignRole_lapses clock last transaction role timestamp leaves lapses
      · exact lapses
  | validate | rollback | abortAll | edit | tick =>
      apply kept
      · rintro ⟨request, entry, same, _⟩
        cases same
      · intro transaction role timestamp same
        cases same

end

theorem isIdle_iff (lock : Lock State) : lock.snapshot.isIdle = true ↔ lock.members = [] := by
  cases present : lock.group with
  | none =>
      rw [lock.members_none present]
      simp [snapshot, present, LockSnapshot.isIdle]
  | some group =>
      rw [lock.members_some group present]
      have order := (group.members.mergeSort_perm TransactionRecord.listsBefore).length_eq
      rw [← List.length_eq_zero_iff, ← order, List.length_eq_zero_iff]
      simp [snapshot, present, LockSnapshot.isIdle, LockGroup.transactions]

end Lock

namespace System

section

variable {system : System State Result}

/-- Whoever does not wait for the storage worker is not answered by it. -/
theorem storageTurn_waits (responsive : system.Responsive) :
    (∀ waiter ∈ (system.resumed .storage).storageTurn.storageWorker.waiters,
        waiter ∈ system.storageWorker.waiters) ∧
      ∀ call, call ∉ system.storageWorker.waiters →
        (system.resumed .storage).storageTurn.stage? call = system.stage? call := by
  have turns := storageTurn_turns (resumed_responsive responsive .storage)
  generalize (system.resumed .storage).storageTurn = after at turns
  cases turns with
  | idle unasked =>
      have same : (system.storageWorker.collect system.clock).waiters = system.storageWorker.waiters :=
        system.storageWorker.collect_waiters system.clock
      exact ⟨fun waiter kept => same ▸ kept, fun _ _ => rfl⟩
  | runs calls ready asked replies again short =>
      constructor
      · intro waiter kept
        cases kept
      · exact fun call aside => (replies.stage? call).trans (if_neg aside)

/-- A look leaves time to whoever is left. -/
theorem lockTurn_waits (responsive : system.Responsive) (timed : system.lock.IsTimed) :
    (system.resumed .lock).lockTurn.storageWorker.waiters = system.storageWorker.waiters ∧
      ((∀ call, (system.resumed .lock).lockTurn.stage? call = system.stage? call) ∨
        ∀ member ∈ (system.resumed .lock).lockTurn.lock.members,
          (system.resumed .lock).lockTurn.clock < member.deadline) := by
  have turns := lockTurn_turns (resumed_responsive responsive .lock)
  generalize (system.resumed .lock).lockTurn = after at turns
  cases turns with
  | idle unasked => exact ⟨rfl, .inl fun _ => rfl⟩
  | looks _ toLock toStorage asked once =>
      have early : ∀ member ∈ (system.lock.perform system.clock (.tick : LockAction State Result)).members,
          system.clock < member.deadline := system.lock.tick_early timed system.clock
      refine ⟨once.storageWaiters, .inr ?_⟩
      rw [once.lock, once.clock]
      exact early

end

end System

namespace WorkerPool

section

variable {pool after : WorkerPool} {counted counts : List TransactionId} {clock : Instant}

theorem PoolStep.options (poolStep : pool.PoolStep clock after counts) :
    after.lock.options = pool.lock.options := by
  cases poolStep with
  | rests => rfl
  | turns _ number view view' action turns =>
      rw [turns.lock]
      cases action with
      | none => rfl
      | some action => exact pool.lock.perform_options clock action
  | looks _ looks =>
      rw [looks.lock]
      exact pool.lock.perform_options clock _

theorem PoolStep.lapses (poolStep : pool.PoolStep clock after counts) (sound : pool.Sound counted)
    (last : Instant) (acquires : clock + pool.lock.options.lockAcquireTimeout ≤ last)
    (leaves : clock + pool.lock.options.lockTimeout ≤ last) (lapses : pool.lock.LapsesBy last) :
    after.lock.LapsesBy last := by
  have distinct := sound.kept.distinct
  cases poolStep with
  | rests => exact lapses
  | turns _ number view view' action turns =>
      rw [turns.lock]
      cases action with
      | none => exact lapses
      | some action => exact pool.lock.perform_lapses clock last distinct action acquires leaves lapses
  | looks _ looks =>
      rw [looks.lock]
      exact pool.lock.perform_lapses clock last distinct _ acquires leaves lapses

/-- Once all workers have finished, nobody comes any more. -/
theorem PoolStep.fewer (poolStep : pool.PoolStep clock after counts) (closed : pool.IsOver) :
    ∀ member ∈ after.lock.members, member ∈ pool.lock.members := by
  cases poolStep with
  | rests => exact fun _ present => present
  | turns _ number view view' action turns =>
      obtain ⟨_, _, nothing⟩ := moves_over turns.moves (closed view (List.mem_of_getElem? turns.there))
      rw [turns.lock, nothing]
      exact fun _ present => present
  | looks _ looks => exact looks.subset

end

end WorkerPool

namespace Simulation

variable {Source : Type}

inductive Prospects (simulation : Simulation Source) : MainActivity → Prop where
  | joining : Prospects simulation .joining
  | settling (deadline : Instant) (lapses : simulation.system.lock.LapsesBy deadline)
      (apart : simulation.mainCall ∉ simulation.system.storageWorker.waiters)
      (looked : ∀ answer, simulation.system.stage? simulation.mainCall =
        some (.flushing (some answer)) →
        ∀ member ∈ simulation.system.lock.members, simulation.system.clock < member.deadline) :
      Prospects simulation (.settling deadline)
  | pausing (deadline : Instant) (lapses : simulation.system.lock.LapsesBy deadline) :
      Prospects simulation (.pausing deadline)
  | flushing : Prospects simulation .flushing
  | reported (report : SimulationReport) : Prospects simulation (.finished (.ok report))

structure Settles (simulation : Simulation Source) : Prop where
  lapses : simulation.system.lock.LapsesBy (simulation.system.clock + simulation.settleLimit)
  prospects : simulation.Prospects simulation.main

section

variable {before after : Simulation Source} {counted : List TransactionId}

/-- The last task goes on waiting, while the lock can only lose members. -/
theorem Prospects.lasts {main : MainActivity} (prospects : before.Prospects main)
    (mainCall : after.mainCall = before.mainCall)
    (fewer : main ≠ .joining → ∀ member ∈ after.system.lock.members,
      member ∈ before.system.lock.members)
    (storage : ∀ waiter ∈ after.system.storageWorker.waiters,
      waiter ∈ before.system.storageWorker.waiters)
    (looked : ∀ deadline, main = .settling deadline →
      (after.system.stage? before.mainCall = before.system.stage? before.mainCall ∧
        after.system.clock = before.system.clock) ∨
      (∀ answer, after.system.stage? before.mainCall ≠ some (.flushing (some answer))) ∨
      ∀ member ∈ after.system.lock.members, after.system.clock < member.deadline) :
    after.Prospects main := by
  cases prospects with
  | joining => exact .joining
  | settling deadline lapses apart early =>
      have kept := fewer nofun
      refine .settling deadline (fun member present => lapses member (kept member present)) ?_ ?_
      · rw [mainCall]
        exact fun waits => apart (storage _ waits)
      · rw [mainCall]
        intro answer answered member present
        rcases looked deadline rfl with ⟨same, clock⟩ | unanswered | left
        · rw [clock]
          exact early answer (same ▸ answered) member (kept member present)
        · exact absurd answered (unanswered answer)
        · exact left member present
  | pausing deadline lapses =>
      exact .pausing deadline fun member present => lapses member (fewer nofun member present)
  | flushing => exact .flushing
  | reported report => exact .reported report

/-- Only the clock's own event moves it. -/
theorem Happens.clock {event : SimulationEvent} (happens : before.Happens event after)
    (responsive : before.system.Responsive) : before.system.clock ≤ after.system.clock ∧
      ((∀ target, event ≠ .pass target) → after.system.clock = before.system.clock) := by
  have still (same : after.system.clock = before.system.clock) :
      before.system.clock ≤ after.system.clock ∧
        ((∀ target, event ≠ .pass target) → after.system.clock = before.system.clock) :=
    ⟨Int.le_of_eq same.symm, fun _ => same⟩
  cases happens with
  | nothing => exact still rfl
  | lock ready =>
      exact still (System.lockTurn_complete _ (System.resumed_responsive responsive .lock)).1.clock
  | storage ready =>
      exact still (System.storageTurn_complete _ (System.resumed_responsive responsive .storage)).1.clock
  | rests => exact still rfl
  | moves number worker move _ ready there busy within carries ends =>
      obtain ⟨action, wait, errand⟩ := carries.errand
      exact still errand.clock
  | mainMoves number main request _ ready nobody moves carries ends =>
      exact still carries.errand.clock
  | passes target => exact ⟨Int.le_max_left _ _, fun other => absurd rfl (other target)⟩

theorem settled_closed (concludes : before.pool.Concludes before.main)
    (prospects : before.Prospects before.main) (joined : before.main ≠ .joining) :
    before.pool.IsOver := by
  generalize before.main = main at concludes prospects joined
  cases concludes with
  | joining => exact absurd rfl joined
  | settling _ closed | pausing _ closed | flushing closed | reported _ closed => exact closed
  | failed error => cases prospects

/-- A look that was asked for just now. -/
theorem MainCarries.asks {number : Nat} {main' : MainActivity} (deadline : Instant)
    (carries : ((before.without (.call number)).cleared before.mainCall).MainCarries after main'
      (some .recover))
    (lively : before.Lively) (responsive : before.system.Responsive)
    (ends : before.system.Ends before.mainCall)
    (lapses : before.system.lock.LapsesBy deadline) : after.Prospects (.settling deadline) := by
  have errand := carries.errand
  have lock : after.system.lock = before.system.lock := errand.lock
  have mainCall : after.mainCall = before.mainCall := congrArg List.length carries.workers
  have rests : ((before.without (.call number)).cleared before.mainCall).system.Responsive :=
    (without_responsive responsive (.call number)).recall _
  refine .settling deadline (lock ▸ lapses) ?_ ?_
  · rw [mainCall]
    intro waits
    have waiters : after.system.storageWorker.waiters = before.system.storageWorker.waiters ++ [] :=
      errand.storageWaiters rests
    rw [waiters, List.append_nil] at waits
    exact ends.free (lively.wakeful.storageWaiters _ waits)
  · rw [mainCall]
    intro answer answered
    have stage : after.system.stage? before.mainCall = some (.flushing none) := errand.stage?_own
    cases stage.symm.trans answered

/-- Once it was answered, the last task finds whoever is left with time. -/
theorem Prospects.early {deadline : Instant} (prospects : before.Prospects (.settling deadline))
    (lively : before.Lively) (same : before.main = .settling deadline)
    (ends : before.system.Ends before.mainCall)
    (busy : before.system.lock.snapshot.isIdle = false) : before.system.clock < deadline := by
  cases prospects with
  | settling _ kept apart looked =>
      have fits := lively.fits before.mainCall
      rw [post_main, mainPost, same] at fits
      obtain ⟨answer, answered⟩ : ∃ answer,
          before.system.stage? before.mainCall = some (.flushing (some answer)) := by
        generalize stage : before.system.stage? before.mainCall = place at fits
        cases fits with
        | run answer =>
            cases answer with
            | none => exact absurd (System.stage?_mem stage) ends.free
            | some answer => exact ⟨answer, rfl⟩
      have somebody : before.system.lock.members ≠ [] := by
        intro empty
        rw [← Lock.isIdle_iff] at empty
        cases empty.symm.trans busy
      obtain ⟨member, present⟩ := List.exists_mem_of_ne_nil _ somebody
      exact Int.lt_of_lt_of_le (looked answer answered member present) (kept member present)

theorem MainMoves.prospects {main main' : MainActivity} {request : Option LedgerRequest}
    {number : Nat} (moves : (before.without (.call number)).MainMoves main main' request)
    (carries : ((before.without (.call number)).cleared before.mainCall).MainCarries after main' request)
    (lively : before.Lively) (responsive : before.system.Responsive) (same : before.main = main)
    (ends : before.system.Ends before.mainCall)
    (lapses : before.system.lock.LapsesBy (before.system.clock + before.settleLimit))
    (prospects : before.Prospects main) : after.Prospects main' := by
  have lock : after.system.lock = before.system.lock := carries.errand.lock
  cases moves with
  | joins closed => exact carries.asks _ lively responsive ends lapses
  | idles => exact .flushing
  | reports => exact .reported _
  | pauses deadline early =>
      cases prospects with
      | settling _ kept => exact .pausing deadline (lock ▸ kept)
  | looks deadline =>
      cases prospects with
      | pausing _ kept => exact carries.asks deadline lively responsive ends kept
  | fails deadline busy late =>
      have early := prospects.early lively same ends busy
      exact absurd (Int.lt_of_lt_of_le early late) (Int.lt_irrefl _)

theorem Happens.lapses {event : SimulationEvent} (happens : before.Happens event after)
    (keeps : before.Keeps counted) {counts : List TransactionId}
    (poolStep : before.pool.PoolStep before.system.clock after.pool counts)
    (lapses : before.system.lock.LapsesBy (before.system.clock + before.settleLimit)) :
    after.system.lock.LapsesBy (after.system.clock + after.settleLimit) := by
  have options : after.system.lock.options = before.system.lock.options := poolStep.options
  have limit : after.settleLimit = before.settleLimit := by rw [settleLimit, settleLimit, options]
  have within (span : Nat) (less : span ≤ before.settleLimit) :
      before.system.clock + span ≤ after.system.clock + after.settleLimit := by
    rw [limit]
    exact Int.add_le_add (happens.clock keeps.orderly.responsive).1 (Int.ofNat_le.mpr less)
  apply poolStep.lapses keeps.sound
  · exact within _ (Nat.le_add_right _ _)
  · exact within _ (Nat.le_add_left _ _)
  · exact fun member present =>
      Int.le_trans (lapses member present) (within _ (Nat.le_refl _))

theorem Happens.settles {event : SimulationEvent} (happens : before.Happens event after)
    (keeps : before.Keeps counted) (lively : before.Lively) (allows : before.Allows event)
    {counts : List TransactionId}
    (poolStep : before.pool.PoolStep before.system.clock after.pool counts)
    (settles : before.Settles) : after.Settles := by
  have responsive := keeps.orderly.responsive
  have clock := happens.clock responsive
  refine ⟨happens.lapses keeps poolStep settles.lapses, ?_⟩
  have prospects := settles.prospects
  have fewer (joined : before.main ≠ .joining) : ∀ member ∈ after.system.lock.members,
      member ∈ before.system.lock.members :=
    poolStep.fewer (settled_closed keeps.concludes prospects joined)
  cases happens with
  | nothing => exact prospects
  | rests => exact prospects.lasts rfl fewer (fun _ kept => kept) fun _ _ => .inl ⟨rfl, rfl⟩
  | mainMoves number main request _ ready nobody moves carries ends =>
      rw [carries.main]
      exact moves.prospects carries lively responsive rfl ends settles.lapses prospects
  | moves number worker move _ ready there busy within carries ends =>
      have main : after.main = before.main := carries.main
      by_cases joining : before.main = .joining
      · rw [main, joining]
        exact .joining
      · have closed := settled_closed keeps.concludes prospects joining
        have viewed : worker.view ∈ before.pool.views :=
          List.mem_map_of_mem (List.mem_of_getElem? there)
        exact absurd (closed worker.view viewed) busy
  | passes target =>
      refine prospects.lasts rfl fewer (fun _ kept => kept) fun deadline _ => .inr (.inl ?_)
      intro answer answered
      cases lively.wakeful.willResume _ (System.stage?_mem answered) with
      | answered _ ready =>
          rw [allows.idle target rfl] at ready
          cases ready
  | storage ready =>
      obtain ⟨storage, aside⟩ := System.storageTurn_waits responsive
      refine prospects.lasts rfl fewer storage fun deadline settling => .inl ⟨?_, ?_⟩
      · rw [settling] at prospects
        cases prospects with
        | settling _ _ apart => exact aside _ apart
      · exact clock.2 (by simp)
  | lock ready =>
      obtain ⟨storage, looked⟩ := System.lockTurn_waits responsive lively.wakeful.timed
      refine prospects.lasts rfl fewer (fun waiter kept => storage ▸ kept) fun deadline _ => ?_
      rcases looked with same | left
      · exact .inl ⟨same _, clock.2 (by simp)⟩
      · exact .inr (.inr left)

/-! Rest -/

/-- When nobody is ready, the lock's worker has seen to everybody whose deadline has come, and its
timer stands for whoever is left. -/
theorem Lively.unhurried (lively : before.Lively) (responsive : before.system.Responsive)
    (idle : before.system.ready = []) :
    before.system.lock.members = [] ∨ (before.system.lock.Unfinished ∧
      ∃ due, before.system.timer? = some due ∧ before.system.clock < due ∧
        ∀ member ∈ before.system.lock.members, due ≤ member.deadline) := by
  have wakeful := lively.wakeful
  have nothingDue := wakeful.lock.awake.resolve_left (by simp [idle])
  have requests : before.system.lockWorker.requests = before.system.lockWorker.pending := by
    simp [Worker.requests, nothingDue.mailbox]
  have guarded := wakeful.guarded
  rw [requests] at guarded
  rcases guarded nothingDue.unasked with discarded | ⟨unfinished, timely⟩
  · exact .inl (before.system.lock.members_none discarded)
  · have somebody := before.system.lock.unfinished_members unfinished
    obtain ⟨deadline, next⟩ := before.system.lock.deadline?_exists wakeful.timed somebody
    obtain ⟨group, present, deadline_eq⟩ := Option.bind_eq_some_iff.mp next
    obtain ⟨armed, deferred, sooner⟩ := timely deadline next
    have timer : some armed ∈ before.system.timers.map fun timer => timer.2 := by
      simp [System.timers, System.lockTimer?, Worker.timer?, responsive.lock, deferred]
    obtain ⟨due, first, before_armed⟩ := earliest_comesBy _ _ timer armed rfl
    refine .inr ⟨unfinished, due, first, lively.timer?_early responsive idle due first, ?_⟩
    intro member there
    rw [before.system.lock.members_some group present] at there
    have leaves := group.isTimed_le (wakeful.timed group present) deadline deadline_eq member there
    exact Int.le_trans before_armed (Int.le_trans sooner leaves)

theorem Lively.idles (lively : before.Lively) (responsive : before.system.Responsive)
    (idle : before.system.ready = []) (last : Instant) (lapses : before.system.lock.LapsesBy last) :
    before.system.lock.snapshot.isIdle = true ∨
      ∃ due, before.system.timer? = some due ∧ before.system.clock < due ∧ due ≤ last := by
  rw [Lock.isIdle_iff]
  rcases lively.unhurried responsive idle with nobody | ⟨unfinished, due, first, later, leaves⟩
  · exact .inl nobody
  · obtain ⟨member, there⟩ :=
      List.exists_mem_of_ne_nil _ (before.system.lock.unfinished_members unfinished)
    exact .inr ⟨due, first, later, Int.le_trans (leaves member there) (lapses member there)⟩

end

end Simulation

end WoundWait
