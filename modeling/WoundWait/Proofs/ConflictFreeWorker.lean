import WoundWait.Proofs.AbandonedRecords
import WoundWait.Proofs.RetryPauses

/-!
A lone worker that abandons nothing. It has the lock to itself and its record leaves with the first
look that it waits for, so it never pauses; the simulation goes on in the same way whatever the
pause.
-/

namespace WoundWait

namespace WorkerPool

variable {pool after : WorkerPool} {counted counts : List TransactionId} {clock : Instant}
  {view view' : WorkerView}

/-- An undisturbed worker pauses only while it waits for its record to leave. -/
theorem PoolStep.sleeps (poolStep : pool.PoolStep clock after counts) (solo : pool.Solo counted view)
    (views' : after.views = [view']) (undisturbed : pool.Undisturbed clock view)
    (awake : ¬ view.activity.Sleeps) (sleeps : view'.activity.Sleeps) :
    view' ≠ view ∧ ∃ transaction, view.activity.awaits? = some transaction ∧
      ¬ pool.lock.Absent transaction := by
  have moved : view' ≠ view := fun same => awake (same ▸ sleeps)
  refine ⟨moved, ?_⟩
  have keeps := (poolStep.staysUndisturbed solo views' undisturbed).keeps
  rcases poolStep.alone solo.views views' with ⟨_, same⟩ | ⟨_, same⟩ | ⟨action, turns⟩
  · exact absurd same moved
  · exact absurd same moved
  rcases keeps with ⟨_, seeks⟩ | ⟨_, still⟩
  · rw [seeks] at sleeps
    exact False.elim sleeps
  have unhindered := still.unhindered
  have moves := turns.moves
  generalize after.tally = tally at moves
  generalize after.begun = begun at moves
  cases moves with
  | stays => exact absurd rfl moved
  | polls attempt deadline inbox resident =>
      refine ⟨attempt.transaction, rfl, fun absent => ?_⟩
      rw [(pool.lock.find?_none _).mpr absent] at resident
      cases resident
  | restarts | breaks =>
      cases unhindered with
      | leaving _ _ awaits => cases awaits
  | _ => exact False.elim sleeps

end WorkerPool

namespace Simulation

variable {Source : Type}

def Asks (simulation : Simulation Source) : Prop :=
  ∀ (number : Nat) (worker : SimulationWorker Source), simulation.workers[number]? = some worker →
    ∀ transaction, worker.activity.awaits? = some transaction →
      ¬ simulation.system.lock.Absent transaction →
        simulation.system.stage? number = some (.flushing none)

structure ConflictFree (simulation : Simulation Source) : Prop where
  lone : simulation.Lone
  undisturbed : ∀ worker ∈ simulation.workers,
    simulation.pool.Undisturbed simulation.system.clock worker.view
  awake : ∀ number, simulation.IsAwake number
  asks : simulation.Asks

structure StaysConflictFree (before after : Simulation Source) : Prop where
  restarts : after.tally.restarts = before.tally.restarts
  awake : ∀ number, after.IsAwake number
  keeps : after.tally.abandoned = before.tally.abandoned + 1 ∨
    (after.tally.abandoned = before.tally.abandoned ∧ after.ConflictFree)

section

variable {before after : Simulation Source} {counted : List TransactionId}

theorem Happens.ends {event : SimulationEvent} (happens : before.Happens event after) (place : Nat)
    (worker worker' : SimulationWorker Source) (there : before.workers[place]? = some worker)
    (there' : after.workers[place]? = some worker') (moved : worker' ≠ worker) :
    before.system.Ends place := by
  have rests (same : after.workers[place]? = before.workers[place]?) : before.system.Ends place :=
    absurd (Option.some.inj (there'.symm.trans (same.trans there))) moved
  cases happens with
  | nothing | lock | storage | rests | passes => exact rests rfl
  | mainMoves number main request _ ready nobody moves carries ends =>
      have workers : after.workers = before.workers := carries.workers
      exact rests (congrArg (·[place]?) workers)
  | moves number mover move _ ready moving busy within carries ends =>
      by_cases own : place = number
      · exact own ▸ ends
      · obtain ⟨_, _, workers, _⟩ := carries.worker
        have workers : after.workers = before.workers.set number _ := workers
        exact rests (by rw [workers, List.getElem?_set_ne (Ne.symm own)])

theorem Asks.lasts (asks : before.Asks) (workers : after.workers = before.workers)
    (fewer : ∀ member ∈ after.system.lock.members, member ∈ before.system.lock.members)
    (stage : ∀ number < before.workers.length,
      after.system.stage? number = before.system.stage? number) : after.Asks := by
  intro number worker there transaction awaits resident
  rw [workers] at there
  rw [stage number (List.getElem?_eq_some_iff.mp there).1]
  exact asks number worker there transaction awaits fun absent =>
    resident fun member present => absent member (fewer member present)

/-- A look that leaves a record in the lock leaves no record that is about to leave. -/
theorem asks_looked (sound : before.pool.Sound counted) (system : LedgerSystem)
    (lock : system.lock = before.system.lockAfter (some (.tick : LedgerAction)))
    (undisturbed : ∀ worker ∈ before.workers,
      before.pool.Undisturbed before.system.clock worker.view) :
    { before with system }.Asks := by
  intro number worker there transaction awaits resident
  have still := undisturbed worker (List.mem_of_getElem? there)
  rcases before.system.lock.tick_unhurried Int64 before.system.clock sound.kept.timed
      sound.unaborted
    still.early with ⟨⟨member, present, unready⟩, _⟩ | ⟨nobody, _⟩
  · have unhindered := still.unhindered
    generalize viewed : worker.view = view at unhindered
    cases unhindered with
    | leaving _ _ _ ready =>
        rw [ready member present] at unready
        cases unready
    | _ =>
        rw [show worker.activity = _ from congrArg WorkerView.activity viewed] at awaits
        cases awaits
  · refine absurd (fun member present => ?_) resident
    change member ∈ system.lock.members at present
    rw [lock, System.lockAfter, Option.elim_some, nobody] at present
    cases present

theorem ConflictFree.asks_after {event : SimulationEvent} (conflictFree : before.ConflictFree)
    (happens : before.Happens event after) (goes : before.Goes counted)
    {counted' : List TransactionId} (sound : after.pool.Sound counted')
    (awake : ∀ number, after.IsAwake number) : after.Asks := by
  have responsive := goes.responsive
  have lively := goes.lively
  have asks := conflictFree.asks
  cases happens with
  | nothing => exact asks
  | rests => exact asks.lasts rfl (fun _ there => there) fun _ _ => rfl
  | passes => exact asks.lasts rfl (fun _ there => there) fun _ _ => rfl
  | storage ready =>
      have turns := System.storageTurn_turns (System.resumed_responsive responsive .storage)
      have lock : (before.system.resumed .storage).storageTurn.lock = before.system.lock :=
        (System.storageTurn_complete _ (System.resumed_responsive responsive .storage)).1.lock
      generalize (before.system.resumed .storage).storageTurn = system at turns lock
      refine asks.lasts rfl (fun _ there => lock ▸ there) fun number inside => ?_
      cases turns with
      | idle => rfl
      | runs calls ready asked replies again short =>
          have aside : number ∉ (before.system.resumed .storage).storageWorker.waiters :=
            fun waits => absurd (goes.keeps.orderly.storage number waits) (Nat.not_le.mpr inside)
          exact (replies.stage? number).trans (if_neg aside)
  | lock ready =>
      have turns := System.lockTurn_turns (System.resumed_responsive responsive .lock)
      generalize (before.system.resumed .lock).lockTurn = system at turns
      cases turns with
      | idle => exact asks.lasts rfl (fun _ there => there) fun _ _ => rfl
      | looks _ toLock toStorage asked once =>
          exact asks_looked goes.keeps.sound system once.lock conflictFree.undisturbed
  | mainMoves number main request _ ready nobody moves carries ends =>
      have errand := System.Errand.recalled carries.errand
      have lock : after.system.lock = before.system.lock := errand.lock
      exact asks.lasts carries.workers (fun _ there => lock ▸ there) fun place inside =>
        errand.stage?_other place (Nat.ne_of_lt inside)
  | moves number mover move _ ready moving busy within carries ends =>
      obtain ⟨action, wait, errand, _⟩ :=
        carries.turned lively responsive goes.keeps.sound.kept.distinct ends
      obtain ⟨moved, _, workers, fits, _⟩ := carries.worker
      have workers : after.workers = before.workers.set number moved := workers
      intro place worker there transaction awaits resident
      have one := conflictFree.lone.one
      have inside := (List.getElem?_eq_some_iff.mp moving).1
      have within := (List.getElem?_eq_some_iff.mp there).1
      rw [workers, List.length_set] at within
      obtain rfl : place = number := by omega
      obtain rfl : moved = worker := by
        rw [workers, List.getElem?_set_self inside] at there
        exact Option.some.inj there
      -- It does not pause, so it waits for a look; and its call has begun just now.
      have stands := sound.stands moved.view (List.mem_map_of_mem (List.mem_of_getElem? there))
      have asleep : ¬ moved.view.activity.Sleeps := awake place moved there
      change moved.view.activity.awaits? = some transaction at awaits
      rw [errand.stage?_own] at fits ⊢
      generalize moved.view = view at stands fits asleep awaits
      cases stands with
      | awaiting attempt deadline =>
          cases wait with
          | look | storage => rfl
          | nothing | instant => cases fits
      | polling => exact absurd trivial asleep
      | _ => cases awaits

theorem ConflictFree.step (conflictFree : before.ConflictFree) (goes : before.Goes counted)
    (event : SimulationEvent)
    (allows : before.Allows event) : before.StaysConflictFree (before.step event) := by
  have keeps := goes.keeps
  have lively := goes.lively
  have lone' := conflictFree.lone.step keeps event allows
  have goes' := goes.step event allows
  have happens := step_happens keeps lively event
  have poolStep := (step_brings keeps event allows).poolStep
  obtain ⟨worker, alone⟩ := conflictFree.lone.worker
  obtain ⟨worker', alone'⟩ := lone'.worker
  have there : before.workers[0]? = some worker := by rw [alone]; rfl
  have there' : (before.step event).workers[0]? = some worker' := by rw [alone']; rfl
  have solo := conflictFree.lone.solo keeps worker alone
  have views' : (before.step event).pool.views = [worker'.view] :=
    congrArg (List.map SimulationWorker.view) alone'
  have undisturbed := conflictFree.undisturbed worker (alone ▸ List.mem_singleton_self _)
  have awake : ∀ number, (before.step event).IsAwake number := by
    intro number other present sleeps
    obtain rfl : number = 0 := by
      have inside := (List.getElem?_eq_some_iff.mp present).1
      rw [lone'.one] at inside
      exact Nat.lt_one_iff.mp inside
    obtain rfl : worker' = other := Option.some.inj (there'.symm.trans present)
    obtain ⟨moved, transaction, awaits, resident⟩ :=
      poolStep.sleeps solo views' undisturbed (conflictFree.awake 0 worker there) sleeps
    have ends := happens.ends 0 worker worker' there there' fun same => moved (same ▸ rfl)
    exact ends.free (System.stage?_mem (conflictFree.asks 0 worker there transaction awaits resident))
  have staysUndisturbed := poolStep.staysUndisturbed solo views' undisturbed
  refine ⟨staysUndisturbed.restarts, awake, ?_⟩
  rcases staysUndisturbed.keeps with ⟨abandoned, _⟩ | ⟨same, still⟩
  · exact .inl abandoned
  refine .inr ⟨same, lone', ?_, awake, conflictFree.asks_after happens goes goes'.keeps.sound awake⟩
  rw [alone', List.forall_mem_singleton]
  cases event with
  | turn task =>
      have clock : (before.step (.turn task)).system.clock = before.system.clock :=
        (happens.clock goes.responsive).2 (by simp)
      rwa [clock]
  | pass target =>
      obtain rfl : worker = worker' := Option.some.inj (there.symm.trans there')
      exact lively.passes goes.responsive (allows.idle target rfl) 0 worker there undisturbed _

/-! Whatever the pause -/

theorem run_abandoned (keeps : before.Keeps counted) (events : List SimulationEvent)
    (allowed : before.Allowed events) :
    before.tally.abandoned ≤ (before.run events).tally.abandoned := by
  induction events generalizing before counted with
  | nil => exact Nat.le_refl _
  | cons event later ih =>
      exact Nat.le_trans (step_brings keeps event allowed.1).poolStep.abandoned
        (ih (step_keeps keeps event allowed.1).2 allowed.2)

end

structure PauseTwins (simulation : Simulation Source) (pause : Nat) : Prop where
  conflictFree : simulation.ConflictFree
  pauses : max pause 10 = max simulation.config.retryBackoff 10
  goes : ∃ counted, simulation.Goes counted
  keeps : ∃ counted, (simulation.withPause pause).Keeps counted

section

variable {simulation : Simulation Source} {pause : Nat}

theorem PauseTwins.step (doubles : simulation.PauseTwins pause) (event : SimulationEvent)
    (allows : (simulation.withPause pause).Allows event) :
    (simulation.withPause pause).step event = (simulation.step event).withPause pause ∧
      simulation.StaysConflictFree (simulation.step event) ∧
      ((simulation.step event).ConflictFree → (simulation.step event).PauseTwins pause) := by
  obtain ⟨conflictFree, pauses, ⟨counted, goes⟩, ⟨counted', keeps⟩⟩ := doubles
  have allows' := allows_withPause pause event allows
  have staysFree := conflictFree.step goes event allows'
  have square := step_withPause pause event pauses staysFree.awake
  have keeps' := (step_keeps keeps event allows).2
  rw [square] at keeps'
  have config := (step_keeps goes.keeps event allows').1
  exact ⟨square, staysFree, fun still =>
    ⟨still, config ▸ pauses, ⟨_, goes.step event allows'⟩, ⟨_, keeps'⟩⟩⟩

/-- What was not abandoned in the end was not abandoned at once. -/
theorem PauseTwins.stays (doubles : simulation.PauseTwins pause) (event : SimulationEvent)
    (allows : (simulation.withPause pause).Allows event) (later : List SimulationEvent)
    (allowed : ((simulation.withPause pause).step event).Allowed later)
    (kept : (((simulation.withPause pause).step event).run later).tally.abandoned =
      simulation.tally.abandoned) :
    (simulation.withPause pause).step event = (simulation.step event).withPause pause ∧
      (simulation.step event).tally.abandoned = simulation.tally.abandoned ∧
      (simulation.step event).tally.restarts = simulation.tally.restarts ∧
      (simulation.step event).PauseTwins pause := by
  obtain ⟨square, staysFree, goesOn⟩ := doubles.step event allows
  obtain ⟨counted, keeps⟩ := doubles.keeps
  have grows := run_abandoned (step_keeps keeps event allows).2 later allowed
  rw [kept, square] at grows
  have known : ((simulation.step event).withPause pause).tally = (simulation.step event).tally := rfl
  rcases staysFree.keeps with more | ⟨none, conflictFree⟩
  · rw [known, more] at grows
    exact absurd grows (Nat.not_succ_le_self _)
  · exact ⟨square, none, staysFree.restarts, goesOn conflictFree⟩

/-- Until a transaction is abandoned, the worker meets with no conflict and the pause makes no
difference. -/
theorem PauseTwins.run (doubles : simulation.PauseTwins pause) (events : List SimulationEvent)
    (allowed : (simulation.withPause pause).Allowed events)
    (kept : ((simulation.withPause pause).run events).tally.abandoned = simulation.tally.abandoned) :
    (simulation.withPause pause).run events = (simulation.run events).withPause pause ∧
      (simulation.run events).tally.restarts = simulation.tally.restarts ∧
      (simulation.run events).PauseTwins pause := by
  induction events generalizing simulation with
  | nil => exact ⟨rfl, rfl, doubles⟩
  | cons event later ih =>
      obtain ⟨allows, allowed⟩ := allowed
      obtain ⟨square, none, same, doubles'⟩ := doubles.stays event allows later allowed kept
      change (((simulation.withPause pause).step event).run later).tally.abandoned = _ at kept
      rw [square] at allowed kept
      obtain ⟨runs, restarts, still⟩ := ih doubles' allowed (kept.trans none.symm)
      refine ⟨?_, restarts.trans same, still⟩
      change ((simulation.withPause pause).step event).run later = _
      rw [square]
      exact runs

theorem PauseTwins.finishWithin (doubles : simulation.PauseTwins pause) (steps : Nat)
    (kept : (finishWithin steps (simulation.withPause pause)).tally.abandoned =
      simulation.tally.abandoned) :
    finishWithin steps (simulation.withPause pause) =
      (finishWithin steps simulation).withPause pause := by
  induction steps generalizing simulation with
  | zero => rfl
  | succ steps ih =>
      by_cases ended : simulation.HasEnded
      · have ended' : (simulation.withPause pause).HasEnded := ended
        rw [finishWithin_ended _ ended, finishWithin_ended _ ended']
      obtain ⟨_, goes⟩ := doubles.goes
      obtain ⟨_, keeps⟩ := doubles.keeps
      obtain ⟨event, next, _⟩ := goes.next ended
      have next' : (simulation.withPause pause).next? = some event := next
      have unfinished : ¬ (simulation.withPause pause).HasEnded := ended
      have allows := next?_allows _ event keeps.fronted next'
      rw [finishWithin_next steps unfinished event next'] at kept ⊢
      obtain ⟨allowed, runs⟩ := finishWithin_schedule steps _ _ (step_keeps keeps event allows).2
      obtain ⟨square, none, _, doubles'⟩ := doubles.stays event allows _ allowed (runs ▸ kept)
      rw [square] at kept ⊢
      rw [finishWithin_next steps ended event next]
      exact ih doubles' (kept.trans none.symm)

end

end Simulation

end WoundWait
