import WoundWait.Proofs.LookRequests
import WoundWait.Proofs.LockOccupancy

/-!
No wake-up of the lock's worker is lost. Whenever it waits, either its task is ready, or it has
nothing to take in and its timer is still to come; and unless it has been asked for a look, the
group needs none before that timer.
-/

namespace WoundWait

variable {State Result : Type}

namespace System

structure LockNothingDue (system : System State Result) : Prop where
  mailbox : system.lockWorker.mailbox = []
  unasked : system.lockWorker.pending.now = false
  early : isDue system.clock system.lockWorker.pending.deferred = false

structure Watched (options : Options) (system : System State Result) : Prop where
  orderly : system.Orderly options
  timed : system.lock.IsTimed
  awake : system.lockWorker.phase = .waiting → .lock ∈ system.ready ∨ system.LockNothingDue
  guarded : system.lockWorker.phase = .waiting → system.lock.Guarded system.lockWorker.requests

theorem lockAfter_isTimed (system : System State Result) (action : Option (LockAction State Result))
    (distinct : system.lock.HasDistinctNames) (timed : system.lock.IsTimed) :
    (system.lockAfter action).IsTimed := by
  cases action with
  | none => exact timed
  | some action => exact system.lock.perform_isTimed system.clock action distinct timed

/-- A message readies the task; without one nothing changes for a worker with nothing due. -/
theorem piece_awake (before after : System State Result) (action : Option (LockAction State Result))
    (toLock : List (WakeRequest CallId)) (comers : List (EntryRequest State Result))
    (parcels dropped : List (Parcel State))
    (piece : before.Piece after action toLock comers parcels dropped)
    (waiting : before.lockWorker.phase = .waiting)
    (awake : .lock ∈ before.ready ∨ before.LockNothingDue) :
    .lock ∈ after.ready ∨ after.LockNothingDue := by
  rcases awake with ready | nothingDue
  · exact .inl (piece.ready ready)
  · by_cases silent : toLock = []
    · right
      constructor
      · simp [piece.lockWorker.mailbox, nothingDue.mailbox, silent]
      · rw [piece.lockWorker.pending]
        exact nothingDue.unasked
      · rw [piece.clock, piece.lockWorker.pending]
        exact nothingDue.early
    · exact .inl (piece.woken waiting silent)

theorem piece_guarded (before after : System State Result) (action : Option (LockAction State Result))
    (toLock : List (WakeRequest CallId)) (comers : List (EntryRequest State Result))
    (parcels dropped : List (Parcel State))
    (piece : before.Piece after action toLock comers parcels dropped)
    (mail : action = none ∨ (toLock = before.wakesOf action ∧ action ≠ some .tick))
    (waiting : before.lockWorker.phase = .waiting) (distinct : before.lock.HasDistinctNames)
    (timed : before.lock.IsTimed) (guarded : before.lock.Guarded before.lockWorker.requests) :
    after.lock.Guarded after.lockWorker.requests := by
  have alive : before.lockWorker.isStopped = false := by simp [Worker.isStopped, waiting]
  rw [piece.lock, piece.lockWorker.requests alive]
  cases action with
  | none => exact before.lock.guarded_absorb _ toLock guarded
  | some action =>
      rcases mail with nothing | ⟨sent, other⟩
      · cases nothing
      · rw [sent]
        exact before.lock.perform_guarded before.clock action _ distinct timed guarded
          fun look => other (congrArg some look)

/-- After its turn the worker goes round again, or has found nothing to do. -/
theorem turn_awake (before after : System State Result) (action : Option (LockAction State Result))
    (turn : before.LockTurn after action) (waiting : after.lockWorker.phase = .waiting) :
    .lock ∈ after.ready ∨ after.LockNothingDue := by
  cases turn.rests waiting with
  | asked again now => exact .inl again
  | discarded again nobody => exact .inl again
  | armed again deadline looked told => exact .inl again
  | idle lock collected unasked =>
      rw [collected] at unasked
      obtain ⟨same, _, early⟩ := PendingWake.promote_idle _ before.clock unasked
      right
      constructor
      · rw [collected]
        rfl
      · rw [collected]
        exact unasked
      · rw [collected, turn.clock, Worker.collect]
        simp only [same]
        exact early

theorem turn_guarded (before after : System State Result) (action : Option (LockAction State Result))
    (turn : before.LockTurn after action) (waiting : after.lockWorker.phase = .waiting)
    (timed : before.lock.IsTimed) (guarded : before.lockWorker.phase = .waiting →
      before.lock.Guarded before.lockWorker.requests) :
    after.lock.Guarded after.lockWorker.requests := by
  cases turn.rests waiting with
  | asked again now => exact after.lock.guarded_asked _ now
  | discarded again nobody => exact fun _ => .inl (nobody timed)
  | armed again deadline looked told =>
      exact before.lock.recheck_guarded after.lock before.clock deadline _ looked told
  | idle lock collected unasked =>
      rw [collected] at unasked waiting
      obtain ⟨same, _, _⟩ := PendingWake.promote_idle _ before.clock unasked
      have requests : after.lockWorker.requests = before.lockWorker.requests := by
        rw [collected, Worker.collect_requests]
        exact same
      rw [lock, requests]
      exact guarded waiting

/-- A worker with nothing due is woken when its timer has come. -/
theorem advance_awake (system : System State Result) (target : Instant)
    (waiting : system.lockWorker.phase = .waiting)
    (awake : .lock ∈ system.ready ∨ system.LockNothingDue) :
    .lock ∈ (system.advance target).ready ∨ (system.advance target).LockNothingDue := by
  rcases awake with ready | nothingDue
  · exact .inl ((mem_enqueueAll system.ready _ .lock).mpr (.inl ready))
  · by_cases due : isDue (max system.clock target) system.lockWorker.pending.deferred = true
    · left
      apply (mem_enqueueAll system.ready _ .lock).mpr
      right
      have timer : system.lockTimer? = system.lockWorker.pending.deferred := by
        simp [lockTimer?, Worker.timer?, waiting]
      apply List.mem_map.mpr
      refine ⟨(.lock, system.lockTimer?), ?_, rfl⟩
      simp [timers, timer, due]
    · exact .inr ⟨nothingDue.mailbox, nothingDue.unasked, Bool.eq_false_iff.mpr due⟩

theorem step_watched (options : Options) (system : System State Result)
    (event : Event State Result) (watched : system.Watched options) :
    (system.step event).Watched options := by
  have named := watched.orderly.named
  have distinct := watched.orderly.kept.distinct
  have orderly := step_orderly options system event watched.orderly
  have timed : (system.step event).lock.IsTimed := by
    rw [system.step_lock event named]
    exact system.lockAfter_isTimed _ distinct watched.timed
  cases system.step_effect event named with
  | piece toLock mail piece =>
      refine ⟨orderly, timed, ?_, ?_⟩
      · intro waiting
        have before := piece.lockWorker.phase.symm.trans waiting
        exact piece_awake _ _ _ _ _ _ _ piece before (watched.awake before)
      · intro waiting
        have before := piece.lockWorker.phase.symm.trans waiting
        exact piece_guarded _ _ _ _ _ _ _ piece mail before distinct watched.timed
          (watched.guarded before)
  | turn event_eq turn =>
      exact ⟨orderly, timed, turn_awake _ _ _ turn,
        fun waiting => turn_guarded _ _ _ turn waiting watched.timed watched.guarded⟩
  | passes target event_eq =>
      subst event_eq
      exact ⟨orderly, timed, fun waiting => system.advance_awake target waiting (watched.awake waiting),
        watched.guarded⟩
  | stops event_eq =>
      subst event_eq
      exact ⟨orderly, timed, nofun, nofun⟩

theorem run_watched (options : Options) (events : List (Event State Result)) :
    ((new options : System State Result).run events).Watched options := by
  apply run_invariant (Watched options) _ events
    fun system event _ => step_watched options system event
  refine ⟨⟨new_named options, Lock.new_wellKept options, rfl⟩, ?_, ?_, ?_⟩
  · intro group present
    cases present
  · exact fun _ => .inl (by simp [new])
  · exact fun _ _ => .inl rfl

/-- Whenever the task of the lock's worker waits, outside its hand-offs, there is either no group or
a group that nothing can be done about yet: it has members, none of them aborted and not all of them
ready to leave, nobody has reached the deadline, and the worker will look again by then. -/
theorem run_waiting_armed (options : Options) (events : List (Event State Result))
    (asleep : .lock ∉ ((new options : System State Result).run events).ready)
    (waiting : ((new options : System State Result).run events).lockWorker.phase = .waiting) :
    let system := (new options : System State Result).run events
    system.lock.group = none ∨
      ∃ group deadline armed, system.lock.group = some group ∧
        group.members ≠ [] ∧
        (∀ member ∈ group.members, member.role ≠ .aborted) ∧
        (∃ member ∈ group.members, member.role.isExitReady = false) ∧
        group.deadline = some deadline ∧ system.clock < deadline ∧
        (∀ member ∈ group.members, system.clock < member.deadline) ∧
        system.lockWorker.pending.deferred = some armed ∧ system.clock < armed ∧
        armed ≤ deadline := by
  intro system
  have watched : system.Watched options := run_watched options events
  have nothingDue : system.LockNothingDue := (watched.awake waiting).resolve_left asleep
  have requests : system.lockWorker.requests = system.lockWorker.pending := by
    simp [Worker.requests, nothingDue.mailbox]
  have guarded := watched.guarded waiting
  rw [requests] at guarded
  rcases guarded nothingDue.unasked with discarded | ⟨unfinished, timely⟩
  · exact .inl discarded
  · obtain ⟨deadline, next⟩ := system.lock.deadline?_exists watched.timed
      (system.lock.unfinished_members unfinished)
    obtain ⟨group, present, deadline_eq⟩ := Option.bind_eq_some_iff.mp next
    obtain ⟨armed, deferred, sooner⟩ := timely deadline next
    have members := system.lock.members_some group present
    have early : system.clock < armed := by
      have undue := nothingDue.early
      rw [deferred, isDue_some, decide_eq_false_iff_not] at undue
      exact Int.lt_of_not_ge undue
    have before : system.clock < deadline := Int.lt_of_lt_of_le early sooner
    refine .inr ⟨group, deadline, armed, present, ?_, ?_, ?_, deadline_eq, before, ?_, deferred,
      early, sooner⟩
    · rw [← members]
      exact system.lock.unfinished_members unfinished
    · rw [← members]
      exact unfinished.unaborted
    · rw [← members]
      exact unfinished.unready
    · intro member there
      exact Int.lt_of_lt_of_le before
        (group.isTimed_le (watched.timed group present) deadline deadline_eq member there)

def watch : System Nat Unit :=
  (new ⟨8000, 10000, 20000, 2⟩).run
    [.call 0 (.enter (.visit (.ofNat 1) ⟨1⟩ .zero .read)), .turn .lock]

theorem watch_waiting_armed :
    .lock ∉ watch.ready ∧ watch.lockWorker.phase = .waiting ∧
      ∃ group deadline armed, watch.lock.group = some group ∧ group.members ≠ [] ∧
        group.deadline = some deadline ∧ watch.clock < deadline ∧
        watch.lockWorker.pending.deferred = some armed ∧ armed ≤ deadline := by
  have asleep : .lock ∉ watch.ready := by decide
  have waiting : watch.lockWorker.phase = .waiting := rfl
  have present : watch.lock.group.isSome = true := rfl
  refine ⟨asleep, waiting, ?_⟩
  rcases run_waiting_armed _ _ asleep waiting with
    discarded | ⟨group, deadline, armed, found, occupied, _, _, next, early, _, deferred, _, sooner⟩
  · rw [watch, discarded] at present
    cases present
  · exact ⟨group, deadline, armed, found, occupied, next, early, deferred, sooner⟩

end System

end WoundWait
