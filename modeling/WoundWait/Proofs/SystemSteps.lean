import WoundWait.Proofs.LockTurns

/-!
Every event seen as what it does to the lock and to the records that leave it: at most one action,
and parcels that change hands. What holds of every run follows from what each event preserves.
-/

namespace WoundWait

variable {State Result : Type}

namespace System

def turnAction? (system : System State Result) : Task → Option (LockAction State Result)
  | .storage => none
  | .lock => system.lookAction?
  | .call call => system.callAction? call

def action? (system : System State Result) : Event State Result → Option (LockAction State Result)
  | .call call request => if system.isFree call then system.requestAction? request else none
  | .turn task => if task ∈ system.ready then system.turnAction? task else none
  | .assignRole transaction role timestamp => some (.assignRole transaction role timestamp)
  | .withRecord transaction operation => some (.edit transaction operation)
  | _ => none

def parcels (system : System State Result) : Event State Result → List (Parcel State)
  | .call call request => if system.isFree call then system.requestParcels request else []
  | event => system.parcelsOf (system.action? event)

def dropped (system : System State Result) : Event State Result → List (Parcel State)
  | .giveUp call =>
      (system.calls.filter fun pending => pending.call == call).flatMap
        fun pending => pending.stage.held
  | .stopLock => system.workerHeld
  | _ => []

def newcomers : Event State Result → List (EntryRequest State Result)
  | .call _ request => comers request
  | _ => []

inductive Effect (system : System State Result) (event : Event State Result) : Prop where
  | piece (toLock : List (WakeRequest CallId))
      (mail : system.action? event = none ∨
        (toLock = system.wakesOf (system.action? event) ∧ system.action? event ≠ some .tick))
      (piece : system.Piece (system.step event) (system.action? event) toLock (newcomers event)
        (system.parcels event) (system.dropped event))
  | turn (event_eq : event = .turn .lock)
      (turn : { system with ready := system.ready.erase .lock }.LockTurn (system.step event)
        (system.action? event))
  | passes (target : Instant) (event_eq : event = .pass target)
  | stops (event_eq : event = .stopLock)

/-- Work that hands nothing over and sends nothing that somebody waits for. -/
theorem stretch_piece (before after : System State Result) (action : Option (LockAction State Result))
    (toLock toStorage : List (WakeRequest CallId)) (named : before.Named)
    (stretch : { before with lock := before.lockAfter action }.Stretch after toLock toStorage [])
    (lock : toLock.filterMap WakeRequest.waiter? = [])
    (storage : toStorage.filterMap WakeRequest.waiter? = []) :
    before.Piece after action toLock [] [] [] := by
  constructor
  · exact stretch.clock
  · exact stretch.lock
  · exact stretch.lockWorker
  · exact stretch.ready .lock
  · exact stretch.woken
  · exact stretch_named _ _ _ _ _ stretch lock storage
      ⟨named.distinct, named.lock, named.storage⟩
  · intro entry waits
    rw [gate_congr before after stretch.calls] at waits
    exact .inl waits
  · exact custody_of_same _ _ stretch.handed
      (held_congr _ _ stretch.calls stretch.lockWorker.phase)

/-- A turn takes its task from those that are ready, which only matters if it is the lock's. -/
theorem piece_of_turn (system after : System State Result) (task : Task) (other : task ≠ .lock)
    (action : Option (LockAction State Result)) (toLock : List (WakeRequest CallId))
    (comers : List (EntryRequest State Result)) (parcels dropped : List (Parcel State))
    (piece : { system with ready := system.ready.erase task }.Piece after action toLock comers
      parcels dropped) : system.Piece after action toLock comers parcels dropped := by
  refine ⟨piece.clock, piece.lock, piece.lockWorker, ?_, piece.woken, piece.named, piece.gate,
    piece.custody⟩
  intro ready
  exact piece.ready ((List.mem_erase_of_ne other.symm).mpr ready)

theorem storageTurn_piece (system : System State Result) (named : system.Named) :
    system.Piece system.storageTurn none [] [] [] [] := by
  cases phase : system.storageWorker.phase with
  | stopped | running =>
      have same : system.storageTurn = system := by simp only [storageTurn, phase]
      rw [same]
      exact stretch_piece _ _ none [] [] named system.stretch_refl rfl rfl
  | waiting =>
      let worker := system.storageWorker.collect system.clock
      have collected : ∀ waiter ∈ worker.waiters, waiter ∈ system.storageWorker.waiters := by
        intro waiter kept
        rwa [← system.storageWorker.collect_waiters system.clock]
      by_cases asked : worker.pending.now = true
      · let started := worker.start ()
        let ended := { system with storageWorker := started.finish }
        have kept : ∀ waiter ∈ started.waiters, waiter ∈ system.storageWorker.waiters :=
          fun waiter kept => collected waiter (worker.start_waiters () waiter kept)
        have rested : ended.Named := named_of_waiters system ended named rfl (fun _ kept => kept)
          fun waiter left => kept waiter (started.finish_waiters waiter left)
        let answered := ended.answerFlushes started.taken (.ok ())
        have same : system.storageTurn = { answered with ready := .storage :: answered.ready } := by
          simp only [storageTurn, phase]
          exact if_pos asked
        have callsHeld : answered.callsHeld = system.callsHeld :=
          ended.answerFlushes_callsHeld started.taken (.ok ()) fun pending present taken =>
            named.storage pending present (kept _ (started.taken_waiters _ taken))
        have left := ended.answerFlushes_named started.taken (.ok ()) rested
        rw [same]
        refine ⟨rfl, rfl, system.lockWorker.receives_refl, ?_, fun _ none => absurd rfl none,
          ⟨left.distinct, left.lock, left.storage⟩,
          fun entry waits => .inl (ended.answerFlushes_gate _ _ entry waits),
          custody_of_same _ _ rfl ?_⟩
        · exact fun ready => List.mem_cons_of_mem _ (ended.answerFlushes_ready _ _ .lock ready)
        · exact congrArg (· ++ system.workerHeld) callsHeld
      · have same : system.storageTurn = { system with storageWorker := worker } := by
          simp only [storageTurn, phase]
          exact if_neg asked
        rw [same]
        exact ⟨rfl, rfl, system.lockWorker.receives_refl, fun ready => ready,
          fun _ none => absurd rfl none,
          named_of_waiters _ _ named rfl (fun _ kept => kept) collected,
          fun _ waits => .inl waits, custody_of_same _ _ rfl rfl⟩

theorem giveUp_piece (system : System State Result) (call : CallId) (named : system.Named) :
    system.Piece (system.giveUp call) none [] [] [] (system.dropped (.giveUp call)) := by
  refine ⟨rfl, rfl, system.lockWorker.receives_refl, fun ready => ready,
    fun _ none => absurd rfl none, ?_, ?_, ?_⟩
  · constructor
    · exact (List.filter_sublist.map _).nodup named.distinct
    · exact fun pending present => named.lock pending (List.mem_of_mem_filter present)
    · exact fun pending present => named.storage pending (List.mem_of_mem_filter present)
  · exact fun entry waits => .inl ((List.filter_sublist.filterMap _).subset waits)
  · intro test
    have split := calls_split system.calls call test
    have same : (system.giveUp call).handed = system.handed := rfl
    have left : (system.giveUp call).held =
        ((system.calls.filter fun pending => pending.call != call).flatMap
          fun pending => pending.stage.held) ++ system.workerHeld := rfl
    rw [same, left, held, callsHeld, dropped, List.countP_append, List.countP_append, split,
      List.countP_nil]
    omega

theorem stopStorage_piece (system : System State Result) (named : system.Named) :
    system.Piece system.stopStorage none [] [] [] [] := by
  let stopped := { system with storageWorker := system.storageWorker.stop }
  have rested : stopped.Named := by
    refine named_of_waiters system stopped named rfl (fun _ kept => kept) ?_
    intro waiter kept
    cases kept
  have callsHeld : (stopped.answerFlushes system.storageWorker.waiters
      (.error storageStopped)).callsHeld = system.callsHeld :=
    stopped.answerFlushes_callsHeld _ _ named.storage
  refine ⟨rfl, rfl, system.lockWorker.receives_refl, stopped.answerFlushes_ready _ _ .lock,
    fun _ none => absurd rfl none, stopped.answerFlushes_named _ _ rested,
    fun entry waits => .inl (stopped.answerFlushes_gate _ _ entry waits), custody_of_same _ _ rfl ?_⟩
  exact congrArg (· ++ system.workerHeld) callsHeld

theorem assignRole_piece (system : System State Result) (transaction : TransactionId)
    (role : CommitRole) (timestamp : Timestamp) (named : system.Named) :
    system.Piece (system.assignRole transaction role timestamp)
      (some (.assignRole transaction role timestamp))
      (system.wakesOf (some (.assignRole transaction role timestamp))) [] [] [] := by
  apply stretch_piece _ _ _ _ [] named _ (system.wakesOf_waiters _) rfl
  by_cases resident : (system.lock.find? transaction).isSome = true
  · simp only [assignRole, lockAfter, wakesOf, Lock.perform, Lock.wakes, resident, ↓reduceIte,
      Option.elim_some]
    exact System.notifyLock_stretch _
  · simp only [assignRole, lockAfter, wakesOf, Lock.perform, Lock.wakes, resident,
      Bool.false_eq_true, ↓reduceIte, Option.elim_some]
    exact system.stretch_refl

theorem withRecord_piece (system : System State Result) (transaction : TransactionId)
    (operation : Operation State Result) (named : system.Named) :
    system.Piece (system.withRecord transaction operation).1 (some (.edit transaction operation))
      (system.wakesOf (some (.edit transaction operation))) [] [] [] := by
  apply stretch_piece _ _ _ _ [] named _ (system.wakesOf_waiters _) rfl
  cases outcome : system.lock.withRecord transaction operation with
  | none =>
      simp only [withRecord, lockAfter, Lock.perform, outcome, Option.elim_some]
      exact system.stretch_refl
  | some pair =>
      simp only [withRecord, lockAfter, Lock.perform, outcome, Option.elim_some]
      exact System.stretch_refl _

theorem setGate_stretch (system : System State Result) (gateOpen : Bool) :
    system.Stretch (system.setGate gateOpen) [] [] [] :=
  ⟨rfl, rfl, rfl, system.lockWorker.receives_refl, system.storageWorker.receives_refl,
    fun task ready => (mem_enqueueAll system.ready _ task).mpr (.inl ready),
    fun _ none => absurd rfl none, rfl⟩

/-- What only concerns the queue is no part of what a stretch tells. -/
theorem requeue_stretch (system : System State Result) (queue : OutcomeQueue State) :
    system.Stretch { system with queue } [] [] [] :=
  ⟨rfl, rfl, rfl, system.lockWorker.receives_refl, system.storageWorker.receives_refl,
    fun _ ready => ready, fun _ none => absurd rfl none, rfl⟩

/-! Only the worker itself looks at the group. -/

theorem requestAction?_tick (system : System State Result) (request : Request State Result) :
    system.requestAction? request ≠ some .tick := by
  cases request with
  | enter request =>
      by_cases gate : system.queue.gateOpen = true <;> simp [requestAction?, gate]
  | _ => simp [requestAction?]

theorem stageAction?_tick (system : System State Result) (stage : Stage State Result) :
    system.stageAction? stage ≠ some .tick := by
  cases stage with
  | atGate request => by_cases gate : system.queue.gateOpen = true <;> simp [stageAction?, gate]
  | _ => simp [stageAction?]

theorem callAction?_tick (system : System State Result) (call : CallId) :
    system.callAction? call ≠ some .tick := by
  intro look
  obtain ⟨pending, _, action⟩ := Option.bind_eq_some_iff.mp look
  exact system.stageAction?_tick pending.stage action

theorem action?_tick (system : System State Result) (event : Event State Result)
    (look : system.action? event = some .tick) : event = .turn .lock := by
  cases event with
  | call call request =>
      by_cases free : system.isFree call = true
      · simp only [action?, free, ↓reduceIte] at look
        exact absurd look (system.requestAction?_tick request)
      · simp [action?, free] at look
  | turn task =>
      by_cases ready : task ∈ system.ready
      · simp only [action?, ready, ↓reduceIte] at look
        cases task with
        | lock => rfl
        | storage => cases look
        | call call => exact absurd look (system.callAction?_tick call)
      · simp [action?, ready] at look
  | _ => cases look

theorem requestMail_wakes (system : System State Result) (call : CallId)
    (request : Request State Result) :
    system.requestAction? request = none ∨
      (system.requestMail call request = system.wakesOf (system.requestAction? request) ∧
        system.requestAction? request ≠ some .tick) := by
  cases request with
  | enter | validate | rollback | abortAll => exact .inr ⟨rfl, system.requestAction?_tick _⟩
  | handOver | recover | flushStorage | sleep => exact .inl rfl

theorem step_effect (system : System State Result) (event : Event State Result)
    (named : system.Named) : system.Effect event := by
  have aside (after : System State Result) (toLock toStorage : List (WakeRequest CallId))
      (stretch : system.Stretch after toLock toStorage [])
      (lock : toLock.filterMap WakeRequest.waiter? = [])
      (storage : toStorage.filterMap WakeRequest.waiter? = []) :
      system.Piece after none toLock [] [] [] :=
    stretch_piece system after none toLock toStorage named stretch lock storage
  cases event with
  | call call request =>
      by_cases free : system.isFree call = true
      · refine .piece (system.requestMail call request) ?_ ?_
        · simpa [action?, free] using system.requestMail_wakes call request
        · simpa [step, action?, parcels, dropped, newcomers, free] using
            system.spawn_piece call request named free
      · refine .piece [] (.inl (by simp [action?, free])) ?_
        have nothing := aside system [] [] system.stretch_refl rfl rfl
        simpa [step, action?, parcels, dropped, free] using
          { nothing with gate := fun _ waits => .inl waits }
  | giveUp call => exact .piece [] (.inl rfl) (system.giveUp_piece call named)
  | turn task =>
      by_cases ready : task ∈ system.ready
      · have erased : { system with ready := system.ready.erase task }.Named :=
          ⟨named.distinct, named.lock, named.storage⟩
        cases task with
        | storage =>
            refine .piece [] (.inl (by simp [action?, ready, turnAction?])) ?_
            have piece := piece_of_turn system _ .storage (by simp) _ _ _ _ _
              (storageTurn_piece _ erased)
            simpa [step, turnOf, action?, parcels, dropped, newcomers, ready, turnAction?] using piece
        | lock =>
            refine .turn rfl ?_
            have turn := lockTurn_turn _ erased
            simpa [step, turnOf, action?, ready, turnAction?, lookAction?] using turn
        | call call =>
            refine .piece (system.wakesOf (system.callAction? call))
              (.inr (by simp [action?, ready, turnAction?, callAction?_tick])) ?_
            have piece : system.Piece
                (noteAnswer call ({ system with ready := system.ready.erase (.call call) }.resume call))
                (system.callAction? call) (system.wakesOf (system.callAction? call))
                [] (system.parcelsOf (system.callAction? call)) [] :=
              piece_of_turn system _ (.call call) (by simp) _ _ _ _ _ (resume_piece _ call erased)
            simpa [step, turnOf, action?, parcels, dropped, newcomers, ready, turnAction?] using piece
      · refine .piece [] (.inl (by simp [action?, ready])) ?_
        simpa [step, turnOf, action?, parcels, dropped, newcomers, ready] using
          aside system [] [] system.stretch_refl rfl rfl
  | pass target => exact .passes target rfl
  | assignRole transaction role timestamp =>
      exact .piece _ (.inr ⟨rfl, by simp [action?]⟩)
        (system.assignRole_piece transaction role timestamp named)
  | withRecord transaction operation =>
      exact .piece _ (.inr ⟨rfl, by simp [action?]⟩)
        (system.withRecord_piece transaction operation named)
  | notifyLock =>
      exact .piece [.immediate] (.inl rfl) (aside _ _ [] system.notifyLock_stretch rfl rfl)
  | notifyStorage =>
      exact .piece [] (.inl rfl) (aside _ _ _ system.notifyStorage_stretch rfl rfl)
  | setGate gateOpen =>
      exact .piece [] (.inl rfl) (aside _ _ [] (system.setGate_stretch gateOpen) rfl rfl)
  | setRejecting rejecting =>
      exact .piece [] (.inl rfl) (aside _ [] [] (system.requeue_stretch _) rfl rfl)
  | setRefusals refuses =>
      exact .piece [] (.inl rfl) (aside _ [] [] (system.requeue_stretch _) rfl rfl)
  | setDelays abortDelay commitDelay =>
      exact .piece [] (.inl rfl) (aside _ [] [] (system.requeue_stretch _) rfl rfl)
  | setLag lag => exact .piece [] (.inl rfl) (aside _ [] [] (system.requeue_stretch _) rfl rfl)
  | stopLock => exact .stops rfl
  | stopStorage => exact .piece [] (.inl rfl) (system.stopStorage_piece named)

/-! The clock, and the stop of the lock's worker -/

theorem stopLock_named (system : System State Result) (named : system.Named) :
    system.stopLock.Named := by
  let stopped := { system with lockWorker := system.lockWorker.stop }
  have rested : stopped.Named := by
    refine named_of_waiters system stopped named rfl ?_ fun _ kept => kept
    intro waiter kept
    cases kept
  exact stopped.answerFlushes_named _ _ rested

theorem stopLock_custody (system : System State Result) (named : system.Named) :
    system.Custody system.stopLock [] system.workerHeld := by
  let stopped := { system with lockWorker := system.lockWorker.stop }
  have callsHeld : system.stopLock.callsHeld = system.callsHeld :=
    stopped.answerFlushes_callsHeld _ _ named.lock
  have handed : system.stopLock.handed = system.handed := rfl
  have worker : system.stopLock.workerHeld = [] := rfl
  intro test
  rw [held, held, callsHeld, handed, worker, List.countP_append, List.countP_append,
    List.countP_nil]
  omega

/-! Runs -/

theorem step_named (system : System State Result) (event : Event State Result)
    (named : system.Named) : (system.step event).Named := by
  cases system.step_effect event named with
  | piece toLock mail piece => exact piece.named
  | turn event_eq turn => exact turn.named
  | passes target event_eq => exact event_eq ▸ ⟨named.distinct, named.lock, named.storage⟩
  | stops event_eq => exact event_eq ▸ system.stopLock_named named

theorem step_lock (system : System State Result) (event : Event State Result)
    (named : system.Named) : (system.step event).lock = system.lockAfter (system.action? event) := by
  cases system.step_effect event named with
  | piece toLock mail piece => exact piece.lock
  | turn event_eq turn => exact turn.lock
  | passes target event_eq => exact event_eq ▸ rfl
  | stops event_eq => exact event_eq ▸ rfl

theorem step_custody (system : System State Result) (event : Event State Result)
    (named : system.Named) :
    system.Custody (system.step event) (system.parcels event) (system.dropped event) := by
  cases system.step_effect event named with
  | piece toLock mail piece => exact piece.custody
  | turn event_eq turn =>
      subst event_eq
      exact turn.custody
  | passes target event_eq =>
      subst event_eq
      exact custody_of_same _ _ rfl rfl
  | stops event_eq =>
      subst event_eq
      exact system.stopLock_custody named

theorem step_gate (system : System State Result) (event : Event State Result)
    (named : system.Named) :
    ∀ entry ∈ (system.step event).gate, entry ∈ system.gate ∨ entry ∈ newcomers event := by
  cases system.step_effect event named with
  | piece toLock mail piece => exact piece.gate
  | turn event_eq turn => exact fun entry waits => .inl (turn.gate entry waits)
  | passes target event_eq =>
      subst event_eq
      exact fun entry waits => .inl waits
  | stops event_eq =>
      subst event_eq
      let stopped := { system with lockWorker := system.lockWorker.stop }
      exact fun entry waits => .inl (stopped.answerFlushes_gate _ _ entry waits)

/-- Whoever enters has waited at the gate or comes just now. -/
theorem action?_enter (system : System State Result) (event : Event State Result)
    (request : EntryRequest State Result) (action : system.action? event = some (.enter request)) :
    request ∈ system.gate ∨ request ∈ newcomers event := by
  cases event with
  | call call asked =>
      by_cases free : system.isFree call = true
      · simp only [action?, free, ↓reduceIte] at action
        cases asked with
        | enter entry =>
            by_cases gate : system.queue.gateOpen = true
            · simp only [requestAction?, gate, ↓reduceIte, Option.some.injEq,
                LockAction.enter.injEq] at action
              exact .inr (List.mem_singleton.mpr action.symm)
            · simp [requestAction?, gate] at action
        | _ => cases action
      · simp [action?, free] at action
  | turn task =>
      by_cases ready : task ∈ system.ready
      · simp only [action?, ready, ↓reduceIte] at action
        cases task with
        | storage => cases action
        | lock =>
            simp only [turnAction?, lookAction?] at action
            split at action <;> cases action
        | call call =>
            obtain ⟨pending, found, same⟩ := Option.bind_eq_some_iff.mp action
            refine .inl (List.mem_filterMap.mpr ⟨pending, List.mem_of_find?_eq_some found, ?_⟩)
            cases stage : pending.stage with
            | atGate entry =>
                by_cases gate : system.queue.gateOpen = true
                · simp only [stage, stageAction?, gate, ↓reduceIte, Option.some.injEq,
                    LockAction.enter.injEq] at same
                  exact congrArg some same
                · simp [stage, stageAction?, gate] at same
            | _ => simp [stage, stageAction?] at same
      · simp [action?, ready] at action
  | _ => cases action

/-- What holds at the start and is preserved by every event of a run holds after the run. -/
theorem run_invariant (holds : System State Result → Prop) (system : System State Result)
    (events : List (Event State Result))
    (preserves : ∀ system, ∀ event ∈ events, holds system → holds (system.step event))
    (start : holds system) : holds (system.run events) := by
  induction events generalizing system with
  | nil => exact start
  | cons event rest ih =>
      apply ih (system.step event) fun system later member =>
        preserves system later (List.mem_cons_of_mem event member)
      exact preserves system event List.mem_cons_self start

end System

end WoundWait
