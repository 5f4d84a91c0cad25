import Mathlib
import WoundWait.Proofs.ExitSteps

/-!
How groups leave for commit. Over a run the steps of the lock's worker are whole exits, one after
the other, and one that is not finished yet; nothing else is handed over for commit, and whoever
comes later is no part of them.
-/

namespace WoundWait

variable {State Result : Type}

namespace TransactionRecord

theorem commitsBefore_total (first second : TransactionRecord State) :
    (first.commitsBefore second || second.commitsBefore first) = true := by
  have order : first.priority ≤ second.priority ∨ second.priority ≤ first.priority :=
    Nat.le_total first.priority.value second.priority.value
  unfold commitsBefore
  cases first.timestamp with
  | none =>
      cases second.timestamp with
      | none => simpa only [Bool.or_eq_true, decide_eq_true_eq] using order
      | some later => rfl
  | some earlier =>
      cases second.timestamp with
      | none => rfl
      | some later =>
          simp only [Bool.or_eq_true, Bool.and_eq_true, decide_eq_true_eq, beq_iff_eq]
          rcases Int.lt_trichotomy earlier later with sooner | same | later
          · exact .inl (.inl sooner)
          · rcases order with older | younger
            · exact .inl (.inr ⟨same, older⟩)
            · exact .inr (.inr ⟨same.symm, younger⟩)
          · exact .inr (.inl later)

theorem commitsBefore_trans (first second third : TransactionRecord State)
    (sooner : first.commitsBefore second = true) (later : second.commitsBefore third = true) :
    first.commitsBefore third = true := by
  unfold commitsBefore at *
  cases one : first.timestamp <;> cases two : second.timestamp <;> cases three : third.timestamp <;>
    simp only [one, two, three, Bool.or_eq_true, Bool.and_eq_true, decide_eq_true_eq, beq_iff_eq,
      Bool.false_eq_true] at sooner later ⊢
  · exact Nat.le_trans sooner later
  · rcases sooner with sooner | ⟨rfl, older⟩
    · rcases later with later | ⟨rfl, _⟩
      · exact .inl (Int.lt_trans sooner later)
      · exact .inl sooner
    · rcases later with later | ⟨rfl, older'⟩
      · exact .inl later
      · exact .inr ⟨rfl, Nat.le_trans older older'⟩

end TransactionRecord

/-- An exit is of everybody who remains, in the order in which they are to commit. -/
theorem Lock.exit_taken (lock : Lock State) (clock : Instant) (records : List (TransactionRecord State))
    (exit : (lock.tick clock).1 = .exit records) :
    records ≠ [] ∧ records.Perm lock.remaining ∧
      (∀ record ∈ records, record.role.isExitReady = true) ∧
      (records.Pairwise fun first second => first.commitsBefore second = true) ∧
      (lock.tick clock).2.group = none := by
  have looks := lock.tick_looks clock
  generalize (lock.tick clock).2 = after at looks ⊢
  rw [exit] at looks
  cases looks with
  | exit somebody ready =>
      have all := List.mergeSort_perm lock.remaining TransactionRecord.commitsBefore
      refine ⟨?_, all, fun record member => ready record (all.subset member), ?_, rfl⟩
      · intro nobody
        rw [nobody] at all
        exact somebody (List.nil_perm.mp all)
      · exact List.pairwise_mergeSort TransactionRecord.commitsBefore_trans
          TransactionRecord.commitsBefore_total _

namespace System

/-! Everybody else -/

theorem parcelsOf_aborts (system : System State Result) (action : Option (LockAction State Result))
    (other : action ≠ some .tick) : ∀ parcel ∈ system.parcelsOf action, parcel.1 ≠ .commit := by
  cases action with
  | none =>
      intro parcel leaves
      cases leaves
  | some done => exact system.lock.handsOver_aborts system.clock done fun same => other (same ▸ rfl)

theorem requestParcels_aborts (system : System State Result) (request : Request State Result)
    (through : ∀ record outcome, request ≠ .handOver record outcome) :
    ∀ parcel ∈ system.requestParcels request, parcel.1 ≠ .commit := by
  cases request with
  | handOver record outcome => exact absurd rfl (through record outcome)
  | _ => exact system.parcelsOf_aborts _ (system.requestAction?_tick _)

def SparesCommits (system : System State Result) : Prop :=
  ∀ pending ∈ system.calls, ∀ parcel ∈ pending.stage.held, parcel.1 ≠ .commit

theorem does_spared (system : System State Result) (lock : Lock State)
    (toLock toStorage : List (WakeRequest CallId)) (parcels : List (Parcel State))
    (result : System State Result × Progress State Result)
    (does : system.Does lock toLock toStorage parcels result)
    (aborts : ∀ parcel ∈ parcels, parcel.1 ≠ .commit) :
    result.1.commitsHanded = system.commitsHanded ∧
      ∀ parcel ∈ result.2.held, parcel.1 ≠ .commit := by
  obtain ⟨delivered, stretch, perm⟩ := does
  constructor
  · refine spared_commits system result.1 delivered stretch.handed ?_
    exact fun parcel member => aborts parcel (perm.subset (List.mem_append_left _ member))
  · exact fun parcel member => aborts parcel (perm.subset (List.mem_append_right _ member))

theorem begun_spared (system : System State Result) (call : CallId)
    (request : Request State Result)
    (through : ∀ record outcome, request ≠ .handOver record outcome) :
    (system.start call request).1.commitsHanded = system.commitsHanded ∧
      ∀ parcel ∈ (system.start call request).2.held, parcel.1 ≠ .commit :=
  does_spared _ _ _ _ _ _ (system.start_does call request)
    (system.requestParcels_aborts request through)

theorem resumed_spared (system : System State Result) (spares : system.SparesCommits)
    (pending : PendingCall State Result) (present : pending ∈ system.calls) :
    (system.proceed pending.stage).1.commitsHanded = system.commitsHanded ∧
      ∀ parcel ∈ (system.proceed pending.stage).2.held, parcel.1 ≠ .commit := by
  apply does_spared _ _ _ _ _ _ (system.proceed_does pending.stage)
  intro parcel member
  rcases List.mem_append.mp member with held | leaves
  · exact spares pending present parcel held
  · exact system.parcelsOf_aborts _ (system.stageAction?_tick pending.stage) parcel leaves

theorem spawn_handed (system : System State Result) (call : CallId)
    (request : Request State Result) :
    (system.spawn call request).handed = (system.start call request).1.handed := by
  cases progress : system.start call request with
  | mk started outcome =>
      cases outcome with
      | answered answer =>
          simp only [spawn, begin, progress]
          rfl
      | waits stage => simp [spawn, begin, progress, wake, handed]

theorem storageTurn_handed (system : System State Result) :
    system.storageTurn.handed = system.handed := by
  simp only [storageTurn]
  split
  · split <;> rfl
  · rfl

theorem step_spared (system : System State Result) (event : Event State Result)
    (through : ¬ IsDirect event) (other : event ≠ .turn .lock) (spares : system.SparesCommits) :
    (system.step event).commitsHanded = system.commitsHanded := by
  have same (after : System State Result) (handed : after.handed = system.handed) :
      after.commitsHanded = system.commitsHanded := by
    rw [commitsHanded, commitsHanded, handed]
  cases event with
  | call call request =>
      by_cases free : system.isFree call = true
      · have begun := (system.begun_spared call request
          fun record outcome same => through ⟨call, record, outcome, same ▸ rfl⟩).1
        rw [commitsHanded] at begun
        simp only [step, free, ↓reduceIte]
        rw [commitsHanded, spawn_handed]
        exact begun
      · simp [step, free]
  | turn task =>
      by_cases ready : task ∈ system.ready
      · cases task with
        | lock => exact absurd rfl other
        | storage =>
            rw [system.step_turn_storage ready]
            exact same _ (storageTurn_handed _)
        | call call =>
            let resumed := { system with ready := system.ready.erase (.call call) }
            cases found : system.findCall? call with
            | none =>
                rw [system.step_turn_absent call ready found]
                rfl
            | some pending =>
                have located : resumed.findCall? call = some pending := found
                have present := (named?_some system.calls call pending found).1
                have kept := (resumed.resumed_spared spares pending present).1
                cases progress : resumed.proceed pending.stage with
                | mk proceeded outcome =>
                    obtain ⟨journal, handed, after⟩ :=
                      resumed.resume_found proceeded call pending outcome located progress
                    rw [progress, commitsHanded] at kept
                    rw [system.step_turn_call call ready, after, commitsHanded]
                    have told : ({ proceeded with
                        calls := callsAfter proceeded.calls call outcome, journal } :
                          System State Result).handed = proceeded.handed := handed
                    rw [told]
                    exact kept
      · rw [system.step_unready task ready]
  | assignRole transaction role timestamp =>
      simp only [step, assignRole]
      split
      · exact same _ (System.notifyLock_stretch _).handed
      · rfl
  | withRecord transaction operation =>
      simp only [step, withRecord]
      split <;> rfl
  | notifyLock => exact same _ system.notifyLock_stretch.handed
  | notifyStorage => exact same _ system.notifyStorage_stretch.handed
  | _ => rfl

theorem step_sparesCommits (system : System State Result) (event : Event State Result)
    (named : system.Named) (through : ¬ IsDirect event) (spares : system.SparesCommits) :
    (system.step event).SparesCommits := by
  intro pending present parcel member
  have waits : pending.stage.isFlushing = false := by
    cases stage : pending.stage with
    | flushing answer =>
        rw [stage] at member
        cases member
    | _ => rfl
  rcases system.step_pending event named pending present waits with old | came
  · exact spares pending old parcel member
  · cases system.progress?_origin event _ _ came with
    | begun request event_eq free started =>
        have aborts := (system.begun_spared pending.call request fun record outcome same =>
          through ⟨pending.call, record, outcome, same ▸ event_eq⟩).2
        rw [← started] at aborts
        exact aborts parcel member
    | resumed before event_eq ready found proceeded =>
        have there := (named?_some _ _ _ found).1
        have aborts := (resumed_spared { system with
          ready := system.ready.erase (.call pending.call) } spares before there).2
        rw [← proceeded] at aborts
        exact aborts parcel member

/-! Runs -/

/-- Only a turn of the lock's worker, or its stop, changes the phase that it is in. -/
theorem step_phase (system : System State Result) (event : Event State Result)
    (named : system.Named) (other : event ≠ .turn .lock) (alive : event ≠ .stopLock) :
    (system.step event).lockWorker.phase = system.lockWorker.phase := by
  cases system.step_effect event named with
  | piece toLock mail piece => exact piece.lockWorker.phase
  | turn event_eq turn => exact absurd event_eq other
  | passes target event_eq =>
      subst event_eq
      rfl
  | stops event_eq => exact absurd event_eq alive

theorem exitSteps_other (system : System State Result) (event : Event State Result)
    (other : event ≠ .turn .lock) : system.exitSteps event = [] := by
  cases event with
  | turn task =>
      cases task with
      | lock => exact absurd rfl other
      | _ => rfl
  | _ => rfl

/-- A turn of the lock's worker does what its steps tell. -/
structure Performs (system : System State Result) (event : Event State Result) : Prop where
  commits : event = .turn .lock → (system.step event).commitsHanded =
    system.commitsHanded ++ (system.exitSteps event).filterMap ExitStep.returned?
  storage : event = .turn .lock → system.storageWorker.Receives (system.step event).storageWorker
    ((system.exitSteps event).filterMap ExitStep.toStorage?)
  lock : system.exitSteps event ≠ [] → (system.step event).lockWorker.mailbox =
    (if system.lockWorker.isWaiting then [] else system.lockWorker.mailbox) ++
      (system.exitSteps event).filterMap ExitStep.toLock?
  other : event ≠ .turn .lock → system.exitSteps event = []

theorem step_exits (system : System State Result) (event : Event State Result)
    (named : system.Named) (alive : event ≠ .stopLock) (unfinished : List (ExitStep State))
    (is : Unfinished system.lockWorker.phase unfinished) :
    system.Performs event ∧
      Continues system.lockWorker.phase (system.step event).lockWorker.phase
        (system.exitSteps event) := by
  have nothing (after : WorkerPhase (TickRun State) CallId)
      (phase : after = system.lockWorker.phase) :
      Continues system.lockWorker.phase after ([] : List (ExitStep State)) := by
    intro other still
    exact ⟨[], other, by simp, phase ▸ still⟩
  by_cases own : event = .turn .lock
  · subst own
    by_cases ready : .lock ∈ system.ready
    · have turn := lockTurn_exitTurn { system with ready := system.ready.erase .lock } unfinished is
      have same := system.step_turn_lock ready
      have told : system.exitSteps (.turn .lock) =
          { system with ready := system.ready.erase .lock }.lockExitSteps := by
        simp only [exitSteps, ready, ↓reduceIte]
      refine ⟨⟨?_, ?_, ?_, fun other => absurd rfl other⟩, ?_⟩
      · intro _
        rw [same, told]
        exact turn.commits
      · intro _
        rw [same, told]
        exact turn.storage
      · rw [same, told]
        exact turn.lock
      · rw [same, told]
        exact turn.continues
    · have same := system.step_unready .lock ready
      have told : system.exitSteps (.turn .lock) = [] := by simp [exitSteps, ready]
      refine ⟨⟨?_, ?_, fun some => absurd told some, fun other => absurd rfl other⟩, ?_⟩
      · intro _
        rw [same, told]
        simp
      · intro _
        rw [same, told]
        exact system.storageWorker.receives_refl
      · rw [told]
        exact nothing _ (by rw [same])
  · have told := system.exitSteps_other event own
    refine ⟨⟨fun same => absurd same own, fun same => absurd same own, fun some => absurd told some,
      fun _ => told⟩, ?_⟩
    rw [told]
    exact nothing _ (system.step_phase event named own alive)

theorem run_script (system : System State Result) (events : List (Event State Result))
    (named : system.Named) (alive : .stopLock ∉ events) (unfinished : List (ExitStep State))
    (is : Unfinished system.lockWorker.phase unfinished) :
    ∃ (exits : List (List (TransactionRecord State))) (left : List (ExitStep State)),
      unfinished ++ gather exitSteps system events = exits.flatMap ExitStep.exit ++ left ∧
      Unfinished (system.run events).lockWorker.phase left := by
  induction events generalizing system unfinished with
  | nil => exact ⟨[], unfinished, by simp [gather], is⟩
  | cons event later ih =>
      rw [List.mem_cons, not_or] at alive
      have continues := (system.step_exits event named (Ne.symm alive.1) unfinished is).2
      obtain ⟨exits, left, split, still⟩ := continues unfinished is
      obtain ⟨exits', left', split', still'⟩ :=
        ih (system.step event) (system.step_named event named) alive.2 left still
      refine ⟨exits ++ exits', left', ?_, still'⟩
      calc unfinished ++ gather exitSteps system (event :: later)
        _ = (unfinished ++ system.exitSteps event) ++ gather exitSteps (system.step event) later :=
            (List.append_assoc _ _ _).symm
        _ = exits.flatMap ExitStep.exit ++ (left ++ gather exitSteps (system.step event) later) := by
            rw [split, List.append_assoc]
        _ = (exits ++ exits').flatMap ExitStep.exit ++ left' := by
            rw [split', List.flatMap_append, List.append_assoc]

/-- While nobody goes past the lock, all commits are those of exits. -/
theorem run_commits (system : System State Result) (events : List (Event State Result))
    (named : system.Named) (alive : .stopLock ∉ events) (through : ∀ event ∈ events, ¬ IsDirect event)
    (spares : system.SparesCommits) (unfinished : List (ExitStep State))
    (is : Unfinished system.lockWorker.phase unfinished) :
    (system.run events).commitsHanded =
      system.commitsHanded ++ (gather exitSteps system events).filterMap ExitStep.returned? := by
  induction events generalizing system unfinished with
  | nil => simp [gather, run]
  | cons event later ih =>
      rw [List.mem_cons, not_or] at alive
      rw [List.forall_mem_cons] at through
      obtain ⟨performs, continues⟩ := system.step_exits event named (Ne.symm alive.1) unfinished is
      obtain ⟨_, left, _, still⟩ := continues unfinished is
      have commits : (system.step event).commitsHanded =
          system.commitsHanded ++ (system.exitSteps event).filterMap ExitStep.returned? := by
        by_cases own : event = .turn .lock
        · exact performs.commits own
        · rw [performs.other own, system.step_spared event through.1 own spares]
          simp
      have rest := ih (system.step event) (system.step_named event named) alive.2 through.2
        (system.step_sparesCommits event named through.1 spares) left still
      calc (system.run (event :: later)).commitsHanded
        _ = (system.step event).commitsHanded ++
              (gather exitSteps (system.step event) later).filterMap ExitStep.returned? := rest
        _ = system.commitsHanded ++
              (gather exitSteps system (event :: later)).filterMap ExitStep.returned? := by
            rw [commits, List.append_assoc, ← List.filterMap_append]
            rfl

/-! Whom an exit takes -/

theorem ExitStep.takes_hands (taken records : List (TransactionRecord State)) :
    .takes taken ∉ ExitStep.hands records := by
  simp [ExitStep.hands]

theorem takes_handOffSteps (system : System State Result) (taken records : List (TransactionRecord State)) :
    .takes taken ∉ system.handOffSteps records := by
  obtain ⟨handed, _, ⟨_, _, told⟩ | ⟨_, _, _, _, _, told⟩⟩ := system.deliverExits_exitSteps records <;>
    simp [told, ExitStep.takes_hands]

structure Takes (system : System State Result) (event : Event State Result)
    (records : List (TransactionRecord State)) : Prop where
  decided : system.action? event = some .tick ∧ (system.lock.tick system.clock).1 = .exit records
  somebody : records ≠ []
  whole : records.Perm system.lock.remaining
  once : (records.map fun record => record.transaction).Nodup
  ready : ∀ record ∈ records, record.role.isExitReady = true
  ordered : records.Pairwise fun first second => first.commitsBefore second = true
  detached : (system.step event).lock.group = none

theorem exitSteps_takes (system : System State Result) (event : Event State Result)
    (records : List (TransactionRecord State)) :
    .takes records ∈ system.exitSteps event ↔
      system.action? event = some .tick ∧ (system.lock.tick system.clock).1 = .exit records := by
  constructor
  · intro exitStep
    have own : event = .turn .lock := by
      by_contra other
      rw [system.exitSteps_other event other] at exitStep
      cases exitStep
    subst own
    by_cases ready : .lock ∈ system.ready
    · simp only [exitSteps, ready, ↓reduceIte, lockExitSteps] at exitStep
      cases phase : system.lockWorker.phase with
      | stopped => simp [phase] at exitStep
      | running run taken =>
          cases run with
          | breaking pending => simp [phase] at exitStep
          | exiting current rest =>
              simp only [phase] at exitStep
              split at exitStep
              · simp [takes_handOffSteps] at exitStep
              · cases exitStep
      | waiting =>
          simp only [phase] at exitStep
          split at exitStep
          · rename_i asked
            refine ⟨by simp [action?, ready, turnAction?, lookAction?, Worker.isWaiting, phase, asked], ?_⟩
            cases decision : (system.lock.tick system.clock).1 with
            | exit taken =>
                simp only [decision, List.mem_cons, ExitStep.takes.injEq, takes_handOffSteps, or_false]
                  at exitStep
                rw [exitStep]
            | _ => simp [decision] at exitStep
          · cases exitStep
    · simp [exitSteps, ready] at exitStep
  · rintro ⟨look, exit⟩
    have own := system.action?_tick event look
    subst own
    by_cases ready : .lock ∈ system.ready
    · simp only [action?, ready, ↓reduceIte, turnAction?, lookAction?] at look
      split at look
      · rename_i asked
        rw [Bool.and_eq_true, Worker.isWaiting] at asked
        cases phase : system.lockWorker.phase with
        | waiting => simp [exitSteps, ready, lockExitSteps, phase, asked.2, exit]
        | _ => simp [phase] at asked
      · cases look
    · simp [action?, ready] at look

theorem exitSteps_taken (system : System State Result) (event : Event State Result)
    (records : List (TransactionRecord State)) (named : system.Named) (kept : system.lock.WellKept)
    (taken : .takes records ∈ system.exitSteps event) : system.Takes event records := by
  obtain ⟨look, exit⟩ := (system.exitSteps_takes event records).mp taken
  obtain ⟨somebody, whole, ready, ordered, detached⟩ := Lock.exit_taken _ _ _ exit
  refine ⟨⟨look, exit⟩, somebody, whole, ?_, ready, ordered, ?_⟩
  · have names := whole.map fun record => record.transaction
    exact names.nodup_iff.mpr ((List.filter_sublist.map _).nodup kept.distinct)
  · rw [system.step_lock event named, look]
    exact detached

/-- Records are numbered as they are made, so those of a group that is gone come before all others.
-/
theorem run_later (system : System State Result) (events : List (Event State Result))
    (named : system.Named) (kept : system.lock.WellKept) (bound : Nat)
    (made : bound ≤ system.lock.admissions)
    (later : ∀ member ∈ system.lock.members, bound ≤ member.serial) :
    ∀ member ∈ (system.run events).lock.members, bound ≤ member.serial := by
  let holds (system : System State Result) : Prop :=
    system.Named ∧ system.lock.WellKept ∧ bound ≤ system.lock.admissions ∧
      ∀ member ∈ system.lock.members, bound ≤ member.serial
  have after : holds (system.run events) := by
    refine run_invariant holds system events ?_ ⟨named, kept, made, later⟩
    rintro system event _ ⟨named, kept, made, later⟩
    have lock := system.step_lock event named
    refine ⟨system.step_named event named, lock ▸ system.lockAfter_wellKept _ kept, ?_⟩
    rw [lock]
    cases action : system.action? event with
    | none => exact ⟨made, later⟩
    | some action' =>
        refine ⟨Nat.le_trans made (system.lock.perform_admissions_le system.clock action'), ?_⟩
        intro member present
        rcases system.lock.perform_origin kept.distinct system.clock action' member present with
          ⟨before, resident, same⟩ | ⟨serial, _⟩
        · have old := later before resident
          rwa [show before.serial = member.serial from congrArg Prod.fst same] at old
        · rwa [serial]
  exact after.2.2.2

theorem taken_later (options : Options) (before after : List (Event State Result))
    (event : Event State Result) (records : List (TransactionRecord State))
    (taken : .takes records ∈ ((new options).run before).exitSteps event) :
    ∀ record ∈ records, ∀ member ∈ ((new options).run (before ++ event :: after)).lock.members,
      record.serial < member.serial := by
  intro record mine member present
  have isolated := run_isolated options (new options) before [] (new_isolated options)
  have split : (new options).run (before ++ event :: after) =
      (((new options).run before).step event).run after := List.foldl_append
  rw [split] at present
  generalize (new options : System State Result).run before = system at taken isolated present
  have takes := system.exitSteps_taken event records isolated.orderly.named isolated.orderly.kept taken
  have orderly := step_orderly options system event isolated.orderly
  have old : record.serial < system.lock.admissions :=
    isolated.lock.numbered record (List.mem_of_mem_filter (takes.whole.subset mine))
  have same : (system.step event).lock.admissions = system.lock.admissions := by
    rw [system.step_lock event isolated.orderly.named, takes.decided.1]
    exact Lock.looks_admissions _ _ _ _ (system.lock.tick_looks system.clock)
  have nobody : (system.step event).lock.members = [] := Lock.members_none _ takes.detached
  have after := (system.step event).run_later after orderly.named orderly.kept
    system.lock.admissions (Nat.le_of_eq same.symm) (by simp [nobody]) member present
  omega

/-- How a run hands records over for commit. -/
structure ExitsInTurn (options : Options) (events : List (Event State Result)) : Prop where
  -- There are whole exits, one after the other, and one that is not finished.
  script : ∃ (exits : List (List (TransactionRecord State))) (unfinished : List (ExitStep State)),
    gather exitSteps (new options) events = exits.flatMap ExitStep.exit ++ unfinished ∧
      Unfinished ((new options).run events).lockWorker.phase unfinished
  handed : (∀ event ∈ events, ¬ IsDirect event) →
    ((new options).run events).commitsHanded =
      (gather exitSteps (new options) events).filterMap ExitStep.returned?
  performs : ∀ before event after, events = before ++ event :: after →
    ((new options).run before).Performs event
  -- A tick that decides upon an exit takes the records, and nothing else does.
  told : ∀ before event after records, events = before ++ event :: after →
    (.takes records ∈ ((new options).run before).exitSteps event ↔
      ((new options).run before).action? event = some .tick ∧
        (((new options).run before).lock.tick ((new options).run before).clock).1 = .exit records)
  taken : ∀ before event after records, events = before ++ event :: after →
    .takes records ∈ ((new options).run before).exitSteps event →
      ((new options).run before).Takes event records
  later : ∀ before event after records, events = before ++ event :: after →
    .takes records ∈ ((new options).run before).exitSteps event → ∀ record ∈ records,
      ∀ member ∈ ((new options).run events).lock.members, record.serial < member.serial

/-- While the worker is not stopped, whatever is asked for and whenever the queue is done with a
record, groups leave for commit as a whole, one after the other. -/
theorem run_exits_sequential (options : Options) (events : List (Event State Result))
    (alive : .stopLock ∉ events) : ExitsInTurn options events := by
  have start : Unfinished (new options : System State Result).lockWorker.phase [] := .waiting
  have named : (new options : System State Result).Named := new_named options
  constructor
  · exact (new options).run_script events named alive [] start
  · intro through
    refine (new options).run_commits events named alive through ?_ [] start
    intro pending present
    cases present
  · intro before event after split
    have apart : .stopLock ∉ before ∧ event ≠ .stopLock := by
      rw [split, List.mem_append, List.mem_cons, not_or, not_or] at alive
      exact ⟨alive.1, Ne.symm alive.2.1⟩
    obtain ⟨_, left, _, still⟩ := (new options).run_script before named apart.1 [] start
    exact (((new options).run before).step_exits event (run_orderly options before).named apart.2
      left still).1
  · intro before event after records _
    exact ((new options).run before).exitSteps_takes event records
  · intro before event after records _ taken
    have orderly : ((new options : System State Result).run before).Orderly options :=
      run_orderly options before
    exact ((new options).run before).exitSteps_taken event records orderly.named orderly.kept taken
  · intro before event after records split taken
    subst split
    exact taken_later options before after event records taken

def relay : List (Event Nat Unit) :=
  [.setDelays 0 5,
    .call 0 (.enter (.visit (.ofNat 1) ⟨1⟩ .zero .read)),
    .call 1 (.enter (.visit (.ofNat 2) ⟨2⟩ .zero .read)),
    .assignRole (.ofNat 1) .localCommit (-3),
    .assignRole (.ofNat 2) .readOnly (-7),
    .turn .lock,
    .call 2 (.enter (.visit (.ofNat 3) ⟨3⟩ .zero .read)),
    .pass 5, .turn .lock,
    .pass 10, .turn .lock]

/-- The reader who is to commit earlier goes first, and the third keeps the lock. -/
theorem relay_exits_sequential :
    .stopLock ∉ relay ∧
      ((new ⟨8000, 10000, 20000, 3⟩).run relay).commitsHanded.map
        (fun record => record.transaction) = [.ofNat 2, .ofNat 1] ∧
      ((new ⟨8000, 10000, 20000, 3⟩).run relay).lock.members.map
        (fun record => record.transaction) = [.ofNat 3] ∧
      ExitsInTurn ⟨8000, 10000, 20000, 3⟩ relay := by
  have alive : .stopLock ∉ relay := by simp [relay]
  refine ⟨alive, ?_, ?_, run_exits_sequential ⟨8000, 10000, 20000, 3⟩ relay alive⟩
  · cbv
  · cbv

end System

end WoundWait
