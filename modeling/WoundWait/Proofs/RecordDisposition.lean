import WoundWait.Proofs.LockDepartures
import WoundWait.Proofs.LockOccupancy

/-!
What becomes of every record that was ever made. It is resident, or it was handed over once, or it
went without a word, or it is on its way to the queue, where it stays if whoever holds it is cut
off.
-/

namespace WoundWait

variable {State Result : Type}

namespace System

/-! Histories of runs -/

/-- What the events of a run contribute, each in the system that it meets. -/
def gather {Item : Type} (found : System State Result → Event State Result → List Item)
    (system : System State Result) : List (Event State Result) → List Item
  | [] => []
  | event :: later => found system event ++ gather found (system.step event) later

theorem mem_gather {Item : Type}
    (found : System State Result → Event State Result → List Item) (system : System State Result)
    (events : List (Event State Result)) (item : Item) :
    item ∈ gather found system events ↔ ∃ before event after, events = before ++ event :: after ∧
      item ∈ found (system.run before) event := by
  induction events generalizing system with
  | nil => simp [gather]
  | cons event later ih =>
      rw [gather, List.mem_append, ih]
      constructor
      · rintro (now | ⟨before, next, after, split, member⟩)
        · exact ⟨[], event, later, rfl, now⟩
        · exact ⟨event :: before, next, after, by rw [split]; rfl, member⟩
      · rintro ⟨before, next, after, split, member⟩
        cases before with
        | nil =>
            obtain ⟨rfl, rfl⟩ := List.cons.inj split
            exact .inl member
        | cons first before =>
            obtain ⟨rfl, rfl⟩ := List.cons.inj split
            exact .inr ⟨before, next, after, rfl, member⟩

theorem gather_append {Item : Type}
    (found : System State Result → Event State Result → List Item) (system : System State Result)
    (before after : List (Event State Result)) :
    gather found system (before ++ after) =
      gather found system before ++ gather found (system.run before) after := by
  induction before generalizing system with
  | nil => rfl
  | cons event later ih =>
      rw [List.cons_append, gather, gather, ih, List.append_assoc]
      rfl

def admits (system : System State Result) (event : Event State Result) :
    List (Nat × TransactionId) :=
  (system.action? event).elim [] (system.lock.admits system.clock)

def silences (system : System State Result) (event : Event State Result) :
    List (TransactionRecord State) :=
  (system.action? event).elim [] system.lock.silences

def admitted (options : Options) (events : List (Event State Result)) :
    List (Nat × TransactionId) :=
  gather admits (new options) events

def silenced (options : Options) (events : List (Event State Result)) :
    List (TransactionRecord State) :=
  gather silences (new options) events

def withheld (options : Options) (events : List (Event State Result)) : List (Parcel State) :=
  ((new options).run events).held ++ gather dropped (new options) events

/-- At some moment of a run the record was resident, and an action made it leave in this way. -/
def LeftIn (options : Options) (events : List (Event State Result))
    (record : TransactionRecord State) (outcome : Option Outcome) : Prop :=
  ∃ before event after action, events = before ++ event :: after ∧
    ((new options).run before).action? event = some action ∧
    ((new options).run before).lock.Leaves ((new options).run before).clock action record outcome

/-- An event that hands something to the queue past the lock. -/
def IsDirect (event : Event State Result) : Prop :=
  ∃ call record outcome, event = .call call (.handOver record outcome)

theorem parcels_lock (system : System State Result) (event : Event State Result)
    (through : ¬ IsDirect event) : system.parcels event = system.parcelsOf (system.action? event) := by
  cases event with
  | call call request =>
      by_cases free : system.isFree call = true
      · cases request with
        | handOver record outcome => exact absurd ⟨call, record, outcome, rfl⟩ through
        | _ => simp [parcels, action?, requestParcels, free]
      · simp [parcels, action?, free]
  | _ => rfl

/-! The tally -/

theorem step_tally (system : System State Result) (event : Event State Result)
    (named : system.Named) (kept : system.lock.WellKept) (through : ¬ IsDirect event)
    (test : Nat × TransactionId → Bool) :
    (system.step event).lock.members.countP (fun record => test record.admission) +
        (system.step event).handed.countP (fun parcel => test parcel.2.admission) +
        (system.step event).held.countP (fun parcel => test parcel.2.admission) +
        (system.silences event).countP (fun record => test record.admission) +
        (system.dropped event).countP (fun parcel => test parcel.2.admission) =
      system.lock.members.countP (fun record => test record.admission) +
        system.handed.countP (fun parcel => test parcel.2.admission) +
        system.held.countP (fun parcel => test parcel.2.admission) +
        (system.admits event).countP test := by
  have custody := system.step_custody event named fun parcel => test parcel.2.admission
  rw [system.parcels_lock event through] at custody
  rw [system.step_lock event named]
  cases action : system.action? event with
  | none =>
      simp only [action, parcelsOf_none, List.countP_nil] at custody
      simp only [lockAfter_none, silences, admits, action, Option.elim_none, List.countP_nil]
      omega
  | some action' =>
      have tally := (system.lock.perform_tally kept.distinct system.clock action').countP_eq test
      simp only [Lock.departed, List.countP_append, List.countP_map] at tally
      simp only [action, parcelsOf, Option.elim_some] at custody
      simp only [lockAfter, silences, admits, action, Option.elim_some]
      simp only [Function.comp_def] at tally
      omega

/-- The tally of a whole run is that of its events. -/
theorem run_tally (options : Options) (system : System State Result)
    (events : List (Event State Result)) (orderly : system.Orderly options)
    (through : ∀ event ∈ events, ¬ IsDirect event) (test : Nat × TransactionId → Bool) :
    (system.run events).lock.members.countP (fun record => test record.admission) +
        (system.run events).handed.countP (fun parcel => test parcel.2.admission) +
        (system.run events).held.countP (fun parcel => test parcel.2.admission) +
        (gather silences system events).countP (fun record => test record.admission) +
        (gather dropped system events).countP (fun parcel => test parcel.2.admission) =
      system.lock.members.countP (fun record => test record.admission) +
        system.handed.countP (fun parcel => test parcel.2.admission) +
        system.held.countP (fun parcel => test parcel.2.admission) +
        (gather admits system events).countP test := by
  induction events generalizing system with
  | nil => simp [run, gather]
  | cons event later ih =>
      have step := system.step_tally event orderly.named orderly.kept
        (through event List.mem_cons_self) test
      have rest := ih (system.step event) (step_orderly options system event orderly)
        fun event member => through event (List.mem_cons_of_mem _ member)
      have run : system.run (event :: later) = (system.step event).run later := rfl
      simp only [run, gather, List.countP_append]
      omega

/-- All that was handed over, is held or was cut off once left the lock as a parcel. -/
theorem run_custody (system : System State Result) (events : List (Event State Result))
    (named : system.Named) (test : Parcel State → Bool) :
    (system.run events).handed.countP test + (system.run events).held.countP test +
        (gather dropped system events).countP test =
      system.handed.countP test + system.held.countP test +
        (gather parcels system events).countP test := by
  induction events generalizing system with
  | nil => simp [run, gather]
  | cons event later ih =>
      have step := system.step_custody event named test
      have rest := ih (system.step event) (system.step_named event named)
      have run : system.run (event :: later) = (system.step event).run later := rfl
      simp only [run, gather, List.countP_append]
      omega

/-- Admissions are numbered in the order in which they are made. -/
theorem gather_numbers (system : System State Result) (events : List (Event State Result))
    (named : system.Named) :
    (gather admits system events).map Prod.fst =
      List.range' system.lock.admissions (gather admits system events).length := by
  induction events generalizing system with
  | nil => rfl
  | cons event later ih =>
      have rest := ih (system.step event) (system.step_named event named)
      rw [system.step_lock event named] at rest
      cases action : system.action? event with
      | none =>
          have nobody : system.admits event = [] := by simp [admits, action]
          rw [action, lockAfter_none] at rest
          rw [gather, nobody, List.nil_append]
          exact rest
      | some action' =>
          have same : system.admits event = system.lock.admits system.clock action' := by
            simp [admits, action]
          have after : system.lockAfter (some action') = system.lock.perform system.clock action' := rfl
          rw [action, after] at rest
          rcases system.lock.admits_cases system.clock action' with
            ⟨nobody, count⟩ | ⟨transaction, somebody, count⟩
          · rw [count] at rest
            rw [gather, same, nobody, List.nil_append]
            exact rest
          · rw [count] at rest
            rw [gather, same, somebody, List.singleton_append, List.map_cons, List.length_cons,
              List.range'_succ, rest]

theorem admitted_nodup (options : Options) (events : List (Event State Result)) :
    (admitted options events).Nodup := by
  have numbers := gather_numbers (new options) events (new_named options)
  have distinct : ((gather admits (new options) events).map Prod.fst).Nodup := by
    rw [numbers]
    exact List.nodup_range'
  exact distinct.of_map

/-! Causes -/

theorem parcels_leftIn (options : Options) (events : List (Event State Result))
    (through : ∀ event ∈ events, ¬ IsDirect event) (parcel : Parcel State)
    (left : parcel ∈ gather parcels (new options) events) :
    LeftIn options events parcel.2 (some parcel.1) := by
  obtain ⟨before, event, after, split, member⟩ := (mem_gather _ _ _ _).mp left
  rw [parcels_lock _ event (through event (by simp [split]))] at member
  cases action : ((new options).run before).action? event with
  | none =>
      rw [action] at member
      cases member
  | some action' =>
      rw [action] at member
      have timed := (run_orderly options before).kept.timed
      exact ⟨before, event, after, action', split, action,
        Lock.handsOver_leaves _ timed _ action' parcel member⟩

theorem silenced_leftIn (options : Options) (events : List (Event State Result))
    (record : TransactionRecord State) (silent : record ∈ silenced options events) :
    LeftIn options events record none := by
  obtain ⟨before, event, after, split, member⟩ := (mem_gather _ _ _ _).mp silent
  cases action : ((new options).run before).action? event with
  | none =>
      rw [silences, action] at member
      cases member
  | some action' =>
      rw [silences, action] at member
      exact ⟨before, event, after, action', split, action,
        Lock.silences_leaves _ _ action' record member⟩

/-- Whatever was handed over or is withheld was once put on its way. -/
theorem moved_parcels (options : Options) (events : List (Event State Result))
    (parcel : Parcel State)
    (moved : parcel ∈ ((new options).run events).handed ∨ parcel ∈ withheld options events) :
    parcel ∈ gather parcels (new options) events := by
  classical
  have custody := run_custody (new options) events (new_named options) fun other =>
    decide (other = parcel)
  have none : (new options : System State Result).handed.countP (fun other =>
      decide (other = parcel)) + (new options : System State Result).held.countP (fun other =>
      decide (other = parcel)) = 0 := rfl
  have somewhere : 0 < ((new options).run events).handed.countP (fun other =>
      decide (other = parcel)) + ((new options).run events).held.countP (fun other =>
      decide (other = parcel)) + (gather dropped (new options) events).countP (fun other =>
      decide (other = parcel)) := by
    have found (parcels : List (Parcel State)) (member : parcel ∈ parcels) :
        0 < parcels.countP fun other => decide (other = parcel) :=
      List.countP_pos_iff.mpr ⟨parcel, member, by simp⟩
    rcases moved with handed | kept
    · have positive := found _ handed
      omega
    · rcases List.mem_append.mp kept with held | lost
      · have positive := found _ held
        omega
      · have positive := found _ lost
        omega
  rw [custody, none, Nat.zero_add] at somewhere
  obtain ⟨other, left, same⟩ := List.countP_pos_iff.mp somewhere
  exact of_decide_eq_true same ▸ left

/-- Whatever left the lock is accounted for, and nothing else is on its way. -/
theorem moved_leftIn (options : Options) (events : List (Event State Result))
    (through : ∀ event ∈ events, ¬ IsDirect event) (parcel : Parcel State)
    (moved : parcel ∈ ((new options).run events).handed ∨ parcel ∈ withheld options events) :
    LeftIn options events parcel.2 (some parcel.1) :=
  parcels_leftIn options events through parcel (moved_parcels options events parcel moved)

/-- A lock hands over for no other reasons. -/
theorem countP_outcomes (parcels : List (Parcel State)) (admission : Nat × TransactionId)
    (reasons : ∀ parcel ∈ parcels, parcel.1 = .commit ∨ parcel.1 = .abort .brokenLock) :
    parcels.countP (fun parcel => parcel.2.admission == admission) =
      parcels.countP (fun parcel => parcel.1 == .commit && parcel.2.admission == admission) +
        parcels.countP fun parcel =>
          parcel.1 == .abort .brokenLock && parcel.2.admission == admission := by
  induction parcels with
  | nil => rfl
  | cons parcel rest ih =>
      have later := ih fun parcel member => reasons parcel (List.mem_cons_of_mem _ member)
      rcases reasons parcel List.mem_cons_self with commit | broken
      · have different : (Outcome.commit == Outcome.abort .brokenLock) = false := rfl
        simp only [List.countP_cons, commit, BEq.rfl, Bool.true_and, different, Bool.false_and,
          Bool.false_eq_true, ↓reduceIte]
        omega
      · have different : (Outcome.abort .brokenLock == Outcome.commit) = false := rfl
        simp only [List.countP_cons, broken, BEq.rfl, Bool.true_and, different, Bool.false_and,
          Bool.false_eq_true, ↓reduceIte]
        omega

/-- What becomes of the records that a run makes. -/
structure Accounted (options : Options) (events : List (Event State Result)) : Prop where
  -- Each is resident, or was handed over for commit, or was handed over as broken, or went without
  -- a word, or is withheld: one of these, and that once.
  once : ∀ admission ∈ admitted options events,
    ((new options).run events).lock.members.countP (fun record => record.admission == admission) +
      ((new options).run events).handed.countP (fun parcel =>
        parcel.1 == .commit && parcel.2.admission == admission) +
      ((new options).run events).handed.countP (fun parcel =>
        parcel.1 == .abort .brokenLock && parcel.2.admission == admission) +
      (silenced options events).countP (fun record => record.admission == admission) +
      (withheld options events).countP (fun parcel => parcel.2.admission == admission) = 1
  -- What was handed over or is withheld left the lock for a reason that goes with its outcome.
  moved : ∀ parcel : Parcel State,
    parcel ∈ ((new options).run events).handed ∨ parcel ∈ withheld options events →
      LeftIn options events parcel.2 (some parcel.1)
  silent : ∀ record ∈ silenced options events, LeftIn options events record none
  settled : (∀ call, .giveUp call ∉ events) → .stopLock ∉ events →
    ((new options).run events).calls = [] →
    (∀ run taken, ((new options).run events).lockWorker.phase ≠ .running run taken) →
      withheld options events = []

theorem run_once (options : Options) (events : List (Event State Result))
    (through : ∀ event ∈ events, ¬ IsDirect event) (admission : Nat × TransactionId)
    (made : admission ∈ admitted options events) :
    ((new options).run events).lock.members.countP (fun record => record.admission == admission) +
      ((new options).run events).handed.countP (fun parcel => parcel.2.admission == admission) +
      (silenced options events).countP (fun record => record.admission == admission) +
      (withheld options events).countP (fun parcel => parcel.2.admission == admission) = 1 := by
  have orderly : (new options : System State Result).Orderly options :=
    ⟨new_named options, Lock.new_wellKept options, rfl⟩
  have tally := run_tally options (new options) events orderly through (· == admission)
  have single : (admitted options events).countP (· == admission) = 1 :=
    List.count_eq_one_of_mem (admitted_nodup options events) made
  have nothing : (new options : System State Result).lock.members.countP (fun record =>
      record.admission == admission) + (new options : System State Result).handed.countP
      (fun parcel => parcel.2.admission == admission) + (new options : System State Result).held.countP
      (fun parcel => parcel.2.admission == admission) = 0 := rfl
  rw [nothing, Nat.zero_add] at tally
  rw [admitted] at single
  rw [single] at tally
  rw [withheld, List.countP_append, silenced]
  omega

theorem settled_withheld (options : Options) (events : List (Event State Result))
    (kept : ∀ call, .giveUp call ∉ events) (alive : .stopLock ∉ events)
    (calls : ((new options).run events).calls = [])
    (resting : ∀ run taken, ((new options).run events).lockWorker.phase ≠ .running run taken) :
    withheld options events = [] := by
  have held : ((new options).run events).held = [] := by
    cases phase : ((new options).run events).lockWorker.phase with
    | running run taken => exact absurd phase (resting run taken)
    | waiting | stopped => simp [System.held, callsHeld, workerHeld, calls, phase]
  have lost : gather dropped (new options) events = [] := by
    apply List.eq_nil_iff_forall_not_mem.mpr
    intro parcel member
    obtain ⟨before, event, after, split, cut⟩ := (mem_gather _ _ _ _).mp member
    cases event with
    | giveUp call => exact kept call (by simp [split])
    | stopLock => exact alive (by simp [split])
    | _ => cases cut
  rw [withheld, held, lost, List.append_nil]

/-- In every run in which the queue is only used by the lock, every record ever made has one fate.
-/
theorem run_records_accounted (options : Options) (events : List (Event State Result))
    (through : ∀ event ∈ events, ¬ IsDirect event) : Accounted options events := by
  have moved := moved_leftIn options events through
  constructor
  · intro admission made
    have once := run_once options events through admission made
    rw [countP_outcomes _ admission] at once
    · omega
    · intro parcel handed
      obtain ⟨_, _, _, _, _, _, leaves⟩ := moved parcel (.inl handed)
      exact leaves.outcome
  · exact moved
  · exact silenced_leftIn options events
  · exact settled_withheld options events

def duel : List (Event Nat Unit) :=
  [.call 0 (.enter (.visit (.ofNat 2) ⟨2⟩ .zero .write)),
    .call 1 (.enter (.visit (.ofNat 1) ⟨1⟩ .zero .write))]

theorem duel_records_accounted :
    (∀ event ∈ duel, ¬ IsDirect event) ∧
      admitted ⟨8000, 10000, 20000, 1⟩ duel = [(0, .ofNat 2), (1, .ofNat 1)] ∧
      ((new ⟨8000, 10000, 20000, 1⟩).run duel).handed.map
        (fun parcel => (parcel.1, parcel.2.admission)) = [(.abort .brokenLock, 0, .ofNat 2)] ∧
      Accounted ⟨8000, 10000, 20000, 1⟩ duel := by
  have through : ∀ event ∈ duel, ¬ IsDirect event := by simp [duel, IsDirect]
  exact ⟨through, rfl, rfl, run_records_accounted ⟨8000, 10000, 20000, 1⟩ duel through⟩

end System

end WoundWait
