import WoundWait.Proofs.AttemptValidation

/-!
How a record counts. Its counts tell the accesses of the entries that were let in on it since it was
made, each as far as counts go, and nothing but such an entry changes them.
-/

namespace WoundWait

variable {State Result : Type}

namespace AccessCounter

theorem exceeds_false (counter other : AccessCounter) :
    counter.exceeds other = false ↔ counter.reads ≤ other.reads ∧ counter.writes ≤ other.writes := by
  simp [exceeds]

theorem increment_le (count : Nat) : count ≤ increment count := by
  unfold increment
  split
  · exact Nat.le_succ count
  · exact Nat.le_refl count

/-- Counting takes nothing back. -/
theorem foldl_record_grows (counter : AccessCounter) (modes : List AccessMode) :
    counter.exceeds (modes.foldl record counter) = false := by
  induction modes generalizing counter with
  | nil => exact (counter.exceeds_false counter).mpr ⟨Nat.le_refl _, Nat.le_refl _⟩
  | cons mode rest ih =>
      have later := (exceeds_false _ _).mp (ih (counter.record mode))
      refine (exceeds_false _ _).mpr ?_
      cases mode with
      | read => exact ⟨Nat.le_trans (increment_le counter.reads) later.1, later.2⟩
      | write => exact ⟨later.1, Nat.le_trans (increment_le counter.writes) later.2⟩

end AccessCounter

theorem Work.replay_accesses (works : List (Work State Result)) :
    (Work.replay works).accesses = .tally (works.filterMap Work.mode) := by
  have general (copy : Copy State) : (works.foldl Work.redo copy).accesses =
      (works.filterMap Work.mode).foldl AccessCounter.record copy.accesses := by
    induction works generalizing copy with
    | nil => rfl
    | cons work rest ih =>
        rw [List.foldl_cons, ih]
        cases mode : work.mode <;> simp [Work.redo, mode]
  exact general .blank

namespace System

def accessesOn (admission : Nat × TransactionId) (system : System State Result)
    (event : Event State Result) : List AccessMode :=
  match system.action? event with
  | some (.enter request) =>
      match system.lock.enter system.clock request with
      | .ok _ =>
          if (system.lock.entrant system.clock request).admission = admission then [request.mode]
          else []
      | .error _ => []
  | _ => []

theorem accessesOn_entered (system : System State Result) (event : Event State Result)
    (request : EntryRequest State Result) (entry : Entry State Result)
    (action : system.action? event = some (.enter request))
    (admitted : system.lock.enter system.clock request = .ok entry) :
    accessesOn (system.lock.entrant system.clock request).admission system event =
      [request.mode] := by
  simp [accessesOn, action, admitted]

theorem accessesOn_works (admission : Nat × TransactionId) (system : System State Result)
    (event : Event State Result) :
    accessesOn admission system event =
      (Work.on admission (system.works event)).filterMap Work.mode := by
  cases action : system.action? event with
  | none => simp [accessesOn, works, action, Work.on]
  | some done =>
      cases done with
      | enter request =>
          cases outcome : system.lock.enter system.clock request with
          | error refusal =>
              have idle := system.lock.works_refused system.clock request refusal outcome
              simp [accessesOn, works, action, outcome, idle, Work.on]
          | ok entry =>
              have worked := system.lock.works_entered system.clock request entry outcome
              by_cases own : (system.lock.entrant system.clock request).admission = admission
              · simp [accessesOn, works, action, outcome, worked, own, Work.on, Work.admission]
              · simp [accessesOn, works, action, outcome, worked, own, Work.on, Work.admission]
      | edit transaction operation =>
          cases found : system.lock.find? transaction <;>
            simp [accessesOn, works, action, Lock.works, found, Work.on, List.filter_cons, apply_ite]
      | _ => simp [accessesOn, works, action, Lock.works, Work.on]

theorem gather_accessesOn (admission : Nat × TransactionId) (system : System State Result)
    (events : List (Event State Result)) :
    gather (accessesOn admission) system events =
      (Work.on admission (gather works system events)).filterMap Work.mode := by
  induction events generalizing system with
  | nil => rfl
  | cons event later ih =>
      rw [gather, gather, ih, accessesOn_works, Work.on_append, List.filterMap_append]

/-- What a record counted over its whole stay. -/
theorem run_accesses (options : Options) (events : List (Event State Result))
    (member : TransactionRecord State) (resident : member ∈ ((new options).run events).lock.members) :
    member.accesses = .tally (gather (accessesOn member.admission) (new options) events) := by
  have isolated := run_isolated options (new options : System State Result) events []
    (new_isolated options)
  have recounts := congrArg Copy.accesses (isolated.lock.members member resident)
  rw [gather_accessesOn, ← Work.replay_accesses]
  exact recounts

/-- From one moment to another it counts what has come in between. -/
theorem run_accesses_later (options : Options) (events later : List (Event State Result))
    (before after : TransactionRecord State)
    (resident : before ∈ ((new options).run events).lock.members)
    (stays : after ∈ (((new options).run events).run later).lock.members)
    (same : after.admission = before.admission) :
    after.accesses = (gather (accessesOn before.admission) ((new options).run events) later).foldl
      AccessCounter.record before.accesses := by
  have there : after ∈ ((new options).run (events ++ later)).lock.members := by
    rwa [run, List.foldl_append]
  rw [run_accesses options _ after there, run_accesses options events before resident, same,
    gather_append, AccessCounter.tally, List.foldl_append]
  rfl

/-- How the records of a system count after a run. -/
structure CountsAccesses (options : Options) (events : List (Event State Result)) : Prop where
  -- A record tells the accesses of all entries that were let in on it, as far as counts go.
  whole : ∀ member ∈ ((new options).run events).lock.members,
    member.accesses = .tally (gather (accessesOn member.admission) (new options) events)
  entered : ∀ event request entry,
    ((new options).run events).action? event = some (.enter request) →
    ((new options).run events).lock.enter ((new options).run events).clock request = .ok entry →
    accessesOn (((new options).run events).lock.entrant ((new options).run events).clock
      request).admission ((new options).run events) event = [request.mode]
  -- As long as a record stays its counts go up by the accesses that are made on it, and never down.
  grows : ∀ later : List (Event State Result),
    ∀ before ∈ ((new options).run events).lock.members,
    ∀ after ∈ (((new options).run events).run later).lock.members,
    after.admission = before.admission →
      after.accesses = (gather (accessesOn before.admission) ((new options).run events) later).foldl
        AccessCounter.record before.accesses ∧
      before.accesses.exceeds after.accesses = false

theorem run_countsAccesses (options : Options) (events : List (Event State Result)) :
    CountsAccesses options events := by
  refine ⟨run_accesses options events, accessesOn_entered _, ?_⟩
  intro later before resident after stays same
  have counted := run_accesses_later options events later before after resident stays same
  refine ⟨counted, ?_⟩
  rw [counted]
  exact before.accesses.foldl_record_grows _

end System

end WoundWait
