import WoundWait.Proofs.AccessCounting

/-!
A caller that enters again and again with one transaction, one call after the other, and counts the
calls that returned well. As long as its record stays and its operations succeed, it counts what the
lock counts, whatever others do meanwhile. So it is never told that it lost its record, and is
confirmed when it asks.
-/

namespace WoundWait

variable {State Result : Type}

namespace Lock

/-- Counts that agree are no reason to turn anybody away. -/
theorem enter_agrees (lock : Lock State) (clock : Instant) (request : EntryRequest State Result)
    (refusal : LockError) (agree : lock.CountsAgree request)
    (refused : lock.enter clock request = .error refusal) :
    ∃ holder, refusal = .upgradeConflict request.transaction holder := by
  by_cases unopposed : lock.Unopposed request
  · obtain ⟨entry, admitted, _⟩ := lock.enter_admits clock request agree unopposed
    cases refused.symm.trans admitted
  · obtain ⟨holder, told, _⟩ := lock.enter_refuses clock request agree unopposed
    cases refused.symm.trans told
    exact ⟨_, rfl⟩

def stored (lock : Lock State) (transaction : TransactionId) : AccessCounter :=
  ((lock.find? transaction).map fun record => record.accesses).getD .zero

theorem stored_agrees (lock : Lock State) (request : EntryRequest State Result)
    (same : request.counter = lock.stored request.transaction) : lock.CountsAgree request := by
  unfold stored at same
  unfold CountsAgree
  cases found : lock.find? request.transaction with
  | none =>
      rw [found] at same
      rw [same]
      rfl
  | some record =>
      rw [found] at same
      rw [same]
      exact (AccessCounter.exceeds_false _ _).mpr ⟨Nat.le_refl _, Nat.le_refl _⟩

theorem admits_stored (lock : Lock State) (clock : Instant) (request : EntryRequest State Result)
    (entry : Entry State Result) (distinct : lock.HasDistinctNames)
    (admits : lock.Admits clock request entry) :
    entry.lock.stored request.transaction =
      (lock.stored request.transaction).record request.mode := by
  have counted : (lock.entrant clock request).accesses = lock.stored request.transaction := by
    unfold stored entrant
    cases lock.find? request.transaction <;> rfl
  rw [← counted, stored, lock.admits_find? clock request entry distinct admits]
  rfl

end Lock

namespace System

inductive Arrives (gateOpen : Bool) (lock : Lock State) (clock : Instant)
    (request : EntryRequest State Result) (outcome : Progress State Result) : Prop where
  | held (closed : gateOpen = false) (outcome_eq : outcome = .waits (.atGate request))
  | refused (opened : gateOpen = true) (refusal : LockError)
      (refused : lock.enter clock request = .error refusal)
      (outcome_eq : outcome = .answered (.entered (.error refusal)))
  | admitted (opened : gateOpen = true) (entry : Entry State Result)
      (admitted : lock.enter clock request = .ok entry)
      (final : outcome.final? = some (.entered (entry.result.mapError .operation)))

theorem passGate_arrives (system : System State Result) (request : EntryRequest State Result) :
    Arrives system.queue.gateOpen system.lock system.clock request (system.passGate request).2 := by
  cases gate : system.queue.gateOpen with
  | false => exact .held rfl (by simp [passGate, gate])
  | true =>
      cases outcome : system.lock.enter system.clock request with
      | error refusal =>
          exact .refused rfl refusal outcome (by simp [passGate, gate, enterLock, outcome])
      | ok entry =>
          refine .admitted rfl entry outcome ?_
          simp only [passGate, gate, ↓reduceIte, enterLock, outcome]
          exact notifyThen_final? _ _ _

def brings (system : System State Result) (request : EntryRequest State Result) :
    Option (LockAction State Result) :=
  if system.queue.gateOpen then some (.enter request) else none

end System

/-- A caller that has at most one call out, in a system where all others do as they like. -/
structure Caller (State Result : Type) where
  system : System State Result
  calling : Option (CallId × AccessMode)
  answers : List (AccessMode × Except LockError Result)

namespace Caller

def new (system : System State Result) : Caller State Result :=
  { system, calling := none, answers := [] }

def access? (answer : AccessMode × Except LockError Result) : Option AccessMode :=
  match answer.2 with
  | .ok _ => some answer.1
  | .error _ => none

def accesses (caller : Caller State Result) : List AccessMode :=
  caller.answers.filterMap access?

def counter (caller : Caller State Result) : AccessCounter :=
  .tally caller.accesses

def callingAt (transaction : TransactionId) (caller : Caller State Result) :
    Event State Result → Option (CallId × AccessMode)
  | .call call (.enter request) =>
      if caller.system.isFree call ∧ request.transaction = transaction then some (call, request.mode)
      else caller.calling
  | _ => caller.calling

def hears? (transaction : TransactionId) (caller : Caller State Result)
    (event : Event State Result) : Option (AccessMode × Except LockError Result) :=
  match caller.callingAt transaction event, caller.system.reply? event with
  | some (call, mode), some (other, .entered result) =>
      if other = call then some (mode, result) else none
  | _, _ => none

def next (transaction : TransactionId) (caller : Caller State Result) (event : Event State Result) :
    Caller State Result :=
  { system := caller.system.step event
    calling :=
      if (caller.hears? transaction event).isSome then none else caller.callingAt transaction event
    answers := caller.answers ++ (caller.hears? transaction event).toList }

def play (transaction : TransactionId) (caller : Caller State Result)
    (events : List (Event State Result)) : Caller State Result :=
  events.foldl (next transaction) caller

/-- The caller enters with what it counted, when no other call of its is out, and waits for the
answer. Its record stays, and its operations succeed. -/
structure Faithful (transaction : TransactionId) (caller : Caller State Result)
    (event : Event State Result) : Prop where
  enters : ∀ call request, event = .call call (.enter request) → caller.system.isFree call = true →
    request.transaction = transaction → caller.calling = none ∧ request.counter = caller.counter
  patient : ∀ call mode, event = .giveUp call → caller.calling ≠ some (call, mode)
  stays : (caller.system.lock.find? transaction).isSome = true →
    ((caller.system.step event).lock.find? transaction).isSome = true
  succeeds : ∀ request entry, caller.system.action? event = some (.enter request) →
    request.transaction = transaction →
    caller.system.lock.enter caller.system.clock request = .ok entry →
    ∃ value, entry.result = .ok value

def FaithfulIn (transaction : TransactionId) (caller : Caller State Result) :
    List (Event State Result) → Prop
  | [] => True
  | event :: later =>
      caller.Faithful transaction event ∧ (caller.next transaction event).FaithfulIn transaction later

inductive Standing (transaction : TransactionId) (caller : Caller State Result) : Prop where
  | idle (resting : caller.calling = none)
      (agrees : caller.system.lock.stored transaction = caller.counter)
  | waiting (call : CallId) (request : EntryRequest State Result)
      (out : caller.calling = some (call, request.mode))
      (present : { call, stage := .atGate request } ∈ caller.system.calls)
      (own : request.transaction = transaction) (counted : request.counter = caller.counter)
      (agrees : caller.system.lock.stored transaction = caller.counter)
  | settled (call : CallId) (mode : AccessMode) (parcels : List (HandOff State)) (value : Result)
      (out : caller.calling = some (call, mode))
      (present : { call, stage := .notifying parcels (.entered (.ok value)) } ∈ caller.system.calls)
      (owed : caller.system.lock.stored transaction = caller.counter.record mode)

structure InStep (options : Options) (transaction : TransactionId)
    (caller : Caller State Result) : Prop where
  orderly : caller.system.Orderly options
  gated : ∀ pending ∈ caller.system.calls, ∀ request, pending.stage = .atGate request →
    request.transaction = transaction → ∃ mode, caller.calling = some (pending.call, mode)
  standing : caller.Standing transaction
  refused : ∀ mode refusal, (mode, .error refusal) ∈ caller.answers →
    ∃ holder, refusal = .upgradeConflict transaction holder

/-! What the caller is told -/

section

variable {options : Options} {transaction : TransactionId} {caller : Caller State Result}

theorem callingAt_begun (call : CallId) (request : EntryRequest State Result)
    (free : caller.system.isFree call = true) (own : request.transaction = transaction) :
    caller.callingAt transaction (.call call (.enter request)) = some (call, request.mode) := by
  simp [callingAt, free, own]

theorem callingAt_other (event : Event State Result)
    (other : ∀ call request, event = .call call (.enter request) →
      caller.system.isFree call = true → request.transaction ≠ transaction) :
    caller.callingAt transaction event = caller.calling := by
  cases event with
  | call call request =>
      cases request with
      | enter request =>
          by_cases free : caller.system.isFree call = true
          · simp [callingAt, other call request rfl free]
          · simp [callingAt, free]
      | _ => rfl
  | _ => rfl

theorem hears?_waits (event : Event State Result) (call : CallId) (stage : Stage State Result)
    (own : caller.system.progress? event = some (call, .waits stage)) :
    caller.hears? transaction event = none := by
  have silent : caller.system.reply? event = none := by
    simp [System.reply?, own, System.Progress.answer?]
  simp [hears?, silent]

theorem hears?_answered (event : Event State Result) (call : CallId) (mode : AccessMode)
    (result : Except LockError Result) (out : caller.callingAt transaction event = some (call, mode))
    (own : caller.system.progress? event = some (call, .answered (.entered result))) :
    caller.hears? transaction event = some (mode, result) := by
  have reply : caller.system.reply? event = some (call, .entered result) := by
    simp [System.reply?, own, System.Progress.answer?]
  simp [hears?, out, reply]

theorem hears?_elsewhere (event : Event State Result)
    (idle : ∀ call mode outcome, caller.callingAt transaction event = some (call, mode) →
      caller.system.progress? event ≠ some (call, outcome)) :
    caller.hears? transaction event = none := by
  unfold hears?
  split
  · rename_i call mode other result out reply
    obtain ⟨⟨another, outcome⟩, own, answered⟩ := Option.bind_eq_some_iff.mp reply
    obtain ⟨answer, _, same⟩ := Option.map_eq_some_iff.mp answered
    have named : another = other := congrArg Prod.fst same
    refine if_neg ?_
    rintro rfl
    exact idle other mode outcome out (named ▸ own)
  · rfl

theorem next_counter_silent (event : Event State Result)
    (silent : caller.hears? transaction event = none) :
    (caller.next transaction event).counter = caller.counter := by
  simp [next, counter, accesses, silent]

theorem next_counter_ok (event : Event State Result) (mode : AccessMode) (value : Result)
    (heard : caller.hears? transaction event = some (mode, .ok value)) :
    (caller.next transaction event).counter = caller.counter.record mode := by
  simp [next, counter, accesses, access?, heard, AccessCounter.tally, List.foldl_append]

theorem next_counter_error (event : Event State Result) (mode : AccessMode) (refusal : LockError)
    (heard : caller.hears? transaction event = some (mode, .error refusal)) :
    (caller.next transaction event).counter = caller.counter := by
  have nothing : [(mode, (.error refusal : Except LockError Result))].filterMap access? = [] := rfl
  simp only [next, counter, accesses, heard, Option.toList_some, List.filterMap_append, nothing,
    List.append_nil]

/-! Steps -/

theorem InStep.agrees (inStep : caller.InStep options transaction) (resting : caller.calling = none) :
    caller.system.lock.stored transaction = caller.counter := by
  cases inStep.standing with
  | idle _ agrees => exact agrees
  | waiting _ _ out => cases resting.symm.trans out
  | settled _ _ _ _ out => cases resting.symm.trans out

theorem stored_refused (orderly : caller.system.Orderly options) (event : Event State Result)
    (nobody : ∀ request entry, caller.system.action? event = some (.enter request) →
      request.transaction = transaction →
      caller.system.lock.enter caller.system.clock request ≠ .ok entry)
    (stays : (caller.system.lock.find? transaction).isSome = true →
      ((caller.system.step event).lock.find? transaction).isSome = true) :
    (caller.system.step event).lock.stored transaction = caller.system.lock.stored transaction := by
  cases after : (caller.system.step event).lock.find? transaction with
  | none =>
      cases before : caller.system.lock.find? transaction with
      | none => simp [Lock.stored, after, before]
      | some record => simp [after, before] at stays
  | some record =>
      have named := (Lock.find?_some _ transaction record after).2
      cases System.step_found options caller.system event orderly transaction record after with
      | kept before found same accesses idle => simp [Lock.stored, after, found, accesses]
      | entered call request seen action entrance same accesses =>
          obtain ⟨request', action', meets, _⟩ := caller.system.entrance?_some event call seen entrance
          cases Option.some.inj (action.symm.trans action')
          have own : request.transaction = transaction := by
            rw [← caller.system.lock.entrant_transaction caller.system.clock request,
              ← (caller.system.lock.meets?_entrant _ request seen meets).1, ← named]
            exact (congrArg Prod.snd same).symm
          rcases caller.system.lock.enter_meets? caller.system.clock request with
            ⟨none, _⟩ | ⟨_, entry, admitted, _⟩
          · cases none.symm.trans meets
          · exact absurd admitted (nobody request entry action own)

/-- Whoever is at the gate with the transaction after a piece of the caller's call is that call. -/
theorem gated_own (inStep : caller.InStep options transaction) (event : Event State Result)
    (call : CallId) (outcome : System.Progress State Result)
    (own : caller.system.progress? event = some (call, outcome))
    (single : ∀ other mode, caller.calling = some (other, mode) → other = call)
    (pending : PendingCall State Result) (present : pending ∈ (caller.system.step event).calls)
    (request : EntryRequest State Result) (waits : pending.stage = .atGate request)
    (named : request.transaction = transaction) :
    pending.call = call ∧ outcome = .waits pending.stage := by
  have ours : pending.call = call := by
    rcases caller.system.step_pending event inStep.orderly.named pending present
      (by rw [waits]; rfl) with old | came
    · obtain ⟨mode, out⟩ := inStep.gated pending old request waits named
      exact single pending.call mode out
    · exact (congrArg Prod.fst (Option.some.inj (own.symm.trans came))).symm
  subst ours
  exact ⟨rfl, caller.system.step_own_waits event inStep.orderly.named pending present outcome own⟩

theorem place_own (event : Event State Result) (call : CallId) (stage : Stage State Result)
    (own : caller.system.progress? event = some (call, .waits stage)) :
    { call, stage } ∈ (caller.system.step event).calls :=
  (System.named?_some _ call _ (caller.system.step_own event call _ own)).1

theorem next_calling_waits (event : Event State Result) (call : CallId) (mode : AccessMode)
    (stage : Stage State Result) (out : caller.callingAt transaction event = some (call, mode))
    (own : caller.system.progress? event = some (call, .waits stage)) :
    (caller.next transaction event).calling = some (call, mode) := by
  have silent : caller.hears? transaction event = none := hears?_waits event call stage own
  simp [next, silent, out]

structure Fares (transaction : TransactionId) (caller : Caller State Result)
    (event : Event State Result) : Prop where
  standing : (caller.next transaction event).Standing transaction
  welcome : ∀ mode refusal, caller.hears? transaction event = some (mode, .error refusal) →
    ∃ holder, refusal = .upgradeConflict transaction holder

theorem fares_silent (event : Event State Result)
    (silent : caller.hears? transaction event = none)
    (standing : (caller.next transaction event).Standing transaction) :
    caller.Fares transaction event := by
  refine ⟨standing, ?_⟩
  intro mode refusal heard
  cases silent.symm.trans heard

/-- The call that was out has returned well. -/
theorem fares_returned (event : Event State Result) (mode : AccessMode) (value : Result)
    (heard : caller.hears? transaction event = some (mode, .ok value))
    (stored : (caller.system.step event).lock.stored transaction = caller.counter.record mode) :
    caller.Fares transaction event := by
  constructor
  · refine .idle (by simp [next, heard]) ?_
    exact stored.trans (next_counter_ok event mode value heard).symm
  · intro mode refusal heard'
    cases heard.symm.trans heard'

/-- The call that is out was let in and waits for the queue. -/
theorem fares_notifying (event : Event State Result) (call : CallId) (mode : AccessMode)
    (parcels : List (HandOff State)) (value : Result)
    (out : caller.callingAt transaction event = some (call, mode))
    (turn : caller.system.progress? event =
      some (call, .waits (.notifying parcels (.entered (.ok value)))))
    (stored : (caller.system.step event).lock.stored transaction = caller.counter.record mode) :
    caller.Fares transaction event := by
  have silent : caller.hears? transaction event = none := hears?_waits event call _ turn
  apply fares_silent event silent
  refine .settled call mode parcels value (next_calling_waits event call mode _ out turn)
    (place_own event call _ turn) ?_
  rw [next_counter_silent event silent]
  exact stored

theorem admitted_fares (inStep : caller.InStep options transaction) (event : Event State Result)
    (faithful : caller.Faithful transaction event) (call : CallId)
    (request : EntryRequest State Result) (outcome : System.Progress State Result)
    (own : request.transaction = transaction)
    (agrees : caller.system.lock.stored transaction = caller.counter)
    (out : caller.callingAt transaction event = some (call, request.mode))
    (turn : caller.system.progress? event = some (call, outcome))
    (action : caller.system.action? event = some (.enter request)) (entry : Entry State Result)
    (admitted : caller.system.lock.enter caller.system.clock request = .ok entry)
    (final : outcome.final? = some (.entered (entry.result.mapError .operation))) :
    caller.Fares transaction event := by
  obtain ⟨value, result⟩ := faithful.succeeds request entry action own admitted
  have admits := (caller.system.lock.enter_ok caller.system.clock request entry admitted).2.2
  have after : (caller.system.step event).lock = entry.lock := by
    rw [caller.system.step_lock event inStep.orderly.named, action]
    simp [System.lockAfter, Lock.perform, admitted]
  have stored : (caller.system.step event).lock.stored transaction =
      caller.counter.record request.mode := by
    rw [after, ← agrees, ← own]
    exact caller.system.lock.admits_stored _ request entry inStep.orderly.kept.distinct admits
  rw [result] at final
  cases outcome with
  | answered answer =>
      obtain rfl : answer = .entered (.ok value) := Option.some.inj final
      exact fares_returned event request.mode value
        (hears?_answered event call request.mode _ out turn) stored
  | waits stage =>
      cases stage with
      | notifying parcels answer =>
          obtain rfl : answer = .entered (.ok value) := Option.some.inj final
          exact fares_notifying event call request.mode parcels value out turn stored
      | _ => cases final

/-- The caller's call comes to the gate. -/
theorem arrives_fares (inStep : caller.InStep options transaction) (event : Event State Result)
    (faithful : caller.Faithful transaction event) (call : CallId)
    (request : EntryRequest State Result) (outcome : System.Progress State Result)
    (own : request.transaction = transaction) (counted : request.counter = caller.counter)
    (agrees : caller.system.lock.stored transaction = caller.counter)
    (out : caller.callingAt transaction event = some (call, request.mode))
    (turn : caller.system.progress? event = some (call, outcome))
    (action : caller.system.action? event = caller.system.brings request)
    (arrives : System.Arrives caller.system.queue.gateOpen caller.system.lock caller.system.clock
      request outcome) : caller.Fares transaction event := by
  cases arrives with
  | held closed outcome_eq =>
      subst outcome_eq
      have silent : caller.hears? transaction event = none := hears?_waits event call _ turn
      have counts := next_counter_silent event silent
      have same := stored_refused inStep.orderly event
        (by simp [action, System.brings, closed]) faithful.stays
      apply fares_silent event silent
      exact .waiting call request (next_calling_waits event call _ _ out turn)
        (place_own event call _ turn) own (counted.trans counts.symm)
        (same.trans (agrees.trans counts.symm))
  | refused opened refusal refused outcome_eq =>
      subst outcome_eq
      have heard : caller.hears? transaction event = some (request.mode, .error refusal) :=
        hears?_answered event call request.mode _ out turn
      have nobody : ∀ other entry, caller.system.action? event = some (.enter other) →
          other.transaction = transaction →
          caller.system.lock.enter caller.system.clock other ≠ .ok entry := by
        intro other entry action' _ admitted
        rw [action, System.brings, if_pos opened] at action'
        cases action'
        cases refused.symm.trans admitted
      have same := stored_refused inStep.orderly event nobody faithful.stays
      constructor
      · refine .idle (by simp [next, heard]) ?_
        exact same.trans (agrees.trans (next_counter_error event _ refusal heard).symm)
      · intro mode told heard'
        cases Option.some.inj (heard.symm.trans heard')
        rw [← own] at agrees ⊢
        apply caller.system.lock.enter_agrees caller.system.clock request refusal _ refused
        exact caller.system.lock.stored_agrees request (counted.trans agrees.symm)
  | admitted opened entry admitted final =>
      rw [System.brings, if_pos opened] at action
      exact admitted_fares inStep event faithful call request outcome own agrees out turn action entry
        admitted final

/-- The caller's call was let in and goes on waiting for the queue, or returns. -/
theorem settled_fares (inStep : caller.InStep options transaction) (call : CallId)
    (mode : AccessMode) (parcels : List (HandOff State)) (value : Result)
    (out : caller.calling = some (call, mode))
    (present : { call, stage := .notifying parcels (.entered (.ok value)) } ∈ caller.system.calls)
    (owed : caller.system.lock.stored transaction = caller.counter.record mode)
    (ready : .call call ∈ caller.system.ready)
    (faithful : caller.Faithful transaction (.turn (.call call))) :
    caller.Fares transaction (.turn (.call call)) := by
  have found := System.named?_of_mem caller.system.calls inStep.orderly.named.distinct _ present
  have turn := caller.system.progress?_turn call _ ready found
  have calling : caller.callingAt transaction (.turn (.call call)) = some (call, mode) := out
  have stored : (caller.system.step (.turn (.call call))).lock.stored transaction =
      caller.counter.record mode := by
    rw [← owed]
    apply stored_refused inStep.orderly _ _ faithful.stays
    have idle : caller.system.action? (.turn (.call call)) = none := by
      simp only [System.action?, ready, ↓reduceIte, System.turnAction?, System.callAction?]
      exact Option.bind_eq_none_iff.mpr fun pending there => by
        cases Option.some.inj (found.symm.trans there)
        rfl
    simp [idle]
  let resumed := { caller.system with ready := caller.system.ready.erase (.call call) }
  have outcome : (resumed.proceed (.notifying parcels (.entered (.ok value)))).2 =
        .answered (.entered (.ok value)) ∨
      ∃ later, (resumed.proceed (.notifying parcels (.entered (.ok value)))).2 =
        .waits (.notifying later (.entered (.ok value))) := by
    simp only [System.proceed]
    split
    · exact .inl rfl
    · exact .inr ⟨_, rfl⟩
  rcases outcome with returned | ⟨later, waits⟩
  · exact fares_returned _ mode value
      (hears?_answered _ call mode _ calling (turn.trans (by rw [returned]))) stored
  · exact fares_notifying _ call mode later value calling (turn.trans (by rw [waits])) stored

structure Aside (transaction : TransactionId) (caller : Caller State Result)
    (event : Event State Result) : Prop where
  begins : ∀ call request, event = .call call (.enter request) → caller.system.isFree call = true →
    request.transaction ≠ transaction
  resumes : ∀ call mode outcome, caller.calling = some (call, mode) →
    caller.system.progress? event ≠ some (call, outcome)

/-- Nobody else enters with the transaction. -/
theorem aside_action (inStep : caller.InStep options transaction) (event : Event State Result)
    (aside : caller.Aside transaction event) (request : EntryRequest State Result)
    (action : caller.system.action? event = some (.enter request)) :
    request.transaction ≠ transaction := by
  intro own
  obtain ⟨call, _, comes⟩ := caller.system.action?_enters event request action
  cases comes with
  | begun event_eq free => exact aside.begins call request event_eq free own
  | resumed pending event_eq found waited =>
      subst event_eq
      obtain ⟨present, named⟩ := System.named?_some _ call pending found
      obtain ⟨mode, out⟩ := inStep.gated pending present request waited own
      have ready : .call call ∈ caller.system.ready := by
        by_contra unready
        simp [System.action?, unready] at action
      exact aside.resumes call mode _ (named ▸ out)
        (caller.system.progress?_turn call pending ready found)

theorem aside_gated (inStep : caller.InStep options transaction) (event : Event State Result)
    (aside : caller.Aside transaction event) (pending : PendingCall State Result)
    (present : pending ∈ (caller.system.step event).calls) (request : EntryRequest State Result)
    (waits : pending.stage = .atGate request) (own : request.transaction = transaction) :
    ∃ mode, caller.calling = some (pending.call, mode) := by
  rcases caller.system.step_pending event inStep.orderly.named pending present
    (by rw [waits]; rfl) with old | came
  · exact inStep.gated pending old request waits own
  · exfalso
    rw [waits] at came
    cases caller.system.progress?_origin event pending.call _ came with
    | begun asked event_eq free started =>
        have entry := System.start_entering? caller.system pending.call asked request
          (by rw [← started]; rfl)
        exact aside.begins pending.call request (entry ▸ event_eq) free own
    | resumed before event_eq ready found proceeded =>
        have entry := System.proceed_entering? _ before.stage request (by rw [← proceeded]; rfl)
        obtain ⟨there, named⟩ := System.named?_some _ pending.call before found
        have waited : before.stage = .atGate request := by
          cases stage : before.stage with
          | atGate other =>
              rw [stage] at entry
              cases entry
              rfl
          | _ =>
              rw [stage] at entry
              cases entry
        obtain ⟨mode, out⟩ := inStep.gated before there request waited own
        exact aside.resumes _ mode _ (named ▸ out) came

theorem aside_fares (inStep : caller.InStep options transaction) (event : Event State Result)
    (faithful : caller.Faithful transaction event) (aside : caller.Aside transaction event) :
    caller.Fares transaction event ∧ (caller.next transaction event).calling = caller.calling := by
  have calling : caller.callingAt transaction event = caller.calling :=
    callingAt_other event aside.begins
  have silent : caller.hears? transaction event = none := by
    apply hears?_elsewhere
    intro call mode outcome out
    rw [calling] at out
    exact aside.resumes call mode outcome out
  have same := stored_refused inStep.orderly event
    (fun request entry action own => absurd own (aside_action inStep event aside request action))
    faithful.stays
  have kept : (caller.next transaction event).calling = caller.calling := by
    simp [next, silent, calling]
  have counts := next_counter_silent event silent
  -- A call that is out, not on turn and not given up stays where it is.
  have place (call : CallId) (mode : AccessMode) (stage : Stage State Result)
      (out : caller.calling = some (call, mode)) (waits : stage.isFlushing = false)
      (present : { call, stage } ∈ caller.system.calls) :
      { call, stage } ∈ (caller.system.step event).calls := by
    have found := System.named?_of_mem caller.system.calls inStep.orderly.named.distinct _ present
    have alike := caller.system.step_alike event inStep.orderly.named call
      (fun outcome => aside.resumes call mode outcome out)
      fun dropped => faithful.patient call mode dropped out
    exact (System.named?_some _ call _ ((alike.stage { call, stage } waits).mpr found)).1
  refine ⟨fares_silent event silent ?_, kept⟩
  cases inStep.standing with
  | idle resting agrees =>
      exact .idle (kept.trans resting) (same.trans (agrees.trans counts.symm))
  | waiting call request out present own counted agrees =>
      exact .waiting call request (kept.trans out) (place call _ _ out rfl present) own
        (counted.trans counts.symm) (same.trans (agrees.trans counts.symm))
  | settled call mode parcels value out present owed =>
      exact .settled call mode parcels value (kept.trans out) (place call mode _ out rfl present)
        (same.trans (by rw [counts]; exact owed))

/-- From how the caller fares to what holds of it afterwards. -/
theorem fares_inStep (inStep : caller.InStep options transaction) (event : Event State Result)
    (fares : caller.Fares transaction event)
    (gated : ∀ pending ∈ (caller.system.step event).calls, ∀ request,
      pending.stage = .atGate request → request.transaction = transaction →
      ∃ mode, (caller.next transaction event).calling = some (pending.call, mode)) :
    (caller.next transaction event).InStep options transaction := by
  refine ⟨System.step_orderly options caller.system event inStep.orderly, gated, fares.standing, ?_⟩
  intro mode refusal told
  simp only [next, List.mem_append, Option.mem_toList] at told
  rcases told with before | now
  · exact inStep.refused mode refusal before
  · exact fares.welcome mode refusal now

theorem own_inStep (inStep : caller.InStep options transaction) (event : Event State Result)
    (fares : caller.Fares transaction event) (call : CallId) (mode : AccessMode)
    (outcome : System.Progress State Result)
    (out : caller.callingAt transaction event = some (call, mode))
    (single : ∀ other mode, caller.calling = some (other, mode) → other = call)
    (turn : caller.system.progress? event = some (call, outcome)) :
    (caller.next transaction event).InStep options transaction := by
  apply fares_inStep inStep event fares
  intro pending present request waits own
  obtain ⟨ours, outcome_eq⟩ :=
    gated_own inStep event call outcome turn single pending present request waits own
  subst outcome_eq
  exact ⟨mode, ours ▸ next_calling_waits event call mode _ out turn⟩

/-- The caller begins a call. -/
theorem begun_inStep (inStep : caller.InStep options transaction) (call : CallId)
    (request : EntryRequest State Result) (free : caller.system.isFree call = true)
    (own : request.transaction = transaction)
    (faithful : caller.Faithful transaction (.call call (.enter request))) :
    (caller.next transaction (.call call (.enter request))).InStep options transaction := by
  obtain ⟨resting, counted⟩ := faithful.enters call request rfl free own
  have out := callingAt_begun call request free own
  have turn := caller.system.progress?_call call (.enter request) free
  have fares : caller.Fares transaction (.call call (.enter request)) := by
    refine arrives_fares inStep _ faithful call request _ own counted (inStep.agrees resting) out
      turn ?_ ?_
    · simp [System.action?, free, System.requestAction?, System.brings]
    · exact System.passGate_arrives { caller.system with
        queue := { caller.system.queue with
          readyCalls := caller.system.queue.readyCalls + 1 } } request
  refine own_inStep inStep _ fares call request.mode _ out ?_ turn
  intro other mode out'
  cases resting.symm.trans out'

/-- The call that is out takes its turn. -/
theorem resumed_inStep (inStep : caller.InStep options transaction) (event : Event State Result)
    (faithful : caller.Faithful transaction event)
    (foreign : ∀ call request, event = .call call (.enter request) →
      caller.system.isFree call = true → request.transaction ≠ transaction)
    (call : CallId) (mode : AccessMode) (outcome : System.Progress State Result)
    (out : caller.calling = some (call, mode))
    (turn : caller.system.progress? event = some (call, outcome)) :
    (caller.next transaction event).InStep options transaction := by
  have calling : caller.callingAt transaction event = some (call, mode) :=
    (callingAt_other event foreign).trans out
  have single (other : CallId) (mode' : AccessMode) (out' : caller.calling = some (other, mode')) :
      other = call :=
    congrArg Prod.fst (Option.some.inj (out'.symm.trans out))
  refine own_inStep inStep event ?_ call mode outcome calling single turn
  have borne (stage : Stage State Result) (present : { call, stage } ∈ caller.system.calls) :
      event = .turn (.call call) ∧ .call call ∈ caller.system.ready ∧
        caller.system.findCall? call = some { call, stage } := by
    have found := System.named?_of_mem caller.system.calls inStep.orderly.named.distinct _ present
    cases caller.system.progress?_origin event call outcome turn with
    | begun request event_eq free => cases (caller.system.isFree_named? call free).symm.trans found
    | resumed pending event_eq ready _ _ => exact ⟨event_eq, ready, found⟩
  cases inStep.standing with
  | idle resting => cases resting.symm.trans out
  | waiting other request out' present own counted agrees =>
      obtain ⟨rfl, rfl⟩ : other = call ∧ request.mode = mode := by simpa using out'.symm.trans out
      obtain ⟨rfl, ready, found⟩ := borne _ present
      have turn' := caller.system.progress?_turn other _ ready found
      refine arrives_fares inStep _ faithful other request _ own counted agrees calling turn' ?_ ?_
      · simp [System.action?, ready, System.turnAction?, System.callAction?, found, System.stageAction?,
          System.brings]
      · exact System.passGate_arrives
          { caller.system with ready := caller.system.ready.erase (.call other) } request
  | settled other mode' parcels value out' present owed =>
      obtain ⟨rfl, rfl⟩ : other = call ∧ mode' = mode := by simpa using out'.symm.trans out
      obtain ⟨rfl, ready, found⟩ := borne _ present
      exact settled_fares inStep other mode' parcels value out' present owed ready faithful

theorem next_inStep (inStep : caller.InStep options transaction) (event : Event State Result)
    (faithful : caller.Faithful transaction event) :
    (caller.next transaction event).InStep options transaction := by
  by_cases begins : ∃ call request, event = .call call (.enter request) ∧
      caller.system.isFree call = true ∧ request.transaction = transaction
  · obtain ⟨call, request, rfl, free, own⟩ := begins
    exact begun_inStep inStep call request free own faithful
  · have foreign : ∀ call request, event = .call call (.enter request) →
        caller.system.isFree call = true → request.transaction ≠ transaction :=
      fun call request event_eq free own => begins ⟨call, request, event_eq, free, own⟩
    by_cases resumes : ∃ call mode outcome, caller.calling = some (call, mode) ∧
        caller.system.progress? event = some (call, outcome)
    · obtain ⟨call, mode, outcome, out, turn⟩ := resumes
      exact resumed_inStep inStep event faithful foreign call mode outcome out turn
    · have aside : caller.Aside transaction event :=
        ⟨foreign, fun call mode outcome out turn => resumes ⟨call, mode, outcome, out, turn⟩⟩
      obtain ⟨fares, kept⟩ := aside_fares inStep event faithful aside
      apply fares_inStep inStep event fares
      rw [kept]
      exact fun pending present request => aside_gated inStep event aside pending present request

end

theorem play_inStep (options : Options) (transaction : TransactionId) (caller : Caller State Result)
    (events : List (Event State Result)) (inStep : caller.InStep options transaction)
    (faithful : caller.FaithfulIn transaction events) :
    (caller.play transaction events).InStep options transaction := by
  induction events generalizing caller with
  | nil => exact inStep
  | cons event later ih =>
      exact ih (caller.next transaction event) (next_inStep inStep event faithful.1) faithful.2

/-- What a faithful caller can rely on. -/
structure Reliable (transaction : TransactionId) (caller : Caller State Result) : Prop where
  agrees : caller.calling = none → caller.system.lock.stored transaction = caller.counter
  saturates : caller.counter =
    { reads := min AccessCounter.limit (caller.accesses.count .read)
      writes := min AccessCounter.limit (caller.accesses.count .write) }
  -- If it is turned away, that is because somebody older is in its way.
  welcome : ∀ mode refusal, (mode, .error refusal) ∈ caller.answers →
    ∃ holder, refusal = .upgradeConflict transaction holder
  -- Whoever asks with its counts gets its record, and the lock stays as it is.
  confirmed : caller.calling = none → ∀ record,
    caller.system.lock.find? transaction = some record →
    ∀ call, caller.system.isFree call = true →
      caller.system.reply? (.call call (.validate transaction caller.counter)) =
          some (call, .validated .ok (some record)) ∧
        (caller.system.step (.call call (.validate transaction caller.counter))).lock =
          caller.system.lock

theorem inStep_reliable (options : Options) (transaction : TransactionId)
    (caller : Caller State Result) (inStep : caller.InStep options transaction) :
    caller.Reliable transaction := by
  refine ⟨inStep.agrees, AccessCounter.tally_min caller.accesses, inStep.refused, ?_⟩
  intro resting record found call free
  have counted : record.accesses = caller.counter := by
    rw [← inStep.agrees resting, Lock.stored, found]
    rfl
  have started : caller.system.start call (.validate transaction caller.counter) =
      (caller.system, .answered (.validated .ok (some record))) := by
    simp [System.start, System.validateLock, Lock.validate, found, counted]
  constructor
  · simp [System.reply?, System.progress?_call caller.system call _ free, started,
      System.Progress.answer?]
  · simp [System.step, free, System.spawn, System.begin, started, System.note]

theorem new_inStep (options : Options) (transaction : TransactionId) (system : System State Result)
    (orderly : system.Orderly options) (absent : system.lock.find? transaction = none)
    (alone : ∀ request ∈ system.gate, request.transaction ≠ transaction) :
    (new system).InStep options transaction := by
  refine ⟨orderly, ?_, .idle rfl ?_, ?_⟩
  · intro pending present request waits own
    refine absurd own (alone request (List.mem_filterMap.mpr ⟨pending, present, ?_⟩))
    rw [waits]
    rfl
  · simp [Lock.stored, new, absent, counter, accesses, AccessCounter.tally]
  · intro mode refusal told
    cases told

/-- In every run the records count the accesses of the entries that were let in on them and nothing
else. So a caller that begins when its transaction has no record, and counts what returned well,
counts in step with the lock: it is never told that it lost its record, and is confirmed whenever it
asks. -/
theorem play_counts_agree (options : Options) (past events : List (Event State Result))
    (transaction : TransactionId)
    (absent : ((System.new options).run past).lock.find? transaction = none)
    (alone : ∀ request ∈ ((System.new options).run past).gate, request.transaction ≠ transaction)
    (faithful : (new ((System.new options).run past)).FaithfulIn transaction events) :
    (∀ history : List (Event State Result), System.CountsAccesses options history) ∧
      ((new ((System.new options).run past)).play transaction events).Reliable transaction := by
  have orderly := (System.run_isolated options (System.new options : System State Result) past []
    (System.new_isolated options)).orderly
  refine ⟨System.run_countsAccesses options, inStep_reliable options transaction _ ?_⟩
  exact play_inStep options transaction _ events
    (new_inStep options transaction _ orderly absent alone) faithful

def rereading : List (Event Nat Unit) :=
  [.call 0 (.enter (.visit (.ofNat 1) ⟨1⟩ .zero .read)),
    .call 1 (.enter (.visit (.ofNat 2) ⟨2⟩ .zero .read)), .setGate false,
    .call 2 (.enter (.visit (.ofNat 1) ⟨1⟩ ⟨1, 0⟩ .write)), .setGate true, .turn (.call 2)]

def vacant : System Nat Unit :=
  (System.new ⟨8000, 10000, 20000, 2⟩).run []

theorem rereading_counts_agree :
    vacant.lock.find? (.ofNat 1) = none ∧
      (∀ request ∈ vacant.gate, request.transaction ≠ .ofNat 1) ∧
      (new vacant).FaithfulIn (.ofNat 1) rereading ∧
      ((new vacant).play (.ofNat 1) rereading).counter = ⟨1, 1⟩ ∧
      (∀ history : List (Event Nat Unit), System.CountsAccesses ⟨8000, 10000, 20000, 2⟩ history) ∧
      ((new vacant).play (.ofNat 1) rereading).Reliable (.ofNat 1) := by
  have well (lock : Lock Nat) (transaction : TransactionId) (priority : Priority)
      (counter : AccessCounter) (mode : AccessMode) (entry : Entry Nat Unit)
      (admitted : lock.enter 0 (.visit transaction priority counter mode) = .ok entry) :
      ∃ value, entry.result = .ok value :=
    ⟨(), (lock.enter_ok 0 _ entry admitted).2.2.result⟩
  have faithful : (new vacant).FaithfulIn (.ofNat 1) rereading := by
    refine ⟨⟨?_, ?_, fun _ => rfl, ?_⟩, ⟨?_, ?_, fun _ => rfl, ?_⟩, ⟨?_, ?_, fun _ => rfl, ?_⟩,
      ⟨?_, ?_, fun _ => rfl, ?_⟩, ⟨?_, ?_, fun _ => rfl, ?_⟩, ⟨?_, ?_, fun _ => rfl, ?_⟩, trivial⟩
    case refine_1 | refine_10 =>
      rintro _ _ ⟨⟩ _ _
      exact ⟨rfl, rfl⟩
    case refine_4 =>
      rintro _ _ ⟨⟩ _ other
      exact absurd other (by decide)
    -- What is left is no entry of its, or an operation that always succeeds.
    all_goals first
      | (rintro _ _ ⟨⟩; done)
      | (rintro _ entry ⟨⟩ _ admitted
         exact well _ _ _ _ _ entry admitted)
  have absent : vacant.lock.find? (.ofNat 1) = none := rfl
  have alone : ∀ request ∈ vacant.gate, request.transaction ≠ .ofNat 1 := by
    intro request waits
    cases waits
  exact ⟨absent, alone, faithful, rfl,
    play_counts_agree ⟨8000, 10000, 20000, 2⟩ [] rereading (.ofNat 1) absent alone faithful⟩

end Caller

end WoundWait
