import WoundWait.Proofs.GateEvents
import WoundWait.Proofs.RecordIsolation

/-!
How entries are held back. An entry passes the gate in one piece and only while it is open. Whoever
waits there is ready as long as the gate is open, so that nobody misses an opening, and a turn that
comes too late is used up for nothing.
-/

namespace WoundWait

variable {State Result : Type}

def Request.WaitsAt : Request State Result → Stage State Result → Prop
  | .enter request, .atGate waiting => waiting = request
  | .enter _, .notifying _ (.entered _) => True
  | .enter _, _ => False
  | _, stage => stage.isAtGate = false

namespace System

def asked? (history : List (CallId × Request State Result)) (call : CallId) :
    Option (Request State Result) :=
  (history.filter fun begun => begun.1 == call).getLast?.map Prod.snd

def finds (call : CallId) (system : System State Result) : Event State Result → List Bool
  | .turn (.call other) => if other = call then [system.queue.gateOpen] else []
  | _ => []

theorem asked?_same (history : List (CallId × Request State Result)) (call : CallId)
    (request : Request State Result) : asked? (history ++ [(call, request)]) call = some request := by
  simp [asked?]

theorem asked?_other (history later : List (CallId × Request State Result)) (call : CallId)
    (others : ∀ begun ∈ later, begun.1 ≠ call) : asked? (history ++ later) call = asked? history call := by
  have none : later.filter (fun begun => begun.1 == call) = [] := by
    simpa using others
  rw [asked?, List.filter_append, none, List.append_nil]
  rfl

/-! Places to wait -/

theorem isAtGate_entering? (stage : Stage State Result) :
    stage.isAtGate = false ↔ stage.entering? = none := by
  cases stage <;> simp [Stage.isAtGate, Stage.entering?]

theorem waitsAt_foreign (request : Request State Result) (stage : Stage State Result)
    (other : ∀ entry, request ≠ .enter entry) :
    request.WaitsAt stage ↔ stage.isAtGate = false := by
  cases request with
  | enter entry => exact absurd rfl (other entry)
  | _ => exact Iff.rfl

theorem notifyThen_waits (system : System State Result) (records : List (TransactionRecord State))
    (answer : Answer State Result) (stage : Stage State Result)
    (waits : (system.notifyThen records answer).2 = .waits stage) :
    ∃ pending, stage = .notifying pending answer := by
  unfold notifyThen at waits
  split at waits <;> cases waits
  exact ⟨_, rfl⟩

/-- Behind the gate nobody goes back to it. -/
theorem passGate_waits (system : System State Result) (request : EntryRequest State Result)
    (stage : Stage State Result) (waits : (system.passGate request).2 = .waits stage) :
    (system.queue.gateOpen = false ∧ stage = .atGate request) ∨
      ∃ pending result, stage = .notifying pending (.entered result) := by
  by_cases gate : system.queue.gateOpen = true
  · simp only [passGate, gate, ↓reduceIte, enterLock] at waits
    split at waits
    · cases waits
    · obtain ⟨pending, same⟩ := notifyThen_waits _ _ _ stage waits
      exact .inr ⟨pending, _, same⟩
  · simp only [passGate, gate, Bool.false_eq_true, ↓reduceIte] at waits
    cases waits
    exact .inl ⟨Bool.eq_false_iff.mpr gate, rfl⟩

theorem passGate_waitsAt (system : System State Result) (request : EntryRequest State Result)
    (stage : Stage State Result) (waits : (system.passGate request).2 = .waits stage) :
    (Request.enter request).WaitsAt stage := by
  rcases system.passGate_waits request stage waits with ⟨_, rfl⟩ | ⟨pending, result, rfl⟩
  · rfl
  · trivial

theorem start_waitsAt (system : System State Result) (call : CallId)
    (request : Request State Result) (stage : Stage State Result)
    (waits : (system.start call request).2 = .waits stage) : request.WaitsAt stage := by
  by_cases entry : ∃ entry, request = .enter entry
  · obtain ⟨entry, rfl⟩ := entry
    exact passGate_waitsAt _ entry stage waits
  · have other : ∀ entry, request ≠ .enter entry := fun entry' same => entry ⟨entry', same⟩
    rw [waitsAt_foreign request stage other, isAtGate_entering?, Option.eq_none_iff_forall_not_mem]
    intro entry' entering
    exact other entry' (system.start_entering? call request entry' (by rw [waits]; exact entering))

theorem proceed_waitsAt (system : System State Result) (request : Request State Result)
    (before stage : Stage State Result) (waited : request.WaitsAt before)
    (waits : (system.proceed before).2 = .waits stage) : request.WaitsAt stage := by
  by_cases entry : ∃ entry, request = .enter entry
  · obtain ⟨entry, rfl⟩ := entry
    cases before with
    | atGate waiting =>
        obtain rfl : waiting = entry := waited
        exact system.passGate_waitsAt waiting stage waits
    | notifying pending answer =>
        cases answer with
        | entered result =>
            simp only [proceed] at waits
            split at waits <;> cases waits
            trivial
        | _ => cases waited
    | _ => cases waited
  · have other : ∀ entry, request ≠ .enter entry := fun entry' same => entry ⟨entry', same⟩
    rw [waitsAt_foreign request _ other, isAtGate_entering?] at waited ⊢
    rw [Option.eq_none_iff_forall_not_mem]
    intro entry' entering
    cases waited.symm.trans
      (system.proceed_entering? before entry' (by rw [waits]; exact entering))

/-- Nobody comes to wait at an open gate. -/
theorem progress?_atGate (system : System State Result) (event : Event State Result) (call : CallId)
    (request : EntryRequest State Result)
    (own : system.progress? event = some (call, .waits (.atGate request))) :
    system.queue.gateOpen = false := by
  have passing (other : System State Result) (entry : EntryRequest State Result)
      (waits : (other.passGate entry).2 = .waits (.atGate request)) :
      other.queue.gateOpen = false := by
    rcases other.passGate_waits entry _ waits with ⟨closed, _⟩ | ⟨_, _, same⟩
    · exact closed
    · cases same
  cases system.progress?_origin event call _ own with
  | begun asked event_eq free came =>
      have entry := system.start_entering? call asked request (by rw [← came]; rfl)
      subst entry
      exact passing { system with
        queue := { system.queue with readyCalls := system.queue.readyCalls + 1 } } request came.symm
  | resumed pending event_eq ready found came =>
      let resumed := { system with ready := system.ready.erase (.call call) }
      have entry := resumed.proceed_entering? pending.stage request (by rw [← came]; rfl)
      cases stage : pending.stage with
      | atGate waiting =>
          rw [stage] at came
          exact passing resumed waiting came.symm
      | _ => simp [stage, Stage.entering?] at entry

/-! Turns at a closed gate -/

theorem begin_closed (system : System State Result) (call : CallId)
    (request : EntryRequest State Result) (free : system.isFree call = true)
    (closed : system.queue.gateOpen = false) :
    system.step (.call call (.enter request)) =
      { system with
        queue := { system.queue with readyCalls := system.queue.readyCalls + 1 }
        calls := system.calls ++ [{ call, stage := .atGate request }]
        ready := Cooperative.enqueue system.ready (.call call) } := by
  simp [step, free, spawn, begin, start, passGate, closed, wake]

theorem retry_closed (system : System State Result) (named : system.Named) (call : CallId)
    (request : EntryRequest State Result)
    (present : { call, stage := .atGate request } ∈ system.calls)
    (closed : system.queue.gateOpen = false) :
    system.step (.turn (.call call)) =
      { system with ready := system.ready.erase (.call call) } := by
  by_cases ready : .call call ∈ system.ready
  · let resumed := { system with ready := system.ready.erase (.call call) }
    have found : resumed.findCall? call = some { call, stage := .atGate request } :=
      named?_of_mem system.calls named.distinct _ present
    have same : system.calls.map (fun other =>
        if other.call = call then { other with stage := .atGate request } else other) =
          system.calls := by
      refine (List.map_congr_left ?_).trans (List.map_id system.calls)
      intro other there
      by_cases own : other.call = call
      · have unique := List.inj_on_of_nodup_map named.distinct there present own
        simp [unique]
      · simp [own]
    rw [system.step_turn_call call ready]
    simp only [resume, found, proceed, passGate, closed, Bool.false_eq_true, ↓reduceIte, noteAnswer,
      same, resumed]
  · rw [system.step_unready _ ready, List.erase_of_not_mem ready]

/-- Hand-offs are no concern of anybody but the queue. -/
theorem deliverDue_queue (system : System State Result) (handOffs : List (HandOff State)) :
    ∃ queue journal, (system.deliverDue handOffs).1 = { system with queue, journal } := by
  induction handOffs generalizing system with
  | nil => exact ⟨_, _, rfl⟩
  | cons handOff rest ih =>
      simp only [deliverDue]
      split
      · obtain ⟨queue, journal, same⟩ := ih (system.deliver handOff)
        exact ⟨queue, journal, same⟩
      · exact ih system

structure LeavesLock (before after : System State Result) : Prop where
  lock : after.lock = before.lock
  lockWorker : after.lockWorker = before.lockWorker
  storageWorker : after.storageWorker = before.storageWorker

theorem notifying_turn (system : System State Result) (call : CallId)
    (pending : List (HandOff State)) (answer : Answer State Result)
    (ready : .call call ∈ system.ready)
    (found : system.findCall? call = some { call, stage := .notifying pending answer }) :
    system.LeavesLock (system.step (.turn (.call call))) := by
  let resumed := { system with ready := system.ready.erase (.call call) }
  have proceeded : ∃ queue journal outcome,
      resumed.proceed (.notifying pending answer) = ({ resumed with queue, journal }, outcome) := by
    obtain ⟨queue, journal, same⟩ := resumed.deliverDue_queue pending
    simp only [proceed]
    split <;> rename_i later <;> rw [later] at same <;> cases same <;> exact ⟨queue, journal, _, rfl⟩
  obtain ⟨queue, journal, outcome, same⟩ := proceeded
  obtain ⟨_, _, after⟩ := resumed.resume_found _ call _ outcome found same
  rw [system.step_turn_call call ready, after]
  exact ⟨rfl, rfl, rfl⟩

/-! Who waits at the gate -/

structure Queues (system : System State Result)
    (history : List (CallId × Request State Result)) : Prop where
  named : system.Named
  asked : ∀ pending ∈ system.calls, ∃ request,
    asked? history pending.call = some request ∧ request.WaitsAt pending.stage
  woken : system.queue.gateOpen = true → ∀ pending ∈ system.calls, pending.stage.isAtGate = true →
    .call pending.call ∈ system.ready

section

variable {system : System State Result} {history : List (CallId × Request State Result)}

theorem atGate_of_isAtGate (stage : Stage State Result) (waits : stage.isAtGate = true) :
    ∃ request, stage = .atGate request := by
  cases stage with
  | atGate request => exact ⟨request, rfl⟩
  | _ => cases waits

theorem begun_turn (system : System State Result) (event : Event State Result) (call : CallId)
    (idle : ∀ outcome, system.progress? event ≠ some (call, outcome)) :
    ∀ begun ∈ system.begun event, begun.1 ≠ call := by
  cases event with
  | call other request =>
      by_cases free : system.isFree other = true
      · simp only [begun, free, ↓reduceIte, List.mem_singleton, forall_eq]
        rintro rfl
        exact idle _ (system.progress?_call other request free)
      · simp [begun, free]
  | _ =>
      intro begun there
      cases there

/-- A call that was not on turn still waits where calls wait that were begun like it. Only one that
waits for a run can have been answered by somebody else. -/
theorem alike_waitsAt (before after : List (PendingCall State Result)) (call : CallId)
    (alike : Alike call before after) (old new : PendingCall State Result)
    (there : named? before call = some old) (found : named? after call = some new)
    (request : Request State Result) (waited : request.WaitsAt old.stage) :
    request.WaitsAt new.stage := by
  by_cases flushing : old.stage.isFlushing = true
  · have other : ∀ entry, request ≠ .enter entry := by
      rintro entry rfl
      cases stage : old.stage with
      | flushing => rw [stage] at waited; cases waited
      | _ => simp [stage, Stage.isFlushing] at flushing
    rw [waitsAt_foreign request _ other]
    by_contra atGate
    obtain ⟨entry, stage⟩ := atGate_of_isAtGate new.stage (by simpa using atGate)
    have kept := (alike.stage new (by rw [stage]; rfl)).mp found
    obtain rfl : old = new := Option.some.inj (there.symm.trans kept)
    rw [stage] at flushing
    cases flushing
  · have kept := (alike.stage old (Bool.eq_false_iff.mpr flushing)).mpr there
    obtain rfl : old = new := Option.some.inj (kept.symm.trans found)
    exact waited

theorem step_asked (queues : system.Queues history) (event : Event State Result)
    (pending : PendingCall State Result) (present : pending ∈ (system.step event).calls) :
    ∃ request, asked? (history ++ system.begun event) pending.call = some request ∧
      request.WaitsAt pending.stage := by
  have found := named?_of_mem _ (system.step_named event queues.named).distinct pending present
  by_cases own : ∃ outcome, system.progress? event = some (pending.call, outcome)
  · obtain ⟨outcome, own⟩ := own
    have waits := system.step_own_waits event queues.named pending present outcome own
    cases system.progress?_origin event pending.call outcome own with
    | begun request event_eq free came =>
        subst event_eq
        refine ⟨request, ?_, system.start_waitsAt pending.call request _ (came.symm.trans waits)⟩
        simp only [begun, free, ↓reduceIte]
        exact asked?_same history pending.call request
    | resumed before event_eq ready there came =>
        subst event_eq
        obtain ⟨resident, named⟩ := named?_some system.calls pending.call before there
        obtain ⟨request, asked, waited⟩ := queues.asked before resident
        refine ⟨request, ?_, proceed_waitsAt _ request _ _ waited (came.symm.trans waits)⟩
        rw [named] at asked
        simpa [begun] using asked
  · have idle : ∀ outcome, system.progress? event ≠ some (pending.call, outcome) :=
      fun outcome same => own ⟨outcome, same⟩
    by_cases dropped : event = .giveUp pending.call
    · subst dropped
      cases (system.giveUp_own pending.call).symm.trans found
    · have alike := system.step_alike event queues.named pending.call idle dropped
      have somebody := alike.isSome
      rw [found, Option.isSome_some] at somebody
      obtain ⟨before, there⟩ := Option.isSome_iff_exists.mp somebody.symm
      obtain ⟨resident, named⟩ := named?_some system.calls pending.call before there
      obtain ⟨request, asked, waited⟩ := queues.asked before resident
      refine ⟨request, ?_, alike_waitsAt _ _ pending.call alike before pending there found request
        waited⟩
      rw [asked?_other history _ pending.call (system.begun_turn event pending.call idle), ← named]
      exact asked

/-- With the gate open, nobody comes to it, and whoever takes a turn leaves it. -/
theorem step_open (queues : system.Queues history) (gate : system.queue.gateOpen = true)
    (event : Event State Result) (pending : PendingCall State Result)
    (present : pending ∈ (system.step event).calls) (waits : pending.stage.isAtGate = true) :
    pending ∈ system.calls ∧ event ≠ .turn (.call pending.call) := by
  obtain ⟨request, stage⟩ := atGate_of_isAtGate pending.stage waits
  have idle : system.progress? event ≠ some (pending.call, .waits pending.stage) := by
    intro own
    rw [stage] at own
    cases (system.progress?_atGate event pending.call request own).symm.trans gate
  have resident : pending ∈ system.calls := by
    rcases system.step_pending event queues.named pending present (by rw [stage]; rfl) with
      before | came
    · exact before
    · exact absurd came idle
  refine ⟨resident, ?_⟩
  rintro rfl
  have ready := queues.woken gate pending resident waits
  have own := system.progress?_turn pending.call pending ready
    (named?_of_mem system.calls queues.named.distinct pending resident)
  apply idle
  rw [own, system.step_own_waits _ queues.named pending present _ own]

theorem gateAfter_opens (event : Event State Result) (gate : gateAfter false event = true) :
    event = .setGate true := by
  cases event with
  | setGate wanted => exact congrArg Event.setGate gate
  | _ => cases gate

theorem step_woken (queues : system.Queues history) (event : Event State Result)
    (gate : (system.step event).queue.gateOpen = true) (pending : PendingCall State Result)
    (present : pending ∈ (system.step event).calls) (waits : pending.stage.isAtGate = true) :
    .call pending.call ∈ (system.step event).ready := by
  have attends := system.step_attends event
  rw [attends.gateOpen] at gate
  cases before : system.queue.gateOpen with
  | false =>
      rw [before] at gate
      obtain rfl := gateAfter_opens event gate
      refine (mem_enqueueAll system.ready _ _).mpr (.inr (List.mem_map.mpr ⟨pending, ?_, rfl⟩))
      exact List.mem_filter.mpr ⟨present, waits⟩
  | true =>
      obtain ⟨resident, other⟩ := step_open queues before event pending present waits
      exact attends.ready _ (queues.woken before pending resident waits) other

theorem step_queues (queues : system.Queues history) (event : Event State Result) :
    (system.step event).Queues (history ++ system.begun event) :=
  ⟨system.step_named event queues.named, step_asked queues event, step_woken queues event⟩

end

theorem new_queues (options : Options) : (new options : System State Result).Queues [] := by
  refine ⟨new_named options, ?_, ?_⟩
  · intro pending present
    cases present
  · intro _ pending present
    cases present

/-! Runs -/

theorem run_queues (system : System State Result) (events : List (Event State Result))
    (history : List (CallId × Request State Result)) (queues : system.Queues history) :
    (system.run events).Queues (history ++ gather begun system events) := by
  induction events generalizing system history with
  | nil => simpa [gather, run] using queues
  | cons event later ih =>
      have rest := ih (system.step event) _ (step_queues queues event)
      rwa [List.append_assoc] at rest

theorem run_gate (system : System State Result) (events : List (Event State Result)) :
    (system.run events).queue.gateOpen = events.foldl gateAfter system.queue.gateOpen ∧
      (system.run events).queue.readyCalls =
        system.queue.readyCalls + entriesOf (gather begun system events) := by
  induction events generalizing system with
  | nil => exact ⟨rfl, rfl⟩
  | cons event later ih =>
      have attends := system.step_attends event
      obtain ⟨gateOpen, readyCalls⟩ := ih (system.step event)
      rw [attends.gateOpen] at gateOpen
      rw [attends.readyCalls] at readyCalls
      refine ⟨gateOpen, readyCalls.trans ?_⟩
      rw [gather, entriesOf, entriesOf, entriesOf, List.countP_append, Nat.add_assoc]

/-- A call that finds the gate closed whenever it takes a turn goes on waiting. -/
theorem run_stays (system : System State Result) (history : List (CallId × Request State Result))
    (queues : system.Queues history) (call : CallId) (request : EntryRequest State Result)
    (present : { call, stage := .atGate request } ∈ system.calls)
    (later : List (Event State Result)) (kept : .giveUp call ∉ later)
    (closed : ∀ seen ∈ gather (finds call) system later, seen = false) :
    { call, stage := .atGate request } ∈ (system.run later).calls := by
  induction later generalizing system history with
  | nil => exact present
  | cons event rest ih =>
      rw [List.mem_cons, not_or] at kept
      rw [gather, List.forall_mem_append] at closed
      refine ih (system.step event) _ (step_queues queues event) ?_ kept.2 closed.2
      have found := named?_of_mem system.calls queues.named.distinct _ present
      by_cases own : ∃ outcome, system.progress? event = some (call, outcome)
      · obtain ⟨outcome, own⟩ := own
        cases system.progress?_origin event call outcome own with
        | begun request event_eq free came =>
            cases (system.isFree_named? call free).symm.trans found
        | resumed before event_eq ready there came =>
            subst event_eq
            have gate : system.queue.gateOpen = false := closed.1 _ (by simp [finds])
            rw [system.retry_closed queues.named call request present gate]
            exact present
      · have alike := system.step_alike event queues.named call
          (fun outcome same => own ⟨outcome, same⟩) fun dropped => kept.1 dropped.symm
        exact (named?_some _ _ _ ((alike.stage { call, stage := .atGate request } rfl).mpr found)).1

/-- As long as the gate is not closed, the calls at it become fewer with every turn one of them
takes. -/
theorem run_drains (system : System State Result) (history : List (CallId × Request State Result))
    (queues : system.Queues history) (gate : system.queue.gateOpen = true)
    (later : List (Event State Result)) (unclosed : .setGate false ∉ later)
    (pending : PendingCall State Result) (present : pending ∈ (system.run later).calls)
    (waits : pending.stage.isAtGate = true) :
    pending ∈ system.calls ∧ .turn (.call pending.call) ∉ later := by
  induction later generalizing system history with
  | nil => exact ⟨present, List.not_mem_nil⟩
  | cons event rest ih =>
      rw [List.mem_cons, not_or] at unclosed
      have opened : (system.step event).queue.gateOpen = true := by
        rw [(system.step_attends event).gateOpen, gate]
        cases event with
        | setGate wanted =>
            cases wanted with
            | true => rfl
            | false => exact absurd rfl unclosed.1
        | _ => rfl
      obtain ⟨waited, idle⟩ := ih (system.step event) _ (step_queues queues event) opened unclosed.2
        present
      obtain ⟨resident, other⟩ := step_open queues gate event pending waited waits
      exact ⟨resident, by simpa [other.symm] using idle⟩

/-- A piece of an entry that comes to a closed gate, or was past it, has nothing to do with the
lock. -/
theorem piece_closed (system : System State Result)
    (history : List (CallId × Request State Result)) (queues : system.Queues history)
    (closed : system.queue.gateOpen = false) (event : Event State Result) (call : CallId)
    (outcome : Progress State Result) (request : EntryRequest State Result)
    (own : system.progress? event = some (call, outcome))
    (entry : asked? (history ++ system.begun event) call = some (.enter request)) :
    system.LeavesLock (system.step event) ∧ system.works event = [] := by
  cases system.progress?_origin event call outcome own with
  | begun asked event_eq free came =>
      subst event_eq
      simp only [begun, free, ↓reduceIte, asked?_same] at entry
      cases entry
      rw [system.begin_closed call request free closed]
      exact ⟨⟨rfl, rfl, rfl⟩, by simp [works, action?, free, requestAction?, closed]⟩
  | resumed pending event_eq ready found came =>
      subst event_eq
      obtain ⟨resident, named⟩ := named?_some system.calls call pending found
      obtain ⟨asked, begun_eq, waits⟩ := queues.asked pending resident
      have same : asked = .enter request := by
        rw [named] at begun_eq
        exact Option.some.inj (begun_eq.symm.trans (by simpa [begun] using entry))
      subst same
      obtain ⟨other, stage⟩ := pending
      obtain rfl : other = call := named
      have idle : system.works (.turn (.call other)) = [] := by
        simp only [works, action?, ready, ↓reduceIte, turnAction?, callAction?, found, Option.bind_some]
        cases stage <;> simp [stageAction?, closed]
      refine ⟨?_, idle⟩
      cases stage with
      | atGate waiting =>
          rw [system.retry_closed queues.named other waiting resident closed]
          exact ⟨rfl, rfl, rfl⟩
      | notifying pending answer => exact system.notifying_turn other pending answer ready found
      | _ => cases waits

/-- How a system holds entries back at its gate. The gate is as it was left by whoever opened or
closed it last; the history lists the calls that were begun, oldest first. -/
structure HoldsEntries (system : System State Result) (gateOpen : Bool)
    (history : List (CallId × Request State Result)) : Prop where
  gate : system.queue.gateOpen = gateOpen
  counted : system.queue.readyCalls = entriesOf history
  -- While the gate is closed no piece of an entry changes the lock, runs an operation or wakes a
  -- worker.
  untouched : gateOpen = false → ∀ event call outcome request,
    system.progress? event = some (call, outcome) →
    asked? (history ++ system.begun event) call = some (.enter request) →
    system.LeavesLock (system.step event) ∧ system.works event = []
  -- An entry that is begun at a closed gate is counted and waits, and that is all.
  begins : gateOpen = false → ∀ call request, system.isFree call = true →
    system.step (.call call (.enter request)) =
      { system with
        queue := { system.queue with readyCalls := system.queue.readyCalls + 1 }
        calls := system.calls ++ [{ call, stage := .atGate request }]
        ready := Cooperative.enqueue system.ready (.call call) }
  -- A call at the gate whose turn comes when it is closed again has had its turn, and that is all.
  retries : gateOpen = false → ∀ call request,
    { call, stage := .atGate request } ∈ system.calls →
    system.step (.turn (.call call)) = { system with ready := system.ready.erase (.call call) }
  stays : ∀ call request, { call, stage := .atGate request } ∈ system.calls →
    ∀ later : List (Event State Result), .giveUp call ∉ later →
      (∀ seen ∈ gather (finds call) system later, seen = false) →
      { call, stage := .atGate request } ∈ (system.run later).calls
  woken : gateOpen = true → ∀ pending ∈ system.calls, pending.stage.isAtGate = true →
    .call pending.call ∈ system.ready
  rests : gateOpen = true → system.ready = [] → ∀ pending ∈ system.calls,
    pending.stage.isAtGate = false
  -- As long as the gate is not closed nobody comes to it, and whoever is there goes at its next turn.
  drains : gateOpen = true → ∀ later : List (Event State Result), .setGate false ∉ later →
    ∀ pending ∈ (system.run later).calls, pending.stage.isAtGate = true →
      pending ∈ system.calls ∧ .turn (.call pending.call) ∉ later

/-- In every run entries pass the gate only while it is open, none of them misses an opening, and
each is counted. -/
theorem run_gate_holds_entries (options : Options) (events : List (Event State Result)) :
    HoldsEntries ((new options).run events) (events.foldl gateAfter true)
      (gather begun (new options) events) := by
  have queues := run_queues (new options : System State Result) events [] (new_queues options)
  obtain ⟨gate, counted⟩ := run_gate (new options : System State Result) events
  have gate : ((new options).run events).queue.gateOpen = events.foldl gateAfter true := gate
  rw [List.nil_append] at queues
  constructor
  · exact gate
  · simpa [new, OutcomeQueue.new] using counted
  · exact fun closed event call outcome request =>
      piece_closed _ _ queues (gate.trans closed) event call outcome request
  · exact fun closed call request free => begin_closed _ call request free (gate.trans closed)
  · exact fun closed call request present =>
      retry_closed _ queues.named call request present (gate.trans closed)
  · exact fun call request present later => run_stays _ _ queues call request present later
  · exact fun opened => queues.woken (gate.trans opened)
  · intro opened still pending present
    by_contra waits
    have ready := queues.woken (gate.trans opened) pending present (by simpa using waits)
    rw [still] at ready
    cases ready
  · exact fun opened later unclosed pending =>
      run_drains _ _ queues (gate.trans opened) later unclosed pending

end System

end WoundWait
