import Mathlib.Data.List.Induction
import WoundWait.Proofs.RecordIsolation

/-!
What a transaction learns from a validation. It counts the calls of its present attempt that
returned well, and begins a new attempt whenever it likes. If the lock confirms these counts, the
record was made by the first of these calls, and they are all that ran on it.
-/

namespace WoundWait

variable {State Result : Type}

/-! Counts -/

namespace AccessCounter

def ofModes (modes : List AccessMode) : AccessCounter :=
  { reads := modes.count .read, writes := modes.count .write }

def tally (modes : List AccessMode) : AccessCounter :=
  modes.foldl record .zero

theorem increment_min (count : Nat) : increment (min limit count) = min limit (count + 1) := by
  unfold increment
  split <;> omega

/-- A record stops counting at the limit. -/
theorem tally_min (modes : List AccessMode) :
    tally modes =
      { reads := min limit (modes.count .read), writes := min limit (modes.count .write) } := by
  induction modes using List.reverseRecOn with
  | nil => rfl
  | append_singleton modes mode ih =>
      have step : tally (modes ++ [mode]) = (tally modes).record mode := by
        simp [tally, List.foldl_append]
      rw [step, ih]
      cases mode <;> simp [record, increment_min]

theorem tally_exact (modes : List AccessMode) (reads : (tally modes).reads < limit)
    (writes : (tally modes).writes < limit) : tally modes = ofModes modes := by
  rw [tally_min] at reads writes ⊢
  simp only [ofModes, mk.injEq]
  simp only at reads writes
  omega

theorem ofModes_length (modes : List AccessMode) : (ofModes modes).total = modes.length := by
  induction modes with
  | nil => rfl
  | cons mode rest ih =>
      simp only [ofModes, total] at ih ⊢
      cases mode <;> simp <;> omega

end AccessCounter

/-! Attempts -/

/-- A call to enter, told from all others by how many moments had passed when it began. -/
structure Visit (State Result : Type) where
  moment : Nat
  request : EntryRequest State Result

namespace Visit

def modes (visits : List (Visit State Result)) : List AccessMode :=
  visits.map fun visit => visit.request.mode

end Visit

structure Entrance (State Result : Type) where
  admission : Nat × TransactionId
  made : Bool
  visit : Visit State Result

def Entrance.tell (admission : Nat × TransactionId) :
    List (Visit State Result) → List (Entrance State Result)
  | [] => []
  | first :: rest =>
      { admission, made := true, visit := first } ::
        rest.map fun visit => { admission, made := false, visit }

theorem Entrance.tell_append (admission : Nat × TransactionId) (visits : List (Visit State Result))
    (visit : Visit State Result) (some : visits ≠ []) :
    tell admission (visits ++ [visit]) =
      tell admission visits ++ [{ admission, made := false, visit }] := by
  cases visits with
  | nil => exact absurd rfl some
  | cons first rest => simp [tell]

/-- A story tells what happens to the system, and when a transaction begins a new attempt. -/
inductive Moment (State Result : Type) where
  | event (event : Event State Result)
  | attempt

structure Scene (State Result : Type) where
  system : System State Result
  moments : Nat
  bearer : CallId → Option (Visit State Result)
  entrances : List (Entrance State Result)
  returned : List (Visit State Result)

namespace System

def acting? : Event State Result → Option CallId
  | .call call _ | .turn (.call call) => some call
  | _ => none

def entrance? (system : System State Result) (event : Event State Result) :
    Option (CallId × TransactionRecord State) :=
  match acting? event, system.action? event with
  | some call, some (.enter request) =>
      (system.lock.meets? system.clock request).map fun seen => (call, seen)
  | _, _ => none

end System

namespace Scene

def new (options : Options) : Scene State Result :=
  { system := .new options, moments := 0, bearer := fun _ => none, entrances := [], returned := [] }

def bearerAfter (scene : Scene State Result) :
    Event State Result → CallId → Option (Visit State Result)
  | .call call request =>
      if scene.system.isFree call then
        Function.update scene.bearer call <|
          match request with
          | .enter request => some { moment := scene.moments, request }
          | _ => none
      else scene.bearer
  | _ => scene.bearer

def entered (scene : Scene State Result) (event : Event State Result) :
    List (Entrance State Result) :=
  match scene.system.entrance? event with
  | some (call, seen) =>
      (scene.bearerAfter event call).toList.map fun visit =>
        { admission := seen.admission
          made := (scene.system.lock.find? seen.transaction).isNone
          visit }
  | none => []

def returns (transaction : TransactionId) (scene : Scene State Result)
    (event : Event State Result) : List (Visit State Result) :=
  match scene.system.reply? event with
  | some (call, .entered (.ok _)) =>
      (scene.bearerAfter event call).toList.filter fun visit =>
        visit.request.transaction == transaction
  | _ => []

def next (transaction : TransactionId) (scene : Scene State Result) :
    Moment State Result → Scene State Result
  | .attempt => { scene with moments := scene.moments + 1, returned := [] }
  | .event event =>
      { system := scene.system.step event
        moments := scene.moments + 1
        bearer := scene.bearerAfter event
        entrances := scene.entrances ++ scene.entered event
        returned := scene.returned ++ scene.returns transaction event }

def play (transaction : TransactionId) (scene : Scene State Result)
    (story : List (Moment State Result)) : Scene State Result :=
  story.foldl (next transaction) scene

def counter (scene : Scene State Result) : AccessCounter :=
  .ofModes (Visit.modes scene.returned)

def Bears (transaction : TransactionId) (scene : Scene State Result) (call : CallId) : Prop :=
  ∃ visit, scene.bearer call = some visit ∧ visit.request.transaction = transaction

/-- A transaction enters with the counts it knows of, and while none of its calls to enter is
pending. Nobody else is told what to do. -/
def Allows (transaction : TransactionId) (scene : Scene State Result) :
    Moment State Result → Prop
  | .event (.call call (.enter request)) =>
      request.transaction = transaction → scene.system.isFree call = true →
        request.counter = scene.counter ∧
          ∀ pending ∈ scene.system.calls, ¬ scene.Bears transaction pending.call
  | _ => True

def Disciplined (transaction : TransactionId) (scene : Scene State Result) :
    List (Moment State Result) → Prop
  | [] => True
  | moment :: later =>
      scene.Allows transaction moment ∧ (scene.next transaction moment).Disciplined transaction later

def on (scene : Scene State Result) (admission : Nat × TransactionId) :
    List (Entrance State Result) :=
  scene.entrances.filter fun entrance => entrance.admission == admission

structure Follows (scene : Scene State Result) (record : TransactionRecord State)
    (visits : List (Visit State Result)) : Prop where
  some : visits ≠ []
  told : scene.on record.admission = Entrance.tell record.admission visits
  accesses : record.accesses = .tally (Visit.modes visits)
  returned : scene.returned.Sublist visits

structure Consistent (options : Options) (transaction : TransactionId)
    (scene : Scene State Result) : Prop where
  isolated : ∃ done, scene.system.Isolated options done
  past : ∀ entrance ∈ scene.entrances, entrance.admission.1 < scene.system.lock.admissions
  borne : ∀ pending ∈ scene.system.calls, ∀ request, pending.stage = .atGate request →
    ∃ visit, scene.bearer pending.call = Option.some visit ∧ visit.request = request
  single : ∀ pending ∈ scene.system.calls, ∀ other ∈ scene.system.calls,
    scene.Bears transaction pending.call → scene.Bears transaction other.call →
      pending.call = other.call
  counted : ∀ pending ∈ scene.system.calls, ∀ request, pending.stage = .atGate request →
    request.transaction = transaction →
      request.counter = scene.counter ∨ scene.returned = []
  resident : ∀ record, scene.system.lock.find? transaction = Option.some record →
    ∃ visits, scene.Follows record visits
  entering : ∀ pending ∈ scene.system.calls, ∀ value visit,
    pending.stage.final? = Option.some (.entered (.ok value)) →
    scene.bearer pending.call = Option.some visit → visit.request.transaction = transaction →
      ∀ record, scene.system.lock.find? transaction = Option.some record →
        ∃ earlier, scene.on record.admission = Entrance.tell record.admission (earlier ++ [visit]) ∧
          scene.returned.Sublist earlier

theorem Consistent.orderly {options : Options} {transaction : TransactionId}
    {scene : Scene State Result} (consistent : scene.Consistent options transaction) :
    scene.system.Orderly options :=
  consistent.isolated.elim fun _ isolated => isolated.orderly

theorem new_consistent (options : Options) (transaction : TransactionId) :
    (new options : Scene State Result).Consistent options transaction := by
  refine ⟨⟨[], System.new_isolated options⟩, ?_, ?_, ?_, ?_, ?_, ?_⟩
  · intro entrance present
    cases present
  · intro pending present
    cases present
  · intro pending present
    cases present
  · intro pending present
    cases present
  · intro record found
    cases found
  · intro pending present
    cases present

end Scene

/-! Who enters -/

namespace Lock

inductive FoundOrigin (lock : Lock State) (clock : Instant) (action : LockAction State Result)
    (transaction : TransactionId) (record : TransactionRecord State) : Prop where
  | entered (request : EntryRequest State Result) (seen : TransactionRecord State)
      (action_eq : action = .enter request) (meets : lock.meets? clock request = some seen)
      (same : record.admission = seen.admission)
      (accesses : record.accesses = seen.accesses.record request.mode)
  | kept (before : TransactionRecord State) (found : lock.find? transaction = some before)
      (same : record.admission = before.admission) (accesses : record.accesses = before.accesses)
      (idle : ∀ request seen, action = .enter request → lock.meets? clock request = some seen →
        seen.admission ≠ record.admission)

theorem perform_found (lock : Lock State) (distinct : lock.HasDistinctNames) (clock : Instant)
    (action : LockAction State Result) (transaction : TransactionId) (record : TransactionRecord State)
    (found : (lock.perform clock action).find? transaction = some record) :
    lock.FoundOrigin clock action transaction record := by
  obtain ⟨present, named⟩ := find?_some _ transaction record found
  have resident (before : TransactionRecord State) (member : before ∈ lock.members)
      (same : record.admission = before.admission) : lock.find? transaction = some before := by
    have own : before.transaction = transaction := (congrArg Prod.snd same).symm.trans named
    rw [← own]
    exact lock.find?_of_mem distinct before member
  cases lock.perform_copies distinct clock action record present with
  | kept before member same copy idle =>
      refine .kept before (resident before member same) same (congrArg Copy.accesses copy) ?_
      rintro request seen rfl meets
      exact idle { seen, mode := some request.mode, operation := request.operation }
        (by simp [works, meets])
  | worked work done same copy =>
      have counted := congrArg Copy.accesses copy
      cases action with
      | enter request =>
          cases meets : lock.meets? clock request with
          | none => simp [works, meets] at done
          | some seen =>
              simp only [works, meets, Option.toList_some, List.map_cons, List.map_nil,
                List.cons.injEq, and_true] at done
              subst done
              exact .entered request seen rfl meets same counted
      | edit other operation =>
          cases there : lock.find? other with
          | none => simp [works, there] at done
          | some seen =>
              simp only [works, there, Option.toList_some, List.map_cons, List.map_nil,
                List.cons.injEq, and_true] at done
              subst done
              refine .kept seen (resident seen (lock.find?_some other seen there).1 same) same counted
                ?_
              rintro request _ ⟨⟩
      | _ => cases done

theorem meets?_entrant (lock : Lock State) (clock : Instant) (request : EntryRequest State Result)
    (seen : TransactionRecord State) (meets : lock.meets? clock request = some seen) :
    seen = lock.entrant clock request ∧ lock.CountsAgree request := by
  rcases lock.enter_meets? clock request with ⟨none, _⟩ | ⟨same, entry, admitted, _⟩
  · cases none.symm.trans meets
  · exact ⟨Option.some.inj (meets.symm.trans same), (lock.enter_ok clock request entry admitted).1⟩

end Lock

namespace System

inductive ComesIn (system : System State Result) (event : Event State Result) (call : CallId)
    (request : EntryRequest State Result) : Prop where
  | begun (event_eq : event = .call call (.enter request)) (free : system.isFree call = true)
  | resumed (pending : PendingCall State Result) (event_eq : event = .turn (.call call))
      (found : system.findCall? call = some pending) (waited : pending.stage = .atGate request)

theorem action?_enters (system : System State Result) (event : Event State Result)
    (request : EntryRequest State Result) (action : system.action? event = some (.enter request)) :
    ∃ call, acting? event = some call ∧ system.ComesIn event call request := by
  cases event with
  | call call asked =>
      by_cases free : system.isFree call = true
      · simp only [action?, free, ↓reduceIte] at action
        cases asked with
        | enter entry =>
            by_cases gate : system.queue.gateOpen = true
            · simp only [requestAction?, gate, ↓reduceIte, Option.some.injEq,
                LockAction.enter.injEq] at action
              exact ⟨call, rfl, .begun (action ▸ rfl) free⟩
            · simp [requestAction?, gate] at action
        | _ => cases action
      · simp [action?, free] at action
  | turn task =>
      by_cases ready : task ∈ system.ready
      · simp only [action?, ready, ↓reduceIte] at action
        cases task with
        | storage => cases action
        | lock =>
            simp only [turnAction?, lookAction?] at action
            split at action <;> cases action
        | call call =>
            obtain ⟨pending, found, same⟩ := Option.bind_eq_some_iff.mp action
            refine ⟨call, rfl, .resumed pending rfl found ?_⟩
            cases stage : pending.stage with
            | atGate entry =>
                by_cases gate : system.queue.gateOpen = true
                · simp only [stage, stageAction?, gate, ↓reduceIte, Option.some.injEq,
                    LockAction.enter.injEq] at same
                  exact same ▸ rfl
                · simp [stage, stageAction?, gate] at same
            | _ => simp [stage, stageAction?] at same
      · simp [action?, ready] at action
  | _ => cases action

theorem entrance?_some (system : System State Result) (event : Event State Result) (call : CallId)
    (seen : TransactionRecord State) (entrance : system.entrance? event = some (call, seen)) :
    ∃ request, system.action? event = some (.enter request) ∧
      system.lock.meets? system.clock request = some seen ∧ system.ComesIn event call request := by
  cases action : system.action? event with
  | none => simp [entrance?, action] at entrance
  | some done =>
      cases done with
      | enter request =>
          obtain ⟨other, acting, enters⟩ := system.action?_enters event request action
          simp only [entrance?, acting, action] at entrance
          obtain ⟨record, meets, same⟩ := Option.map_eq_some_iff.mp entrance
          obtain ⟨rfl, rfl⟩ := Prod.mk.inj same
          exact ⟨request, rfl, meets, enters⟩
      | _ => simp [entrance?, action] at entrance

theorem entrance?_of_action (system : System State Result) (event : Event State Result)
    (request : EntryRequest State Result) (seen : TransactionRecord State)
    (action : system.action? event = some (.enter request))
    (meets : system.lock.meets? system.clock request = some seen) :
    ∃ call, system.entrance? event = some (call, seen) := by
  obtain ⟨call, acting, _⟩ := system.action?_enters event request action
  exact ⟨call, by simp [entrance?, acting, action, meets]⟩

inductive FoundOrigin (system : System State Result) (event : Event State Result)
    (transaction : TransactionId) (record : TransactionRecord State) : Prop where
  | entered (call : CallId) (request : EntryRequest State Result) (seen : TransactionRecord State)
      (action : system.action? event = some (.enter request))
      (entrance : system.entrance? event = some (call, seen))
      (same : record.admission = seen.admission)
      (accesses : record.accesses = seen.accesses.record request.mode)
  | kept (before : TransactionRecord State) (found : system.lock.find? transaction = some before)
      (same : record.admission = before.admission) (accesses : record.accesses = before.accesses)
      (idle : ∀ call seen, system.entrance? event = some (call, seen) →
        seen.admission ≠ record.admission)

theorem step_found (options : Options) (system : System State Result) (event : Event State Result)
    (orderly : system.Orderly options) (transaction : TransactionId)
    (record : TransactionRecord State)
    (found : (system.step event).lock.find? transaction = some record) :
    system.FoundOrigin event transaction record := by
  rw [system.step_lock event orderly.named] at found
  cases action : system.action? event with
  | none =>
      rw [action] at found
      refine .kept record found rfl rfl ?_
      intro call seen entrance
      obtain ⟨request, entering, _⟩ := system.entrance?_some event call seen entrance
      cases action.symm.trans entering
  | some done =>
      rw [action] at found
      cases system.lock.perform_found orderly.kept.distinct system.clock done transaction record
          found with
      | entered request seen action_eq meets same accesses =>
          subst action_eq
          obtain ⟨call, entrance⟩ := system.entrance?_of_action event request seen action meets
          exact .entered call request seen action entrance same accesses
      | kept before there same accesses idle =>
          refine .kept before there same accesses ?_
          intro call seen entrance
          obtain ⟨request, entering, meets, _⟩ := system.entrance?_some event call seen entrance
          exact idle request seen (Option.some.inj (action.symm.trans entering)) meets

/-- An entry does well only if it is admitted. -/
theorem passGate_value? (system : System State Result) (request : EntryRequest State Result)
    (answer : Answer State Result) (value : Result)
    (final : (system.passGate request).2.final? = some answer) (well : answer.value? = some value) :
    system.queue.gateOpen = true ∧ ∃ seen, system.lock.meets? system.clock request = some seen := by
  by_cases gate : system.queue.gateOpen = true
  · refine ⟨gate, ?_⟩
    rcases system.lock.enter_meets? system.clock request with ⟨_, refusal, refused⟩ | ⟨meets, _⟩
    · simp only [passGate, gate, ↓reduceIte, enterLock, refused] at final
      cases final
      cases well
    · exact ⟨_, meets⟩
  · simp only [passGate, gate, Bool.false_eq_true, ↓reduceIte] at final
    cases final

inductive GoodOrigin (system : System State Result) (event : Event State Result)
    (call : CallId) (answer : Answer State Result) : Prop where
  | entered (seen : TransactionRecord State)
      (entrance : system.entrance? event = some (call, seen))
  | waited (pending : PendingCall State Result) (event_eq : event = .turn (.call call))
      (found : system.findCall? call = some pending) (settled : pending.stage.final? = some answer)

theorem start_value? (system : System State Result) (call : CallId)
    (request : Request State Result) (answer : Answer State Result) (value : Result)
    (final : (system.start call request).2.final? = some answer)
    (well : answer.value? = some value) :
    ∃ entry seen, system.requestAction? request = some (.enter entry) ∧
      system.lock.meets? system.clock entry = some seen := by
  cases request with
  | enter entry =>
      obtain ⟨gate, seen, meets⟩ := passGate_value? _ entry answer value final well
      exact ⟨entry, seen, if_pos gate, meets⟩
  | validate transaction counter =>
      simp only [start, validateLock] at final
      split at final
      · cases final
        cases well
      · cases final
        cases well
      · rw [notifyThen_final?] at final
        cases final
        cases well
  | _ =>
      have plain := system.start_plain call _ (by simp) (by simp) answer final
      cases (answer.isPlain_value? plain).symm.trans well

theorem proceed_value? (system : System State Result) (stage : Stage State Result)
    (answer : Answer State Result) (value : Result)
    (final : (system.proceed stage).2.final? = some answer) (well : answer.value? = some value) :
    (∃ request seen, system.stageAction? stage = some (.enter request) ∧
      system.lock.meets? system.clock request = some seen) ∨ stage.final? = some answer := by
  cases gate : stage.entering? with
  | some request =>
      cases stage with
      | atGate request =>
          obtain ⟨gate, seen, meets⟩ := passGate_value? _ request answer value final well
          exact .inl ⟨request, seen, if_pos gate, meets⟩
      | _ => cases gate
  | none =>
      rcases system.proceed_final? stage gate answer final with settled | plain
      · exact .inr settled
      · cases (answer.isPlain_value? plain).symm.trans well

theorem progress?_good (system : System State Result) (event : Event State Result)
    (call : CallId) (outcome : Progress State Result) (answer : Answer State Result)
    (value : Result) (own : system.progress? event = some (call, outcome))
    (final : outcome.final? = some answer) (well : answer.value? = some value) :
    system.GoodOrigin event call answer := by
  cases system.progress?_origin event call outcome own with
  | begun request event_eq free came =>
      subst event_eq came
      obtain ⟨entry, seen, action, meets⟩ := system.start_value? call request answer value final well
      exact .entered seen (by simp [entrance?, acting?, action?, free, action, meets])
  | resumed pending event_eq ready found came =>
      subst event_eq came
      let resumed := { system with ready := system.ready.erase (.call call) }
      rcases resumed.proceed_value? pending.stage answer value final well with
        ⟨request, seen, action, meets⟩ | settled
      · have due : system.action? (.turn (.call call)) = some (.enter request) := by
          simp only [action?, ready, ↓reduceIte, turnAction?, callAction?, found, Option.bind_some]
          exact action
        refine .entered seen ?_
        simp only [entrance?, acting?, due]
        exact Option.map_eq_some_iff.mpr ⟨seen, meets, rfl⟩
      · exact .waited pending rfl found settled

end System

namespace Scene

variable {options : Options} {transaction : TransactionId} {scene : Scene State Result}

def onAfter (scene : Scene State Result) (event : Event State Result)
    (admission : Nat × TransactionId) : List (Entrance State Result) :=
  (scene.entrances ++ scene.entered event).filter fun entrance => entrance.admission == admission

theorem onAfter_other (scene : Scene State Result) (event : Event State Result)
    (admission : Nat × TransactionId)
    (idle : ∀ call seen, scene.system.entrance? event = some (call, seen) →
      seen.admission ≠ admission) : scene.onAfter event admission = scene.on admission := by
  rw [onAfter, List.filter_append, on]
  have none : (scene.entered event).filter (fun entrance => entrance.admission == admission) = [] := by
    rw [List.filter_eq_nil_iff]
    intro entrance entered same
    unfold Scene.entered at entered
    split at entered
    · rename_i call seen entrance?
      obtain ⟨visit, _, made⟩ := List.mem_map.mp entered
      subst made
      exact idle call seen entrance? (by simpa using same)
    · cases entered
  rw [none, List.append_nil]

theorem tell_visits (admission : Nat × TransactionId) (visits : List (Visit State Result)) :
    (Entrance.tell admission visits).map Entrance.visit = visits := by
  cases visits with
  | nil => rfl
  | cons first rest => simp [Entrance.tell, Function.comp_def]

/-- A name that is borne by a pending call is not given away. -/
theorem bearerAfter_pending (scene : Scene State Result) (event : Event State Result)
    (pending : PendingCall State Result) (present : pending ∈ scene.system.calls) :
    scene.bearerAfter event pending.call = scene.bearer pending.call := by
  cases event with
  | call call request =>
      by_cases free : scene.system.isFree call = true
      · have absent := (System.named?_none _ call).mp (scene.system.isFree_named? call free)
        simp only [bearerAfter, free, ↓reduceIte]
        exact Function.update_of_ne (absent pending present) _ _
      · simp [bearerAfter, free]
  | _ => rfl

/-- Whoever comes in bears the name that its call was begun under. -/
theorem comesIn_bearer (consistent : scene.Consistent options transaction)
    (event : Event State Result) (call : CallId) (request : EntryRequest State Result)
    (comes : scene.system.ComesIn event call request) :
    ∃ visit, scene.bearerAfter event call = some visit ∧ visit.request = request := by
  cases comes with
  | begun event_eq free =>
      subst event_eq
      exact ⟨{ moment := scene.moments, request }, by simp [bearerAfter, free], rfl⟩
  | resumed pending event_eq found waited =>
      obtain ⟨present, named⟩ := System.named?_some _ call pending found
      rw [← named, scene.bearerAfter_pending event pending present]
      exact consistent.borne pending present request waited

/-- While the transaction enters it has no other call to enter. -/
theorem comesIn_single (consistent : scene.Consistent options transaction)
    (event : Event State Result) (allows : scene.Allows transaction (.event event))
    (call : CallId) (request : EntryRequest State Result) (own : request.transaction = transaction)
    (comes : scene.system.ComesIn event call request) (pending : PendingCall State Result)
    (present : pending ∈ scene.system.calls) (bears : scene.Bears transaction pending.call) :
    event = .turn (.call call) ∧ scene.system.findCall? call = some pending ∧
      pending.stage = .atGate request := by
  cases comes with
  | begun event_eq free =>
      subst event_eq
      exact absurd bears ((allows own free).2 pending present)
  | resumed waiting event_eq found waited =>
      obtain ⟨there, named⟩ := System.named?_some _ call waiting found
      obtain ⟨visit, borne, same⟩ := consistent.borne waiting there request waited
      have equal := consistent.single pending present waiting there bears
        ⟨visit, borne, same ▸ own⟩
      have located := System.named?_of_mem _ consistent.orderly.named.distinct pending present
      rw [equal, named] at located
      cases Option.some.inj (located.symm.trans found)
      exact ⟨event_eq, found, waited⟩

theorem counter_empty (scene : Scene State Result) (empty : scene.counter.isEmpty = true) :
    scene.returned = [] := by
  have length := AccessCounter.ofModes_length (Visit.modes scene.returned)
  simp only [AccessCounter.isEmpty, counter, beq_iff_eq] at empty
  rw [empty] at length
  simpa [Visit.modes] using length.symm

/-- The counts of a call that comes in are those of the attempt, if it still has any. -/
theorem comesIn_counter (consistent : scene.Consistent options transaction)
    (event : Event State Result) (allows : scene.Allows transaction (.event event))
    (call : CallId) (request : EntryRequest State Result) (own : request.transaction = transaction)
    (comes : scene.system.ComesIn event call request)
    (empty : request.counter.isEmpty = true) : scene.returned = [] := by
  cases comes with
  | begun event_eq free =>
      subst event_eq
      rw [(allows own free).1] at empty
      exact scene.counter_empty empty
  | resumed pending event_eq found waited =>
      have present := (System.named?_some _ call pending found).1
      rcases consistent.counted pending present request waited own with same | none
      · rw [same] at empty
        exact scene.counter_empty empty
      · exact none

structure Enters (scene : Scene State Result) (event : Event State Result) (call : CallId)
    (seen : TransactionRecord State) (visit : Visit State Result)
    (earlier : List (Visit State Result)) : Prop where
  bearer : scene.bearerAfter event call = some visit
  told : scene.onAfter event seen.admission = Entrance.tell seen.admission (earlier ++ [visit])
  accesses : seen.accesses = .tally (Visit.modes earlier)
  returned : scene.returned.Sublist earlier

theorem entrance_enters (consistent : scene.Consistent options transaction)
    (event : Event State Result) (allows : scene.Allows transaction (.event event))
    (call : CallId) (seen : TransactionRecord State) (own : seen.transaction = transaction)
    (entrance : scene.system.entrance? event = some (call, seen)) :
    ∃ visit earlier, scene.Enters event call seen visit earlier ∧
      scene.system.action? event = some (.enter visit.request) := by
  obtain ⟨request, action, meets, comes⟩ := scene.system.entrance?_some event call seen entrance
  obtain ⟨visit, bearer, same⟩ := comesIn_bearer consistent event call request comes
  obtain ⟨entrant, agree⟩ := scene.system.lock.meets?_entrant _ request seen meets
  subst same
  have asked : visit.request.transaction = transaction := by
    rw [← own, entrant, scene.system.lock.entrant_transaction]
  have entered : scene.entered event = [{
      admission := seen.admission
      made := (scene.system.lock.find? seen.transaction).isNone
      visit }] := by
    simp [Scene.entered, entrance, bearer]
  have after : scene.onAfter event seen.admission = scene.on seen.admission ++ [{
      admission := seen.admission
      made := (scene.system.lock.find? seen.transaction).isNone
      visit }] := by
    rw [onAfter, List.filter_append, entered, on]
    simp
  rw [own] at after
  cases found : scene.system.lock.find? transaction with
  | some record =>
      have resident : seen = record := by
        rw [entrant, Lock.entrant, asked, found]
        rfl
      obtain ⟨visits, follows⟩ := consistent.resident record found
      refine ⟨visit, visits, ⟨bearer, ?_, ?_, follows.returned⟩, action⟩
      · rw [after, found, Entrance.tell_append _ _ _ follows.some, resident, follows.told]
        rfl
      · rw [resident]
        exact follows.accesses
  | none =>
      have fresh : seen = .fresh scene.system.lock.admissions visit.request.transaction
          visit.request.priority
          (scene.system.clock + scene.system.lock.options.lockAcquireTimeout) := by
        rw [entrant, Lock.entrant, asked, found]
        rfl
      have unseen : scene.on seen.admission = [] := by
        rw [on, List.filter_eq_nil_iff]
        intro entrance made same
        have past := consistent.past entrance made
        have number : entrance.admission.1 = seen.serial := by
          rw [beq_iff_eq.mp same]
          rfl
        rw [fresh] at number
        simp only [TransactionRecord.fresh] at number
        omega
      refine ⟨visit, [], ⟨bearer, ?_, ?_, ?_⟩, action⟩
      · rw [after, found, unseen]
        rfl
      · rw [fresh]
        rfl
      · have empty : visit.request.counter.isEmpty = true := by
          rw [Lock.CountsAgree, asked, found] at agree
          exact agree
        rw [comesIn_counter consistent event allows call visit.request asked comes empty]

/-- The record that a transaction has after an entry of its own is the one that it entered. -/
theorem entrance_found (consistent : scene.Consistent options transaction)
    (event : Event State Result) (call : CallId) (seen : TransactionRecord State)
    (own : seen.transaction = transaction)
    (entrance : scene.system.entrance? event = some (call, seen))
    (record : TransactionRecord State)
    (found : (scene.system.step event).lock.find? transaction = some record) :
    record.admission = seen.admission := by
  cases System.step_found options scene.system event consistent.orderly transaction record found with
  | entered other request came action entrance' same accesses =>
      cases Option.some.inj (entrance.symm.trans entrance')
      exact same
  | kept before there same accesses idle =>
      obtain ⟨request, _, meets, _⟩ := scene.system.entrance?_some event call seen entrance
      obtain ⟨entrant, _⟩ := scene.system.lock.meets?_entrant _ request seen meets
      have asked : request.transaction = transaction := by
        rw [← own, entrant, scene.system.lock.entrant_transaction]
      have equal : seen = before := by
        rw [entrant, Lock.entrant, asked, there]
        rfl
      exact absurd (equal ▸ same.symm) (idle call seen entrance)

/-- Before the answers of an event are counted, its entry is. -/
theorem step_follows (consistent : scene.Consistent options transaction)
    (event : Event State Result) (allows : scene.Allows transaction (.event event))
    (record : TransactionRecord State)
    (found : (scene.system.step event).lock.find? transaction = some record) :
    ∃ visits, visits ≠ [] ∧
      scene.onAfter event record.admission = Entrance.tell record.admission visits ∧
      record.accesses = .tally (Visit.modes visits) ∧ scene.returned.Sublist visits := by
  have named := (Lock.find?_some _ transaction record found).2
  cases System.step_found options scene.system event consistent.orderly transaction record found with
  | entered call request seen action entrance same accesses =>
      have own : seen.transaction = transaction := (congrArg Prod.snd same).symm.trans named
      obtain ⟨visit, earlier, enters, asked⟩ :=
        entrance_enters consistent event allows call seen own entrance
      cases Option.some.inj (action.symm.trans asked)
      refine ⟨earlier ++ [visit], by simp, ?_, ?_, ?_⟩
      · rw [same, enters.told]
      · rw [accesses, enters.accesses]
        simp [AccessCounter.tally, Visit.modes, List.foldl_append]
      · exact enters.returned.trans (List.sublist_append_left earlier [visit])
  | kept before there same accesses idle =>
      obtain ⟨visits, follows⟩ := consistent.resident before there
      refine ⟨visits, follows.some, ?_, ?_, follows.returned⟩
      · rw [scene.onAfter_other event record.admission idle, same]
        exact follows.told
      · rw [accesses]
        exact follows.accesses

/-- While a call of the transaction waits for the queue, nobody works on its record. -/
theorem settled_kept (consistent : scene.Consistent options transaction)
    (event : Event State Result) (allows : scene.Allows transaction (.event event))
    (pending : PendingCall State Result) (present : pending ∈ scene.system.calls)
    (bears : scene.Bears transaction pending.call) (settled : pending.stage.entering? = none)
    (record : TransactionRecord State)
    (found : (scene.system.step event).lock.find? transaction = some record) :
    ∃ before, scene.system.lock.find? transaction = some before ∧
      record.admission = before.admission ∧
      scene.onAfter event record.admission = scene.on before.admission := by
  cases System.step_found options scene.system event consistent.orderly transaction record found with
  | entered call request seen action entrance same accesses =>
      obtain ⟨entry, action', meets, comes⟩ := scene.system.entrance?_some event call seen entrance
      have asked : entry.transaction = transaction := by
        rw [← scene.system.lock.entrant_transaction scene.system.clock entry,
          ← (scene.system.lock.meets?_entrant _ entry seen meets).1,
          ← (Lock.find?_some _ transaction record found).2]
        exact (congrArg Prod.snd same).symm
      obtain ⟨_, _, gate⟩ := comesIn_single consistent event allows call entry asked comes pending
        present bears
      rw [gate] at settled
      cases settled
  | kept before resident same accesses idle =>
      refine ⟨before, resident, same, ?_⟩
      rw [scene.onAfter_other event record.admission idle, same]

theorem final?_entering? (stage : Stage State Result) (answer : Answer State Result)
    (settled : stage.final? = some answer) : stage.entering? = none := by
  cases stage with
  | notifying => rfl
  | _ => cases settled

/-- A call that has returned well, or is going to, is the last that ran on the record. -/
theorem step_good (consistent : scene.Consistent options transaction)
    (event : Event State Result) (allows : scene.Allows transaction (.event event))
    (call : CallId) (outcome : System.Progress State Result) (value : Result)
    (visit : Visit State Result) (turn : scene.system.progress? event = some (call, outcome))
    (good : outcome.final? = some (.entered (.ok value)))
    (bearer : scene.bearerAfter event call = some visit)
    (own : visit.request.transaction = transaction) (record : TransactionRecord State)
    (found : (scene.system.step event).lock.find? transaction = some record) :
    ∃ earlier,
      scene.onAfter event record.admission = Entrance.tell record.admission (earlier ++ [visit]) ∧
      scene.returned.Sublist earlier := by
  cases scene.system.progress?_good event call outcome _ value turn good rfl with
  | entered seen entrance =>
      obtain ⟨request, action, meets, comes⟩ := scene.system.entrance?_some event call seen entrance
      obtain ⟨same, bearer', asked⟩ := comesIn_bearer consistent event call request comes
      cases Option.some.inj (bearer.symm.trans bearer')
      have named : seen.transaction = transaction := by
        rw [(scene.system.lock.meets?_entrant _ request seen meets).1,
          scene.system.lock.entrant_transaction, ← asked, own]
      obtain ⟨other, earlier, enters, _⟩ :=
        entrance_enters consistent event allows call seen named entrance
      cases Option.some.inj (bearer.symm.trans enters.bearer)
      refine ⟨earlier, ?_, enters.returned⟩
      rw [entrance_found consistent event call seen named entrance record found]
      exact enters.told
  | waited pending event_eq there settled =>
      obtain ⟨present, borne⟩ := System.named?_some _ call pending there
      rw [← borne, scene.bearerAfter_pending event pending present] at bearer
      have bears : scene.Bears transaction pending.call := ⟨visit, bearer, own⟩
      obtain ⟨before, resident, same, kept⟩ := settled_kept consistent event allows pending present
        bears (final?_entering? _ _ settled) record found
      rw [kept, same]
      exact consistent.entering pending present value visit settled bearer own before resident

theorem returns_cases (transaction : TransactionId) (scene : Scene State Result)
    (event : Event State Result) :
    scene.returns transaction event = [] ∨ ∃ call value visit,
      scene.system.progress? event = some (call, .answered (.entered (.ok value))) ∧
      scene.bearerAfter event call = some visit ∧ visit.request.transaction = transaction ∧
      scene.returns transaction event = [visit] := by
  unfold returns
  split
  · rename_i call value reply
    obtain ⟨⟨other, outcome⟩, turn, same⟩ := Option.bind_eq_some_iff.mp reply
    cases outcome with
    | waits stage => cases same
    | answered answer =>
        obtain ⟨rfl, rfl⟩ : other = call ∧ answer = .entered (.ok value) := by
          simpa [System.Progress.answer?] using same
        cases bearer : scene.bearerAfter event other with
        | none => exact .inl rfl
        | some visit =>
            by_cases own : visit.request.transaction = transaction
            · exact .inr ⟨other, value, visit, turn, bearer, own, by simp [own]⟩
            · exact .inl (by simp [own])
  · exact .inl rfl

/-- While a call of the transaction waits, no other call to enter of its returns. -/
theorem returns_waiting (consistent : scene.Consistent options transaction)
    (event : Event State Result) (allows : scene.Allows transaction (.event event))
    (pending : PendingCall State Result) (present : pending ∈ scene.system.calls)
    (stays : pending ∈ (scene.system.step event).calls)
    (bears : scene.Bears transaction pending.call) : scene.returns transaction event = [] := by
  rcases scene.returns_cases transaction event with none | ⟨call, value, visit, turn, bearer, own, _⟩
  · exact none
  · exfalso
    have same : call = pending.call := by
      cases scene.system.progress?_origin event call _ turn with
      | begun request event_eq free came =>
          subst event_eq
          simp only [bearerAfter, free, ↓reduceIte, Function.update_self] at bearer
          cases request with
          | enter entry =>
              cases bearer
              exact absurd bears ((allows own free).2 pending present)
          | _ => cases bearer
      | resumed waiting event_eq ready found came =>
          obtain ⟨there, named⟩ := System.named?_some _ call waiting found
          rw [← named, scene.bearerAfter_pending event waiting there] at bearer
          rw [← named]
          exact consistent.single waiting there pending present ⟨visit, bearer, own⟩ bears
    subst same
    have gone := scene.system.step_own event _ _ turn
    have found := System.named?_of_mem _
      (scene.system.step_named event consistent.orderly.named).distinct pending stays
    cases gone.symm.trans found

theorem step_resident (consistent : scene.Consistent options transaction)
    (event : Event State Result) (allows : scene.Allows transaction (.event event))
    (record : TransactionRecord State)
    (found : (scene.system.step event).lock.find? transaction = some record) :
    ∃ visits, (scene.next transaction (.event event)).Follows record visits := by
  obtain ⟨visits, some, told, accesses, returned⟩ :=
    step_follows consistent event allows record found
  refine ⟨visits, some, told, accesses, ?_⟩
  simp only [next]
  rcases scene.returns_cases transaction event with none | ⟨call, value, visit, turn, bearer, own, last⟩
  · rwa [none, List.append_nil]
  · obtain ⟨earlier, told', returned'⟩ := step_good consistent event allows call _ value visit turn
      rfl bearer own record found
    have same : visits = earlier ++ [visit] := by
      rw [← tell_visits record.admission visits, ← told, told', tell_visits]
    rw [last, same]
    exact returned'.append (List.Sublist.refl [visit])

theorem step_entering (consistent : scene.Consistent options transaction)
    (event : Event State Result) (allows : scene.Allows transaction (.event event))
    (pending : PendingCall State Result) (present : pending ∈ (scene.system.step event).calls)
    (value : Result) (visit : Visit State Result)
    (settled : pending.stage.final? = some (.entered (.ok value)))
    (bearer : scene.bearerAfter event pending.call = some visit)
    (own : visit.request.transaction = transaction) (record : TransactionRecord State)
    (found : (scene.system.step event).lock.find? transaction = some record) :
    ∃ earlier,
      (scene.next transaction (.event event)).on record.admission =
        Entrance.tell record.admission (earlier ++ [visit]) ∧
      (scene.next transaction (.event event)).returned.Sublist earlier := by
  have waits : pending.stage.isFlushing = false := by
    cases stage : pending.stage with
    | flushing answer =>
        rw [stage] at settled
        cases settled
    | _ => rfl
  simp only [next]
  rcases scene.system.step_pending event consistent.orderly.named pending present waits with
    old | came
  · rw [scene.bearerAfter_pending event pending old] at bearer
    have bears : scene.Bears transaction pending.call := ⟨visit, bearer, own⟩
    rw [returns_waiting consistent event allows pending old present bears, List.append_nil]
    obtain ⟨before, resident, same, kept⟩ := settled_kept consistent event allows pending old bears
      (final?_entering? _ _ settled) record found
    obtain ⟨earlier, told, returned⟩ :=
      consistent.entering pending old value visit settled bearer own before resident
    exact ⟨earlier, (kept.trans told).trans (by rw [same]), returned⟩
  · obtain ⟨earlier, told, returned⟩ := step_good consistent event allows pending.call _ value visit
      came settled bearer own record found
    refine ⟨earlier, told, ?_⟩
    have unanswered : scene.returns transaction event = [] := by
      rcases scene.returns_cases transaction event with none | ⟨call, value', _, turn, _⟩
      · exact none
      · cases came.symm.trans turn
    rwa [unanswered, List.append_nil]

theorem step_single (consistent : scene.Consistent options transaction)
    (event : Event State Result) (allows : scene.Allows transaction (.event event))
    (pending other : PendingCall State Result)
    (present : pending ∈ (scene.system.step event).calls)
    (there : other ∈ (scene.system.step event).calls)
    (bears : (scene.next transaction (.event event)).Bears transaction pending.call)
    (bears' : (scene.next transaction (.event event)).Bears transaction other.call) :
    pending.call = other.call := by
  -- A call that has just begun was allowed to because no other is pending.
  have alone (fresh before : PendingCall State Result) (request : Request State Result)
      (event_eq : event = .call fresh.call request)
      (free : scene.system.isFree fresh.call = true) (old : before ∈ scene.system.calls)
      (own : (scene.next transaction (.event event)).Bears transaction fresh.call)
      (own' : scene.Bears transaction before.call) : False := by
    subst event_eq
    obtain ⟨visit, bearer, asked⟩ := own
    simp only [next, bearerAfter, free, ↓reduceIte, Function.update_self] at bearer
    cases request with
    | enter entry =>
        cases bearer
        exact (allows asked free).2 before old own'
    | _ => cases bearer
  have earlier (before : PendingCall State Result) (old : before ∈ scene.system.calls)
      (own : (scene.next transaction (.event event)).Bears transaction before.call) :
      scene.Bears transaction before.call := by
    obtain ⟨visit, bearer, asked⟩ := own
    simp only [next, scene.bearerAfter_pending event before old] at bearer
    exact ⟨visit, bearer, asked⟩
  have named := consistent.orderly.named
  rcases scene.system.step_caller event named pending present with
    ⟨before, old, same⟩ | ⟨request, event_eq, free⟩ <;>
  rcases scene.system.step_caller event named other there with
    ⟨before', old', same'⟩ | ⟨request', event_eq', free'⟩
  · rw [← same] at bears ⊢
    rw [← same'] at bears' ⊢
    exact consistent.single before old before' old' (earlier before old bears)
      (earlier before' old' bears')
  · rw [← same] at bears
    exact (alone other before request' event_eq' free' old bears' (earlier before old bears)).elim
  · rw [← same'] at bears'
    exact (alone pending before' request event_eq free old' bears (earlier before' old' bears')).elim
  · exact (Event.call.inj (event_eq.symm.trans event_eq')).1

/-- A call that waits at the gate came there with what it was begun with. -/
theorem step_gated (consistent : scene.Consistent options transaction)
    (event : Event State Result) (pending : PendingCall State Result)
    (present : pending ∈ (scene.system.step event).calls) (request : EntryRequest State Result)
    (waits : pending.stage = .atGate request) :
    pending ∈ scene.system.calls ∨
      scene.system.progress? event = some (pending.call, .waits (.atGate request)) ∧
        scene.system.ComesIn event pending.call request := by
  rcases scene.system.step_pending event consistent.orderly.named pending present (by rw [waits]; rfl)
    with old | came
  · exact .inl old
  · rw [waits] at came
    refine .inr ⟨came, ?_⟩
    cases scene.system.progress?_origin event _ _ came with
    | begun asked event_eq free started =>
        have entry := System.start_entering? scene.system pending.call asked request
          (by rw [← started]; rfl)
        exact .begun (entry ▸ event_eq) free
    | resumed before event_eq ready found proceeded =>
        have entry := System.proceed_entering? _ before.stage request (by rw [← proceeded]; rfl)
        refine .resumed before event_eq found ?_
        cases stage : before.stage with
        | atGate other =>
            rw [stage] at entry
            cases entry
            rfl
        | _ =>
            rw [stage] at entry
            cases entry

theorem step_counted (consistent : scene.Consistent options transaction)
    (event : Event State Result) (allows : scene.Allows transaction (.event event))
    (pending : PendingCall State Result) (present : pending ∈ (scene.system.step event).calls)
    (request : EntryRequest State Result) (waits : pending.stage = .atGate request)
    (own : request.transaction = transaction) :
    request.counter = (scene.next transaction (.event event)).counter ∨
      (scene.next transaction (.event event)).returned = [] := by
  have same (unanswered : scene.returns transaction event = []) :
      (scene.next transaction (.event event)).returned = scene.returned := by
    simp only [next, unanswered, List.append_nil]
  have counters (unanswered : scene.returns transaction event = [])
      (before : request.counter = scene.counter ∨ scene.returned = []) :
      request.counter = (scene.next transaction (.event event)).counter ∨
        (scene.next transaction (.event event)).returned = [] := by
    rw [counter, same unanswered]
    exact before
  rcases step_gated consistent event pending present request waits with old | ⟨came, comes⟩
  · obtain ⟨visit, bearer, asked⟩ := consistent.borne pending old request waits
    have bears : scene.Bears transaction pending.call := ⟨visit, bearer, asked ▸ own⟩
    exact counters (returns_waiting consistent event allows pending old present bears)
      (consistent.counted pending old request waits own)
  · apply counters
    · rcases scene.returns_cases transaction event with none | ⟨call, value, _, turn, _⟩
      · exact none
      · cases came.symm.trans turn
    · cases comes with
      | begun event_eq free =>
          subst event_eq
          exact .inl (allows own free).1
      | resumed before event_eq found waited =>
          have there := (System.named?_some _ pending.call before found).1
          exact consistent.counted before there request waited own

theorem step_past (consistent : scene.Consistent options transaction)
    (event : Event State Result) :
    ∀ entrance ∈ scene.entrances ++ scene.entered event,
      entrance.admission.1 < (scene.system.step event).lock.admissions := by
  obtain ⟨done, isolated⟩ := consistent.isolated
  intro entrance made
  rw [scene.system.step_lock event isolated.orderly.named]
  rcases List.mem_append.mp made with old | entered
  · have before := consistent.past entrance old
    cases action : scene.system.action? event with
    | none => exact before
    | some done =>
        exact Nat.lt_of_lt_of_le before
          (scene.system.lock.perform_admissions_le scene.system.clock done)
  · unfold Scene.entered at entered
    split at entered
    · rename_i call seen entrance?
      obtain ⟨visit, _, same⟩ := List.mem_map.mp entered
      subst same
      obtain ⟨request, action, meets, _⟩ := scene.system.entrance?_some event call seen entrance?
      rw [action]
      exact scene.system.lock.works_past scene.system.clock (.enter request) done isolated.lock
        { seen, mode := some request.mode, operation := request.operation }
        (by simp [Lock.works, meets])
    · cases entered

theorem next_consistent (consistent : scene.Consistent options transaction)
    (moment : Moment State Result) (allows : scene.Allows transaction moment) :
    (scene.next transaction moment).Consistent options transaction := by
  cases moment with
  | attempt =>
      refine ⟨consistent.isolated, consistent.past, consistent.borne, consistent.single, ?_, ?_, ?_⟩
      · exact fun _ _ _ _ _ => .inr rfl
      · intro record found
        obtain ⟨visits, follows⟩ := consistent.resident record found
        exact ⟨visits, follows.some, follows.told, follows.accesses, List.nil_sublist visits⟩
      · intro pending present value visit settled bearer own record found
        obtain ⟨earlier, told, _⟩ :=
          consistent.entering pending present value visit settled bearer own record found
        exact ⟨earlier, told, List.nil_sublist earlier⟩
  | event event =>
      refine ⟨?_, step_past consistent event, ?_, ?_, step_counted consistent event allows,
        step_resident consistent event allows, step_entering consistent event allows⟩
      · obtain ⟨done, isolated⟩ := consistent.isolated
        exact ⟨_, System.step_isolated options scene.system event done isolated⟩
      · intro pending present request waits
        rcases step_gated consistent event pending present request waits with old | ⟨_, comes⟩
        · simp only [next]
          rw [scene.bearerAfter_pending event pending old]
          exact consistent.borne pending old request waits
        · exact comesIn_bearer consistent event pending.call request comes
      · intro pending present other there
        exact step_single consistent event allows pending other present there

theorem play_consistent (transaction : TransactionId) (scene : Scene State Result)
    (story : List (Moment State Result)) (consistent : scene.Consistent options transaction)
    (disciplined : scene.Disciplined transaction story) :
    (scene.play transaction story).Consistent options transaction := by
  induction story generalizing scene with
  | nil => exact consistent
  | cons moment later ih =>
      exact ih (scene.next transaction moment) (next_consistent consistent moment disciplined.1)
        disciplined.2

/-- Only a record whose counts are the caller's is confirmed. -/
theorem validate_confirms (system : System State Result) (call : CallId)
    (transaction : TransactionId) (counter : AccessCounter)
    (record : Option (TransactionRecord State))
    (confirmed : system.reply? (.call call (.validate transaction counter)) =
      some (call, .validated .ok record)) :
    ∃ found, record = some found ∧ system.lock.find? transaction = some found ∧
      found.accesses = counter := by
  obtain ⟨⟨other, outcome⟩, turn, same⟩ := Option.bind_eq_some_iff.mp confirmed
  cases outcome with
  | waits stage => cases same
  | answered answer =>
      obtain ⟨rfl, rfl⟩ : other = call ∧ answer = .validated .ok record := by
        simpa [System.Progress.answer?] using same
      cases system.progress?_origin _ _ _ turn with
      | begun request event_eq free came =>
          cases event_eq
          cases found : system.lock.find? transaction with
          | none => simp [System.start, System.validateLock, Lock.validate, found] at came
          | some resident =>
              by_cases agree : resident.accesses = counter
              · simp only [System.start, System.validateLock, Lock.validate, found, agree,
                  ↓reduceIte, System.Progress.answered.injEq, Answer.validated.injEq, true_and]
                  at came
                exact ⟨resident, came, rfl, agree⟩
              · have final := System.notifyThen_final?
                  ({ system with lock := system.lock.remove transaction }.notifyLock) [resident]
                  (.validated .lockValidationFailed (some resident) : Answer State Result)
                simp only [System.start, System.validateLock, Lock.validate, found, agree,
                  ↓reduceIte] at came
                rw [← came] at final
                cases final
      | resumed pending event_eq => cases event_eq

/-- In every story in which a transaction counts the calls of its attempt, a validation that
confirms its counts tells it that its record was made by the first of these calls, and that they are
all that ever ran on it, in their order. -/
theorem play_validated_record (options : Options) (transaction : TransactionId)
    (story : List (Moment State Result))
    (disciplined : (new options).Disciplined transaction story) (call : CallId)
    (record : Option (TransactionRecord State))
    (bounded : ∀ found,
      ((new options).play transaction story).system.lock.find? transaction = some found →
        found.accesses.reads < AccessCounter.limit ∧ found.accesses.writes < AccessCounter.limit)
    (confirmed : ((new options).play transaction story).system.reply?
        (.call call (.validate transaction ((new options).play transaction story).counter)) =
      some (call, .validated .ok record)) :
    ∃ found first rest, record = some found ∧
      ((new options).play transaction story).system.lock.find? transaction = some found ∧
      ((new options).play transaction story).returned = first :: rest ∧
      ((new options).play transaction story).on found.admission =
        { admission := found.admission, made := true, visit := first } ::
          rest.map fun visit => { admission := found.admission, made := false, visit } := by
  have consistent := play_consistent transaction (new options) story
    (new_consistent options transaction) disciplined
  obtain ⟨found, given, resident, agree⟩ := validate_confirms _ call transaction _ record confirmed
  obtain ⟨visits, follows⟩ := consistent.resident found resident
  obtain ⟨reads, writes⟩ := bounded found resident
  have whole : ((new options).play transaction story).returned = visits := by
    apply follows.returned.eq_of_length
    have counts := AccessCounter.ofModes_length (Visit.modes visits)
    have counts' := AccessCounter.ofModes_length
      (Visit.modes ((new options).play transaction story).returned)
    rw [follows.accesses] at reads writes agree
    rw [AccessCounter.tally_exact _ reads writes] at agree
    rw [agree, counter, counts'] at counts
    simpa [Visit.modes] using counts
  have told := follows.told
  cases visits with
  | nil => exact absurd rfl follows.some
  | cons first rest => exact ⟨found, first, rest, given, resident, whole, told⟩

def secondAttempt : List (Moment Nat Unit) :=
  [.event (.call 0 (.enter (.visit (.ofNat 1) ⟨1⟩ .zero .write))),
    .event (.call 1 (.rollback (.ofNat 1) true)), .attempt,
    .event (.call 2 (.enter (.visit (.ofNat 1) ⟨1⟩ .zero .read))),
    .event (.call 3 (.enter (.visit (.ofNat 1) ⟨1⟩ ⟨1, 0⟩ .write)))]

def attempted : Scene Nat Unit :=
  (new ⟨8000, 10000, 20000, 1⟩).play (.ofNat 1) secondAttempt

def reentered : TransactionRecord Nat :=
  { transaction := .ofNat 1, serial := 1, priority := ⟨1⟩, accesses := ⟨1, 1⟩, deadline := 10000,
    role := .notYetDetermined, timestamp := none, state := none }

theorem secondAttempt_validated_record :
    (new ⟨8000, 10000, 20000, 1⟩).Disciplined (.ofNat 1) secondAttempt ∧
      (∀ found, attempted.system.lock.find? (.ofNat 1) = some found →
        found.accesses.reads < AccessCounter.limit ∧
          found.accesses.writes < AccessCounter.limit) ∧
      attempted.system.reply? (.call 4 (.validate (.ofNat 1) attempted.counter)) =
        some (4, .validated .ok (some reentered)) ∧
      ∃ found first rest, some reentered = some found ∧
        attempted.system.lock.find? (.ofNat 1) = some found ∧ attempted.returned = first :: rest ∧
        attempted.on found.admission =
          { admission := found.admission, made := true, visit := first } ::
            rest.map fun visit => { admission := found.admission, made := false, visit } := by
  have disciplined : (new ⟨8000, 10000, 20000, 1⟩).Disciplined (.ofNat 1) secondAttempt := by
    refine ⟨?_, trivial, trivial, ?_, ?_, trivial⟩
    · exact fun _ _ => ⟨rfl, fun _ present => by cases present⟩
    · exact fun _ _ => ⟨rfl, fun _ present => by cases present⟩
    · exact fun _ _ => ⟨rfl, fun _ present => by cases present⟩
  have resident : attempted.system.lock.find? (.ofNat 1) = some reentered := rfl
  have bounded : ∀ found, attempted.system.lock.find? (.ofNat 1) = some found →
      found.accesses.reads < AccessCounter.limit ∧
        found.accesses.writes < AccessCounter.limit := by
    intro found same
    cases resident.symm.trans same
    exact ⟨by decide, by decide⟩
  have confirmed : attempted.system.reply? (.call 4 (.validate (.ofNat 1) attempted.counter)) =
      some (4, .validated .ok (some reentered)) := rfl
  exact ⟨disciplined, bounded, confirmed, play_validated_record ⟨8000, 10000, 20000, 1⟩ (.ofNat 1)
    secondAttempt disciplined 4 (some reentered) bounded confirmed⟩

end Scene

end WoundWait
