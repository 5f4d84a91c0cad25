import WoundWait.Proofs.CallAnswers
import WoundWait.Proofs.RecordDisposition

/-!
How calls report the records that they take out of the lock. A call begins all its hand-offs in the
turn in which it removes the records, and is answered in the turn in which the queue is done with
the last of them, whatever other calls do meanwhile. It reports what it removed and nothing else.
-/

namespace WoundWait

variable {State Result : Type}

namespace Lock

def gone (lock after : Lock State) : List (TransactionRecord State) :=
  lock.members.filter fun member => (after.find? member.transaction).isNone

theorem find?_isNone (lock : Lock State) (transaction : TransactionId) :
    (lock.find? transaction).isNone = true ↔
      ∀ member ∈ lock.members, member.transaction ≠ transaction := by
  rw [Option.isNone_iff_eq_none, find?_none]

theorem gone_same (lock : Lock State) : lock.gone lock = [] := by
  refine List.filter_eq_nil_iff.mpr fun member present away => ?_
  exact (lock.find?_isNone member.transaction).mp away member present rfl

theorem gone_empty (lock after : Lock State) (nobody : after.members = []) :
    lock.gone after = lock.members := by
  refine List.filter_eq_self.mpr fun member _ => (after.find?_isNone member.transaction).mpr ?_
  simp [nobody]

theorem gone_remove (lock : Lock State) (distinct : lock.HasDistinctNames)
    (transaction : TransactionId) (record : TransactionRecord State)
    (found : lock.find? transaction = some record) : lock.gone (lock.remove transaction) = [record] := by
  obtain ⟨resident, named⟩ := lock.find?_some transaction record found
  have own : lock.gone (lock.remove transaction) =
      lock.members.filter fun member => member.transaction == transaction := by
    refine List.filter_congr fun member present => ?_
    rw [Bool.eq_iff_iff, find?_isNone, members_remove, beq_iff_eq]
    constructor
    · intro away
      by_contra other
      exact away member ((lock.mem_others transaction member).mpr ⟨present, other⟩) rfl
    · intro same other there
      rw [same]
      exact ((lock.mem_others transaction other).mp there).2
  rw [own]
  refine singleton_of_length _ record (List.mem_filter.mpr ⟨resident, by simpa using named⟩) ?_
  exact length_le_one _ transaction ((List.filter_sublist.map _).nodup distinct)
    fun member there => by simpa using (List.mem_filter.mp there).2

/-- Whoever stays has kept its name, and the newcomer bears that of the entrant. -/
theorem admits_resident (lock : Lock State) (clock : Instant) (request : EntryRequest State Result)
    (entry : Entry State Result) (distinct : lock.HasDistinctNames)
    (admits : lock.Admits clock request entry) (transaction : TransactionId) :
    (∃ member ∈ entry.lock.members, member.transaction = transaction) ↔
      ∃ member ∈ lock.present clock request, member.transaction = transaction := by
  have names := congrArg (List.map Prod.snd) (lock.admits_admissions clock request entry distinct admits)
  simp only [List.map_map] at names
  have same : transaction ∈ entry.lock.members.map (fun member => member.transaction) ↔
      transaction ∈ (lock.present clock request).map fun member => member.transaction :=
    iff_of_eq (congrArg (transaction ∈ ·) names)
  simpa using same

theorem gone_enter (lock : Lock State) (distinct : lock.HasDistinctNames) (clock : Instant)
    (request : EntryRequest State Result) (entry : Entry State Result)
    (admits : lock.Admits clock request entry) : lock.gone entry.lock = entry.wounded := by
  have away (member : TransactionRecord State) :
      (entry.lock.find? member.transaction).isNone = true ↔
        ¬ ∃ other ∈ lock.present clock request, other.transaction = member.transaction := by
    rw [← lock.admits_resident clock request entry distinct admits, find?_isNone]
    simp
  rw [admits.wounded]
  by_cases peace : (lock.rivals request).isEmpty = true
  · simp only [wounds, peace, ↓reduceIte]
    refine List.filter_eq_nil_iff.mpr fun member present gone => (away member).mp gone ?_
    refine ⟨member, List.mem_append_left _ ?_, rfl⟩
    simpa [stayers, peace] using present
  · simp only [wounds, peace, Bool.false_eq_true, ↓reduceIte, others]
    refine List.filter_congr fun member present => ?_
    rw [Bool.eq_iff_iff, away, bne_iff_ne]
    constructor
    · intro gone same
      refine gone ⟨member, List.mem_append_left _ ?_, rfl⟩
      simpa [stayers, peace] using ⟨present, same⟩
    · rintro other ⟨stays, there, named⟩
      rcases List.mem_append.mp there with there | there
      · have own : stays ∈ lock.members ∧ stays.transaction = request.transaction := by
          simpa [stayers, peace] using there
        exact other (named ▸ own.2)
      · rw [lock.mem_newcomers clock request stays there] at named
        exact other (named ▸ lock.entrant_transaction clock request)

end Lock

def LockAction.reports : LockAction State Result → Bool
  | .enter _ | .validate .. | .abortAll => true
  | .rollback _ notify => notify
  | .assignRole .. | .edit .. | .tick => false

/-- What such an action hands over is what has left the lock. -/
theorem Lock.reported_gone (lock : Lock State) (distinct : lock.HasDistinctNames) (clock : Instant)
    (action : LockAction State Result) (reports : action.reports = true) :
    ∃ records : List (TransactionRecord State),
      lock.handsOver clock action = records.map (fun record => (.abort .brokenLock, record)) ∧
        records.Perm (lock.gone (lock.perform clock action)) := by
  cases action with
  | enter request =>
      cases entered : lock.enter clock request with
      | error refusal =>
          refine ⟨[], by simp [handsOver, entered], ?_⟩
          simp [perform, entered, gone_same]
      | ok entry =>
          obtain ⟨_, _, admits⟩ := lock.enter_ok clock request entry entered
          refine ⟨entry.wounded, by simp [handsOver, entered], ?_⟩
          simp only [perform, entered]
          rw [lock.gone_enter distinct clock request entry admits]
  | validate transaction counter =>
      cases validated : lock.validate transaction counter with
      | refuted record after =>
          obtain ⟨found, _, rfl⟩ := lock.validate_refuted after transaction counter record validated
          refine ⟨[record], by simp [handsOver, validated], ?_⟩
          simp only [perform, validated]
          rw [lock.gone_remove distinct transaction record found]
      | _ =>
          refine ⟨[], by simp [handsOver, validated], ?_⟩
          simp [perform, validated, gone_same]
  | rollback transaction notify =>
      obtain rfl : notify = true := reports
      cases found : lock.find? transaction with
      | none =>
          refine ⟨[], by simp [handsOver, found], ?_⟩
          simp [perform, found, gone_same]
      | some record =>
          refine ⟨[record], by simp [handsOver, found], ?_⟩
          simp only [perform, found]
          rw [lock.gone_remove distinct transaction record found]
  | abortAll =>
      refine ⟨lock.residents, rfl, ?_⟩
      rw [perform, lock.gone_empty _ lock.members_emptied]
      exact lock.residents_perm
  | _ => cases reports

def System.Progress.upon (answer : Answer State Result) :
    List (HandOff State) → System.Progress State Result
  | [] => .answered answer
  | pending => .waits (.notifying pending answer)

def Request.reports : Request State Result → Bool
  | .enter _ | .validate .. | .abortAll => true
  | .rollback _ notify => notify
  | .handOver .. | .recover | .flushStorage | .sleep _ => false

namespace System

def Awaits (system : System State Result) (handOffs : List (HandOff State))
    (answer : Answer State Result) (result : System State Result × Progress State Result) : Prop :=
  result.1.handed = ((handOffs.filter fun handOff => handOff.due ≤ system.clock).map
    HandOff.parcel).reverse ++ system.handed ∧
  result.2 = .upon answer (handOffs.filter fun handOff => system.clock < handOff.due)

theorem deliverDue_awaits (system : System State Result) (handOffs : List (HandOff State))
    (answer : Answer State Result) :
    system.Awaits handOffs answer ((system.deliverDue handOffs).1,
      .upon answer (system.deliverDue handOffs).2) := by
  obtain ⟨handed, later⟩ := system.deliverDue_filter handOffs
  exact ⟨handed, congrArg (Progress.upon answer) later⟩

/-- Hand-offs that begin after the workers have been told. -/
theorem notifyThen_awaits (system middle : System State Result)
    (records : List (TransactionRecord State)) (answer : Answer State Result)
    (clock : middle.clock = system.clock) (queue : middle.queue = system.queue)
    (handed : middle.handed = system.handed) :
    system.Awaits (records.map (system.queue.handOff system.clock (.abort .brokenLock))) answer
      (middle.notifyThen records answer) := by
  have awaits := middle.deliverDue_awaits
    (records.map (middle.queue.handOff middle.clock (.abort .brokenLock))) answer
  rw [Awaits, clock, queue, handed] at awaits
  have same : middle.notifyThen records answer =
      ((middle.startNotifying records).1, .upon answer (middle.startNotifying records).2) := by
    unfold notifyThen
    split <;> simp_all [Progress.upon]
  rw [same, startNotifying, clock, queue]
  exact awaits

theorem notifyAfterEntry_queue (system : System State Result)
    (wounded : List (TransactionRecord State)) :
    (system.notifyAfterEntry wounded).queue = system.queue := by
  unfold notifyAfterEntry
  split
  · split
    · exact wakeLock_queue _
    · rfl
  · exact wakeLock_queue _

def Announces (system : System State Result) (action : LockAction State Result)
    (result : System State Result × Progress State Result) : Prop :=
  ∃ answer, system.Awaits ((system.lock.handsOver system.clock action).map fun parcel =>
    system.queue.handOff system.clock parcel.1 parcel.2) answer result

/-- Hand-offs that begin after the lock was left and the worker woken. -/
theorem notifyThen_announces (system middle : System State Result) (lock : Lock State)
    (action : LockAction State Result) (toLock : List (WakeRequest CallId))
    (records : List (TransactionRecord State)) (answer : Answer State Result)
    (woken : { system with lock }.Stretch middle toLock [] [])
    (queue : middle.queue = system.queue)
    (leaves : system.lock.handsOver system.clock action =
      records.map fun record => (.abort .brokenLock, record)) :
    system.Announces action (middle.notifyThen records answer) := by
  refine ⟨answer, ?_⟩
  rw [leaves, List.map_map]
  exact system.notifyThen_awaits middle records answer woken.clock queue woken.handed

/-- An action that takes nothing out of the lock leaves nothing to wait for. -/
theorem answered_announces (system after : System State Result) (action : LockAction State Result)
    (answer : Answer State Result) (handed : after.handed = system.handed)
    (nothing : system.lock.handsOver system.clock action = []) :
    system.Announces action (after, .answered answer) :=
  ⟨answer, by rw [nothing]; exact ⟨handed, rfl⟩⟩

theorem enterLock_announces (system : System State Result) (request : EntryRequest State Result) :
    system.Announces (.enter request) (system.enterLock request) := by
  unfold enterLock
  cases entered : system.lock.enter system.clock request with
  | error refusal =>
      exact system.answered_announces system _ _ rfl (by simp [Lock.handsOver, entered])
  | ok entry =>
      exact system.notifyThen_announces _ entry.lock _ _ entry.wounded _
        (notifyAfterEntry_stretch _ entry.wounded) (notifyAfterEntry_queue _ entry.wounded)
        (by simp [Lock.handsOver, entered])

theorem validateLock_announces (system : System State Result) (transaction : TransactionId)
    (counter : AccessCounter) :
    system.Announces (.validate transaction counter) (system.validateLock transaction counter) := by
  unfold validateLock
  cases validated : system.lock.validate transaction counter with
  | refuted record lock =>
      exact system.notifyThen_announces _ lock _ _ [record] _ (notifyLock_stretch _)
        (wakeLock_queue _) (by simp [Lock.handsOver, validated])
  | _ => exact system.answered_announces system _ _ rfl (by simp [Lock.handsOver, validated])

theorem rollback_announces (system : System State Result) (transaction : TransactionId) :
    system.Announces (.rollback transaction true) (system.rollback transaction true) := by
  unfold rollback
  cases found : system.lock.find? transaction with
  | none => exact system.answered_announces system _ _ rfl (by simp [Lock.handsOver, found])
  | some record =>
      exact system.notifyThen_announces _ (system.lock.remove transaction) _ _ [record] _
        (notifyLock_stretch _) (wakeLock_queue _) (by simp [Lock.handsOver, found])

theorem abortAll_announces (system : System State Result) :
    system.Announces .abortAll system.abortAll := by
  unfold abortAll
  by_cases nobody : system.lock.residents.isEmpty = true
  · simp only [nobody, ↓reduceIte]
    exact system.notifyThen_announces _ system.lock.emptied _ [] _ _ (stretch_refl _) rfl rfl
  · simp only [nobody, Bool.false_eq_true, ↓reduceIte]
    exact system.notifyThen_announces _ system.lock.emptied _ _ _ _ (notifyLock_stretch _)
      (wakeLock_queue _) rfl

theorem start_announces (system : System State Result) (call : CallId)
    (request : Request State Result) (action : LockAction State Result) (reports : action.reports = true)
    (does : system.requestAction? request = some action) :
    system.Announces action (system.start call request) := by
  cases request with
  | enter entry =>
      cases gate : system.queue.gateOpen with
      | false => simp [requestAction?, gate] at does
      | true =>
          simp only [requestAction?, gate, ↓reduceIte, Option.some.injEq] at does
          subst does
          simp only [start, passGate, gate, ↓reduceIte]
          exact enterLock_announces _ entry
  | validate transaction counter =>
      cases does
      exact system.validateLock_announces transaction counter
  | rollback transaction notify =>
      cases does
      obtain rfl : notify = true := reports
      exact system.rollback_announces transaction
  | abortAll =>
      cases does
      exact system.abortAll_announces
  | _ => cases does

theorem proceed_announces (system : System State Result) (stage : Stage State Result)
    (action : LockAction State Result) (does : system.stageAction? stage = some action) :
    system.Announces action (system.proceed stage) := by
  cases stage with
  | atGate request =>
      cases gate : system.queue.gateOpen with
      | false => simp [stageAction?, gate] at does
      | true =>
          simp only [stageAction?, gate, ↓reduceIte, Option.some.injEq] at does
          subst does
          simp only [proceed, passGate, gate, ↓reduceIte]
          exact system.enterLock_announces request
  | _ => cases does

theorem proceed_awaits (system : System State Result) (pending : List (HandOff State))
    (answer : Answer State Result) :
    system.Awaits pending answer (system.proceed (.notifying pending answer)) := by
  have same : system.proceed (.notifying pending answer) =
      ((system.deliverDue pending).1, .upon answer (system.deliverDue pending).2) := by
    simp only [proceed]
    split <;> simp_all [Progress.upon]
  rw [same]
  exact system.deliverDue_awaits pending answer

/-! Turns of calls -/

def settled (system : System State Result) (event : Event State Result) : List (Parcel State) :=
  ((system.step event).handed.take
    ((system.step event).handed.length - system.handed.length)).reverse

def gone (system : System State Result) (event : Event State Result) :
    List (TransactionRecord State) :=
  system.lock.gone (system.step event).lock

theorem settled_eq (system : System State Result) (event : Event State Result)
    (delivered : List (Parcel State))
    (handed : (system.step event).handed = delivered ++ system.handed) :
    system.settled event = delivered.reverse := by
  have length : (delivered ++ system.handed).length - system.handed.length = delivered.length := by
    simp
  rw [settled, handed, length, List.take_left]

structure Waits (system : System State Result) (event : Event State Result)
    (outcome : Progress State Result) (handOffs : List (HandOff State))
    (answer : Answer State Result) : Prop where
  settled : system.settled event =
    (handOffs.filter fun handOff => handOff.due ≤ system.clock).map HandOff.parcel
  outcome : outcome = .upon answer (handOffs.filter fun handOff => system.clock < handOff.due)

theorem awaits_waits (system : System State Result) (event : Event State Result)
    (handOffs : List (HandOff State)) (answer : Answer State Result)
    (result : System State Result × Progress State Result)
    (awaits : system.Awaits handOffs answer result)
    (handed : (system.step event).handed = result.1.handed) :
    system.Waits event result.2 handOffs answer := by
  refine ⟨?_, awaits.2⟩
  rw [system.settled_eq event _ (handed.trans awaits.1), List.reverse_reverse]

theorem begun_handed (system : System State Result) (call : CallId)
    (request : Request State Result) (free : system.isFree call = true) :
    (system.step (.call call request)).handed = (system.start call request).1.handed := by
  simp only [step, free, ↓reduceIte]
  cases progress : system.start call request with
  | mk started outcome =>
      cases outcome with
      | answered answer => simp only [spawn, begin, progress]; rfl
      | waits stage => simp only [spawn, begin, progress]; rfl

theorem resumed_handed (system : System State Result) (call : CallId)
    (pending : PendingCall State Result) (ready : .call call ∈ system.ready)
    (found : system.findCall? call = some pending) :
    (system.step (.turn (.call call))).handed =
      ({ system with ready := system.ready.erase (.call call) }.proceed pending.stage).1.handed := by
  let resumed : System State Result := { system with ready := system.ready.erase (.call call) }
  obtain ⟨journal, handed, same⟩ := resumed.resume_found (resumed.proceed pending.stage).1 call
    pending (resumed.proceed pending.stage).2 found rfl
  rw [system.step_turn_call call ready, same]
  exact handed

/-- The call that does an action and has to report what it removes begins all its hand-offs in this
turn. -/
theorem turn_announces (system : System State Result) (event : Event State Result) (call : CallId)
    (outcome : Progress State Result) (origin : system.TurnOrigin event call outcome)
    (action : LockAction State Result) (does : system.action? event = some action)
    (reports : action.reports = true) :
    ∃ answer, system.Waits event outcome ((system.lock.handsOver system.clock action).map fun parcel =>
      system.queue.handOff system.clock parcel.1 parcel.2) answer := by
  cases origin with
  | begun request event_eq free came =>
      subst event_eq came
      simp only [action?, free, ↓reduceIte] at does
      obtain ⟨answer, awaits⟩ := system.start_announces call request action reports does
      exact ⟨answer, system.awaits_waits _ _ answer _ awaits (system.begun_handed call request free)⟩
  | resumed pending event_eq ready found came =>
      subst event_eq came
      simp only [action?, ready, ↓reduceIte, turnAction?, callAction?, found, Option.bind_some] at does
      obtain ⟨answer, awaits⟩ :=
        ({ system with ready := system.ready.erase (.call call) } : System State Result).proceed_announces
          pending.stage action does
      exact ⟨answer, system.awaits_waits _ _ answer _ awaits
        (system.resumed_handed call pending ready found)⟩

/-- A call that waits for hand-offs goes on to wait for those that are left, and for no others. -/
theorem turn_waits (system : System State Result) (event : Event State Result) (call : CallId)
    (outcome : Progress State Result) (origin : system.TurnOrigin event call outcome)
    (handOffs : List (HandOff State)) (answer : Answer State Result)
    (found : system.findCall? call = some { call, stage := .notifying handOffs answer }) :
    system.Waits event outcome handOffs answer := by
  cases origin with
  | begun request event_eq free came =>
      rw [findCall?] at found
      have unborne := system.isFree_named? call free
      rw [named?, found] at unborne
      cases unborne
  | resumed pending event_eq ready found' came =>
      obtain rfl : _ = pending := Option.some.inj (found.symm.trans found')
      subst event_eq came
      exact system.awaits_waits _ handOffs answer _
        (({ system with ready := system.ready.erase (.call call) } : System State Result).proceed_awaits
          handOffs answer)
        (system.resumed_handed call _ ready found)

/-! CallSpan of calls -/

def heldBy (system : System State Result) (call : CallId) : List (Parcel State) :=
  ((system.findCall? call).map fun pending => pending.stage.held).getD []

def own {Item : Type} (call : CallId) (found : System State Result → Event State Result → List Item)
    (system : System State Result) (event : Event State Result) : List Item :=
  if ((system.progress? event).map Prod.fst) = some call then found system event else []

/-- What a call held, and what it takes out of the lock in its turn, it has reported or holds. -/
theorem turn_custody (system : System State Result) (event : Event State Result) (call : CallId)
    (outcome : Progress State Result) (origin : system.TurnOrigin event call outcome) :
    (system.settled event ++ outcome.held).Perm (system.heldBy call ++ system.parcels event) := by
  have handed (delivered : List (Parcel State)) (left : List (Parcel State))
      (result : System State Result) (same : (system.step event).handed = result.handed)
      (stretch : result.handed = delivered ++ system.handed)
      (perm : (delivered ++ outcome.held).Perm left) :
      (system.settled event ++ outcome.held).Perm left := by
    rw [system.settled_eq event delivered (same.trans stretch)]
    exact (List.Perm.append_right _ (List.reverse_perm delivered)).trans perm
  cases origin with
  | begun request event_eq free came =>
      subst event_eq came
      obtain ⟨delivered, stretch, perm⟩ := system.start_does call request
      have unborne : system.findCall? call = none := system.isFree_named? call free
      have none : system.heldBy call = [] := by rw [heldBy, unborne]; rfl
      rw [none]
      simp only [parcels, free, ↓reduceIte]
      exact handed delivered _ _ (system.begun_handed call request free) stretch.handed perm
  | resumed pending event_eq ready found came =>
      subst event_eq came
      obtain ⟨delivered, stretch, perm⟩ :=
        ({ system with ready := system.ready.erase (.call call) } : System State Result).proceed_does
          pending.stage
      have own : system.heldBy call = pending.stage.held := by rw [heldBy, found]; rfl
      rw [own]
      simp only [parcels, action?, ready, ↓reduceIte, turnAction?, callAction?, found, Option.bind_some]
      exact handed delivered _ _ (system.resumed_handed call pending ready found) stretch.handed perm

/-- All that an event removes is what its action hands over, if the action reports it. -/
theorem parcelsOf_gone (system : System State Result) (event : Event State Result)
    (named : system.Named) (distinct : system.lock.HasDistinctNames)
    (reports : ∀ action, system.action? event = some action → action.reports = true) :
    ∃ records : List (TransactionRecord State), records.Perm (system.gone event) ∧
      system.parcelsOf (system.action? event) =
        records.map fun record => (.abort .brokenLock, record) := by
  have lock := system.step_lock event named
  cases does : system.action? event with
  | none =>
      refine ⟨[], ?_, rfl⟩
      rw [gone, lock, does, lockAfter_none, Lock.gone_same]
  | some action =>
      obtain ⟨records, leaves, left⟩ :=
        system.lock.reported_gone distinct system.clock action (reports action does)
      refine ⟨records, ?_, leaves⟩
      rw [gone, lock, does]
      exact left

/-- What a call reports that had a place to wait, or has begun for it. -/
theorem turn_reports (system : System State Result) (event : Event State Result) (call : CallId)
    (outcome : Progress State Result) (origin : system.TurnOrigin event call outcome)
    (asks : ∀ request, event = .call call request → request.reports = true) :
    system.parcels event = system.parcelsOf (system.action? event) ∧
      ∀ action, system.action? event = some action → action.reports = true := by
  cases origin with
  | begun request event_eq free came =>
      subst event_eq
      have reports := asks request rfl
      simp only [parcels, action?, free, ↓reduceIte]
      cases request with
      | enter entry =>
          refine ⟨rfl, fun action does => ?_⟩
          simp only [requestAction?] at does
          split at does <;> cases does
          rfl
      | validate transaction counter => exact ⟨rfl, fun action does => by cases does; rfl⟩
      | rollback transaction notify =>
          exact ⟨rfl, fun action does => by cases does; exact reports⟩
      | abortAll => exact ⟨rfl, fun action does => by cases does; rfl⟩
      | _ => cases reports
  | resumed pending event_eq ready found came =>
      subst event_eq
      refine ⟨rfl, fun action does => ?_⟩
      simp only [action?, ready, ↓reduceIte, turnAction?, callAction?, found, Option.bind_some] at does
      cases stage : pending.stage with
      | atGate request =>
          simp only [stage, stageAction?] at does
          split at does <;> cases does
          rfl
      | _ => simp [stage, stageAction?] at does

theorem heldBy_own (system : System State Result) (event : Event State Result) (call : CallId)
    (outcome : Progress State Result) (own : system.progress? event = some (call, outcome)) :
    (system.step event).heldBy call = outcome.held := by
  have place : (system.step event).findCall? call = _ := system.step_own event call outcome own
  rw [heldBy, place]
  cases outcome <;> rfl

/-- Nobody takes from a call what it holds. -/
theorem heldBy_alike (before after : System State Result) (call : CallId)
    (alike : Alike call before.calls after.calls) : after.heldBy call = before.heldBy call := by
  simp only [heldBy, findCall?]
  cases found : named? before.calls call with
  | none =>
      have absent : named? after.calls call = none := by
        simpa [found] using alike.isSome
      rw [named?] at found absent
      rw [found, absent]
  | some pending =>
      cases flushing : pending.stage.isFlushing with
      | false =>
          have same := (alike.stage pending flushing).mpr found
          rw [named?] at found same
          rw [found, same]
      | true =>
          obtain ⟨other, found'⟩ : ∃ other, named? after.calls call = some other := by
            simpa [found, Option.isSome_iff_exists] using alike.isSome
          have flushing' : other.stage.isFlushing = true := by
            by_contra busy
            have same := (alike.stage other (by simpa using busy)).mp found'
            rw [found] at same
            cases same
            exact busy flushing
          rw [named?] at found found'
          rw [found, found']
          simp [isFlushing_held _ flushing, isFlushing_held _ flushing']

def Tallies (system : System State Result) (call : CallId)
    (removed : List (TransactionRecord State)) (reported : List (Parcel State)) : Prop :=
  (reported ++ system.heldBy call).Perm (removed.map fun record => (.abort .brokenLock, record))

theorem step_tallies (system : System State Result) (event : Event State Result) (call : CallId)
    (named : system.Named) (distinct : system.lock.HasDistinctNames)
    (kept : event ≠ .giveUp call)
    (asks : ∀ request, event = .call call request → system.isFree call = true →
      request.reports = true)
    (removed : List (TransactionRecord State)) (reported : List (Parcel State))
    (tallies : system.Tallies call removed reported) :
    (system.step event).Tallies call (removed ++ own call gone system event)
      (reported ++ own call settled system event) := by
  unfold Tallies at tallies ⊢
  by_cases turn : ∃ outcome, system.progress? event = some (call, outcome)
  · obtain ⟨outcome, turn⟩ := turn
    have origin := system.progress?_origin event call outcome turn
    have asked : ∀ request, event = .call call request → request.reports = true := by
      rintro request rfl
      refine asks request rfl ?_
      by_contra taken
      simp [progress?, taken] at turn
    obtain ⟨lock, reports⟩ := system.turn_reports event call outcome origin asked
    obtain ⟨records, left, leaves⟩ := system.parcelsOf_gone event named distinct reports
    have custody := system.turn_custody event call outcome origin
    rw [lock, leaves] at custody
    simp only [own, turn, Option.map_some, ↓reduceIte, List.map_append]
    rw [system.heldBy_own event call outcome turn, List.append_assoc]
    have exchanged := custody.append_left reported
    rw [← List.append_assoc reported (system.heldBy call)] at exchanged
    exact exchanged.trans (tallies.append (left.map _))
  · have other (outcome : Progress State Result) :
        system.progress? event ≠ some (call, outcome) := fun same => turn ⟨outcome, same⟩
    have alike := system.step_alike event named call other kept
    have foreign : (system.progress? event).map Prod.fst ≠ some call := by
      intro same
      obtain ⟨⟨_, outcome⟩, progress, rfl⟩ := Option.map_eq_some_iff.mp same
      exact other outcome progress
    simp only [own, foreign, ↓reduceIte, List.append_nil]
    rw [system.heldBy_alike _ call alike]
    exact tallies

def replies (system : System State Result) (event : Event State Result) :
    List (CallId × Answer State Result) :=
  (system.reply? event).toList

/-- The events from the beginning of a call to its answer. Nobody gives the call up. -/
structure CallSpan (system : System State Result) (call : CallId) (request : Request State Result)
    (life : List (Event State Result)) (answer : Answer State Result) : Prop where
  begins : life.head? = some (.call call request)
  free : system.isFree call = true
  kept : .giveUp call ∉ life
  answered : ∃ earlier last, life = earlier ++ [last] ∧
    (system.run earlier).reply? last = some (call, answer) ∧
    call ∉ (gather replies system earlier).map Prod.fst

/-- A call that has not been answered waits. -/
theorem step_waits (system : System State Result) (event : Event State Result) (call : CallId)
    (named : system.Named) (kept : event ≠ .giveUp call)
    (waits : (system.findCall? call).isSome = true ∨ ∃ request, event = .call call request ∧
      system.isFree call = true)
    (unanswered : ∀ answer, system.reply? event ≠ some (call, answer)) :
    ((system.step event).findCall? call).isSome = true := by
  by_cases turn : ∃ outcome, system.progress? event = some (call, outcome)
  · obtain ⟨outcome, turn⟩ := turn
    have place : (system.step event).findCall? call = _ := system.step_own event call outcome turn
    rw [place]
    cases outcome with
    | answered answer => exact absurd (by simp [reply?, turn, Progress.answer?]) (unanswered answer)
    | waits stage => rfl
  · have other (outcome : Progress State Result) :
        system.progress? event ≠ some (call, outcome) := fun same => turn ⟨outcome, same⟩
    rcases waits with waits | ⟨request, rfl, free⟩
    · have alike := system.step_alike event named call other kept
      exact alike.isSome.trans waits
    · exact absurd (system.progress?_call call request free) (other _)

theorem waiting_taken (system : System State Result) (call : CallId)
    (waits : (system.findCall? call).isSome = true) : system.isFree call = false := by
  by_contra free
  have unborne : system.findCall? call = none := system.isFree_named? call (by simpa using free)
  rw [unborne] at waits
  cases waits

/-- As long as a call waits, what it has removed it has reported or holds. -/
theorem run_tallies (options : Options) (system : System State Result)
    (events : List (Event State Result)) (call : CallId) (orderly : system.Orderly options)
    (waits : (system.findCall? call).isSome = true) (kept : .giveUp call ∉ events)
    (unanswered : ∀ before event after, events = before ++ event :: after →
      ∀ answer, (system.run before).reply? event ≠ some (call, answer))
    (removed : List (TransactionRecord State)) (reported : List (Parcel State))
    (tallies : system.Tallies call removed reported) :
    ((system.run events).findCall? call).isSome = true ∧
      (system.run events).Tallies call (removed ++ gather (own call gone) system events)
        (reported ++ gather (own call settled) system events) := by
  induction events generalizing system removed reported with
  | nil => simpa [gather] using ⟨waits, tallies⟩
  | cons event later ih =>
      have spared : event ≠ .giveUp call := fun same => kept (same ▸ List.mem_cons_self)
      have silent := unanswered [] event later rfl
      have still := system.step_waits event call orderly.named spared (.inl waits) silent
      have next := system.step_tallies event call orderly.named orderly.kept.distinct spared
        (fun request _ free => by simp [system.waiting_taken call waits] at free)
        removed reported tallies
      have rest := ih (system.step event) (step_orderly options system event orderly) still
        (fun given => kept (List.mem_cons_of_mem event given))
        (fun before other after same => unanswered (event :: before) other after (by rw [same]; rfl))
        _ _ next
      simp only [List.append_assoc] at rest
      exact rest

theorem replied_heldBy (system : System State Result) (event : Event State Result) (call : CallId)
    (answer : Answer State Result) (reply : system.reply? event = some (call, answer)) :
    (system.step event).heldBy call = [] := by
  simp only [reply?, Option.bind_eq_some_iff] at reply
  obtain ⟨⟨_, outcome⟩, turn, came⟩ := reply
  obtain ⟨_, final, same⟩ := Option.map_eq_some_iff.mp came
  obtain ⟨rfl, rfl⟩ := Prod.mk.inj same
  rw [heldBy_own _ event _ outcome turn]
  cases outcome with
  | answered answer => rfl
  | waits stage => cases final

/-- When a call is answered nothing is left of what it had to report. -/
theorem callSpan_reported (options : Options) (system : System State Result)
    (orderly : system.Orderly options) (call : CallId) (request : Request State Result)
    (life : List (Event State Result)) (answer : Answer State Result)
    (span : system.CallSpan call request life answer) (reports : request.reports = true) :
    (gather (own call settled) system life).Perm
      ((gather (own call gone) system life).map fun record => (.abort .brokenLock, record)) := by
  obtain ⟨earlier, last, rfl, reply, silent⟩ := span.answered
  have unanswered (before : List (Event State Result)) (event : Event State Result)
      (after : List (Event State Result)) (same : earlier = before ++ event :: after)
      (other : Answer State Result) : (system.run before).reply? event ≠ some (call, other) := by
    intro told
    have member := (mem_gather replies system earlier (call, other)).mpr
      ⟨before, event, after, same, by simp [replies, told]⟩
    exact silent (List.mem_map_of_mem member)
  have spared : last ≠ .giveUp call := fun same =>
    span.kept (List.mem_append_right earlier (by simp [same]))
  -- The state before the last event, in which the call has just been made or waits.
  obtain ⟨orderly', asks, tallies⟩ : (system.run earlier).Orderly options ∧
      (∀ request, last = .call call request → (system.run earlier).isFree call = true →
        request.reports = true) ∧
      (system.run earlier).Tallies call (gather (own call gone) system earlier)
        (gather (own call settled) system earlier) := by
    have nobody : system.Tallies call [] [] := by
      have unborne : system.findCall? call = none := system.isFree_named? call span.free
      rw [Tallies, heldBy, unborne]
      exact List.Perm.refl _
    cases earlier with
    | nil =>
        obtain rfl : last = .call call request := by simpa using span.begins
        exact ⟨orderly, fun _ same _ => by cases same; exact reports, nobody⟩
    | cons event later =>
        obtain rfl : event = .call call request := by simpa using span.begins
        have silent := unanswered [] _ later rfl
        have waits := system.step_waits (.call call request) call orderly.named (by simp)
          (.inr ⟨request, rfl, span.free⟩) silent
        have first := system.step_tallies (.call call request) call orderly.named
          orderly.kept.distinct (by simp) (fun _ same _ => by cases same; exact reports) [] [] nobody
        obtain ⟨waiting, whole⟩ := run_tallies options _ later call
          (step_orderly options system (.call call request) orderly) waits
          (fun given => span.kept (by simp [given]))
          (fun before other after same =>
            unanswered (.call call request :: before) other after (by rw [same]; rfl)) _ _ first
        refine ⟨orderly.run (.call call request :: later), ?_, whole⟩
        intro other _ free
        rw [show (system.run (.call call request :: later)).isFree call = false from
          waiting_taken _ call waiting] at free
        cases free
  have whole := (system.run earlier).step_tallies last call orderly'.named orderly'.kept.distinct
    spared asks _ _ tallies
  have empty := (system.run earlier).replied_heldBy last call answer reply
  rw [Tallies, empty, List.append_nil] at whole
  simpa [gather_append, gather] using whole

/-- How calls report what they take out of the lock, from some moment on. -/
structure ReportsFirst (system : System State Result) : Prop where
  -- A call that removes records begins to report all of them in the turn in which it removes them,
  -- and waits after that, unless the queue is done with all of them. Only a rollback may be silent.
  together : ∀ event call outcome, system.progress? event = some (call, outcome) →
    system.gone event ≠ [] →
    (∀ transaction, event ≠ .call call (.rollback transaction false)) →
      ∃ (records : List (TransactionRecord State)) (answer : Answer State Result),
        records.Perm (system.gone event) ∧
        system.Waits event outcome
          (records.map (system.queue.handOff system.clock (.abort .brokenLock))) answer
  -- In each later turn it waits for those of its own hand-offs that are not due yet, and for no
  -- others.
  waits : ∀ event call outcome handOffs answer, system.progress? event = some (call, outcome) →
    system.findCall? call = some { call, stage := .notifying handOffs answer } →
      system.Waits event outcome handOffs answer
  keeps : ∀ event call handOffs answer,
    system.findCall? call = some { call, stage := .notifying handOffs answer } →
    (∀ outcome, system.progress? event ≠ some (call, outcome)) → event ≠ .giveUp call →
      (system.step event).findCall? call = some { call, stage := .notifying handOffs answer }
  -- When it is answered, the queue is done with all that it has removed, and was given nothing else
  -- by it.
  reported : ∀ call request life answer, system.CallSpan call request life answer →
    request.reports = true →
      (gather (own call settled) system life).Perm
        ((gather (own call gone) system life).map fun record => (.abort .brokenLock, record))
  last : ∀ event call answer, system.reply? event = some (call, answer) →
    ∃ clock, (system.step event).journal.head? = some (.answered clock call answer)

/-- A call that removes something and is no silent rollback reports what it removes. -/
theorem turn_action (system : System State Result) (event : Event State Result) (call : CallId)
    (outcome : Progress State Result) (named : system.Named)
    (origin : system.TurnOrigin event call outcome) (somebody : system.gone event ≠ [])
    (told : ∀ transaction, event ≠ .call call (.rollback transaction false)) :
    ∃ action, system.action? event = some action ∧ action.reports = true := by
  cases does : system.action? event with
  | none =>
      refine absurd ?_ somebody
      rw [gone, system.step_lock event named, does, lockAfter_none, Lock.gone_same]
  | some action =>
      refine ⟨action, rfl, ?_⟩
      refine (system.turn_reports event call outcome origin ?_).2 action does
      rintro request rfl
      cases request with
      | rollback transaction notify =>
          cases notify with
          | true => rfl
          | false => exact absurd rfl (told transaction)
      | enter | validate | abortAll => rfl
      | _ =>
          simp only [action?, requestAction?] at does
          split at does <;> cases does

/-- In every run calls report what they remove before they return, however long the queue takes and
whatever others do meanwhile. -/
theorem run_removals_reported (options : Options) (events : List (Event State Result)) :
    ((new options).run events).ReportsFirst := by
  have orderly : ((new options : System State Result).run events).Orderly options :=
    run_orderly options events
  generalize (new options : System State Result).run events = system at orderly
  constructor
  case together =>
    intro event call outcome turn somebody told
    have origin := system.progress?_origin event call outcome turn
    obtain ⟨action, does, reports⟩ :=
      system.turn_action event call outcome orderly.named origin somebody told
    obtain ⟨records, leaves, left⟩ :=
      system.lock.reported_gone orderly.kept.distinct system.clock action reports
    obtain ⟨answer, waits⟩ := system.turn_announces event call outcome origin action does reports
    refine ⟨records, answer, ?_, ?_⟩
    · rw [gone, system.step_lock event orderly.named, does]
      exact left
    · rw [leaves, List.map_map] at waits
      exact waits
  case waits =>
    intro event call outcome handOffs answer turn found
    exact system.turn_waits event call outcome (system.progress?_origin event call outcome turn)
      handOffs answer found
  case keeps =>
    intro event call handOffs answer found other kept
    exact ((system.step_alike event orderly.named call other kept).stage _ rfl).mpr found
  case reported =>
    intro call request life answer span reports
    exact callSpan_reported options system orderly call request life answer span reports
  case last =>
    intro event call answer reply
    exact system.step_journal event call answer reply

def readers : List (Event Nat Unit) :=
  [.setDelays 5 0,
    .setLag fun _ record => if record.transaction = .ofNat 3 then 4 else 0,
    .call 0 (.enter (.visit (.ofNat 2) ⟨2⟩ .zero .read)),
    .call 1 (.enter (.visit (.ofNat 3) ⟨3⟩ .zero .read))]

def intrusion : List (Event Nat Unit) :=
  [.call 2 (.enter (.visit (.ofNat 1) ⟨1⟩ .zero .write)),
    .pass 5, .turn (.call 2),
    .call 3 (.rollback (.ofNat 1) true),
    .pass 9, .turn (.call 2)]

/-- The writer's call is answered when the queue is done with both readers, and before it is done
with the writer. -/
theorem intrusion_removals_reported :
    let system : System Nat Unit := (new ⟨8000, 10000, 20000, 3⟩).run readers
    system.CallSpan 2 (.enter (.visit (.ofNat 1) ⟨1⟩ .zero .write)) intrusion (.entered (.ok ())) ∧
      (gather (own 2 settled) system intrusion).map (fun parcel => parcel.2.transaction) =
        [.ofNat 2, .ofNat 3] ∧
      (system.run intrusion).calls.map (fun pending => pending.call) = [3] ∧
      system.ReportsFirst := by
  refine ⟨⟨rfl, by decide, by simp [intrusion], intrusion.dropLast, .turn (.call 2), rfl, rfl, by decide⟩,
    by decide, by decide, run_removals_reported ⟨8000, 10000, 20000, 3⟩ readers⟩

end System

end WoundWait
