import WoundWait.Proofs.CallAnswers
import WoundWait.Proofs.RecordDisposition
import WoundWait.Proofs.OperationReplay

/-!
What a record holds is what the work on its own admission comes to when it is done again from
nothing, wherever the record is: resident, seen by an operation, on its way to the queue, handed
over, or promised to a caller.
-/

namespace WoundWait

variable {State Result : Type}

/-- The record holds what the work on its admission makes of nothing. -/
def TransactionRecord.Recounts (record : TransactionRecord State)
    (done : List (Work State Result)) : Prop :=
  record.copy = Work.replay (Work.on record.admission done)

namespace Lock

structure Isolates (lock : Lock State) (done : List (Work State Result)) : Prop where
  distinct : lock.HasDistinctNames
  numbered : ∀ member ∈ lock.members, member.serial < lock.admissions
  past : ∀ work ∈ done, work.seen.serial < lock.admissions
  members : ∀ member ∈ lock.members, member.Recounts done

structure Gone (lock : Lock State) (done : List (Work State Result))
    (record : TransactionRecord State) : Prop where
  recounts : record.Recounts done
  past : record.serial < lock.admissions
  absent : ∀ member ∈ lock.members, member.admission ≠ record.admission

theorem new_isolates (options : Options) :
    (new options : Lock State).Isolates ([] : List (Work State Result)) := by
  constructor <;> simp [HasDistinctNames]

/-- A record that is made starts from nothing, and nothing was done on it before. -/
theorem works_recounts (lock : Lock State) (clock : Instant) (action : LockAction State Result)
    (done : List (Work State Result)) (isolates : lock.Isolates done) (work : Work State Result)
    (worked : work ∈ lock.works clock action) : work.seen.Recounts done := by
  rcases lock.works_seen clock action work worked with resident | ⟨blank, serial, _⟩
  · exact isolates.members work.seen resident
  · rw [TransactionRecord.Recounts, blank, Work.on_nil]
    · rfl
    · intro earlier member same
      have before := isolates.past earlier member
      have equal : earlier.seen.serial = work.seen.serial := congrArg Prod.fst same
      omega

theorem perform_admissions_le (lock : Lock State) (clock : Instant) (action : LockAction State Result) :
    lock.admissions ≤ (lock.perform clock action).admissions := by
  rcases lock.admits_cases clock action with ⟨_, same⟩ | ⟨_, _, next⟩ <;> omega

/-- Nobody is resident, or on the way out, under an admission that somebody else has. -/
theorem perform_admissions_nodup (lock : Lock State) (clock : Instant) (action : LockAction State Result)
    (done : List (Work State Result)) (isolates : lock.Isolates done) :
    ((lock.perform clock action).members.map TransactionRecord.admission ++
      lock.departed clock action).Nodup := by
  rw [(lock.perform_tally isolates.distinct clock action).nodup_iff]
  have members : (lock.members.map TransactionRecord.admission).Nodup := by
    have names := isolates.distinct
    rw [HasDistinctNames] at names
    apply List.Nodup.of_map Prod.snd
    rw [List.map_map]
    exact names
  rcases lock.admits_cases clock action with ⟨nobody, _⟩ | ⟨transaction, somebody, _⟩
  · rwa [nobody, List.append_nil]
  · rw [somebody, ← List.concat_eq_append, List.nodup_concat]
    refine ⟨?_, members⟩
    intro made
    obtain ⟨member, resident, same⟩ := List.mem_map.mp made
    have before := isolates.numbered member resident
    have equal : member.serial = lock.admissions := congrArg Prod.fst same
    omega

/-- Whoever is resident was so before, or is made by this action. -/
theorem perform_origin (lock : Lock State) (distinct : lock.HasDistinctNames) (clock : Instant)
    (action : LockAction State Result) (member : TransactionRecord State)
    (present : member ∈ (lock.perform clock action).members) :
    (∃ before ∈ lock.members, before.admission = member.admission) ∨
      (member.serial = lock.admissions ∧
        (lock.perform clock action).admissions = lock.admissions + 1) := by
  have tally := (lock.perform_tally distinct clock action).subset
    (List.mem_append_left _ (List.mem_map_of_mem present))
  rcases List.mem_append.mp tally with old | made
  · exact .inl (List.mem_map.mp old)
  · rcases lock.admits_cases clock action with ⟨nobody, _⟩ | ⟨transaction, somebody, next⟩
    · rw [nobody] at made
      cases made
    · rw [somebody, List.mem_singleton] at made
      exact .inr ⟨congrArg Prod.fst made, next⟩

theorem perform_numbered (lock : Lock State) (clock : Instant) (action : LockAction State Result)
    (done : List (Work State Result)) (isolates : lock.Isolates done)
    (member : TransactionRecord State) (present : member ∈ (lock.perform clock action).members) :
    member.serial < (lock.perform clock action).admissions := by
  have grown := lock.perform_admissions_le clock action
  rcases lock.perform_origin isolates.distinct clock action member present with
    ⟨before, resident, same⟩ | ⟨serial, next⟩
  · have earlier := isolates.numbered before resident
    have equal : before.serial = member.serial := congrArg Prod.fst same
    omega
  · omega

theorem works_past (lock : Lock State) (clock : Instant) (action : LockAction State Result)
    (done : List (Work State Result)) (isolates : lock.Isolates done) (work : Work State Result)
    (worked : work ∈ lock.works clock action) :
    work.seen.serial < (lock.perform clock action).admissions := by
  have grown := lock.perform_admissions_le clock action
  rcases lock.works_seen clock action work worked with resident | ⟨_, serial, next⟩
  · have before := isolates.numbered work.seen resident
    omega
  · omega

theorem perform_recounts (lock : Lock State) (clock : Instant) (action : LockAction State Result)
    (done : List (Work State Result)) (isolates : lock.Isolates done)
    (member : TransactionRecord State) (present : member ∈ (lock.perform clock action).members) :
    member.Recounts (done ++ lock.works clock action) := by
  rw [TransactionRecord.Recounts, Work.on_append]
  cases lock.perform_copies isolates.distinct clock action member present with
  | worked work worked same copy =>
      have seen := lock.works_recounts clock action done isolates work (by simp [worked])
      have own : Work.on member.admission (lock.works clock action) = [work] := by
        simp [worked, Work.on, same]
      rw [own, Work.replay_append, copy, seen, same]
      rfl
  | kept before resident same copy idle =>
      rw [Work.on_nil _ _ idle, List.append_nil, copy, same]
      exact isolates.members before resident

theorem perform_isolates (lock : Lock State) (clock : Instant) (action : LockAction State Result)
    (done : List (Work State Result)) (isolates : lock.Isolates done)
    (distinct : (lock.perform clock action).HasDistinctNames) :
    (lock.perform clock action).Isolates (done ++ lock.works clock action) := by
  refine ⟨distinct, lock.perform_numbered clock action done isolates, ?_,
    lock.perform_recounts clock action done isolates⟩
  intro work worked
  rcases List.mem_append.mp worked with earlier | now
  · exact Nat.lt_of_lt_of_le (isolates.past work earlier) (lock.perform_admissions_le clock action)
  · exact lock.works_past clock action done isolates work now

/-- Nothing is done any more on a record that is gone, and it does not come back. -/
theorem perform_gone (lock : Lock State) (clock : Instant) (action : LockAction State Result)
    (done : List (Work State Result)) (isolates : lock.Isolates done)
    (record : TransactionRecord State) (gone : lock.Gone done record) :
    (lock.perform clock action).Gone (done ++ lock.works clock action) record := by
  have past := gone.past
  constructor
  · rw [TransactionRecord.Recounts, Work.on_append, Work.on_nil record.admission (lock.works _ _),
      List.append_nil]
    · exact gone.recounts
    · intro work worked same
      have serial : work.seen.serial = record.serial := congrArg Prod.fst same
      rcases lock.works_seen clock action work worked with resident | ⟨_, next, _⟩
      · exact gone.absent work.seen resident same
      · omega
  · exact Nat.lt_of_lt_of_le past (lock.perform_admissions_le clock action)
  · intro member present same
    have serial : member.serial = record.serial := congrArg Prod.fst same
    rcases lock.perform_origin isolates.distinct clock action member present with
      ⟨before, resident, equal⟩ | ⟨next, _⟩
    · exact gone.absent before resident (equal.trans same)
    · omega

theorem handsOver_gone (lock : Lock State) (timed : lock.IsTimed) (clock : Instant)
    (action : LockAction State Result) (done : List (Work State Result))
    (isolates : lock.Isolates done) (parcel : Parcel State)
    (handed : parcel ∈ lock.handsOver clock action) :
    (lock.perform clock action).Gone (done ++ lock.works clock action) parcel.2 := by
  have leaves := lock.handsOver_leaves timed clock action parcel handed
  have grown := lock.perform_admissions_le clock action
  constructor
  · rw [TransactionRecord.Recounts, Work.on_append, Work.on_nil _ (lock.works _ _) leaves.unworked,
      List.append_nil]
    exact isolates.members parcel.2 leaves.resident
  · exact Nat.lt_of_lt_of_le (isolates.numbered parcel.2 leaves.resident) grown
  · intro member present same
    have apart := List.nodup_append.mp (lock.perform_admissions_nodup clock action done isolates)
    exact apart.2.2 member.admission (List.mem_map_of_mem present) parcel.2.admission
      (List.mem_append_left _ (List.mem_map.mpr ⟨parcel, handed, rfl⟩)) same

end Lock

/-! Promises -/

namespace Stage

def promise? (stage : Stage State Result) : Option (TransactionRecord State) :=
  stage.final?.bind Answer.record?

end Stage

namespace System

def Progress.promise? (progress : Progress State Result) : Option (TransactionRecord State) :=
  progress.final?.bind Answer.record?

theorem passGate_promise? (system : System State Result) (request : EntryRequest State Result) :
    (system.passGate request).2.promise? = none := by
  by_cases gate : system.queue.gateOpen = true
  · simp only [passGate, gate, ↓reduceIte, enterLock]
    split
    · rfl
    · rw [Progress.promise?, notifyThen_final?]
      rfl
  · simp [passGate, gate, Progress.promise?, Progress.final?, Stage.final?]

/-- Only a validation answers with a record: one that is resident, or that it removes. -/
theorem start_promise? (system : System State Result) (call : CallId)
    (request : Request State Result) (record : TransactionRecord State)
    (promised : (system.start call request).2.promise? = some record) :
    ∃ transaction counter, request = .validate transaction counter ∧
      system.lock.find? transaction = some record ∧
      ((system.start call request).2.answer? = some (.validated .ok (some record)) ∨
        (.abort .brokenLock, record) ∈
          system.lock.handsOver system.clock (.validate transaction counter : LockAction State Result)) := by
  cases request with
  | enter entry =>
      simp only [start, passGate_promise?] at promised
      cases promised
  | validate transaction counter =>
      refine ⟨transaction, counter, rfl, ?_⟩
      cases found : system.lock.find? transaction with
      | none =>
          simp only [start, validateLock, Lock.validate, found] at promised
          cases promised
      | some resident =>
          by_cases same : resident.accesses = counter
          · simp only [start, validateLock, Lock.validate, found, same, ↓reduceIte] at promised ⊢
            cases promised
            exact ⟨rfl, .inl rfl⟩
          · simp only [start, validateLock, Lock.validate, found, same, ↓reduceIte] at promised
            rw [Progress.promise?, notifyThen_final?] at promised
            cases promised
            exact ⟨rfl, .inr (by simp [Lock.handsOver, Lock.validate, found, same])⟩
  | _ =>
      obtain ⟨answer, final, given⟩ := Option.bind_eq_some_iff.mp promised
      have plain := system.start_plain call _ (by simp) (by simp) answer final
      cases (answer.isPlain_record? plain).symm.trans given

theorem proceed_promise? (system : System State Result) (stage : Stage State Result)
    (record : TransactionRecord State)
    (promised : (system.proceed stage).2.promise? = some record) :
    stage.promise? = some record := by
  cases gate : stage.entering? with
  | some request =>
      cases stage with
      | atGate request =>
          simp only [proceed, passGate_promise?] at promised
          cases promised
      | _ => cases gate
  | none =>
      obtain ⟨answer, final, given⟩ := Option.bind_eq_some_iff.mp promised
      rcases system.proceed_final? stage gate answer final with settled | plain
      · exact Option.bind_eq_some_iff.mpr ⟨answer, settled, given⟩
      · cases (answer.isPlain_record? plain).symm.trans given

/-! Runs -/

def works (system : System State Result) (event : Event State Result) :
    List (Work State Result) :=
  (system.action? event).elim [] (system.lock.works system.clock)

def worked (options : Options) (events : List (Event State Result)) : List (Work State Result) :=
  gather works (new options) events

def direct : Event State Result → List (Parcel State)
  | .call _ (.handOver record outcome) => [(outcome, record)]
  | _ => []

structure Isolated (options : Options) (system : System State Result)
    (done : List (Work State Result)) : Prop where
  orderly : system.Orderly options
  lock : system.lock.Isolates done
  promised : ∀ pending ∈ system.calls, ∀ record, pending.stage.promise? = some record →
    system.lock.Gone done record

theorem step_isolates (options : Options) (system : System State Result)
    (event : Event State Result) (done : List (Work State Result))
    (isolated : system.Isolated options done) :
    (system.step event).lock.Isolates (done ++ system.works event) := by
  have distinct := (step_orderly options system event isolated.orderly).kept.distinct
  rw [system.step_lock event isolated.orderly.named] at distinct ⊢
  cases action : system.action? event with
  | none => simpa [works, action] using isolated.lock
  | some action' =>
      rw [action] at distinct
      simpa [works, action, lockAfter] using
        system.lock.perform_isolates system.clock action' done isolated.lock distinct

theorem step_gone (options : Options) (system : System State Result) (event : Event State Result)
    (done : List (Work State Result)) (isolated : system.Isolated options done)
    (record : TransactionRecord State) (gone : system.lock.Gone done record) :
    (system.step event).lock.Gone (done ++ system.works event) record := by
  rw [system.step_lock event isolated.orderly.named]
  cases action : system.action? event with
  | none => simpa [works, action] using gone
  | some action' =>
      simpa [works, action, lockAfter] using
        system.lock.perform_gone system.clock action' done isolated.lock record gone

theorem parcels_gone (options : Options) (system : System State Result)
    (event : Event State Result) (done : List (Work State Result))
    (isolated : system.Isolated options done) (parcel : Parcel State)
    (left : parcel ∈ system.parcelsOf (system.action? event)) :
    (system.step event).lock.Gone (done ++ system.works event) parcel.2 := by
  rw [system.step_lock event isolated.orderly.named]
  cases action : system.action? event with
  | none =>
      rw [action] at left
      cases left
  | some action' =>
      rw [action] at left
      simpa [works, action, lockAfter] using
        system.lock.handsOver_gone isolated.orderly.kept.timed system.clock action' done isolated.lock
          parcel left

/-- A promise is kept from an earlier event, or made for a record that leaves just now. -/
theorem step_promised (options : Options) (system : System State Result)
    (event : Event State Result) (done : List (Work State Result))
    (isolated : system.Isolated options done) (pending : PendingCall State Result)
    (present : pending ∈ (system.step event).calls) (record : TransactionRecord State)
    (promised : pending.stage.promise? = some record) :
    (system.step event).lock.Gone (done ++ system.works event) record := by
  have waits : pending.stage.isFlushing = false := by
    cases stage : pending.stage with
    | flushing answer =>
        rw [stage] at promised
        cases promised
    | _ => rfl
  rcases system.step_pending event isolated.orderly.named pending present waits with old | came
  · exact step_gone options system event done isolated record
      (isolated.promised pending old record promised)
  · cases system.progress?_origin event _ _ came with
    | begun request event_eq free started =>
        subst event_eq
        have made : (system.start pending.call request).2.promise? = some record := by
          rw [← started]
          exact promised
        obtain ⟨transaction, counter, rfl, _, answered | left⟩ := system.start_promise? _ _ _ made
        · rw [← started] at answered
          cases answered
        · apply parcels_gone options system _ done isolated (.abort .brokenLock, record)
          simpa [action?, free, requestAction?, parcelsOf] using left
    | resumed before event_eq ready found proceeded =>
        have kept : before.stage.promise? = some record := by
          apply proceed_promise? { system with ready := system.ready.erase (.call pending.call) }
          rw [← proceeded]
          exact promised
        exact step_gone options system event done isolated record
          (isolated.promised before (named?_some _ _ _ found).1 record kept)

theorem step_isolated (options : Options) (system : System State Result)
    (event : Event State Result) (done : List (Work State Result))
    (isolated : system.Isolated options done) :
    (system.step event).Isolated options (done ++ system.works event) :=
  ⟨step_orderly options system event isolated.orderly,
    step_isolates options system event done isolated,
    step_promised options system event done isolated⟩

theorem run_isolated (options : Options) (system : System State Result)
    (events : List (Event State Result)) (done : List (Work State Result))
    (isolated : system.Isolated options done) :
    (system.run events).Isolated options (done ++ gather works system events) := by
  induction events generalizing system done with
  | nil => simpa [run, gather] using isolated
  | cons event later ih =>
      have rest := ih (system.step event) _ (step_isolated options system event done isolated)
      rw [List.append_assoc] at rest
      exact rest

theorem run_gone (options : Options) (system : System State Result)
    (events : List (Event State Result)) (done : List (Work State Result))
    (isolated : system.Isolated options done) (record : TransactionRecord State)
    (gone : system.lock.Gone done record) :
    (system.run events).lock.Gone (done ++ gather works system events) record := by
  induction events generalizing system done with
  | nil => simpa [run, gather] using gone
  | cons event later ih =>
      have rest := ih (system.step event) _ (step_isolated options system event done isolated)
        (step_gone options system event done isolated record gone)
      rw [List.append_assoc] at rest
      exact rest

theorem new_isolated (options : Options) :
    (new options : System State Result).Isolated options [] := by
  refine ⟨⟨new_named options, Lock.new_wellKept options, rfl⟩, Lock.new_isolates options, ?_⟩
  intro pending present
  cases present

/-- Whatever the lock gave away was gone from then on. -/
theorem moved_recounts (options : Options) (events : List (Event State Result))
    (parcel : Parcel State)
    (moved : parcel ∈ ((new options).run events).handed ∨ parcel ∈ withheld options events) :
    parcel ∈ events.flatMap direct ∨ parcel.2.Recounts (worked options events) := by
  obtain ⟨before, event, after, split, put⟩ :=
    (mem_gather _ _ _ _).mp (moved_parcels options events parcel moved)
  by_cases through : IsDirect event
  · obtain ⟨call, record, outcome, rfl⟩ := through
    left
    rw [split, List.flatMap_append, List.flatMap_cons]
    apply List.mem_append_right
    apply List.mem_append_left
    by_cases free : ((new options).run before).isFree call = true
    · simpa [parcels, free, requestParcels, direct] using put
    · simp [parcels, free] at put
  · right
    have isolated := run_isolated options _ before [] (new_isolated options)
    rw [parcels_lock _ event through] at put
    have gone := parcels_gone options _ event _ isolated parcel put
    have kept := run_gone options _ after _ (step_isolated options _ event _ isolated) parcel.2 gone
    rw [worked, split, gather_append, gather, ← List.append_assoc]
    exact kept.recounts

theorem reply_recounts (options : Options) (system : System State Result)
    (event : Event State Result) (done : List (Work State Result))
    (isolated : system.Isolated options done) (call : CallId) (status : TransactionalStatus)
    (record : TransactionRecord State)
    (reply : system.reply? event = some (call, .validated status (some record))) :
    record.Recounts done := by
  obtain ⟨⟨another, outcome⟩, own, same⟩ := Option.bind_eq_some_iff.mp reply
  cases outcome with
  | waits stage => cases same
  | answered answer =>
      obtain ⟨rfl, rfl⟩ : another = call ∧ answer = .validated status (some record) := by
        simpa [Progress.answer?] using same
      cases system.progress?_origin event another _ own with
      | begun request event_eq free started =>
          have made : (system.start another request).2.promise? = some record := by
            rw [← started]
            rfl
          obtain ⟨transaction, _, _, found, _⟩ := system.start_promise? _ _ _ made
          exact isolated.lock.members record (system.lock.find?_some transaction record found).1
      | resumed pending event_eq ready found proceeded =>
          have kept : pending.stage.promise? = some record := by
            apply proceed_promise? { system with ready := system.ready.erase (.call another) }
            rw [← proceeded]
            rfl
          exact (isolated.promised pending (named?_some _ _ _ found).1 record kept).recounts

/-- Whoever gets to see a record after a run sees what the work on its admission comes to. -/
structure ReplaysRecords (options : Options) (events : List (Event State Result)) : Prop where
  seen : ∀ event, ∀ work ∈ ((new options).run events).works event,
    work.seen.Recounts (worked options events)
  resident : ∀ transaction record, ((new options).run events).lock.find? transaction = some record →
    record.transaction = transaction ∧ record.Recounts (worked options events)
  -- Whoever asks whether the counts agree, and waits until the queue knows if they do not.
  validated : ∀ event call status record,
    ((new options).run events).reply? event = some (call, .validated status (some record)) →
      record.Recounts (worked options events)
  -- The queue, once it has the record or as long as it is on its way.
  moved : ∀ parcel, parcel ∈ ((new options).run events).handed ∨ parcel ∈ withheld options events →
    parcel ∈ events.flatMap direct ∨ parcel.2.Recounts (worked options events)

/-- In every run every record recounts the work on its own admission, wherever it is, unless
somebody made the record up and gave it to the queue past the lock. -/
theorem run_records_replay (options : Options) (events : List (Event State Result)) :
    ReplaysRecords options events := by
  have isolated := run_isolated options _ events [] (new_isolated options)
  rw [List.nil_append] at isolated
  constructor
  · intro event work done
    cases action : ((new options).run events).action? event with
    | none => simp [works, action] at done
    | some action' =>
        simp only [works, action, Option.elim_some] at done
        exact Lock.works_recounts _ _ action' _ isolated.lock work done
  · intro transaction record found
    obtain ⟨present, named⟩ := Lock.find?_some _ transaction record found
    exact ⟨named, isolated.lock.members record present⟩
  · intro event call status record reply
    exact reply_recounts options _ event _ isolated call status record reply
  · exact moved_recounts options events

end System

end WoundWait
