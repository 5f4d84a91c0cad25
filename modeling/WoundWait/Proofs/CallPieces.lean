import WoundWait.Proofs.LockAction
import WoundWait.Proofs.HandOffRecords

/-!
What one piece of a call does: at most one action on the lock, the message that the action sends to
the lock's worker, and the hand-offs it begins, each of them completed or held by the call that
waits.
-/

namespace WoundWait

variable {State Result : Type}

namespace Lock

def wakes (lock : Lock State) (clock : Instant) :
    LockAction State Result → List (WakeRequest CallId)
  | .enter request =>
      match lock.enter clock request with
      | .ok entry =>
          if entry.wounded.isEmpty then
            ((entry.lock.group.bind LockGroup.deadline).map WakeRequest.deferred).toList
          else [.immediate]
      | .error _ => []
  | .validate transaction counter =>
      match lock.validate transaction counter with
      | .refuted _ _ => [.immediate]
      | _ => []
  | .rollback transaction _ | .assignRole transaction _ _ =>
      if (lock.find? transaction).isSome then [.immediate] else []
  | .abortAll => if lock.residents.isEmpty then [] else [.immediate]
  | .edit _ _ | .tick => []

/-- The records that an action takes out of the lock for the queue, in the order of their hand-offs.
-/
def handsOver (lock : Lock State) (clock : Instant) : LockAction State Result → List (Parcel State)
  | .enter request =>
      match lock.enter clock request with
      | .ok entry => entry.wounded.map fun record => (.abort .brokenLock, record)
      | .error _ => []
  | .validate transaction counter =>
      match lock.validate transaction counter with
      | .refuted record _ => [(.abort .brokenLock, record)]
      | _ => []
  | .rollback transaction notify =>
      if notify then (lock.find? transaction).toList.map fun record => (.abort .brokenLock, record)
      else []
  | .abortAll => lock.residents.map fun record => (.abort .brokenLock, record)
  | .tick =>
      match (lock.tick clock).1 with
      | .exit records => records.map fun record => (.commit, record)
      | .breakLock records => records.map fun record => (.abort .brokenLock, record)
      | _ => []
  | .assignRole .. | .edit .. => []

end Lock

namespace System

def Progress.held : Progress State Result → List (Parcel State)
  | answered _ => []
  | waits stage => stage.held

def Progress.entering? : Progress State Result → Option (EntryRequest State Result)
  | answered _ => none
  | waits stage => stage.entering?

def requestAction? (system : System State Result) :
    Request State Result → Option (LockAction State Result)
  | .enter request => if system.queue.gateOpen then some (.enter request) else none
  | .validate transaction counter => some (.validate transaction counter)
  | .rollback transaction notify => some (.rollback transaction notify)
  | .abortAll => some .abortAll
  | .handOver .. | .recover | .flushStorage | .sleep _ => none

def stageAction? (system : System State Result) : Stage State Result → Option (LockAction State Result)
  | .atGate request => if system.queue.gateOpen then some (.enter request) else none
  | _ => none

def lockAfter (system : System State Result) (action : Option (LockAction State Result)) : Lock State :=
  action.elim system.lock (system.lock.perform system.clock)

def wakesOf (system : System State Result) (action : Option (LockAction State Result)) :
    List (WakeRequest CallId) :=
  action.elim [] (system.lock.wakes system.clock)

def parcelsOf (system : System State Result) (action : Option (LockAction State Result)) :
    List (Parcel State) :=
  action.elim [] (system.lock.handsOver system.clock)

@[simp] theorem lockAfter_none (system : System State Result) :
    system.lockAfter (none : Option (LockAction State Result)) = system.lock := rfl

@[simp] theorem parcelsOf_none (system : System State Result) :
    system.parcelsOf (none : Option (LockAction State Result)) = [] := rfl

def requestMail (system : System State Result) (call : CallId) :
    Request State Result → List (WakeRequest CallId)
  | .recover => [.flush call]
  | request => system.wakesOf (system.requestAction? request)

def storageMail (call : CallId) : Request State Result → List (WakeRequest CallId)
  | .flushStorage => [.flush call]
  | _ => []

def requestParcels (system : System State Result) : Request State Result → List (Parcel State)
  | .handOver record outcome => [(outcome, record)]
  | request => system.parcelsOf (system.requestAction? request)

/-- A piece of a call: the lock it leaves, the messages it sends and the hand-offs it is to
complete, some of which may be left to wait for. -/
def Does (system : System State Result) (lock : Lock State)
    (toLock toStorage : List (WakeRequest CallId)) (parcels : List (Parcel State))
    (result : System State Result × Progress State Result) : Prop :=
  ∃ delivered, { system with lock }.Stretch result.1 toLock toStorage delivered ∧
    (delivered ++ result.2.held).Perm parcels

theorem does_nothing (system : System State Result) (progress : Progress State Result) :
    system.Does system.lock [] [] progress.held (system, progress) :=
  ⟨[], system.stretch_refl, List.Perm.refl _⟩

/-- Hand-offs that begin after the lock was left and the worker woken. -/
theorem notifyThen_does (system middle : System State Result) (lock : Lock State)
    (toLock : List (WakeRequest CallId)) (records : List (TransactionRecord State))
    (answer : Answer State Result) (woken : { system with lock }.Stretch middle toLock [] []) :
    system.Does lock toLock [] (records.map fun record => (.abort .brokenLock, record))
      (middle.notifyThen records answer) := by
  obtain ⟨delivered, stretch, perm⟩ := middle.startNotifying_stretch records
  have whole := woken.trans stretch
  rw [List.append_nil, List.append_nil, List.append_nil] at whole
  unfold notifyThen
  cases later : middle.startNotifying records with
  | mk notified pending =>
      rw [later] at whole perm
      cases pending with
      | nil => exact ⟨delivered, whole, by simpa [Progress.held] using perm⟩
      | cons first rest => exact ⟨delivered, whole, by simpa [Progress.held, Stage.held] using perm⟩

theorem notifyAfterEntry_stretch (system : System State Result)
    (wounded : List (TransactionRecord State)) :
    system.Stretch (system.notifyAfterEntry wounded)
      (if wounded.isEmpty then
        ((system.lock.group.bind LockGroup.deadline).map WakeRequest.deferred).toList
      else [.immediate]) [] [] := by
  unfold notifyAfterEntry
  split
  · cases deadline : system.lock.group.bind LockGroup.deadline with
    | none => exact system.stretch_refl
    | some instant => exact system.notifyLockAt_stretch instant
  · exact system.notifyLock_stretch

theorem enterLock_does (system : System State Result) (request : EntryRequest State Result) :
    system.Does (system.lock.perform system.clock (.enter request))
      (system.lock.wakes system.clock (.enter request)) []
      (system.lock.handsOver system.clock (.enter request)) (system.enterLock request) := by
  cases outcome : system.lock.enter system.clock request with
  | error refusal =>
      simp only [enterLock, Lock.perform, Lock.wakes, Lock.handsOver, outcome]
      exact system.does_nothing (.answered _)
  | ok entry =>
      simp only [enterLock, Lock.perform, Lock.wakes, Lock.handsOver, outcome]
      exact system.notifyThen_does _ entry.lock _ entry.wounded _
        ({ system with lock := entry.lock }.notifyAfterEntry_stretch entry.wounded)

theorem passGate_does (system : System State Result) (request : EntryRequest State Result) :
    system.Does (system.lockAfter (system.stageAction? (.atGate request)))
      (system.wakesOf (system.stageAction? (.atGate request))) []
      (system.parcelsOf (system.stageAction? (.atGate request))) (system.passGate request) := by
  by_cases gate : system.queue.gateOpen = true
  · simp only [passGate, stageAction?, gate, ↓reduceIte]
    exact system.enterLock_does request
  · simp only [passGate, stageAction?, gate, Bool.false_eq_true, ↓reduceIte]
    exact system.does_nothing (.waits (.atGate request))

theorem validateLock_does (system : System State Result) (transaction : TransactionId)
    (counter : AccessCounter) :
    system.Does
      (system.lock.perform system.clock (.validate transaction counter : LockAction State Result))
      (system.lock.wakes system.clock (.validate transaction counter : LockAction State Result)) []
      (system.lock.handsOver system.clock (.validate transaction counter : LockAction State Result))
      (system.validateLock transaction counter) := by
  cases outcome : system.lock.validate transaction counter with
  | notResident =>
      simp only [validateLock, Lock.perform, Lock.wakes, Lock.handsOver, outcome]
      exact system.does_nothing (.answered _)
  | confirmed record =>
      simp only [validateLock, Lock.perform, Lock.wakes, Lock.handsOver, outcome]
      exact system.does_nothing (.answered _)
  | refuted record after =>
      simp only [validateLock, Lock.perform, Lock.wakes, Lock.handsOver, outcome]
      exact system.notifyThen_does _ after _ [record] _
        ({ system with lock := after }.notifyLock_stretch)

theorem rollback_does (system : System State Result) (transaction : TransactionId)
    (notify : Bool) :
    system.Does (system.lock.perform system.clock (.rollback transaction notify : LockAction State Result))
      (system.lock.wakes system.clock (.rollback transaction notify : LockAction State Result)) []
      (system.lock.handsOver system.clock (.rollback transaction notify : LockAction State Result))
      (system.rollback transaction notify) := by
  cases found : system.lock.find? transaction with
  | none =>
      simp only [rollback, Lock.perform, Lock.wakes, Lock.handsOver, found]
      cases notify <;> exact system.does_nothing (.answered .rolledBack)
  | some record =>
      have does := system.notifyThen_does _ (system.lock.remove transaction) _
        (if notify then [record] else []) (.rolledBack : Answer State Result)
        ({ system with lock := system.lock.remove transaction }.notifyLock_stretch)
      simp only [rollback, Lock.perform, Lock.wakes, Lock.handsOver, found]
      cases notify <;> simpa using does

theorem abortAll_does (system : System State Result) :
    system.Does (system.lock.perform system.clock (.abortAll : LockAction State Result))
      (system.lock.wakes system.clock (.abortAll : LockAction State Result)) []
      (system.lock.handsOver system.clock (.abortAll : LockAction State Result)) system.abortAll := by
  simp only [abortAll, Lock.perform, Lock.wakes, Lock.handsOver]
  apply notifyThen_does
  split
  · exact { system with lock := system.lock.emptied }.stretch_refl
  · exact { system with lock := system.lock.emptied }.notifyLock_stretch

theorem handOver_does (system : System State Result) (handOff : HandOff State) :
    system.Does system.lock [] [] [handOff.parcel] (system.handOver handOff) := by
  by_cases due : handOff.due ≤ system.clock
  · simp only [handOver, due, ↓reduceIte]
    exact ⟨[handOff.parcel], system.deliver_stretch handOff, List.Perm.refl _⟩
  · simp only [handOver, due, ↓reduceIte]
    exact system.does_nothing (.waits (.handing handOff))

theorem recover_does (system : System State Result) (call : CallId) :
    system.Does system.lock [.flush call] [] [] (system.recover call) := by
  by_cases stopped : system.lockWorker.isStopped = true
  · simp only [recover, stopped, ↓reduceIte]
    refine ⟨[], ?_, List.Perm.refl _⟩
    refine { system.stretch_refl with lockWorker := system.lockWorker.stopped_receives _ stopped
                                      woken := ?_ }
    intro waiting
    have alive : system.lockWorker.phase = .waiting := waiting
    simp [Worker.isStopped, alive] at stopped
  · simp only [recover, stopped, Bool.false_eq_true, ↓reduceIte]
    exact ⟨[], system.lockMail_stretch _ _ (system.lockWorker.send_receives (.flush call)),
      List.Perm.refl _⟩

theorem flushStorage_does (system : System State Result) (call : CallId) :
    system.Does system.lock [] [.flush call] [] (system.flushStorage call) := by
  by_cases stopped : system.storageWorker.isStopped = true
  · simp only [flushStorage, stopped, ↓reduceIte]
    refine ⟨[], ?_, List.Perm.refl _⟩
    exact { system.stretch_refl with
      storageWorker := system.storageWorker.stopped_receives _ stopped }
  · simp only [flushStorage, stopped, Bool.false_eq_true, ↓reduceIte]
    exact ⟨[], system.storageMail_stretch _ _ (system.storageWorker.send_receives (.flush call)),
      List.Perm.refl _⟩

theorem start_does (system : System State Result) (call : CallId)
    (request : Request State Result) :
    system.Does (system.lockAfter (system.requestAction? request)) (system.requestMail call request)
      (storageMail call request) (system.requestParcels request) (system.start call request) := by
  cases request with
  | enter request =>
      -- The count of newcomers at the gate is no part of what a stretch tells.
      obtain ⟨delivered, stretch, perm⟩ := { system with
        queue := { system.queue with
          readyCalls := system.queue.readyCalls + 1 } }.passGate_does request
      exact ⟨delivered, ⟨stretch.clock, stretch.lock, stretch.calls, stretch.lockWorker,
        stretch.storageWorker, stretch.ready, stretch.woken, stretch.handed⟩, perm⟩
  | validate transaction counter => exact system.validateLock_does transaction counter
  | rollback transaction notify => exact system.rollback_does transaction notify
  | abortAll => exact system.abortAll_does
  | handOver record outcome => exact system.handOver_does _
  | recover => exact system.recover_does call
  | flushStorage => exact system.flushStorage_does call
  | sleep milliseconds =>
      cases milliseconds with
      | zero => exact system.does_nothing (.answered .slept)
      | succ before => exact system.does_nothing (.waits (.sleeping _))

theorem proceed_does (system : System State Result) (stage : Stage State Result) :
    system.Does (system.lockAfter (system.stageAction? stage))
      (system.wakesOf (system.stageAction? stage)) []
      (stage.held ++ system.parcelsOf (system.stageAction? stage)) (system.proceed stage) := by
  cases stage with
  | atGate request => exact system.passGate_does request
  | notifying pending answer =>
      obtain ⟨delivered, stretch, perm⟩ := system.deliverDue_stretch pending
      cases later : system.deliverDue pending with
      | mk notified remaining =>
          rw [later] at stretch perm
          simp only [proceed, later]
          cases remaining with
          | nil =>
              exact ⟨delivered, stretch,
                by simpa [Progress.held, Stage.held, parcelsOf, stageAction?] using perm⟩
          | cons first rest =>
              exact ⟨delivered, stretch,
                by simpa [Progress.held, Stage.held, parcelsOf, stageAction?] using perm⟩
  | handing handOff => exact system.handOver_does handOff
  | flushing answer =>
      cases answer with
      | none => exact system.does_nothing (.waits (.flushing none))
      | some answer => exact system.does_nothing (.answered (.flushed answer))
  | sleeping due =>
      by_cases past : due ≤ system.clock
      · simp only [proceed, past, ↓reduceIte]
        exact system.does_nothing (.answered .slept)
      · simp only [proceed, past, ↓reduceIte]
        exact system.does_nothing (.waits (.sleeping due))

/-! The gate -/

theorem notifyThen_entering? (system : System State Result) (records : List (TransactionRecord State))
    (answer : Answer State Result) : (system.notifyThen records answer).2.entering? = none := by
  unfold notifyThen
  split <;> rfl

theorem passGate_entering? (system : System State Result)
    (request entry : EntryRequest State Result)
    (waits : (system.passGate request).2.entering? = some entry) : request = entry := by
  by_cases gate : system.queue.gateOpen = true
  · simp only [passGate, gate, ↓reduceIte, enterLock] at waits
    split at waits
    · cases waits
    · rw [notifyThen_entering?] at waits
      cases waits
  · simp only [passGate, gate, Bool.false_eq_true, ↓reduceIte] at waits
    exact Option.some.inj waits

theorem handOver_entering? (system : System State Result) (handOff : HandOff State) :
    (system.handOver handOff).2.entering? = none := by
  unfold handOver
  split <;> rfl

/-- Only a call that was made to enter comes to the gate, with what it was made with. -/
theorem start_entering? (system : System State Result) (call : CallId)
    (request : Request State Result) (entry : EntryRequest State Result)
    (waits : (system.start call request).2.entering? = some entry) : request = .enter entry := by
  cases request with
  | enter request => exact congrArg _ (passGate_entering? _ request entry waits)
  | validate transaction counter =>
      simp only [start, validateLock] at waits
      split at waits
      · cases waits
      · cases waits
      · rw [notifyThen_entering?] at waits
        cases waits
  | rollback transaction notify =>
      simp only [start, rollback] at waits
      split at waits
      · cases waits
      · rw [notifyThen_entering?] at waits
        cases waits
  | abortAll =>
      simp only [start, abortAll, notifyThen_entering?] at waits
      cases waits
  | handOver record outcome =>
      simp only [start, handOver_entering?] at waits
      cases waits
  | recover =>
      simp only [start, recover] at waits
      split at waits <;> cases waits
  | flushStorage =>
      simp only [start, flushStorage] at waits
      split at waits <;> cases waits
  | sleep milliseconds => cases milliseconds <;> cases waits

theorem proceed_entering? (system : System State Result) (stage : Stage State Result)
    (entry : EntryRequest State Result) (waits : (system.proceed stage).2.entering? = some entry) :
    stage.entering? = some entry := by
  cases stage with
  | atGate request => exact congrArg some (passGate_entering? system request entry waits)
  | notifying pending answer =>
      simp only [proceed] at waits
      split at waits <;> cases waits
  | handing handOff =>
      simp only [proceed, handOver_entering?] at waits
      cases waits
  | flushing answer => cases answer <;> cases waits
  | sleeping due =>
      simp only [proceed] at waits
      split at waits <;> cases waits

/-! Waits for a run -/

/-- An action asks for a look; it never waits for one. -/
theorem wakes_waiters (lock : Lock State) (clock : Instant) (action : LockAction State Result) :
    (lock.wakes clock action).filterMap WakeRequest.waiter? = [] := by
  cases action with
  | enter request =>
      cases outcome : lock.enter clock request with
      | error refusal => simp [Lock.wakes, outcome]
      | ok entry =>
          cases next : entry.lock.group.bind LockGroup.deadline <;>
            by_cases unharmed : entry.wounded.isEmpty = true <;>
            simp [Lock.wakes, outcome, unharmed, next, WakeRequest.waiter?]
  | validate transaction counter =>
      cases outcome : lock.validate transaction counter <;>
        simp [Lock.wakes, outcome, WakeRequest.waiter?]
  | rollback transaction notify =>
      cases found : lock.find? transaction <;> simp [Lock.wakes, found, WakeRequest.waiter?]
  | abortAll =>
      by_cases nobody : lock.residents.isEmpty = true <;>
        simp [Lock.wakes, nobody, WakeRequest.waiter?]
  | assignRole transaction role timestamp =>
      cases found : lock.find? transaction <;> simp [Lock.wakes, found, WakeRequest.waiter?]
  | edit transaction operation => rfl
  | tick => rfl

theorem wakesOf_waiters (system : System State Result) (action : Option (LockAction State Result)) :
    (system.wakesOf action).filterMap WakeRequest.waiter? = [] := by
  cases action with
  | none => rfl
  | some action => exact wakes_waiters system.lock system.clock action

def Progress.IsFlush : Progress State Result → Prop
  | answered _ => True
  | waits stage => stage.isFlushing = true

/-- Only a call that waits for a run is kept by a worker. -/
theorem start_waiters (system : System State Result) (call waiter : CallId)
    (request : Request State Result)
    (kept : waiter ∈ (system.requestMail call request).filterMap WakeRequest.waiter? ∨
      waiter ∈ (storageMail call request).filterMap WakeRequest.waiter?) :
    waiter = call ∧ (system.start call request).2.IsFlush := by
  have nobody (none : (system.requestMail call request).filterMap WakeRequest.waiter? = [])
      (none' : (storageMail call request).filterMap WakeRequest.waiter? = []) :
      waiter = call ∧ (system.start call request).2.IsFlush := by
    rw [none, none'] at kept
    rcases kept with kept | kept <;> cases kept
  cases request with
  | recover =>
      have named : waiter = call := by
        simpa [requestMail, storageMail, WakeRequest.waiter?] using kept
      refine ⟨named, ?_⟩
      by_cases stopped : system.lockWorker.isStopped = true <;>
        simp [start, recover, stopped, Progress.IsFlush, Stage.isFlushing]
  | flushStorage =>
      have named : waiter = call := by
        simpa [requestMail, storageMail, requestAction?, wakesOf, WakeRequest.waiter?] using kept
      refine ⟨named, ?_⟩
      by_cases stopped : system.storageWorker.isStopped = true <;>
        simp [start, flushStorage, stopped, Progress.IsFlush, Stage.isFlushing]
  | enter request => exact nobody (system.wakesOf_waiters _) rfl
  | validate transaction counter => exact nobody (system.wakesOf_waiters _) rfl
  | rollback transaction notify => exact nobody (system.wakesOf_waiters _) rfl
  | abortAll => exact nobody (system.wakesOf_waiters _) rfl
  | handOver record outcome => exact nobody rfl rfl
  | sleep milliseconds => exact nobody rfl rfl

theorem proceed_isFlush (system : System State Result) (stage : Stage State Result)
    (flushing : stage.isFlushing = true) : (system.proceed stage).2.IsFlush := by
  cases stage with
  | flushing answer => cases answer <;> simp [proceed, Progress.IsFlush, Stage.isFlushing]
  | _ => cases flushing

theorem isFlushing_held (stage : Stage State Result) (flushing : stage.isFlushing = true) :
    stage.held = [] := by
  cases stage with
  | flushing answer => rfl
  | _ => cases flushing

end System

end WoundWait
