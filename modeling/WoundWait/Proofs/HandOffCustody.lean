import WoundWait.Proofs.CallPieces

/-!
Nothing is lost between the lock and the queue. What was held before a piece of work, and what the
lock gives up in it, is afterwards handed over, still held, or dropped with a call or a worker that
was cut off.
-/

namespace WoundWait

variable {State Result : Type}

namespace Worker

variable {Run Waiter : Type}

theorem taken_waiters (worker : Worker Run Waiter) :
    ∀ waiter ∈ worker.taken, waiter ∈ worker.waiters :=
  fun _ member => List.mem_append_left _ (List.mem_append_left _ member)

theorem start_waiters (worker : Worker Run Waiter) (run : Run) :
    ∀ waiter ∈ (worker.start run).waiters, waiter ∈ worker.waiters := by
  intro waiter member
  simp only [waiters, start, taken, List.append_nil, List.mem_append] at member ⊢
  rcases member with member | member
  · exact .inl (.inr member)
  · exact .inr member

theorem finish_waiters (worker : Worker Run Waiter) :
    ∀ waiter ∈ worker.finish.waiters, waiter ∈ worker.waiters := by
  intro waiter member
  simp only [waiters, finish, taken, List.nil_append, List.mem_append] at member ⊢
  rcases member with member | member
  · exact .inl (.inr member)
  · exact .inr member

theorem continueRun_waiters (worker : Worker Run Waiter) (run : Run) :
    (worker.continueRun run).waiters = worker.waiters := by
  cases phase : worker.phase <;> simp [continueRun, phase, waiters, taken]

end Worker

namespace System

/-- No two pending calls bear one name, and those that a worker keeps wait for one of its runs. -/
structure Named (system : System State Result) : Prop where
  distinct : (system.calls.map fun pending => pending.call).Nodup
  lock : ∀ pending ∈ system.calls, pending.call ∈ system.lockWorker.waiters →
    pending.stage.isFlushing = true
  storage : ∀ pending ∈ system.calls, pending.call ∈ system.storageWorker.waiters →
    pending.stage.isFlushing = true

/-- Every kind of parcel is as often handed over, held or dropped afterwards as it was handed over,
held or given up by the lock before. -/
def Custody (before after : System State Result) (parcels dropped : List (Parcel State)) : Prop :=
  ∀ test : Parcel State → Bool,
    after.handed.countP test + after.held.countP test + dropped.countP test =
      before.handed.countP test + before.held.countP test + parcels.countP test

theorem new_named (options : Options) : (new options : System State Result).Named := by
  constructor <;> simp [new]

theorem custody_refl (system : System State Result) : system.Custody system [] [] :=
  fun _ => rfl

/-- Work that touches neither the journal nor what is held. -/
theorem custody_of_same (before after : System State Result) (handed : after.handed = before.handed)
    (held : after.held = before.held) : before.Custody after [] [] := by
  intro test
  rw [handed, held]

theorem held_congr (before after : System State Result) (calls : after.calls = before.calls)
    (phase : after.lockWorker.phase = before.lockWorker.phase) : after.held = before.held := by
  simp [held, callsHeld, workerHeld, calls, phase]

/-! Pending calls -/

theorem calls_split (calls : List (PendingCall State Result)) (call : CallId)
    (test : Parcel State → Bool) :
    (calls.flatMap fun pending => pending.stage.held).countP test =
      ((calls.filter fun pending => pending.call != call).flatMap
        fun pending => pending.stage.held).countP test +
      ((calls.filter fun pending => pending.call == call).flatMap
        fun pending => pending.stage.held).countP test := by
  induction calls with
  | nil => rfl
  | cons pending rest ih =>
      by_cases named : pending.call = call
      · simp [named, ih]
        omega
      · simp [named, ih]
        omega

theorem calls_own (calls : List (PendingCall State Result)) (call : CallId)
    (pending : PendingCall State Result)
    (distinct : (calls.map fun pending => pending.call).Nodup)
    (found : (calls.find? fun pending => pending.call == call) = some pending) :
    (calls.filter fun pending => pending.call == call) = [pending] := by
  induction calls with
  | nil => cases found
  | cons first rest ih =>
      obtain ⟨fresh, distinct⟩ := List.nodup_cons.mp distinct
      by_cases named : first.call = call
      · have others : (rest.filter fun pending => pending.call == call) = [] := by
          rw [List.filter_eq_nil_iff]
          intro other present same
          have equal : other.call = first.call := (beq_iff_eq.mp same).trans named.symm
          exact fresh (List.mem_map.mpr ⟨other, present, equal⟩)
        simp only [List.find?_cons, named, BEq.rfl, Option.some.injEq] at found
        subst found
        simp [named, others]
      · simp only [List.find?_cons, beq_eq_false_iff_ne.mpr named] at found
        simpa [named] using ih distinct found

def restage (calls : List (PendingCall State Result)) (call : CallId)
    (stage : Stage State Result) : List (PendingCall State Result) :=
  calls.map fun other => if other.call = call then { other with stage } else other

theorem restage_names (calls : List (PendingCall State Result)) (call : CallId)
    (stage : Stage State Result) :
    (restage calls call stage).map (fun pending => pending.call) =
      calls.map fun pending => pending.call := by
  rw [restage, List.map_map]
  apply List.map_congr_left
  intro pending _
  by_cases named : pending.call = call <;> simp [named]

theorem restage_others (calls : List (PendingCall State Result)) (call : CallId)
    (stage : Stage State Result) :
    ((restage calls call stage).filter fun pending => pending.call != call) =
      calls.filter fun pending => pending.call != call := by
  induction calls with
  | nil => rfl
  | cons pending rest ih =>
      simp only [restage, List.map_cons] at ih ⊢
      by_cases named : pending.call = call
      · simpa [named] using ih
      · simpa [named] using ih

theorem mem_restage (calls : List (PendingCall State Result)) (call : CallId)
    (stage : Stage State Result) (pending : PendingCall State Result)
    (member : pending ∈ restage calls call stage) :
    (pending.call = call ∧ pending.stage = stage) ∨ pending ∈ calls := by
  obtain ⟨other, present, same⟩ := List.mem_map.mp member
  by_cases named : other.call = call
  · simp only [named, ↓reduceIte] at same
    subst same
    exact .inl ⟨rfl, rfl⟩
  · simp only [named, ↓reduceIte] at same
    subst same
    exact .inr present

theorem restage_held (calls : List (PendingCall State Result)) (call : CallId)
    (stage : Stage State Result) (pending : PendingCall State Result)
    (distinct : (calls.map fun pending => pending.call).Nodup)
    (found : (calls.find? fun pending => pending.call == call) = some pending)
    (test : Parcel State → Bool) :
    ((restage calls call stage).flatMap fun pending => pending.stage.held).countP test =
      ((calls.filter fun pending => pending.call != call).flatMap
        fun pending => pending.stage.held).countP test + stage.held.countP test := by
  have own : (restage calls call stage).find? (fun pending => pending.call == call) =
      some { pending with stage } := by
    have same : (fun pending : PendingCall State Result => pending.call == call) ∘
        (fun other => if other.call = call then { other with stage } else other) =
          fun pending => pending.call == call := by
      funext other
      by_cases named : other.call = call <;> simp [named]
    have named : pending.call = call := by simpa using List.find?_some found
    rw [restage, List.find?_map, same, found]
    simp [named]
  rw [calls_split _ call, restage_others,
    calls_own _ call _ ((restage_names calls call stage).symm ▸ distinct) own]
  simp

/-! Pieces of calls -/

/-- An indivisible piece of work on the system that leaves the run of the lock's worker alone. -/
structure Piece (before after : System State Result) (action : Option (LockAction State Result))
    (toLock : List (WakeRequest CallId)) (comers : List (EntryRequest State Result))
    (parcels dropped : List (Parcel State)) : Prop where
  clock : after.clock = before.clock
  lock : after.lock = before.lockAfter action
  lockWorker : before.lockWorker.Receives after.lockWorker toLock
  ready : .lock ∈ before.ready → .lock ∈ after.ready
  woken : before.lockWorker.phase = .waiting → toLock ≠ [] → .lock ∈ after.ready
  named : after.Named
  gate : ∀ entry ∈ after.gate, entry ∈ before.gate ∨ entry ∈ comers
  custody : before.Custody after parcels dropped

theorem gate_congr (before after : System State Result) (calls : after.calls = before.calls) :
    after.gate = before.gate := by
  simp [gate, calls]

theorem workerHeld_congr (before after : System State Result)
    (phase : after.lockWorker.phase = before.lockWorker.phase) :
    after.workerHeld = before.workerHeld := by
  simp [workerHeld, phase]

/-- A message adds to those whom a worker keeps. -/
theorem receives_waiters {Run : Type} (before after : Worker Run CallId)
    (sent : List (WakeRequest CallId)) (receives : before.Receives after sent) :
    ∀ waiter ∈ after.waiters,
      waiter ∈ before.waiters ∨ waiter ∈ sent.filterMap WakeRequest.waiter? := by
  intro waiter member
  rw [receives.waiters, List.mem_append] at member
  rcases member with old | new
  · exact .inl old
  · split at new
    · cases new
    · exact .inr new

/-- Work that leaves the calls as they are and adds nobody to those whom the workers keep. -/
theorem named_of_waiters (before after : System State Result) (named : before.Named)
    (calls : after.calls = before.calls)
    (lock : ∀ waiter ∈ after.lockWorker.waiters, waiter ∈ before.lockWorker.waiters)
    (storage : ∀ waiter ∈ after.storageWorker.waiters, waiter ∈ before.storageWorker.waiters) :
    after.Named := by
  constructor
  · rw [calls]
    exact named.distinct
  · intro pending present kept
    exact named.lock pending (calls ▸ present) (lock _ kept)
  · intro pending present kept
    exact named.storage pending (calls ▸ present) (storage _ kept)

/-- A call that has begun under a name that was free. -/
theorem begun_named (before after : System State Result) (call : CallId)
    (request : Request State Result) (named : before.Named) (free : before.isFree call = true)
    (lockWorker : before.lockWorker.Receives after.lockWorker (before.requestMail call request))
    (storageWorker : before.storageWorker.Receives after.storageWorker (storageMail call request))
    (calls : after.calls = before.calls ∨ ∃ stage,
      (before.start call request).2 = .waits stage ∧
      after.calls = before.calls ++ [PendingCall.mk call stage]) : after.Named := by
  simp only [isFree, Bool.and_eq_true, Bool.not_eq_true', List.any_eq_false, beq_iff_eq,
    List.contains_eq_mem, decide_eq_false_iff_not] at free
  obtain ⟨⟨unborne, notLock⟩, notStorage⟩ := free
  have origin : ∀ pending ∈ after.calls, pending ∈ before.calls ∨
      (pending.call = call ∧ (before.start call request).2 = .waits pending.stage) := by
    intro pending present
    rcases calls with same | ⟨stage, waits, same⟩
    · exact .inl (same ▸ present)
    · rw [same, List.mem_append, List.mem_singleton] at present
      rcases present with old | new
      · exact .inl old
      · exact .inr (new ▸ ⟨rfl, waits⟩)
  have flushes : ∀ pending ∈ after.calls,
      (pending.call ∈ (before.requestMail call request).filterMap WakeRequest.waiter? ∨
        pending.call ∈ (storageMail call request).filterMap WakeRequest.waiter?) →
      pending.stage.isFlushing = true := by
    intro pending present kept
    obtain ⟨same, flush⟩ := before.start_waiters call pending.call request kept
    rcases origin pending present with old | ⟨_, waits⟩
    · exact absurd same (unborne pending old)
    · rw [waits] at flush
      exact flush
  constructor
  · rcases calls with same | ⟨stage, _, same⟩
    · rw [same]
      exact named.distinct
    · rw [same, List.map_append, List.map_singleton, ← List.concat_eq_append, List.nodup_concat]
      refine ⟨?_, named.distinct⟩
      intro borne
      obtain ⟨pending, present, same⟩ := List.mem_map.mp borne
      exact unborne pending present same
  · intro pending present kept
    rcases receives_waiters _ _ _ lockWorker _ kept with old | new
    · rcases origin pending present with there | ⟨same, _⟩
      · exact named.lock pending there old
      · exact absurd (same ▸ old) notLock
    · exact flushes pending present (.inl new)
  · intro pending present kept
    rcases receives_waiters _ _ _ storageWorker _ kept with old | new
    · rcases origin pending present with there | ⟨same, _⟩
      · exact named.storage pending there old
      · exact absurd (same ▸ old) notStorage
    · exact flushes pending present (.inr new)

/-- A call gives up what it held, and what it got from the lock, and keeps what it cannot hand over
yet. -/
theorem exchange_custody (before after : System State Result)
    (delivered taken left parcels : List (Parcel State))
    (handed : after.handed = delivered ++ before.handed)
    (phase : after.lockWorker.phase = before.lockWorker.phase)
    (perm : (delivered ++ left).Perm (taken ++ parcels))
    (calls : ∀ test, after.callsHeld.countP test + taken.countP test =
      before.callsHeld.countP test + left.countP test) : before.Custody after parcels [] := by
  intro test
  have exchanged := perm.countP_eq test
  have kept := calls test
  have worker := workerHeld_congr before after phase
  simp only [held, worker, handed, List.countP_append, List.countP_nil] at exchanged ⊢
  omega

def comers : Request State Result → List (EntryRequest State Result)
  | .enter entry => [entry]
  | _ => []

theorem spawn_piece (system : System State Result) (call : CallId)
    (request : Request State Result) (named : system.Named) (free : system.isFree call = true) :
    system.Piece (system.spawn call request) (system.requestAction? request)
      (system.requestMail call request) (comers request) (system.requestParcels request) [] := by
  obtain ⟨delivered, stretch, perm⟩ := system.start_does call request
  have comes := system.start_entering? call request
  cases progress : system.start call request with
  | mk started outcome =>
      rw [progress] at stretch perm comes
      have calls : started.calls = system.calls := stretch.calls
      cases outcome with
      | answered answer =>
          have same : system.spawn call request =
              started.note (.answered started.clock call answer) := by
            simp [spawn, begin, progress]
          rw [same]
          constructor
          · exact stretch.clock
          · exact stretch.lock
          · exact stretch.lockWorker
          · exact stretch.ready .lock
          · exact stretch.woken
          · exact begun_named system _ call request named free stretch.lockWorker
              stretch.storageWorker (.inl calls)
          · exact fun entry waits => .inl (gate_congr system started calls ▸ waits)
          · apply exchange_custody _ _ delivered [] _ _ stretch.handed stretch.lockWorker.phase perm
            intro test
            simp [callsHeld, calls, Progress.held]
      | waits stage =>
          let kept := { started with calls := started.calls ++ [PendingCall.mk call stage] }
          have same : system.spawn call request = kept.wake (.call call) := by
            simp [spawn, begin, progress, kept]
          have woken := kept.wake_stretch (.call call)
          have begun : kept.calls = system.calls ++ [PendingCall.mk call stage] := by
            simp only [kept, calls]
          rw [same]
          constructor
          · exact stretch.clock
          · exact stretch.lock
          · exact stretch.lockWorker
          · exact fun member => woken.ready .lock (stretch.ready .lock member)
          · exact fun waiting sent => woken.ready .lock (stretch.woken waiting sent)
          · exact begun_named system _ call request named free stretch.lockWorker
              stretch.storageWorker (.inr ⟨stage, by rw [progress], begun⟩)
          · intro entry waits
            rw [gate, woken.calls, begun, List.filterMap_append, List.mem_append] at waits
            rcases waits with old | new
            · exact .inl old
            · have entered : stage.entering? = some entry := by simpa using new
              rw [comes entry entered]
              exact .inr List.mem_cons_self
          · apply exchange_custody _ (kept.wake (.call call)) delivered [] stage.held _
              stretch.handed stretch.lockWorker.phase perm
            intro test
            rw [callsHeld, woken.calls, begun]
            simp [callsHeld]

def callsAfter (calls : List (PendingCall State Result)) (call : CallId) :
    Progress State Result → List (PendingCall State Result)
  | .answered _ => calls.filter fun other => other.call != call
  | .waits stage => restage calls call stage

theorem callsAfter_names (calls : List (PendingCall State Result)) (call : CallId)
    (outcome : Progress State Result) :
    ((callsAfter calls call outcome).map fun pending => pending.call).Sublist
      (calls.map fun pending => pending.call) := by
  cases outcome with
  | answered answer => exact List.filter_sublist.map _
  | waits stage =>
      rw [callsAfter, restage_names]

theorem mem_callsAfter (calls : List (PendingCall State Result)) (call : CallId)
    (outcome : Progress State Result) (other : PendingCall State Result)
    (member : other ∈ callsAfter calls call outcome) :
    (other.call = call ∧ outcome = .waits other.stage) ∨ other ∈ calls := by
  cases outcome with
  | answered answer => exact .inr (List.mem_of_mem_filter member)
  | waits stage =>
      rcases mem_restage calls call stage other member with ⟨named, same⟩ | old
      · exact .inl ⟨named, by rw [same]⟩
      · exact .inr old

theorem callsAfter_held (calls : List (PendingCall State Result)) (call : CallId)
    (outcome : Progress State Result) (pending : PendingCall State Result)
    (distinct : (calls.map fun pending => pending.call).Nodup)
    (found : (calls.find? fun pending => pending.call == call) = some pending)
    (test : Parcel State → Bool) :
    ((callsAfter calls call outcome).flatMap fun pending => pending.stage.held).countP test +
        pending.stage.held.countP test =
      (calls.flatMap fun pending => pending.stage.held).countP test +
        outcome.held.countP test := by
  rw [calls_split calls call, calls_own calls call pending distinct found]
  cases outcome with
  | answered answer => simp [callsAfter, Progress.held]
  | waits stage =>
      rw [callsAfter, restage_held calls call stage pending distinct found]
      simp only [Progress.held, List.flatMap_singleton]
      omega

theorem callsAfter_gate (calls : List (PendingCall State Result)) (call : CallId)
    (outcome : Progress State Result) (pending : PendingCall State Result)
    (present : pending ∈ calls)
    (comes : ∀ entry, outcome.entering? = some entry → pending.stage.entering? = some entry)
    (entry : EntryRequest State Result)
    (waits : entry ∈ (callsAfter calls call outcome).filterMap fun pending => pending.stage.entering?) :
    entry ∈ calls.filterMap fun pending => pending.stage.entering? := by
  obtain ⟨other, there, same⟩ := List.mem_filterMap.mp waits
  rcases mem_callsAfter calls call outcome other there with ⟨_, progress⟩ | old
  · subst progress
    exact List.mem_filterMap.mpr ⟨pending, present, comes entry same⟩
  · exact List.mem_filterMap.mpr ⟨other, old, same⟩

/-- A call that waited goes on under its name, or is over. -/
theorem resumed_named (before after : System State Result) (pending : PendingCall State Result)
    (outcome : Progress State Result) (named : before.Named)
    (present : pending ∈ before.calls)
    (flush : pending.stage.isFlushing = true → outcome.IsFlush)
    (lock : ∀ waiter ∈ after.lockWorker.waiters, waiter ∈ before.lockWorker.waiters)
    (storage : ∀ waiter ∈ after.storageWorker.waiters, waiter ∈ before.storageWorker.waiters)
    (calls : after.calls = callsAfter before.calls pending.call outcome) : after.Named := by
  constructor
  · rw [calls]
    exact (callsAfter_names _ _ _).nodup named.distinct
  · intro other there kept
    rcases mem_callsAfter _ _ _ other (calls ▸ there) with ⟨same, waits⟩ | old
    · have progress := flush (named.lock pending present (same ▸ lock _ kept))
      rw [waits] at progress
      exact progress
    · exact named.lock other old (lock _ kept)
  · intro other there kept
    rcases mem_callsAfter _ _ _ other (calls ▸ there) with ⟨same, waits⟩ | old
    · have progress := flush (named.storage pending present (same ▸ storage _ kept))
      rw [waits] at progress
      exact progress
    · exact named.storage other old (storage _ kept)

theorem resume_found (system proceeded : System State Result) (call : CallId)
    (pending : PendingCall State Result) (outcome : Progress State Result)
    (found : system.findCall? call = some pending)
    (progress : system.proceed pending.stage = (proceeded, outcome)) :
    ∃ journal, journal.filterMap JournalEntry.parcel? = proceeded.handed ∧
      noteAnswer call (system.resume call) =
        { proceeded with calls := callsAfter proceeded.calls call outcome, journal } := by
  cases outcome with
  | answered answer =>
      refine ⟨.answered proceeded.clock call answer :: proceeded.journal, rfl, ?_⟩
      simp [resume, found, progress, noteAnswer, note, callsAfter]
  | waits stage =>
      refine ⟨proceeded.journal, rfl, ?_⟩
      simp [resume, found, progress, noteAnswer, callsAfter, restage]

def callAction? (system : System State Result) (call : CallId) : Option (LockAction State Result) :=
  (system.findCall? call).bind fun pending => system.stageAction? pending.stage

theorem resume_piece (system : System State Result) (call : CallId) (named : system.Named) :
    system.Piece (noteAnswer call (system.resume call)) (system.callAction? call)
      (system.wakesOf (system.callAction? call)) [] (system.parcelsOf (system.callAction? call))
      [] := by
  cases found : system.findCall? call with
  | none =>
      have same : noteAnswer call (system.resume call) = system := by
        simp [resume, found, noteAnswer]
      have nothing : system.callAction? call = none := by simp [callAction?, found]
      rw [same, nothing]
      exact ⟨rfl, rfl, system.lockWorker.receives_refl, fun member => member,
        fun _ none => absurd rfl none, named, fun _ waits => .inl waits, system.custody_refl⟩
  | some pending =>
      have own : pending.call = call := by simpa using List.find?_some found
      have present : pending ∈ system.calls := List.mem_of_find?_eq_some found
      have action : system.callAction? call = system.stageAction? pending.stage := by
        simp [callAction?, found]
      obtain ⟨delivered, stretch, perm⟩ := system.proceed_does pending.stage
      have flush := system.proceed_isFlush pending.stage
      cases progress : system.proceed pending.stage with
      | mk proceeded outcome =>
          rw [progress] at stretch perm flush
          have calls : proceeded.calls = system.calls := stretch.calls
          obtain ⟨journal, handed, same⟩ :=
            system.resume_found proceeded call pending outcome found progress
          -- A further piece sends nothing that somebody waits for.
          have lock : ∀ waiter ∈ proceeded.lockWorker.waiters,
              waiter ∈ system.lockWorker.waiters := by
            intro waiter kept
            simpa [wakesOf_waiters] using receives_waiters _ _ _ stretch.lockWorker waiter kept
          have storage : ∀ waiter ∈ proceeded.storageWorker.waiters,
              waiter ∈ system.storageWorker.waiters := by
            intro waiter kept
            simpa using receives_waiters _ _ _ stretch.storageWorker waiter kept
          rw [action, same]
          constructor
          · exact stretch.clock
          · exact stretch.lock
          · exact stretch.lockWorker
          · exact stretch.ready .lock
          · exact stretch.woken
          · refine resumed_named system _ pending outcome named present flush lock storage ?_
            rw [own, calls]
          · intro entry waits
            simp only [gate, calls] at waits ⊢
            have comes := system.proceed_entering? pending.stage
            rw [progress] at comes
            exact .inl (callsAfter_gate _ call outcome pending present comes entry waits)
          · refine exchange_custody _ _ delivered pending.stage.held outcome.held _
              (handed.trans stretch.handed) stretch.lockWorker.phase perm ?_
            intro test
            simp only [callsHeld, calls]
            exact callsAfter_held system.calls call outcome pending named.distinct found test

end System

end WoundWait
