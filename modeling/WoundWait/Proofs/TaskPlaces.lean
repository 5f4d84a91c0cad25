import WoundWait.Proofs.MoveBudget
import WoundWait.Proofs.WorkerRuns

/-!
Where the tasks of a simulation are to be found between their turns. Whoever has something to do is
ready; whoever waits for a run of a worker, or for an instant, waits in a call. A turn of one of
them leaves the others where they are.
-/

namespace WoundWait

variable {State Result : Type}

inductive Post where
  | rest
  | turn
  | run
  | instant

inductive Post.Fits : Post → Option (Stage State Result) → Prop where
  | rest : Fits .rest none
  | turn : Fits .turn none
  | run (answer : Option FlushAnswer) : Fits .run (some (.flushing answer))
  | instant (due : Instant) : Fits .instant (some (.sleeping due))

theorem Post.Fits.idle {post : Post} {stage : Option (Stage State Result)} (fits : post.Fits stage)
    (own : post = .rest ∨ post = .turn) : stage = none := by
  cases fits with
  | rest | turn => rfl
  | run | instant => rcases own with other | other <;> cases other

theorem Post.ne_turn {post : Post} (rests : post = .rest) : post ≠ .turn := by
  intro turn
  cases rests.symm.trans turn

namespace System

def stage? (system : System State Result) (call : CallId) : Option (Stage State Result) :=
  (system.findCall? call).map fun pending => pending.stage

def goesOnAt (system : System State Result) (call : CallId) : Instant :=
  max system.clock (((system.stage? call).bind Stage.timer?).getD system.clock)

structure Spares (before after : System State Result) (call : CallId) : Prop where
  ready : .call call ∈ before.ready → .call call ∈ after.ready
  stage : after.stage? call = before.stage? call ∨ ∃ asked answered,
    before.stage? call = some (.flushing asked) ∧ after.stage? call = some (.flushing answered)

section

variable {before after : System State Result} {call : CallId}

theorem Spares.fits {post : Post} (spares : before.Spares after call)
    (fits : post.Fits (before.stage? call)) : post.Fits (after.stage? call) := by
  rcases spares.stage with same | ⟨asked, answered, old, new⟩
  · rwa [same]
  · rw [old] at fits
    rw [new]
    cases fits with
    | run => exact .run answered

theorem Spares.goesOnAt (spares : before.Spares after call) (clock : after.clock = before.clock) :
    after.goesOnAt call = before.goesOnAt call := by
  rcases spares.stage with same | ⟨asked, answered, old, new⟩
  · rw [System.goesOnAt, System.goesOnAt, same, clock]
  · rw [System.goesOnAt, System.goesOnAt, old, new, clock]
    rfl

end

section

variable {system : System State Result} {call : CallId}

theorem stage?_mem {stage : Stage State Result} (waits : system.stage? call = some stage) :
    ⟨call, stage⟩ ∈ system.calls := by
  obtain ⟨pending, found, rfl⟩ := Option.map_eq_some_iff.mp waits
  obtain ⟨present, rfl⟩ := named?_some system.calls call pending found
  exact present

theorem stage?_of_mem (distinct : (system.calls.map fun pending => pending.call).Nodup)
    {stage : Stage State Result} (present : ⟨call, stage⟩ ∈ system.calls) :
    system.stage? call = some stage := by
  cases found : system.findCall? call with
  | none => exact absurd (beq_self_eq_true call) (List.find?_eq_none.mp found _ present)
  | some pending =>
      obtain ⟨there, named⟩ := named?_some system.calls call pending found
      rw [stage?, found, call_unique distinct pending _ there present named]
      rfl

theorem stage?_none : system.stage? call = none ↔ ∀ pending ∈ system.calls, pending.call ≠ call := by
  simp [stage?, findCall?, List.find?_eq_none]

theorem stage?_clear (idle : system.stage? call = none) :
    system.calls.filter (fun pending => pending.call != call) = system.calls :=
  List.filter_eq_self.mpr fun pending present => bne_iff_ne.mpr (stage?_none.mp idle pending present)

theorem unanswered_of_idle (idle : system.stage? call = none) : system.Unanswered call :=
  fun pending present named => absurd named (stage?_none.mp idle pending present)

theorem goesOnAt_idle (idle : system.stage? call = none) : system.goesOnAt call = system.clock := by
  rw [goesOnAt, idle]
  exact Int.max_self _

/-! Errands -/

variable {before after : System State Result} {action : Option (LockAction State Result)} {wait : Wait}
  {woken : Nat}

theorem Errand.stage?_other (errand : before.Errand after call action wait woken) (other : CallId)
    (foreign : other ≠ call) : after.stage? other = before.stage? other := by
  have passed : (fun pending : PendingCall State Result =>
      decide ((pending.call != call) = true ∧ (pending.call == other) = true)) =
      fun pending => pending.call == other := by
    funext pending
    by_cases named : pending.call = other <;> simp [named, foreign]
  have nothing : List.find? (fun pending => pending.call == other)
      (wait.stage?.map (@PendingCall.mk State Result call)).toList = none := by
    cases wait.stage? <;> simp [Ne.symm foreign]
  rw [stage?, stage?, findCall?, findCall?, errand.calls, List.find?_append, List.find?_filter, passed,
    nothing, Option.or_none]

theorem Errand.stage?_own (errand : before.Errand after call action wait woken) :
    after.stage? call = wait.stage? := by
  have nobody : List.find? (fun pending : PendingCall State Result => pending.call == call)
      (before.calls.filter fun pending => pending.call != call) = none := by
    simp [List.find?_eq_none]
  rw [stage?, findCall?, errand.calls, List.find?_append, nobody, Option.none_or]
  cases wait.stage? <;> simp

theorem Errand.spares (errand : before.Errand after call action wait woken) (other : CallId)
    (foreign : other ≠ call) : before.Spares after other :=
  ⟨fun there => errand.ready _ there (by simpa using foreign), .inl (errand.stage?_other other foreign)⟩

def Wait.post : Wait → Post
  | nothing => .turn
  | look | storage => .run
  | instant _ => .instant

theorem Errand.fits (errand : before.Errand after call action wait woken) :
    wait.post.Fits (after.stage? call) := by
  rw [errand.stage?_own]
  cases wait with
  | nothing => exact .turn
  | look => exact .run none
  | storage => exact .run none
  | instant due => exact .instant due

def Wait.until (clock : Instant) : Wait → Instant
  | instant due => due
  | _ => clock

theorem Errand.goesOnAt (errand : before.Errand after call action wait woken) :
    after.goesOnAt call = wait.until before.clock := by
  rw [System.goesOnAt, errand.stage?_own, errand.clock]
  cases wait with
  | instant due => exact Int.max_eq_right (Int.le_of_lt (errand.later due rfl))
  | _ => exact Int.max_self _

/-! Runs -/

theorem Replies.stage? {waiters : List CallId} (replies : before.Replies after waiters)
    (call : CallId) : after.stage? call =
      if call ∈ waiters then (before.stage? call).map fun _ => .flushing (some (.ok ()))
      else before.stage? call := by
  have same : (fun pending : PendingCall State Result => pending.call == call) ∘ reply waiters =
      fun pending => pending.call == call := by
    funext pending
    simp
  rw [System.stage?, System.stage?, findCall?, findCall?, replies.calls, List.find?_map, same]
  cases found : before.calls.find? fun pending => pending.call == call with
  | none => simp
  | some pending =>
      obtain ⟨_, rfl⟩ := named?_some before.calls call pending found
      simp only [Option.map_some, reply]
      split <;> rfl

theorem Replies.spares {waiters : List CallId} (replies : before.Replies after waiters)
    (distinct : (before.calls.map fun pending => pending.call).Nodup)
    (asked : ∀ waiter ∈ waiters, ⟨waiter, .flushing none⟩ ∈ before.calls) (call : CallId) :
    before.Spares after call := by
  refine ⟨replies.ready _, ?_⟩
  rw [replies.stage? call]
  split
  · rename_i waits
    have old := stage?_of_mem distinct (asked call waits)
    rw [old]
    exact .inr ⟨none, some (.ok ()), rfl, rfl⟩
  · exact .inl rfl

theorem lockTurn_spares (responsive : system.Responsive) (wakeful : system.Wakeful) (call : CallId) :
    system.Spares (system.resumed .lock).lockTurn call := by
  have kept := system.resumed_ready .lock (.call call) (by simp)
  have turns := lockTurn_turns (resumed_responsive responsive .lock)
  generalize (system.resumed .lock).lockTurn = after at turns
  cases turns with
  | idle unasked => exact ⟨kept, .inl rfl⟩
  | looks _ toLock toStorage asked once =>
      have spares := once.replies.spares wakeful.distinct wakeful.lockWaiters call
      exact ⟨fun there => spares.ready (kept there), spares.stage⟩

theorem storageTurn_spares (responsive : system.Responsive) (wakeful : system.Wakeful) (call : CallId) :
    system.Spares (system.resumed .storage).storageTurn call := by
  have kept := system.resumed_ready .storage (.call call) (by simp)
  have turns := storageTurn_turns (resumed_responsive responsive .storage)
  generalize (system.resumed .storage).storageTurn = after at turns
  cases turns with
  | idle unasked => exact ⟨kept, .inl rfl⟩
  | runs calls ready asked replies again short =>
      have spares := replies.spares wakeful.distinct wakeful.storageWaiters call
      exact ⟨fun there => spares.ready (kept there), spares.stage⟩

theorem advance_spares (system : System State Result) (target : Instant) (call : CallId) :
    system.Spares (system.advance target) call :=
  ⟨fun there => (mem_enqueueAll system.ready _ _).mpr (.inl there), .inl rfl⟩

/-! Answers -/

inductive Gets : Post → Answer State Result → Prop where
  | run : Gets .run (.flushed (.ok ()))
  | instant : Gets .instant .slept

structure Ends (system : System State Result) (call : CallId) : Prop where
  now : system.goesOnAt call = system.clock
  free : ⟨call, .flushing none⟩ ∉ system.calls

theorem ends_of_idle (idle : system.stage? call = none) : system.Ends call :=
  ⟨goesOnAt_idle idle, fun present => stage?_none.mp idle _ present rfl⟩

def cleared (system : System State Result) (call : CallId) : System State Result :=
  { system with calls := system.calls.filter fun pending => pending.call != call }

theorem resume_fits (distinct : (system.calls.map fun pending => pending.call).Nodup)
    (quiet : ∀ pending ∈ system.calls, pending.stage.isQuiet = true) {post : Post}
    (fits : post.Fits (system.stage? call)) :
    (system.resume call = (system, none) ∧ system.Unanswered call) ∨
      ∃ answer, system.resume call = (system.cleared call, some answer) ∧ Gets post answer ∧
        system.Ends call := by
  have goesOn := resume_goesOn distinct quiet call
  generalize system.resume call = result at goesOn
  cases goesOn with
  | waits unanswered => exact .inl ⟨rfl, unanswered⟩
  | passes stage answer present yields past =>
      have own := stage?_of_mem distinct present
      have free (asks : ⟨call, .flushing none⟩ ∈ system.calls) : stage = .flushing none :=
        Option.some.inj (own.symm.trans (stage?_of_mem distinct asks))
      rw [own] at fits
      refine .inr ⟨answer, rfl, ?_⟩
      cases fits with
      | run asked =>
          cases yields
          refine ⟨.run, ?_, fun asks => ?_⟩
          · rw [goesOnAt, own]
            exact Int.max_self _
          · cases free asks
      | instant due =>
          cases yields
          refine ⟨.instant, ?_, fun asks => ?_⟩
          · rw [goesOnAt, own]
            exact Int.max_eq_left (past due rfl)
          · cases free asks

end

end System

end WoundWait
