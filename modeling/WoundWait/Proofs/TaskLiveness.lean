import WoundWait.Proofs.TaskTurns

/-!
All tasks of a simulation are where they should be, whatever happens. Whoever has something to do is
ready, and nobody who waits is forgotten; so while the last task has not finished, somebody is ready
or sleeps.
-/

namespace WoundWait

namespace Simulation

variable {Source : Type}

def post (simulation : Simulation Source) (call : CallId) : Post :=
  match simulation.workers[call]? with
  | some worker => worker.view.post
  | none => if call = simulation.mainCall then simulation.mainPost else .rest

structure Lively (simulation : Simulation Source) : Prop where
  wakeful : simulation.system.Wakeful
  fits : ∀ call, (simulation.post call).Fits (simulation.system.stage? call)
  ready : ∀ call, simulation.post call = .turn → .call call ∈ simulation.system.ready
  mainInbox : simulation.mainInbox = none
  planned : ∀ worker ∈ simulation.workers, ∀ attempt, worker.activity.attempt? = some attempt →
    attempt.plan.modes.length = simulation.config.operationsPerTransaction
  draws : ∀ source, (simulation.draw source).1.modes.length =
    simulation.config.operationsPerTransaction
  lasts : 1 ≤ simulation.config.retryBackoff

section

variable {before after : Simulation Source}

theorem post_worker (number : Nat) (worker : SimulationWorker Source)
    (there : before.workers[number]? = some worker) : before.post number = worker.view.post := by
  rw [post, there]

theorem post_main : before.post before.mainCall = before.mainPost := by
  have nobody : before.workers[before.mainCall]? = none := List.getElem?_eq_none (Nat.le_refl _)
  rw [post, nobody]
  exact if_pos rfl

theorem post_nobody (call : CallId) (nobody : before.workers[call]? = none)
    (other : call ≠ before.mainCall) : before.post call = .rest := by
  rw [post, nobody]
  exact if_neg other

/-! Other tasks -/

/-- A turn of a worker's task leaves all others where they are. -/
theorem Lively.aside (lively : before.Lively) (system : LedgerSystem) (wakeful : system.Wakeful)
    (spares : ∀ call, before.system.Spares system call) : { before with system }.Lively :=
  ⟨wakeful, fun call => (spares call).fits (lively.fits call),
    fun call turn => (spares call).ready (lively.ready call turn), lively.mainInbox, lively.planned,
    lively.draws, lively.lasts⟩

def readied (simulation : Simulation Source) (ready : List Task) : Simulation Source :=
  { simulation with system := { simulation.system with ready } }

/-- Whoever goes on waiting need not be ready. -/
theorem Lively.rests (lively : before.Lively) (call : CallId) (waits : before.post call ≠ .turn)
    (unanswered : before.system.Unanswered call) (ready : List Task)
    (kept : ∀ task ∈ before.system.ready, task ≠ .call call → task ∈ ready) :
    (before.readied ready).Lively := by
  refine ⟨lively.wakeful.rests call unanswered ready kept, lively.fits, ?_, lively.mainInbox,
    lively.planned, lively.draws, lively.lasts⟩
  intro other turn
  refine kept _ (lively.ready other turn) ?_
  rintro ⟨⟩
  exact waits turn

/-! A worker's move -/

theorem mainPost_joining (joining : before.main = .joining) :
    before.mainPost = .rest ∨ (before.mainPost = .turn ∧ before.allFinished = true) := by
  rw [mainPost, joining]
  by_cases closed : before.allFinished = true
  · exact .inr ⟨if_pos closed, closed⟩
  · exact .inl (if_neg closed)

theorem mainPost_same (main : after.main = before.main) (apart : before.main ≠ .joining) :
    after.mainPost = before.mainPost := by
  rw [mainPost, mainPost, main]
  cases activity : before.main with
  | joining => exact absurd activity apart
  | _ => rfl

section

variable {number : Nat} {worker : SimulationWorker Source} {move : Move Source}

theorem Carries.turned
    (carries : ((before.without (.call number)).cleared number).Carries after number move)
    (lively : before.Lively) (responsive : before.system.Responsive)
    (distinct : before.system.lock.HasDistinctNames) (ends : before.system.Ends number) :
    ∃ action wait, (before.without (.call number)).system.Errand after.system number action wait 3 ∧
      after.system.Wakeful ∧ after.system.lock.options = before.system.lock.options ∧
      ∀ other ≠ number, before.system.Spares after.system other := by
  obtain ⟨action, wait, errand⟩ := carries.errand
  have whole := System.Errand.recalled errand
  have erased := (List.erase_sublist (a := Task.call number) (l := before.system.ready)).length_le
  have since : before.system.Errand after.system number action wait 3 :=
    System.Errand.since _ (fun task there foreign => before.system.resumed_ready _ task foreign there)
      erased whole
  refine ⟨action, wait, whole, since.wakeful responsive distinct ends.free lively.wakeful, ?_, since.spares⟩
  rw [since.lock]
  exact before.system.lockAfter_options action

/-- Only the last task looks at whether all workers have finished. -/
theorem Carries.posted {taken : Simulation Source} (carries : taken.Carries after number move)
    (workers : taken.workers = before.workers) (main : taken.main = before.main) (other : CallId)
    (foreign : other ≠ number) :
    (after.post other = before.post other) ∨
      (other = before.mainCall ∧ before.main = .joining ∧ after.main = .joining) := by
  obtain ⟨new, _, set, _⟩ := carries.worker
  rw [workers] at set
  have same : after.workers[other]? = before.workers[other]? := by
    rw [set, List.getElem?_set_ne (Ne.symm foreign)]
  have mainCall : after.mainCall = before.mainCall := by
    rw [mainCall, mainCall, set, List.length_set]
  have main' : after.main = before.main := carries.main.trans main
  unfold post
  rw [same, mainCall]
  cases before.workers[other]? with
  | some worker => exact .inl rfl
  | none =>
      by_cases last : other = before.mainCall
      · by_cases joining : before.main = .joining
        · exact .inr ⟨last, joining, main'.trans joining⟩
        · simp only [last, ↓reduceIte, mainPost_same main' joining, true_or]
      · simp only [last, ↓reduceIte, true_or]

/-- Whoever did not move is where it should be; the last task may have its turn now. -/
theorem Carries.stays
    (carries : ((before.without (.call number)).cleared number).Carries after number move)
    (lively : before.Lively) (there : before.workers[number]? = some worker) (call : CallId)
    (other : call ≠ number) (spares : before.system.Spares after.system call) :
    (after.post call).Fits (after.system.stage? call) ∧
      (after.post call = .turn → .call call ∈ after.system.ready) := by
  have kept := spares.fits (lively.fits call)
  have posted : after.post call = before.post call ∨
      (call = before.mainCall ∧ before.main = .joining ∧ after.main = .joining) :=
    carries.posted rfl rfl call other
  rcases posted with same | ⟨rfl, joining, joins⟩
  · rw [same]
    exact ⟨kept, fun turn => spares.ready (lively.ready call turn)⟩
  · obtain ⟨new, activity, set, _⟩ := carries.worker
    have workers : after.workers = before.workers.set number new := set
    have mainCall : after.mainCall = before.mainCall := by
      rw [mainCall, mainCall, workers, List.length_set]
    have post : after.post before.mainCall = after.mainPost := mainCall ▸ post_main
    -- Whether it is its turn or not, the last task is in no call before it begins to wait.
    have idle : after.system.stage? before.mainCall = none := by
      apply kept.idle
      rw [post_main]
      exact (mainPost_joining joining).imp_right And.left
    rw [post, idle]
    rcases mainPost_joining joins with rest | ⟨turn, closed⟩
    · rw [rest]
      exact ⟨.rest, fun turn => by cases turn⟩
    · rw [turn]
      refine ⟨.turn, fun _ => carries.tells ?_⟩
      have inside : number < before.workers.length := (List.getElem?_eq_some_iff.mp there).1
      have finished := List.all_eq_true.mp closed new (by
        rw [workers]
        exact List.mem_set inside new)
      rw [← activity]
      simpa using finished

theorem Carries.lively
    (carries : ((before.without (.call number)).cleared number).Carries after number move)
    (lively : before.Lively) (responsive : before.system.Responsive)
    (distinct : before.system.lock.HasDistinctNames) (ends : before.system.Ends number)
    (there : before.workers[number]? = some worker)
    (within : ((before.without (.call number)).cleared number).Within move
      (before.means worker.activity)) : after.Lively := by
  obtain ⟨action, wait, errand, wakeful, _, spares⟩ := carries.turned lively responsive distinct ends
  have stays (call : CallId) (other : call ≠ number) :=
    carries.stays lively there call other (spares call other)
  obtain ⟨new, activity, set, fits, ready⟩ := carries.worker
  have workers : after.workers = before.workers.set number new := set
  have inside : number < before.workers.length := (List.getElem?_eq_some_iff.mp there).1
  have own : after.post number = new.view.post :=
    post_worker number new (by rw [workers, List.getElem?_set_self inside])
  have config : after.config = before.config := carries.config
  have draw : after.draw = before.draw := carries.draw
  refine ⟨wakeful, ?_, ?_, carries.mainInbox.trans lively.mainInbox, ?_, ?_, ?_⟩
  · intro call
    by_cases mine : call = number
    · subst mine
      rw [own]
      exact fits
    · exact (stays call mine).1
  · intro call turn
    by_cases mine : call = number
    · subst mine
      exact ready (own ▸ turn)
    · exact (stays call mine).2 turn
  · intro other member attempt mine
    rw [workers] at member
    rw [config]
    rcases List.mem_or_eq_of_mem_set member with old | rfl
    · exact lively.planned other old attempt mine
    · exact within.planned attempt (activity ▸ mine)
  · rw [draw, config]
    exact lively.draws
  · rw [config]
    exact lively.lasts

end

/-! The last task's move -/

section

variable {ready : List Task} {main : MainActivity} {request : Option LedgerRequest}

theorem MainCarries.turned
    (carries : ((before.readied ready).cleared before.mainCall).MainCarries after main request)
    (kept : ∀ task ∈ before.system.ready, task ≠ .call before.mainCall → task ∈ ready)
    (shorter : ready.length ≤ before.system.ready.length)
    (lively : before.Lively) (responsive : before.system.Responsive)
    (distinct : before.system.lock.HasDistinctNames) (ends : before.system.Ends before.mainCall) :
    before.system.Errand after.system before.mainCall none
        (request.elim .nothing (System.waitOf before.system.clock)) 1 ∧ after.system.Wakeful := by
  have since : before.system.Errand after.system before.mainCall none
      (request.elim .nothing (System.waitOf before.system.clock)) 1 :=
    System.Errand.since ready kept shorter (System.Errand.recalled carries.errand)
  exact ⟨since, since.wakeful responsive distinct ends.free lively.wakeful⟩

theorem MainCarries.lively
    (carries : ((before.readied ready).cleared before.mainCall).MainCarries after main request)
    (kept : ∀ task ∈ before.system.ready, task ≠ .call before.mainCall → task ∈ ready)
    (shorter : ready.length ≤ before.system.ready.length)
    (lively : before.Lively) (responsive : before.system.Responsive)
    (distinct : before.system.lock.HasDistinctNames) (ends : before.system.Ends before.mainCall) :
    after.Lively := by
  obtain ⟨errand, wakeful⟩ := carries.turned kept shorter lively responsive distinct ends
  have spares := errand.spares
  have workers : after.workers = before.workers := carries.workers
  have config : after.config = before.config := carries.config
  have draw : after.draw = before.draw := carries.draw
  have mainCall : after.mainCall = before.mainCall := congrArg List.length workers
  have own : after.post before.mainCall = after.mainPost := mainCall ▸ post_main
  have posted (call : CallId) (other : call ≠ before.mainCall) : after.post call = before.post call := by
    unfold post
    rw [workers, mainCall, if_neg other, if_neg other]
  refine ⟨wakeful, ?_, ?_, carries.mainInbox, ?_, ?_, ?_⟩
  · intro call
    by_cases mine : call = before.mainCall
    · subst mine
      rw [own]
      exact carries.fits
    · rw [posted call mine]
      exact (spares call mine).fits (lively.fits call)
  · intro call turn
    by_cases mine : call = before.mainCall
    · subst mine
      exact absurd (own ▸ turn) carries.waits
    · exact (spares call mine).ready (lively.ready call (posted call mine ▸ turn))
  · rw [workers, config]
    exact lively.planned
  · rw [draw, config]
    exact lively.draws
  · rw [config]
    exact lively.lasts

end

/-! The clock -/

theorem view_rests (view : WorkerView) (rests : view.post = .rest) : view.activity = .finished := by
  obtain ⟨activity, inbox⟩ := view
  cases activity with
  | finished => rfl
  | _ => cases inbox <;> cases rests

/-- Whoever has something to do, or an answer, is ready; and a worker with nothing due keeps nobody
waiting. -/
theorem Lively.waits (lively : before.Lively) (responsive : before.system.Responsive)
    (idle : before.system.ready = []) (call : CallId) :
    before.post call = .rest ∨
      ∃ due, before.system.stage? call = some (.sleeping due) ∧ before.system.clock < due := by
  have nobody (task : Task) : task ∉ before.system.ready := by simp [idle]
  have fits := lively.fits call
  cases post : before.post call with
  | rest => exact .inl rfl
  | turn => exact absurd (lively.ready call post) (nobody _)
  | run =>
      rw [post] at fits
      generalize stage : before.system.stage? call = place at fits
      cases fits with
      | run answer =>
          cases lively.wakeful.willResume _ (System.stage?_mem stage) with
          | answered _ ready => exact absurd ready (nobody _)
          | asks _ kept =>
              rw [lively.wakeful.lock.nobody responsive.lock (nobody _),
                lively.wakeful.storage.nobody responsive.storage (nobody _)] at kept
              rcases kept with none | none <;> cases none
  | instant =>
      rw [post] at fits
      generalize stage : before.system.stage? call = place at fits
      cases fits with
      | instant due =>
          cases lively.wakeful.willResume _ (System.stage?_mem stage) with
          | sleeps _ _ awake => exact .inr ⟨due, rfl, awake.resolve_left (nobody _)⟩

/-- Nobody who is not ready has missed an instant. -/
theorem Lively.early (lively : before.Lively) (responsive : before.system.Responsive)
    (idle : before.system.ready = []) :
    ∀ timer ∈ before.system.timers, isDue before.system.clock timer.2 = false := by
  have nobody (task : Task) : task ∉ before.system.ready := by simp [idle]
  have wakeful := lively.wakeful
  intro timer there
  rw [System.timers, List.mem_cons, List.mem_cons] at there
  rcases there with rfl | rfl | called
  · have nothingDue := wakeful.storage.awake.resolve_left (nobody _)
    simpa [Worker.timer?, responsive.storage] using nothingDue.early
  · have nothingDue := wakeful.lock.awake.resolve_left (nobody _)
    simpa [System.lockTimer?, Worker.timer?, responsive.lock] using nothingDue.early
  · obtain ⟨pending, present, rfl⟩ := List.mem_map.mp called
    cases wakeful.willResume pending present with
    | asks | answered => rfl
    | sleeps _ due awake =>
        have later := awake.resolve_left (nobody _)
        exact decide_eq_false (Int.not_le_of_gt later)

theorem Lively.timer?_early (lively : before.Lively) (responsive : before.system.Responsive)
    (idle : before.system.ready = []) (due : Instant) (first : before.system.timer? = some due) :
    before.system.clock < due := by
  have undue : isDue before.system.clock before.system.timer? = false := by
    rw [System.timer?, earliest_isDue, List.any_map, List.any_eq_false]
    intro timer there
    simp [lively.early responsive idle timer there]
  rw [first, isDue_some, decide_eq_false_iff_not] at undue
  exact Int.lt_of_not_ge undue

/-- While the last task has not finished and nobody is ready, somebody sleeps. -/
theorem Lively.sleeper (lively : before.Lively) (responsive : before.system.Responsive)
    (idle : before.system.ready = []) (unfinished : ∀ result, before.main ≠ .finished result) :
    ∃ call due, call < before.workers.length + 1 ∧
      before.system.stage? call = some (.sleeping due) ∧ before.system.clock < due := by
  rcases lively.waits responsive idle before.mainCall with rests | ⟨due, sleeps, early⟩
  · rw [post_main, mainPost] at rests
    cases main : before.main with
    | finished result => exact absurd main (unfinished result)
    | settling | pausing | flushing =>
        rw [main] at rests
        cases rests
    | joining =>
        rw [main] at rests
        by_cases closed : before.allFinished = true
        · rw [if_pos closed] at rests
          cases rests
        · obtain ⟨worker, present, busy⟩ : ∃ worker ∈ before.workers, ¬ worker.activity = .finished := by
            simpa [allFinished] using closed
          obtain ⟨number, there⟩ := List.mem_iff_getElem?.mp present
          have inside := (List.getElem?_eq_some_iff.mp there).1
          rcases lively.waits responsive idle number with rests' | ⟨due, sleeps, early⟩
          · rw [post_worker number worker there] at rests'
            exact absurd (view_rests worker.view rests') busy
          · exact ⟨number, due, Nat.lt_succ_of_lt inside, sleeps, early⟩
  · exact ⟨before.mainCall, due, Nat.lt_succ_self _, sleeps, early⟩

theorem advance_lively (lively : before.Lively) (responsive : before.system.Responsive) (target : Instant) :
    (before.advance target).Lively :=
  lively.aside (before.system.advance target) (System.advance_wakeful responsive lively.wakeful target)
    (before.system.advance_spares target)

/-! Any event -/

inductive Happens (before : Simulation Source) : SimulationEvent → Simulation Source → Prop where
  | nothing (task : Task) (unready : task ∉ before.system.ready) : Happens before (.turn task) before
  | lock (ready : .lock ∈ before.system.ready) : Happens before (.turn .lock)
      { before with system := (before.system.resumed .lock).lockTurn }
  | storage (ready : .storage ∈ before.system.ready) : Happens before (.turn .storage)
      { before with system := (before.system.resumed .storage).storageTurn }
  | rests (call : CallId) (ready : .call call ∈ before.system.ready) (waits : before.post call ≠ .turn)
      (unanswered : before.system.Unanswered call) :
      Happens before (.turn (.call call)) (before.without (.call call))
  | moves (number : Nat) (worker : SimulationWorker Source) (move : Move Source)
      (after : Simulation Source) (ready : .call number ∈ before.system.ready)
      (there : before.workers[number]? = some worker) (busy : worker.activity ≠ .finished)
      (within : ((before.without (.call number)).cleared number).Within move
        (before.means worker.activity))
      (carries : ((before.without (.call number)).cleared number).Carries after number move)
      (ends : before.system.Ends number) : Happens before (.turn (.call number)) after
  | mainMoves (number : Nat) (main : MainActivity) (request : Option LedgerRequest)
      (after : Simulation Source) (ready : .call number ∈ before.system.ready)
      (nobody : before.workers[number]? = none)
      (moves : (before.without (.call number)).MainMoves before.main main request)
      (carries : ((before.without (.call number)).cleared before.mainCall).MainCarries after main
        request)
      (ends : before.system.Ends before.mainCall) : Happens before (.turn (.call number)) after
  | passes (target : Instant) : Happens before (.pass target) (before.advance target)

section

variable {counted : List TransactionId}

theorem worker_happens (keeps : before.Keeps counted) (lively : before.Lively) (number : Nat)
    (ready : .call number ∈ before.system.ready) (worker : SimulationWorker Source)
    (there : before.workers[number]? = some worker) :
    before.Happens (.turn (.call number)) (before.step (.turn (.call number))) := by
  let taken := before.without (.call number)
  have present : worker.view ∈ before.pool.views := List.mem_map_of_mem (List.mem_of_getElem? there)
  have fits := lively.fits number
  rw [post_worker number worker there] at fits
  have turns : taken.WorkerTurns number worker (taken.workerTurn number worker) :=
    workerTurn_turns (without_responsive keeps.orderly.responsive (.call number)) lively.wakeful.distinct
      (fun pending present => (lively.wakeful.willResume pending present).quiet) worker
      (keeps.sound.stands _ present) fits lively.lasts keeps.positive lively.draws
      (lively.planned worker (List.mem_of_getElem? there))
  rw [step_worker number ready worker there]
  change before.Happens _ (taken.workerTurn number worker)
  generalize taken.workerTurn number worker = after at turns
  cases turns with
  | rests waits unanswered =>
      exact .rests number ready (by rwa [post_worker number worker there]) unanswered
  | acts _ move busy within carries ends =>
      exact .moves number worker move after ready there busy within carries ⟨ends.now, ends.free⟩

theorem main_happens (lively : before.Lively) (responsive : before.system.Responsive) (number : Nat)
    (ready : .call number ∈ before.system.ready) (nobody : before.workers[number]? = none) :
    before.Happens (.turn (.call number)) (before.step (.turn (.call number))) := by
  let taken := before.without (.call number)
  have fits := lively.fits before.mainCall
  rw [post_main] at fits
  have turns : taken.MainTurns taken.mainTurn :=
    mainTurn_turns (without_responsive responsive (.call number)) lively.wakeful.distinct
      (fun pending present => (lively.wakeful.willResume pending present).quiet) fits lively.mainInbox
  rw [step_main number ready nobody]
  change before.Happens _ taken.mainTurn
  generalize taken.mainTurn = after at turns
  cases turns with
  | acts _ main request moves carries ends =>
      exact .mainMoves number main request after ready nobody moves carries ⟨ends.now, ends.free⟩
  | rests waits unanswered =>
      by_cases own : number = before.mainCall
      · subst own
        exact .rests _ ready (post_main ▸ waits) unanswered
      · have post := post_nobody number nobody own
        have idle := (lively.fits number).idle (.inl post)
        exact .rests number ready (Post.ne_turn post) (System.unanswered_of_idle idle)

theorem step_happens (keeps : before.Keeps counted) (lively : before.Lively) (event : SimulationEvent) :
    before.Happens event (before.step event) := by
  cases event with
  | pass target => exact .passes target
  | turn task =>
      by_cases ready : task ∈ before.system.ready
      · cases task with
        | lock =>
            rw [step_lock ready]
            exact .lock ready
        | storage =>
            rw [step_storage ready]
            exact .storage ready
        | call number =>
            cases there : before.workers[number]? with
            | some worker => exact worker_happens keeps lively number ready worker there
            | none => exact main_happens lively keeps.orderly.responsive number ready there
      · rw [step_unready task ready]
        exact .nothing task ready

end

/-- A task takes its turn. That of a call which nobody makes is a turn of the last task. -/
theorem without_kept (call : CallId) : ∀ task ∈ before.system.ready, task ≠ .call call →
    task ∈ (before.without (.call call)).system.ready :=
  fun task there foreign => before.system.resumed_ready _ task foreign there

theorem Lively.aside_main (lively : before.Lively) (number : Nat)
    (nobody : before.workers[number]? = none) (other : number ≠ before.mainCall) :
    (before.without (.call number)).Lively := by
  have post := post_nobody number nobody other
  exact lively.rests number (Post.ne_turn post)
    (System.unanswered_of_idle ((lively.fits number).idle (.inl post))) _ (without_kept number)

/-- Whatever happens next, all tasks are where they should be. -/
theorem Happens.lively {event : SimulationEvent} (happens : before.Happens event after)
    (lively : before.Lively) (responsive : before.system.Responsive)
    (distinct : before.system.lock.HasDistinctNames) : after.Lively := by
  cases happens with
  | nothing => exact lively
  | lock ready =>
      exact lively.aside _ (System.lockTurn_wakeful responsive distinct lively.wakeful)
        (System.lockTurn_spares responsive lively.wakeful)
  | storage ready =>
      exact lively.aside _ (System.storageTurn_wakeful responsive lively.wakeful)
        (System.storageTurn_spares responsive lively.wakeful)
  | rests call ready waits unanswered => exact lively.rests call waits unanswered _ (without_kept call)
  | moves number worker move _ ready there busy within carries ends =>
      exact carries.lively lively responsive distinct ends there within
  | mainMoves number main request _ ready nobody moves carries ends =>
      by_cases own : number = before.mainCall
      · subst own
        exact carries.lively (without_kept _) List.erase_sublist.length_le lively responsive distinct ends
      · let taken := before.without (.call number)
        have carries' : ((taken.readied taken.system.ready).cleared taken.mainCall).MainCarries after main
            request := carries
        exact carries'.lively (fun _ there _ => there) (Nat.le_refl _)
          (lively.aside_main number nobody own) (without_responsive responsive _) distinct
          ⟨ends.now, ends.free⟩
  | passes target => exact advance_lively lively responsive target

end

end Simulation

end WoundWait
