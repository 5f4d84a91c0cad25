import Mathlib.Algebra.Order.BigOperators.Group.Finset
import WoundWait.Proofs.TaskLiveness
import WoundWait.Proofs.TurnLoad

/-!
A simulation gets less to do with everything that happens. What is left is the load of the system
and, at a higher rate, the budgets of the workers, of the last task and of the transactions that are
still to be begun.
-/

namespace WoundWait

namespace Simulation

variable {Source : Type}

def dues (simulation : Simulation Source) (call : CallId) (clock : Instant) : Nat :=
  match simulation.workers[call]? with
  | some worker => worker.activity.budget simulation.config simulation.lease clock
  | none => simulation.main.budget simulation.mainPause simulation.settleLimit clock

def cost (simulation : Simulation Source) (call : CallId) : Nat :=
  spanUntil simulation.system.clock (simulation.system.goesOnAt call) +
    simulation.dues call (simulation.system.goesOnAt call)

def budget (simulation : Simulation Source) : Nat :=
  ∑ call ∈ Finset.range (simulation.workers.length + 1), simulation.cost call +
    simulation.config.queueBudget simulation.lease simulation.begun

/-- A move adds less to the load than it takes from the budget. -/
def rank (simulation : Simulation Source) : Nat :=
  simulation.system.load + 24 * simulation.budget

theorem dues_later (simulation : Simulation Source) (call : CallId) (clock later : Instant)
    (passes : clock ≤ later) : simulation.dues call later ≤ simulation.dues call clock := by
  unfold dues
  split
  · exact Activity.budget_later _ _ clock later passes _
  · exact MainActivity.budget_later _ _ clock later passes _

section

variable {before after : Simulation Source}

/-! Other tasks -/

theorem cost_spared (system : LedgerSystem) (call : CallId)
    (spares : before.system.Spares system call) (clock : system.clock = before.system.clock)
    (options : system.lock.options = before.system.lock.options) :
    { before with system }.cost call = before.cost call := by
  have same := spares.goesOnAt clock
  simp only [cost, same, clock, dues, lease, settleLimit, options]
  rfl

theorem rank_aside (system : LedgerSystem) (spares : ∀ call, before.system.Spares system call)
    (clock : system.clock = before.system.clock)
    (options : system.lock.options = before.system.lock.options)
    (less : system.load < before.system.load) : { before with system }.rank < before.rank := by
  have costs : { before with system }.budget = before.budget := by
    have same : { before with system }.cost = before.cost :=
      funext fun call => cost_spared system call (spares call) clock options
    simp only [budget, same, lease, options]
  rw [rank, rank, costs]
  exact Nat.add_lt_add_right less _

/-! Turns -/

theorem without_rank (task : Task) (ready : task ∈ before.system.ready) :
    (before.without task).rank < before.rank := by
  have shorter : (before.without task).system.ready.length < before.system.ready.length := by
    rw [show (before.without task).system.ready = before.system.ready.erase task from rfl,
      List.length_erase_of_mem ready]
    exact Nat.sub_lt (List.length_pos_of_mem ready) Nat.one_pos
  refine Nat.add_lt_add_right ?_ _
  unfold System.load
  exact Nat.add_lt_add_right (Nat.add_lt_add_right (Nat.add_lt_add_right
    (Nat.add_lt_add_right (Nat.add_lt_add_right shorter _) _) _) _) _

theorem budget_moves (actor : Nat) (within : actor < before.workers.length + 1)
    (length : after.workers.length = before.workers.length)
    (others : ∀ call, call ≠ actor → call < before.workers.length + 1 →
      after.cost call = before.cost call)
    (spends : after.cost actor + after.config.queueBudget after.lease after.begun + 1 ≤
      before.cost actor + before.config.queueBudget before.lease before.begun) :
    after.budget + 1 ≤ before.budget := by
  have there := Finset.mem_range.mpr within
  have rest : ∑ call ∈ (Finset.range (before.workers.length + 1)).erase actor, after.cost call =
      ∑ call ∈ (Finset.range (before.workers.length + 1)).erase actor, before.cost call :=
    Finset.sum_congr rfl fun call other => others call (Finset.ne_of_mem_erase other)
      (Finset.mem_range.mp (Finset.mem_of_mem_erase other))
  rw [budget, budget, length, ← Finset.add_sum_erase _ (fun call : Nat => after.cost call) there,
    ← Finset.add_sum_erase _ (fun call : Nat => before.cost call) there, rest]
  omega

theorem cost_ended (simulation : Simulation Source) (call : CallId)
    (now : simulation.system.goesOnAt call = simulation.system.clock) :
    simulation.cost call = simulation.dues call simulation.system.clock := by
  rw [cost, now, spanUntil_self, Nat.zero_add]

/-- A task that has had its turn is where it goes on from; all others are where they were. -/
theorem cost_other {actor : CallId} {action : Option LedgerAction} {wait : System.Wait} {woken : Nat}
    (errand : before.system.Errand after.system actor action wait woken) (call : CallId)
    (other : call ≠ actor) (same : ∀ clock, after.dues call clock = before.dues call clock) :
    after.cost call = before.cost call := by
  rw [cost, cost, (errand.spares call other).goesOnAt errand.clock, errand.clock, same]

/-! Moves -/

theorem Carries.rank {number : Nat} {worker : SimulationWorker Source} {move : Move Source}
    (carries : (before.cleared number).Carries after number move) (responsive : before.system.Responsive)
    (distinct : before.system.lock.HasDistinctNames)
    (now : before.system.goesOnAt number = before.system.clock)
    (there : before.workers[number]? = some worker)
    (within : (before.cleared number).Within move (before.means worker.activity)) :
    after.rank ≤ before.rank := by
  obtain ⟨action, wait, errand⟩ := carries.errand
  have whole : before.system.Errand after.system number action wait 3 := System.Errand.recalled errand
  obtain ⟨new, activity, set, _⟩ := carries.worker
  have workers : after.workers = before.workers.set number new := set
  have inside : number < before.workers.length := (List.getElem?_eq_some_iff.mp there).1
  have config : after.config = before.config := carries.config
  have clock : after.system.clock = before.system.clock := errand.clock
  have options : after.system.lock.options = before.system.lock.options := by
    rw [whole.lock]
    exact before.system.lockAfter_options action
  have lease : after.lease = before.lease := congrArg Options.lockTimeout options
  have limit : after.settleLimit = before.settleLimit := by
    rw [settleLimit, settleLimit, options]
  have load := whole.load responsive distinct
  have less : after.budget + 1 ≤ before.budget := by
    refine budget_moves number (Nat.lt_succ_of_lt inside) (by rw [workers, List.length_set]) ?_ ?_
    · intro call other _
      refine cost_other whole call other fun clock => ?_
      have same : after.workers[call]? = before.workers[call]? := by
        rw [workers, List.getElem?_set_ne (Ne.symm other)]
      have main : after.main = before.main := carries.main
      simp only [dues, same, mainPause, config, lease, limit, main]
    · have view : after.workers[number]? = some new := by
        rw [workers, List.getElem?_set_self inside]
      have resumes : after.system.goesOnAt number = wakesAt before.system.clock move.request :=
        carries.resumes
      rw [before.cost_ended number now, cost, resumes, clock, dues, dues, view, there, config, lease,
        carries.begun]
      simp only [activity]
      exact within.spends
  rw [Simulation.rank, Simulation.rank]
  omega

theorem MainMoves.spends {main main' : MainActivity} {request : Option LedgerRequest}
    (moves : before.MainMoves main main' request) :
    spanUntil before.system.clock (wakesAt before.system.clock request) +
        main'.budget before.mainPause before.settleLimit (wakesAt before.system.clock request) + 1 ≤
      main.budget before.mainPause before.settleLimit before.system.clock := by
  cases moves with
  | joins closed =>
      have polls := pollBudget_le before.mainPause before.settleLimit
      simp only [wakesAt, MainActivity.budget, spanUntil_self, spanUntil_add]
      omega
  | idles | fails | looks | reports =>
      simp only [wakesAt, MainActivity.budget, spanUntil_self]
      omega
  | pauses deadline early =>
      obtain ⟨pause, lasts⟩ := before.mainPause_pos
      have left := spanUntil_pos before.system.clock deadline early
      have polls := pollBudget_pause before.mainPause _ (lasts ▸ Nat.le_add_left 1 pause) left
      simp only [wakesAt, MainActivity.budget, spanUntil_add, spanUntil_sub]
      omega

theorem MainCarries.rank {main : MainActivity} {request : Option LedgerRequest}
    (carries : (before.cleared before.mainCall).MainCarries after main request)
    (responsive : before.system.Responsive) (distinct : before.system.lock.HasDistinctNames)
    (now : before.system.goesOnAt before.mainCall = before.system.clock)
    (moves : before.MainMoves before.main main request) : after.rank ≤ before.rank := by
  have errand := System.Errand.recalled carries.errand
  have workers : after.workers = before.workers := carries.workers
  have config : after.config = before.config := carries.config
  have lock : after.system.lock = before.system.lock := errand.lock
  have lease : after.lease = before.lease := by rw [lease, lease, lock]
  have limit : after.settleLimit = before.settleLimit := by rw [settleLimit, settleLimit, lock]
  have pause : after.mainPause = before.mainPause := by rw [mainPause, mainPause, config]
  have begun : after.begun = before.begun := carries.begun
  have clock : after.system.clock = before.system.clock := errand.clock
  have nobody : before.workers[before.mainCall]? = none := List.getElem?_eq_none (Nat.le_refl _)
  have load : after.system.load ≤ before.system.load + 1 + 17 := errand.load responsive distinct
  have less : after.budget + 1 ≤ before.budget := by
    refine budget_moves before.mainCall (Nat.lt_succ_self _) (by rw [workers]) ?_ ?_
    · intro call other within
      have inside : call < before.workers.length :=
        Nat.lt_of_le_of_ne (Nat.le_of_lt_succ within) other
      have there : before.workers[call]? = some before.workers[call] := List.getElem?_eq_getElem inside
      refine cost_other errand call other fun now => ?_
      simp only [dues, workers, there, config, lease]
    · have resumes : after.system.goesOnAt before.mainCall = wakesAt before.system.clock request :=
        carries.resumes
      have spends := moves.spends
      rw [before.cost_ended before.mainCall now, cost, resumes, clock, dues, dues, workers, nobody, pause,
        limit, carries.main, config, lease, begun]
      simp only
      omega
  rw [Simulation.rank, Simulation.rank]
  omega

/-! The clock -/

theorem advance_goesOnAt (target : Instant) (call : CallId) :
    (before.advance target).system.goesOnAt call =
      max (max before.system.clock target) (before.system.goesOnAt call) := by
  have same : (before.advance target).system.stage? call = before.system.stage? call := rfl
  have clock : (before.advance target).system.clock = max before.system.clock target := rfl
  have passes := Int.le_max_left before.system.clock target
  rw [System.goesOnAt, System.goesOnAt, same, clock]
  cases (before.system.stage? call).bind Stage.timer? with
  | none => rw [Option.getD_none, Option.getD_none, max_self, max_self, max_eq_left passes]
  | some due => rw [Option.getD_some, Option.getD_some, ← max_assoc, max_eq_left passes]

/-- The later the clock, the less is left; and whoever sleeps beyond it has lost time. -/
theorem advance_cost (target : Instant) (call : CallId) :
    (before.advance target).cost call ≤ before.cost call ∧
      ∀ due, before.system.stage? call = some (.sleeping due) → before.system.clock < due →
        before.system.clock < target → (before.advance target).cost call < before.cost call := by
  let later := max before.system.clock target
  have passes : before.system.clock ≤ later := Int.le_max_left _ _
  have dues : before.dues call (max later (before.system.goesOnAt call)) ≤
      before.dues call (before.system.goesOnAt call) := before.dues_later call _ _ (Int.le_max_right _ _)
  have cost : (before.advance target).cost call = spanUntil later (before.system.goesOnAt call) +
      before.dues call (max later (before.system.goesOnAt call)) := by
    rw [cost, advance_goesOnAt, ← spanUntil_max later]
    rfl
  rw [cost]
  refine ⟨Nat.add_le_add (spanUntil_later _ _ _ passes) dues, ?_⟩
  intro due sleeps early beyond
  have now : before.system.goesOnAt call = due := by
    rw [System.goesOnAt, sleeps]
    exact max_eq_right (Int.le_of_lt early)
  have less := spanUntil_less before.system.clock later (before.system.goesOnAt call)
    (Int.lt_of_lt_of_le beyond (Int.le_max_right _ _)) (now ▸ early)
  exact Nat.add_lt_add_of_lt_of_le less dues

theorem advance_rank (lively : before.Lively) (responsive : before.system.Responsive)
    (idle : before.system.ready = []) (unfinished : ∀ result, before.main ≠ .finished result)
    (target : Instant) (passes : before.system.clock < target) :
    (before.advance target).rank < before.rank := by
  obtain ⟨call, due, within, sleeps, early⟩ := lively.sleeper responsive idle unfinished
  have load := System.advance_load lively.wakeful idle target
  have less : (before.advance target).budget < before.budget := by
    refine Nat.add_lt_add_right (Finset.sum_lt_sum (fun call _ => (advance_cost target call).1) ?_) _
    exact ⟨call, Finset.mem_range.mpr within, (advance_cost target call).2 due sleeps early passes⟩
  have same : (before.advance target).system.load = (before.system.advance target).load := rfl
  rw [rank, rank]
  omega

/-! Any event -/

def Proceeds (simulation : Simulation Source) : SimulationEvent → Prop
  | .turn task => task ∈ simulation.system.ready
  | .pass target => simulation.system.clock < target

/-- Whatever happens while the last task has not finished, there is less to do than before. -/
theorem Happens.rank {event : SimulationEvent} (happens : before.Happens event after)
    (lively : before.Lively) (responsive : before.system.Responsive)
    (distinct : before.system.lock.HasDistinctNames) (allows : before.Allows event)
    (unfinished : ∀ result, before.main ≠ .finished result) (proceeds : before.Proceeds event) :
    after.rank < before.rank := by
  have rests (task : Task) : (before.without task).system.Responsive := without_responsive responsive task
  cases happens with
  | nothing task unready => exact absurd proceeds unready
  | lock ready =>
      have complete := (System.lockTurn_complete _ (rests .lock)).1
      have options : (before.system.resumed .lock).lockTurn.lock.options =
          before.system.lock.options := by
        rw [show (before.system.resumed .lock).lockTurn.lock = _ from complete.lock]
        exact System.lockAfter_options _ _
      exact rank_aside _ (System.lockTurn_spares responsive lively.wakeful) complete.clock options
        (System.lockTurn_load responsive ready)
  | storage ready =>
      have complete := (System.storageTurn_complete _ (rests .storage)).1
      have options : (before.system.resumed .storage).storageTurn.lock.options =
          before.system.lock.options := by
        rw [show (before.system.resumed .storage).storageTurn.lock = _ from complete.lock]
        exact System.lockAfter_options _ _
      exact rank_aside _ (System.storageTurn_spares responsive lively.wakeful) complete.clock options
        (System.storageTurn_load responsive ready)
  | rests call ready => exact without_rank _ ready
  | moves number worker move _ ready there busy within carries ends =>
      exact Nat.lt_of_le_of_lt (carries.rank (rests _) distinct ends.now there within)
        (without_rank _ ready)
  | mainMoves number main request _ ready nobody moves carries ends =>
      exact Nat.lt_of_le_of_lt (carries.rank (rests _) distinct ends.now moves) (without_rank _ ready)
  | passes target =>
      exact advance_rank lively responsive (allows.idle target rfl) unfinished target proceeds

end

end Simulation

end WoundWait
