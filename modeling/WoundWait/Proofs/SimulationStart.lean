import Mathlib.Tactic.Ring
import WoundWait.Proofs.SimulationRank

/-!
A simulation that is about to begin. Its workers have the first turns and the last task waits for
them; what there is to do is within the bound on its steps.
-/

namespace WoundWait

namespace Simulation

variable {Source : Type} (config : SimulationConfig) (options : Options)
  (draw : Source → TransactionPlan × Source) (source : Nat → Source)

theorem new_wakeful : (new config options draw source).system.Wakeful :=
  (System.new_wakeful options).readied _ fun _ there => List.mem_append_left _ there

theorem new_worker? (number : Nat) : (new config options draw source).workers[number]? =
    if number < config.workers then some ⟨source number, .seeking, none⟩ else none := by
  simp only [new, List.getElem?_map]
  split
  · rename_i inside
    rw [List.getElem?_range inside]
    rfl
  · rename_i outside
    rw [List.getElem?_eq_none (by simpa using outside)]
    rfl

theorem new_mainCall : (new config options draw source).mainCall = config.workers := by
  simp [mainCall, new]

theorem new_post (workers : 1 ≤ config.workers) (call : CallId) :
    (new config options draw source).post call = if call < config.workers then .turn else .rest := by
  by_cases inside : call < config.workers
  · have there := new_worker? config options draw source call
    rw [if_pos inside] at there
    rw [if_pos inside, post_worker call _ there]
    rfl
  · have nobody := new_worker? config options draw source call
    rw [if_neg inside] at nobody
    rw [if_neg inside]
    by_cases last : call = (new config options draw source).mainCall
    · have first := new_worker? config options draw source 0
      rw [if_pos (Nat.lt_of_lt_of_le Nat.zero_lt_one workers)] at first
      have busy : ¬ (new config options draw source).allFinished = true := by
        intro closed
        have finished := List.all_eq_true.mp closed _ (List.mem_of_getElem? first)
        cases finished
      rw [last, post_main]
      exact if_neg busy
    · exact post_nobody call nobody last

theorem new_lively (workers : 1 ≤ config.workers) (pauses : 1 ≤ config.retryBackoff)
    (planned : ∀ source, (draw source).1.modes.length = config.operationsPerTransaction) :
    (new config options draw source).Lively := by
  have post := new_post config options draw source workers
  refine ⟨new_wakeful config options draw source, ?_, ?_, rfl, ?_, planned, pauses⟩
  · intro call
    rw [post]
    split
    · exact .turn
    · exact .rest
  · intro call turn
    rw [post] at turn
    split at turn
    · rename_i inside
      exact List.mem_append_right _ (List.mem_map_of_mem (List.mem_range.mpr inside))
    · cases turn
  · intro worker present attempt mine
    obtain ⟨number, _, rfl⟩ := List.mem_map.mp present
    cases mine

/-! What there is to do -/

theorem new_cost (call : CallId) : (new config options draw source).cost call =
    if call < config.workers then 1
    else 3 * (options.lockAcquireTimeout + options.lockTimeout) + max config.retryBackoff 10 + 4 := by
  rw [cost_ended _ call (System.goesOnAt_idle rfl), dues, new_worker?]
  by_cases inside : call < config.workers
  · rw [if_pos inside, if_pos inside]
    rfl
  · rw [if_neg inside, if_neg inside]
    rfl

theorem new_rank : (new config options draw source).rank = config.workers + 2 +
    24 * (config.workers + (3 * (options.lockAcquireTimeout + options.lockTimeout) +
      max config.retryBackoff 10 + 4) + config.queueBudget options.lockTimeout 0) := by
  let start := new config options draw source
  have length : start.workers.length = config.workers := new_mainCall config options draw source
  have load : start.system.load = config.workers + 2 := by
    have ready : start.system.ready.length = config.workers + 2 := by
      simp only [start, new, System.new, List.length_append, List.length_map, List.length_range]
      exact Nat.add_comm 2 _
    have lock : start.system.lockWorker.asks start.system.clock = 0 := rfl
    have storage : start.system.storageWorker.asks start.system.clock = 0 := rfl
    rw [System.load, ready, lock, storage]
    rfl
  have workers : ∑ call ∈ Finset.range config.workers, start.cost call = config.workers := by
    rw [Finset.sum_congr rfl fun call inside => by
      rw [new_cost, if_pos (Finset.mem_range.mp inside)]]
    simp
  have last : start.cost config.workers = 3 * (options.lockAcquireTimeout + options.lockTimeout) +
      max config.retryBackoff 10 + 4 := by
    rw [new_cost, if_neg (Nat.lt_irrefl _)]
  have budget : start.budget = config.workers +
      (3 * (options.lockAcquireTimeout + options.lockTimeout) + max config.retryBackoff 10 + 4) +
      config.queueBudget options.lockTimeout 0 := by
    rw [Simulation.budget, length, Finset.sum_range_succ (fun call : Nat => start.cost call), workers,
      last]
    rfl
  rw [rank, load, budget]

/-- An attempt costs less than three times the calls and waits that the bound provides for, even if
it pauses for a millisecond more. -/
theorem queueBudget_le (pause : Nat) (within : pause ≤ config.retryBackoff + 1) :
    { config with retryBackoff := pause }.queueBudget options.lockTimeout 0 ≤
    3 * ((config.transactions + 1) * (config.workers + 1) * (config.maxAttempts + 1) *
      (config.operationsPerTransaction +
        (options.lockTimeout + options.lockAcquireTimeout + config.retryBackoff + 20))) := by
  let paused := { config with retryBackoff := pause }
  let calls := config.operationsPerTransaction +
    (options.lockTimeout + options.lockAcquireTimeout + config.retryBackoff + 20)
  have attempt : paused.attemptBudget options.lockTimeout ≤ 3 * calls := by
    simp only [SimulationConfig.attemptBudget, paused, calls]
    omega
  have transaction : paused.transactionBudget options.lockTimeout ≤
      (config.maxAttempts + 1) * (3 * calls) := by
    rw [SimulationConfig.transactionBudget, Nat.succ_mul]
    exact Nat.add_le_add (Nat.mul_le_mul_left _ attempt) (by simp only [calls]; omega)
  calc paused.queueBudget options.lockTimeout 0
      = config.transactions * paused.transactionBudget options.lockTimeout := rfl
    _ ≤ (config.transactions + 1) * (config.workers + 1) *
          ((config.maxAttempts + 1) * (3 * calls)) :=
        Nat.mul_le_mul (Nat.le_trans (Nat.le_succ _) (Nat.le_mul_of_pos_right _ (Nat.succ_pos _)))
          transaction
    _ = 3 * ((config.transactions + 1) * (config.workers + 1) * (config.maxAttempts + 1) * calls) := by
        ring

theorem paused_rank_le (pause : Nat) (within : pause ≤ config.retryBackoff + 1) :
    (new { config with retryBackoff := pause } options draw source).rank ≤
      stepBound config options := by
  let paused := { config with retryBackoff := pause }
  let calls := config.operationsPerTransaction +
    (options.lockTimeout + options.lockAcquireTimeout + config.retryBackoff + 20)
  let others := (config.transactions + 1) * (config.maxAttempts + 1)
  let whole := (config.transactions + 1) * (config.workers + 1) * (config.maxAttempts + 1) * calls
  have rank : (new paused options draw source).rank = config.workers + 2 +
      24 * (config.workers + (3 * (options.lockAcquireTimeout + options.lockTimeout) +
        max pause 10 + 4) + paused.queueBudget options.lockTimeout 0) := new_rank _ _ _ _
  have queue : paused.queueBudget options.lockTimeout 0 ≤ 3 * whole :=
    queueBudget_le config options pause within
  have bound : stepBound config options = 1000 * whole := by
    simp only [stepBound, whole, calls]
    ring
  have split : whole = others * ((config.workers + 1) * calls) := by
    simp only [whole, others]
    ring
  have positive : 1 ≤ others := Nat.mul_pos (Nat.succ_pos _) (Nat.succ_pos _)
  have both : (config.workers + 1) * calls ≤ whole := split ▸ Nat.le_mul_of_pos_left _ positive
  have workers : config.workers + 1 ≤ whole :=
    Nat.le_trans (Nat.le_mul_of_pos_right _ (by simp only [calls]; omega)) both
  have calls_le : calls ≤ whole := Nat.le_trans (Nat.le_mul_of_pos_left _ (Nat.succ_pos _)) both
  rw [rank, bound]
  simp only [calls] at calls_le
  omega

theorem new_rank_le : (new config options draw source).rank ≤ stepBound config options :=
  paused_rank_le config options draw source config.retryBackoff (Nat.le_succ _)

end Simulation

end WoundWait
