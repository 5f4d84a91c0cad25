import WoundWait.Proofs.WorkerMoves

/-!
The accounts of a simulation. Every record that was made is in the lock, was handed over, or was
given back; every attempt that failed was refused or lost the lock; and every transaction that was
begun has ended in one of three ways, or a worker is at it.
-/

namespace WoundWait

/-- How many records an action makes and removes. -/
theorem Lock.perform_length {State Result : Type} (lock : Lock State)
    (distinct : lock.HasDistinctNames) (clock : Instant) (action : LockAction State Result) :
    (lock.perform clock action).members.length + (lock.handsOver clock action).length +
      (lock.silences action).length = lock.members.length + (lock.admits clock action).length := by
  have tally := (lock.perform_tally distinct clock action).length_eq
  simp only [Lock.departed, List.length_append, List.length_map] at tally
  omega

namespace WorkerView

def holds (view : WorkerView) : Nat :=
  match view.activity with
  | .entering _ seen _ _ => if view.isRefused = true ∧ seen = .zero then 0 else 1
  | .validating .. | .awaitingExit .. | .polling .. => 1
  | _ => 0

def yields (view : WorkerView) : Nat :=
  match view.activity with
  | .givingWay _ => 1
  | _ => 0

def busy (view : WorkerView) : Nat :=
  if view.activity.attempt?.isSome then 1 else 0

def failures (view : WorkerView) : Nat :=
  match view.activity with
  | .backingOff attempt => attempt.number
  | activity => activity.attempt?.elim 0 fun attempt => attempt.number - 1

end WorkerView

namespace WorkerPool

def total (weight : WorkerView → Nat) (pool : WorkerPool) : Nat :=
  (pool.views.map weight).sum

theorem sum_set (weight : WorkerView → Nat) (views : List WorkerView) (number : Nat)
    (view view' : WorkerView)
    (there : views[number]? = some view) :
    ((views.set number view').map weight).sum + weight view =
      (views.map weight).sum + weight view' := by
  induction views generalizing number with
  | nil => cases there
  | cons first rest ih =>
      cases number with
      | zero =>
          cases Option.some.inj there
          simp only [List.set_cons_zero, List.map_cons, List.sum_cons]
          omega
      | succ before =>
          have step := ih before there
          simp only [List.set_cons_succ, List.map_cons, List.sum_cons]
          omega

theorem total_zero (pool : WorkerPool) (weight : WorkerView → Nat)
    (nothing : ∀ view ∈ pool.views, weight view = 0) : pool.total weight = 0 := by
  have same : pool.views.map weight = List.replicate pool.views.length 0 :=
    List.map_eq_replicate_iff.mpr nothing
  rw [WorkerPool.total, same, List.sum_replicate_nat, Nat.mul_zero]

def ended (pool : WorkerPool) : Nat :=
  pool.tally.committed + pool.tally.abandoned + pool.tally.gaveUp

structure Balanced (pool : WorkerPool) (counted : List TransactionId) : Prop where
  records : pool.lock.members.length + pool.handed.length =
    pool.tally.brokenLocks + pool.tally.abandoned + pool.tally.committed + pool.total WorkerView.holds
  counted : counted.length = pool.tally.committed
  valid : pool.tally.validationFailures = 0
  restarts : pool.tally.restarts + pool.total WorkerView.yields =
    pool.tally.upgradeConflicts + pool.tally.brokenLocks
  ended : pool.ended + pool.total WorkerView.busy = min pool.begun pool.config.transactions
  exhausted : ∀ view ∈ pool.views, view.activity = .finished →
    pool.config.transactions ≤ pool.begun
  lower : pool.tally.gaveUp * pool.config.maxAttempts + pool.total WorkerView.failures ≤
    pool.tally.restarts
  upper : pool.tally.restarts ≤
    pool.ended * pool.config.maxAttempts + pool.total WorkerView.failures

section

variable {pool after : WorkerPool} {counted : List TransactionId} {clock : Instant} {number : Nat}
  {view view' : WorkerView} {action : Option LedgerAction}

theorem Turns.total (turns : pool.Turns after clock number view view' action) (weight : WorkerView → Nat) :
    after.total weight + weight view = pool.total weight + weight view' := by
  rw [WorkerPool.total, WorkerPool.total, turns.views]
  exact sum_set weight pool.views number view view' turns.there

theorem Turns.records (turns : pool.Turns after clock number view view' action)
    (distinct : pool.lock.HasDistinctNames) :
    after.lock.members.length + after.handed.length +
        action.elim 0 (fun done => (pool.lock.silences done).length) =
      pool.lock.members.length + pool.handed.length +
        action.elim 0 (fun done => (pool.lock.admits clock done).length) := by
  obtain ⟨delivered, handed, perm⟩ := turns.handed
  have delivers := perm.length_eq
  rw [turns.lock, handed, List.length_append, delivers]
  cases action with
  | none => simp
  | some done =>
      have lengths := pool.lock.perform_length distinct clock done
      simp only [Option.elim_some]
      omega

structure BalanceStep (pool after : WorkerPool) (view view' : WorkerView) : Prop where
  records : after.lock.members.length + after.handed.length + view.holds +
      (pool.tally.brokenLocks + pool.tally.abandoned + pool.tally.committed) =
    pool.lock.members.length + pool.handed.length + view'.holds +
      (after.tally.brokenLocks + after.tally.abandoned + after.tally.committed)
  counted : (pool.counts after view).length + pool.tally.committed = after.tally.committed
  valid : after.tally.validationFailures = pool.tally.validationFailures
  restarts : after.tally.restarts + view'.yields +
      (pool.tally.upgradeConflicts + pool.tally.brokenLocks) =
    pool.tally.restarts + view.yields + (after.tally.upgradeConflicts + after.tally.brokenLocks)
  ended : after.ended + view'.busy + min pool.begun pool.config.transactions =
    pool.ended + view.busy + min after.begun pool.config.transactions
  exhausted : view'.activity = .finished → pool.config.transactions ≤ after.begun
  lower : after.tally.gaveUp * pool.config.maxAttempts + view'.failures + pool.tally.restarts ≤
    pool.tally.gaveUp * pool.config.maxAttempts + view.failures + after.tally.restarts
  upper : after.tally.restarts + view.failures + pool.ended * pool.config.maxAttempts ≤
    pool.tally.restarts + view'.failures + after.ended * pool.config.maxAttempts

theorem Turns.balanced (turns : pool.Turns after clock number view view' action)
    (balance : pool.BalanceStep after view view') (balanced : pool.Balanced counted) :
    after.Balanced (counted ++ pool.counts after view) := by
  have begun := moves_begun _ _ _ _ _ _ _ turns.moves
  constructor
  · have total := turns.total WorkerView.holds
    have before := balanced.records
    have change := balance.records
    omega
  · have before := balanced.counted
    have change := balance.counted
    rw [List.length_append]
    omega
  · exact balance.valid.trans balanced.valid
  · have total := turns.total WorkerView.yields
    have before := balanced.restarts
    have change := balance.restarts
    omega
  · have total := turns.total WorkerView.busy
    have before := balanced.ended
    have change := balance.ended
    rw [turns.config]
    simp only [WorkerPool.ended] at change before ⊢
    omega
  · intro other present finished
    rw [turns.views] at present
    rw [turns.config]
    rcases mem_set_cases _ _ _ _ present with rfl | ⟨place, _, there⟩
    · exact balance.exhausted finished
    · exact Nat.le_trans (balanced.exhausted other (List.mem_of_getElem? there) finished) begun
  · have total := turns.total WorkerView.failures
    have before := balanced.lower
    have change := balance.lower
    rw [turns.config]
    omega
  · have total := turns.total WorkerView.failures
    have before := balanced.upper
    have change := balance.upper
    rw [turns.config]
    omega

theorem Comes.holds {attempt : Attempt} {seen : AccessCounter} {begun : Nat}
    (comes : pool.Comes view attempt seen begun) :
    view.holds = if seen = .zero then 0 else 1 := by
  cases comes with
  | first | again => rfl
  | next attempt seen mode rest balance =>
      simp [WorkerView.holds, WorkerView.isRefused, seen.record_ne_zero mode]

/-- An entry makes a record, or the worker has one to account for already, unless it was refused. -/
theorem reception_holds (lock : Lock Ledger) (clock : Instant) (attempt : Attempt)
    (seen : AccessCounter) (mode : AccessMode) (rest : List AccessMode)
    (knownOrFresh : lock.KnownOrFresh (attempt.request seen mode)) :
    (WorkerView.mk (.entering attempt seen mode rest)
        (some (lock.reception clock (attempt.request seen mode)))).holds =
      (if seen = .zero then 0 else 1) +
        (lock.admits clock (.enter (attempt.request seen mode))).length := by
  have enters := lock.enter_knownOrFresh clock (attempt.request seen mode) knownOrFresh
  generalize done : lock.enter clock (attempt.request seen mode) = outcome at enters
  cases enters with
  | admitted entry admits knows comes =>
      obtain ⟨balance, result⟩ := attempt.request_operation seen mode
        (lock.entrant clock (attempt.request seen mode))
      have answer : lock.reception clock (attempt.request seen mode) = .entered (.ok balance) := by
        simp [Lock.reception, done, admits.result, result, Except.mapError]
      have made : (lock.admits clock (.enter (attempt.request seen mode))).length =
          if seen = .zero then 1 else 0 := by
        simp only [Lock.admits, done, List.length_map]
        exact comes
      rw [answer, made]
      by_cases first : seen = .zero <;> simp [WorkerView.holds, WorkerView.isRefused, first]
  | refused holder resident =>
      simp [WorkerView.holds, WorkerView.isRefused, Lock.reception, Lock.admits, done]
  | broken counted absent =>
      have some : seen ≠ .zero := counted
      simp [WorkerView.holds, Lock.reception, Lock.admits, done, some]

theorem rollback_silences (lock : Lock Ledger) (transaction : TransactionId)
    (seen : AccessCounter) (resident : lock.Absent transaction ↔ seen = .zero) :
    (lock.silences (.rollback transaction false : LedgerAction)).length =
      if seen = .zero then 0 else 1 := by
  cases found : lock.find? transaction with
  | none =>
      have none := resident.mp ((lock.find?_none transaction).mp found)
      simp [Lock.silences, found, none]
  | some record =>
      obtain ⟨there, named⟩ := lock.find?_some transaction record found
      have some : seen ≠ .zero := fun none => resident.mpr none record there named
      simp [Lock.silences, found, some]

/-! The accounts one by one -/

section

variable {tally : Tally} {begun : Nat}

theorem moves_valid (moves : pool.Moves clock view view' tally begun action) :
    tally.validationFailures = pool.tally.validationFailures := by
  cases moves <;> rfl

theorem moves_restarts (moves : pool.Moves clock view view' tally begun action) :
    tally.restarts + view'.yields + (pool.tally.upgradeConflicts + pool.tally.brokenLocks) =
      pool.tally.restarts + view.yields + (tally.upgradeConflicts + tally.brokenLocks) := by
  cases moves with
  | enters _ attempt seen mode rest _ comes =>
      have before : view.yields = 0 := by cases comes <;> rfl
      rw [before]
      simp [WorkerView.yields]
  | breaks _ attempt inbox held =>
      have before : view.yields = 0 := by cases held <;> rfl
      rw [before]
      simp only [WorkerView.yields]
      omega
  | givesWay =>
      simp only [WorkerView.yields]
      omega
  | _ => rfl

theorem moves_ended (moves : pool.Moves clock view view' tally begun action) :
    tally.committed + tally.abandoned + tally.gaveUp + view'.busy +
        min pool.begun pool.config.transactions =
      pool.ended + view.busy + min begun pool.config.transactions := by
  unfold WorkerPool.ended
  cases moves with
  | enters _ attempt seen mode rest _ comes =>
      cases comes with
      | first =>
          simp only [WorkerView.busy, Activity.attempt?]
          simp
          omega
      | next | again => simp [WorkerView.busy, Activity.attempt?]
  | breaks _ attempt inbox held =>
      have before : view.busy = 1 := by cases held <;> rfl
      rw [before]
      simp [WorkerView.busy, Activity.attempt?]
  | finishes none =>
      simp [WorkerView.busy, Activity.attempt?]
      omega
  | abandons | commits | givesUp =>
      simp [WorkerView.busy, Activity.attempt?]
      omega
  | _ => simp [WorkerView.busy, Activity.attempt?]

theorem moves_exhausted (moves : pool.Moves clock view view' tally begun action)
    (before : view.activity = .finished → pool.config.transactions ≤ pool.begun)
    (finished : view'.activity = .finished) : pool.config.transactions ≤ begun := by
  cases moves with
  | stays => exact before finished
  | finishes none => exact Nat.le_succ_of_le none
  | _ => cases finished

theorem moves_lower (moves : pool.Moves clock view view' tally begun action)
    (started : ∀ attempt, view.activity.attempt? = some attempt → 1 ≤ attempt.number) :
    tally.gaveUp * pool.config.maxAttempts + view'.failures + pool.tally.restarts ≤
      pool.tally.gaveUp * pool.config.maxAttempts + view.failures + tally.restarts := by
  cases moves with
  | enters _ attempt seen mode rest _ comes =>
      cases comes <;> simp [WorkerView.failures, Activity.attempt?]
  | breaks _ attempt inbox held =>
      have before : view.failures = attempt.number - 1 := by cases held <;> rfl
      rw [before]
      simp only [WorkerView.failures]
      omega
  | restarts attempt answer inbox =>
      simp only [WorkerView.failures, Activity.attempt?, Option.elim_some]
      omega
  | givesUp attempt inbox last =>
      simp only [WorkerView.failures, Activity.attempt?, Option.elim_none, Nat.add_mul, Nat.one_mul]
      omega
  | _ => simp [WorkerView.failures, Activity.attempt?]

theorem moves_upper (moves : pool.Moves clock view view' tally begun action)
    (fits : ∀ attempt, view.activity.attempt? = some attempt →
      1 ≤ attempt.number ∧ attempt.number ≤ pool.config.maxAttempts) :
    tally.restarts + view.failures + pool.ended * pool.config.maxAttempts ≤
      pool.tally.restarts + view'.failures +
        (tally.committed + tally.abandoned + tally.gaveUp) * pool.config.maxAttempts := by
  unfold WorkerPool.ended
  cases moves with
  | enters _ attempt seen mode rest _ comes =>
      cases comes <;> simp [WorkerView.failures, Activity.attempt?]
  | breaks _ attempt inbox held =>
      have before : view.failures = attempt.number - 1 := by cases held <;> rfl
      have mine : view.activity.attempt? = some attempt := by cases held <;> rfl
      have bounds := fits attempt mine
      rw [before]
      simp only [WorkerView.failures]
      omega
  | restarts attempt answer inbox =>
      have bounds := fits attempt rfl
      simp only [WorkerView.failures, Activity.attempt?, Option.elim_some]
      omega
  | abandons attempt =>
      have bounds := fits attempt rfl
      simp only [WorkerView.failures, Activity.attempt?, Option.elim_some, Option.elim_none, Nat.add_mul,
        Nat.one_mul]
      omega
  | commits attempt =>
      have bounds := fits attempt rfl
      simp only [WorkerView.failures, Activity.attempt?, Option.elim_some, Option.elim_none, Nat.add_mul,
        Nat.one_mul]
      omega
  | givesUp attempt inbox last =>
      have bounds := fits attempt rfl
      simp only [WorkerView.failures, Activity.attempt?, Option.elim_none, Nat.add_mul, Nat.one_mul]
      omega
  | _ => simp [WorkerView.failures, Activity.attempt?]

theorem Turns.booked (turns : pool.Turns after clock number view view' action)
    (sound : pool.Sound counted) (limit : pool.config.transactions ≤ 2 ^ 128) :
    after.lock.members.length + after.handed.length + view.holds +
        (pool.tally.brokenLocks + pool.tally.abandoned + pool.tally.committed) =
      pool.lock.members.length + pool.handed.length + view'.holds +
        (after.tally.brokenLocks + after.tally.abandoned + after.tally.committed) := by
  have stands := sound.stands view (List.mem_of_getElem? turns.there)
  have records := turns.records sound.kept.distinct
  have moves := turns.moves
  generalize tallied : after.tally = tally at moves
  generalize begins : after.begun = begun at moves
  cases moves with
  | enters _ attempt seen mode rest _ comes =>
      have before := comes.holds
      have now := reception_holds pool.lock clock attempt seen mode rest
        (comes.knownOrFresh sound limit turns.there mode)
      have silent : pool.lock.silences (.enter (attempt.request seen mode)) = [] := rfl
      simp only [Option.elim_some, silent, List.length_nil] at records
      rw [before, now]
      omega
  | givesWay attempt seen mode rest transaction holder answer =>
      cases stands with
      | refused _ _ _ _ _ _ resident =>
          have silences := rollback_silences pool.lock attempt.transaction seen resident
          have nobody : pool.lock.admits clock
              (.rollback attempt.transaction false : LedgerAction) = [] := rfl
          simp only [Option.elim_some, silences, nobody, List.length_nil] at records
          by_cases first : seen = .zero <;>
            simp [first, WorkerView.holds, WorkerView.isRefused] at records ⊢ <;> omega
  | decides attempt seen record role timestamp ready resident =>
      have silent : pool.lock.silences
          (.assignRole attempt.transaction role timestamp : LedgerAction) = [] := rfl
      have nobody : pool.lock.admits clock
          (.assignRole attempt.transaction role timestamp : LedgerAction) = [] := rfl
      simp only [Option.elim_some, silent, nobody, List.length_nil] at records
      simp only [WorkerView.holds]
      omega
  | breaks _ attempt inbox held =>
      have before : view.holds = 1 := by
        cases held with
        | entering => simp [WorkerView.holds, WorkerView.isRefused]
        | validating | awaiting => rfl
      simp only [Option.elim_none] at records
      rw [before]
      simp only [WorkerView.holds]
      omega
  | stays | finishes | abandons | validates | restarts | polls | looks | commits | givesUp =>
      simp only [Option.elim_none] at records
      simp [WorkerView.holds, WorkerView.isRefused]
      try omega

/-- A commit is counted with its transaction. -/
theorem Turns.counts_length (turns : pool.Turns after clock number view view' action) :
    (pool.counts after view).length + pool.tally.committed = after.tally.committed := by
  have moves := turns.moves
  have uncounted (same : after.tally.committed = pool.tally.committed) :
      (pool.counts after view).length + pool.tally.committed = after.tally.committed := by
    rw [counts, same]
    simp
  generalize tallied : after.tally = tally at moves uncounted ⊢
  generalize after.begun = begun at moves
  cases moves with
  | commits attempt deadline left =>
      rw [counts, tallied]
      simp [Activity.transaction?, Activity.attempt?, Nat.add_comm]
  | _ => exact uncounted rfl

theorem Turns.balance (turns : pool.Turns after clock number view view' action)
    (sound : pool.Sound counted) (limit : pool.config.transactions ≤ 2 ^ 128)
    (balanced : pool.Balanced counted) : pool.BalanceStep after view view' := by
  have present := List.mem_of_getElem? turns.there
  have fits : ∀ attempt, view.activity.attempt? = some attempt →
      1 ≤ attempt.number ∧ attempt.number ≤ pool.config.maxAttempts := by
    intro attempt mine
    have own := sound.fits view present attempt mine
    exact ⟨own.started, own.bounded⟩
  exact ⟨turns.booked sound limit, turns.counts_length, moves_valid turns.moves,
    moves_restarts turns.moves, moves_ended turns.moves,
    moves_exhausted turns.moves (balanced.exhausted view present),
    moves_lower turns.moves fun attempt mine => (fits attempt mine).1, moves_upper turns.moves fits⟩

end

end

end WorkerPool

end WoundWait
