import WoundWait.Proofs.RecordBalance

/-!
The accounts of a whole simulation. To the workers, whatever happens is a move of one of them, a
look of the lock's worker, or nothing. When all of them have finished and the lock is empty, the
accounts are closed.
-/

namespace WoundWait

variable {State Result : Type}

structure Lock.Releases (lock after : Lock State) (left : List TransactionId) : Prop where
  once : left.Nodup
  ready : ∀ transaction ∈ left, ∃ member ∈ lock.members,
    member.transaction = transaction ∧ member.role.isExitReady = true
  gone : ∀ transaction ∈ left, after.Absent transaction

theorem Lock.tick_releases (lock : Lock State) (distinct : lock.HasDistinctNames)
    (clock : Instant) :
    lock.Releases (lock.perform clock (.tick : LockAction State Result))
      (((lock.handsOver clock (.tick : LockAction State Result)).filter fun parcel =>
        parcel.1 == .commit).map fun parcel => parcel.2.transaction) := by
  have looks := lock.tick_looks clock
  simp only [Lock.perform, Lock.handsOver]
  generalize (lock.tick clock).1 = decision at looks ⊢
  generalize (lock.tick clock).2 = after at looks ⊢
  cases looks with
  | exit somebody ready =>
      have order := lock.remaining.mergeSort_perm TransactionRecord.commitsBefore
      have names : (((lock.remaining.mergeSort TransactionRecord.commitsBefore).map fun record =>
          (Outcome.commit, record)).filter fun parcel => parcel.1 == .commit).map
            (fun parcel => parcel.2.transaction) =
          (lock.remaining.mergeSort TransactionRecord.commitsBefore).map
            fun record => record.transaction := by
        simp [List.filter_map, Function.comp_def]
      rw [names]
      constructor
      · rw [(order.map _).nodup_iff]
        exact (List.filter_sublist.map _).nodup distinct
      · intro transaction left
        obtain ⟨record, taken, named⟩ := List.mem_map.mp left
        have stays := order.subset taken
        exact ⟨record, List.mem_of_mem_filter stays, named, ready record stays⟩
      · intro transaction _ member present
        cases present
  | broken =>
      have nobody : ((lock.remaining.mergeSort TransactionRecord.agesBefore).map fun record =>
          (Outcome.abort .brokenLock, record)).filter (fun parcel => parcel.1 == .commit) = [] := by
        simp
      rw [nobody]
      exact ⟨List.nodup_nil, by simp, by simp⟩
  | empty | waiting | untimed => exact ⟨List.nodup_nil, by simp, by simp⟩

theorem Lock.tick_subset (lock : Lock State) (clock : Instant) :
    ∀ member ∈ (lock.perform clock (.tick : LockAction State Result)).members, member ∈ lock.members := by
  intro member present
  exact lock.perform_others clock .tick member present (by simp [LockAction.subject?])

namespace WorkerPool

structure Looks (pool after : WorkerPool) (clock : Instant) : Prop where
  config : after.config = pool.config
  views : after.views = pool.views
  begun : after.begun = pool.begun
  tally : after.tally = pool.tally
  lock : after.lock = pool.lock.perform clock (.tick : LedgerAction)
  handed : ∃ delivered, after.handed = delivered ++ pool.handed ∧
    delivered.Perm (pool.lock.handsOver clock (.tick : LedgerAction))
  alone : ∀ view ∈ pool.views, view.isRefused = false

section

variable {pool after : WorkerPool} {counted : List TransactionId} {clock : Instant}

theorem Looks.releases (looks : pool.Looks after clock) (sound : pool.Sound counted) :
    ∃ left, after.committed = left ++ pool.committed ∧ pool.lock.Releases after.lock left := by
  obtain ⟨delivered, handed, perm⟩ := looks.handed
  have commits := (perm.filter fun parcel => parcel.1 == .commit).map
    fun parcel => parcel.2.transaction
  obtain ⟨once, ready, gone⟩ :
      pool.lock.Releases (pool.lock.perform clock (.tick : LedgerAction)) _ :=
    pool.lock.tick_releases sound.kept.distinct clock
  refine ⟨_, by rw [WorkerPool.committed, handed, List.filter_append, List.map_append]; rfl,
    commits.nodup_iff.mpr once, ?_, ?_⟩
  · exact fun transaction left => ready transaction (commits.subset left)
  · rw [looks.lock]
    exact fun transaction left => gone transaction (commits.subset left)

theorem Looks.subset (looks : pool.Looks after clock) :
    ∀ member ∈ after.lock.members, member ∈ pool.lock.members := by
  rw [looks.lock]
  exact pool.lock.tick_subset clock

theorem Looks.sound (looks : pool.Looks after clock) (sound : pool.Sound counted) :
    after.Sound counted := by
  obtain ⟨left, committed, releases⟩ := looks.releases sound
  have used {transaction : TransactionId} (before : pool.Used transaction) :
      after.Used transaction := before.later looks.config (Nat.le_of_eq looks.begun.symm)
  constructor
  · rw [looks.lock]
    exact pool.lock.perform_wellKept clock .tick sound.kept
  · intro view present
    rw [looks.views] at present
    exact (sound.stands view present).lasts (looks.alone view present)
      fun member resident _ => looks.subset member resident
  · intro view present attempt mine
    rw [looks.views] at present
    exact (sound.fits view present attempt mine).later looks.config
      (Nat.le_of_eq looks.begun.symm)
  · rw [looks.views]
    exact sound.apart
  · exact fun member resident => used (sound.used member (looks.subset member resident))
  · exact fun member resident => sound.unaborted member (looks.subset member resident)
  · rw [looks.views]
    exact fun member resident => sound.owned member (looks.subset member resident)
  · rw [committed, List.nodup_append]
    refine ⟨releases.once, sound.once, ?_⟩
    rintro transaction leaves _ before rfl
    obtain ⟨member, resident, named, _⟩ := releases.ready transaction leaves
    exact sound.gone transaction before member resident named
  · intro transaction gone
    rw [committed, List.mem_append] at gone
    rcases gone with leaves | before
    · exact releases.gone transaction leaves
    · exact fun member resident => sound.gone transaction before member
        (looks.subset member resident)
  · intro transaction gone
    rw [committed, List.mem_append] at gone
    rw [looks.views]
    rcases gone with leaves | before
    · obtain ⟨member, resident, named, ready⟩ := releases.ready transaction leaves
      exact .inr (named ▸ sound.owned member resident ready)
    · exact sound.awaited transaction before
  · exact sound.countedOnce
  · intro transaction done
    rw [committed]
    exact List.mem_append_right left (sound.booked transaction done)
  · rw [looks.views]
    exact sound.settled
  · exact fun transaction done => used (sound.reached transaction done)

theorem Looks.total (looks : pool.Looks after clock) (weight : WorkerView → Nat) :
    after.total weight = pool.total weight := by
  rw [WorkerPool.total, WorkerPool.total, looks.views]

theorem Looks.balanced (looks : pool.Looks after clock) (sound : pool.Sound counted)
    (balanced : pool.Balanced counted) : after.Balanced counted := by
  have ended : after.ended = pool.ended := by rw [WorkerPool.ended, WorkerPool.ended, looks.tally]
  constructor
  · obtain ⟨delivered, handed, perm⟩ := looks.handed
    have lengths := pool.lock.perform_length sound.kept.distinct clock (.tick : LedgerAction)
    have nobody : pool.lock.admits clock (.tick : LedgerAction) = [] := rfl
    have heard : pool.lock.silences (.tick : LedgerAction) = [] := by
      rw [Lock.silences, List.filter_eq_nil_iff]
      exact fun member resident => by simpa using sound.unaborted member resident
    have before := balanced.records
    rw [nobody, heard, ← perm.length_eq, ← looks.lock] at lengths
    rw [looks.tally, looks.total, handed, List.length_append]
    simp only [List.length_nil] at lengths
    omega
  · rw [looks.tally]
    exact balanced.counted
  · rw [looks.tally]
    exact balanced.valid
  · rw [looks.tally, looks.total]
    exact balanced.restarts
  · rw [ended, looks.total, looks.begun, looks.config]
    exact balanced.ended
  · rw [looks.views, looks.begun, looks.config]
    exact balanced.exhausted
  · rw [looks.tally, looks.total, looks.config]
    exact balanced.lower
  · rw [looks.tally, looks.total, looks.config, ended]
    exact balanced.upper

end

inductive PoolStep (pool : WorkerPool) (clock : Instant) : WorkerPool → List TransactionId → Prop where
  | rests : PoolStep pool clock pool []
  | turns (after : WorkerPool) (number : Nat) (view view' : WorkerView) (action : Option LedgerAction)
      (turns : pool.Turns after clock number view view' action) :
      PoolStep pool clock after (pool.counts after view)
  | looks (after : WorkerPool) (looks : pool.Looks after clock) : PoolStep pool clock after []

section

variable {pool after : WorkerPool} {counted counts : List TransactionId} {clock : Instant}

theorem PoolStep.config (poolStep : pool.PoolStep clock after counts) : after.config = pool.config := by
  cases poolStep with
  | rests => rfl
  | turns _ number view view' action turns => exact turns.config
  | looks _ looks => exact looks.config

theorem PoolStep.views_length (poolStep : pool.PoolStep clock after counts) :
    after.views.length = pool.views.length := by
  cases poolStep with
  | rests => rfl
  | turns _ number view view' action turns => rw [turns.views, List.length_set]
  | looks _ looks => rw [looks.views]

theorem PoolStep.sound (poolStep : pool.PoolStep clock after counts) (sound : pool.Sound counted)
    (limit : pool.config.transactions ≤ 2 ^ 128) (positive : 1 ≤ pool.config.maxAttempts) :
    after.Sound (counted ++ counts) := by
  cases poolStep with
  | rests => rwa [List.append_nil]
  | turns _ number view view' action turns => exact (turns.fares sound limit positive).sound sound
  | looks _ looks =>
      rw [List.append_nil]
      exact looks.sound sound

theorem PoolStep.balanced (poolStep : pool.PoolStep clock after counts) (sound : pool.Sound counted)
    (limit : pool.config.transactions ≤ 2 ^ 128) (balanced : pool.Balanced counted) :
    after.Balanced (counted ++ counts) := by
  cases poolStep with
  | rests => rwa [List.append_nil]
  | turns _ number view view' action turns =>
      exact turns.balanced (turns.balance sound limit balanced) balanced
  | looks _ looks =>
      rw [List.append_nil]
      exact looks.balanced sound balanced

/-! The end -/

def IsOver (pool : WorkerPool) : Prop :=
  ∀ view ∈ pool.views, view.activity = .finished

theorem moves_over {view view' : WorkerView} {tally : Tally} {begun : Nat} {action : Option LedgerAction}
    (moves : pool.Moves clock view view' tally begun action) (closed : view.activity = .finished) :
    view' = view ∧ tally = pool.tally ∧ action = none := by
  cases moves with
  | stays => exact ⟨rfl, rfl, rfl⟩
  | enters _ attempt seen mode rest _ comes => cases comes <;> cases closed
  | breaks _ attempt inbox held => cases held <;> cases closed
  | _ => cases closed

/-- Once all workers have finished, the lock can only lose members. -/
theorem PoolStep.closed (poolStep : pool.PoolStep clock after counts) (closed : pool.IsOver) :
    after.IsOver ∧ after.tally = pool.tally ∧
      (pool.lock.members = [] → after.lock.members = [] ∧ after.handed = pool.handed) := by
  cases poolStep with
  | rests => exact ⟨closed, rfl, fun empty => ⟨empty, rfl⟩⟩
  | turns _ number view view' action turns =>
      obtain ⟨stays, tally, nothing⟩ :=
        moves_over turns.moves (closed view (List.mem_of_getElem? turns.there))
      subst stays nothing
      obtain ⟨delivered, handed, perm⟩ := turns.handed
      have none : delivered = [] := List.perm_nil.mp perm
      have lock : after.lock = pool.lock := turns.lock
      refine ⟨?_, tally, fun empty => ⟨lock ▸ empty, by rw [handed, none]; rfl⟩⟩
      intro other present
      rw [turns.views] at present
      rcases mem_set_cases _ _ _ _ present with rfl | ⟨place, _, there⟩
      · exact closed _ (List.mem_of_getElem? turns.there)
      · exact closed other (List.mem_of_getElem? there)
  | looks _ looks =>
      refine ⟨fun view present => closed view (looks.views ▸ present), looks.tally, ?_⟩
      intro empty
      obtain ⟨delivered, handed, perm⟩ := looks.handed
      have nobody : pool.lock.remaining = [] := by simp [Lock.remaining, empty]
      have idle : pool.lock.handsOver clock (.tick : LedgerAction) = [] := by
        have decides := pool.lock.tick_looks clock
        simp only [Lock.handsOver]
        generalize (pool.lock.tick clock).1 = decision at decides ⊢
        generalize (pool.lock.tick clock).2 = left at decides
        cases decides with
        | empty | waiting | untimed => rfl
        | exit | broken => simp [nobody]
      rw [idle] at perm
      refine ⟨List.eq_nil_iff_forall_not_mem.mpr fun member present => ?_, ?_⟩
      · simpa [empty] using looks.subset member present
      · rw [handed, List.perm_nil.mp perm, List.nil_append]

inductive Concludes (pool : WorkerPool) : MainActivity → Prop where
  | joining : Concludes pool .joining
  | settling (deadline : Instant) (closed : pool.IsOver) : Concludes pool (.settling deadline)
  | pausing (deadline : Instant) (closed : pool.IsOver) : Concludes pool (.pausing deadline)
  | flushing (closed : pool.IsOver) (empty : pool.lock.members = []) : Concludes pool .flushing
  | failed (error : SimulationError) : Concludes pool (.finished (.error error))
  | reported (report : SimulationReport) (closed : pool.IsOver) (empty : pool.lock.members = [])
      (tally : report.tally = pool.tally)
      (commits : report.commitsEnqueued = pool.committed.length)
      (aborts : pool.handed.length = pool.committed.length + report.abortsReported) :
      Concludes pool (.finished (.ok report))

theorem PoolStep.concludes {main : MainActivity} (poolStep : pool.PoolStep clock after counts)
    (concludes : pool.Concludes main) : after.Concludes main := by
  cases concludes with
  | joining => exact .joining
  | settling deadline closed => exact .settling deadline (poolStep.closed closed).1
  | pausing deadline closed => exact .pausing deadline (poolStep.closed closed).1
  | flushing closed empty =>
      obtain ⟨still, _, rests⟩ := poolStep.closed closed
      exact .flushing still (rests empty).1
  | failed error => exact .failed error
  | reported report closed empty tally commits aborts =>
      obtain ⟨still, same, rests⟩ := poolStep.closed closed
      obtain ⟨nobody, handed⟩ := rests empty
      have committed : after.committed = pool.committed := by
        rw [WorkerPool.committed, WorkerPool.committed, handed]
      refine .reported report still nobody (tally.trans same.symm) ?_ ?_
      · rw [committed, commits]
      · rw [handed, committed, aborts]

theorem total_over (closed : pool.IsOver) (weight : WorkerView → Nat)
    (nothing : ∀ inbox, weight ⟨.finished, inbox⟩ = 0) : pool.total weight = 0 := by
  apply pool.total_zero weight
  intro view present
  have finished : view = ⟨.finished, view.inbox⟩ := by rw [← closed view present]
  rw [finished]
  exact nothing _

end

end WorkerPool

/-- How the figures of a report hang together. -/
structure SimulationReport.AddsUp (report : SimulationReport) (config : SimulationConfig) : Prop where
  ended : report.tally.committed + report.tally.abandoned + report.tally.gaveUp =
    config.transactions
  commits : report.commitsEnqueued = report.tally.committed
  valid : report.tally.validationFailures = 0
  restarts : report.tally.restarts = report.tally.upgradeConflicts + report.tally.brokenLocks
  aborts : report.abortsReported = report.tally.brokenLocks + report.tally.abandoned
  exhausted : report.tally.gaveUp * config.maxAttempts ≤ report.tally.restarts
  bounded : report.tally.restarts ≤ config.transactions * config.maxAttempts

namespace WorkerPool

variable {pool : WorkerPool} {counted : List TransactionId}

/-- When nobody waits for a commit any more, the queue holds what was counted. -/
theorem Sound.settles (sound : pool.Sound counted) (closed : pool.IsOver) :
    counted.Perm pool.committed := by
  rw [List.perm_ext_iff_of_nodup sound.countedOnce sound.once]
  intro transaction
  refine ⟨sound.booked transaction, fun gone => ?_⟩
  rcases sound.awaited transaction gone with done | ⟨view, present, awaits⟩
  · exact done
  · rw [closed view present] at awaits
    cases awaits

theorem Balanced.closes (balanced : pool.Balanced counted) (sound : pool.Sound counted)
    (somebody : pool.views ≠ []) (report : SimulationReport)
    (concludes : pool.Concludes (.finished (.ok report))) : report.AddsUp pool.config := by
  cases concludes with
  | reported _ closed empty tally commits aborts =>
      have commits' := (sound.settles closed).length_eq
      have records := balanced.records
      have counts := balanced.counted
      have restarts := balanced.restarts
      have ended := balanced.ended
      have lower := balanced.lower
      have upper := balanced.upper
      obtain ⟨view, present⟩ := List.exists_mem_of_ne_nil _ somebody
      have begun := balanced.exhausted view present (closed view present)
      rw [total_over closed WorkerView.holds fun _ => rfl, empty, List.length_nil] at records
      rw [total_over closed WorkerView.yields fun _ => rfl] at restarts
      rw [total_over closed WorkerView.busy fun _ => rfl, Nat.min_eq_right begun, Nat.add_zero] at ended
      rw [total_over closed WorkerView.failures fun _ => rfl] at lower upper
      rw [ended] at upper
      rw [WorkerPool.ended, ← tally] at ended
      rw [← tally] at records counts restarts lower upper
      refine ⟨ended, ?_, tally ▸ balanced.valid, restarts, ?_, lower, upper⟩
      · omega
      · omega

end WorkerPool

end WoundWait
