import WoundWait.Proofs.RecordBalance
import WoundWait.Proofs.WorkerRuns

/-!
How much a responsive system still has to do at one instant. Each task that is ready costs a turn,
and so does each call that is going to be; a run is good for a few turns, and a member of the lock
for a run. Every turn of a worker uses some of that up.
-/

namespace WoundWait

variable {State Result : Type}

def Worker.asks {Run Waiter : Type} (worker : Worker Run Waiter) (clock : Instant) : Nat :=
  if (worker.collect clock).pending.now then 1 else 0

namespace Worker

variable {Run Waiter : Type}

theorem asks_le (worker : Worker Run Waiter) (clock : Instant) : worker.asks clock ≤ 1 := by
  unfold asks
  split <;> decide

theorem asks_zero (worker : Worker Run Waiter) (clock : Instant)
    (unasked : worker.requests.now = false) (early : isDue clock worker.requests.deferred = false) :
    worker.asks clock = 0 := by
  have kept : worker.requests.promote clock = worker.requests := by
    rw [PendingWake.promote, early, if_neg Bool.false_ne_true]
  have same : (worker.collect clock).pending = worker.requests := kept
  rw [asks, same, unasked, if_neg Bool.false_ne_true]

theorem asks_of_silence (before after : Worker Run Waiter) (receives : before.Receives after [])
    (clock : Instant) : after.asks clock = before.asks clock := by
  have mailbox : after.mailbox = before.mailbox := by simpa using receives.mailbox
  have same : (after.collect clock).pending = (before.collect clock).pending := by
    simp only [collect, mailbox, receives.pending]
  rw [asks, asks, same]

/-- What has been taken in and is not served yet is not due. -/
theorem collect_early (worker : Worker Run Waiter) (clock : Instant) :
    isDue clock (worker.collect clock).pending.deferred = false := by
  show isDue clock (worker.requests.promote clock).deferred = false
  unfold PendingWake.promote
  split
  · rfl
  · rename_i early
    exact Bool.eq_false_iff.mpr early

end Worker

def Stage.isAsleep (clock : Instant) : Stage State Result → Bool
  | sleeping due => clock < due
  | _ => false

namespace System

def sleepers (system : System State Result) : Nat :=
  system.calls.countP fun pending => pending.stage.isAsleep system.clock

def load (system : System State Result) : Nat :=
  system.ready.length + system.lockWorker.waiters.length + system.storageWorker.waiters.length +
    system.sleepers +
    3 * (system.lockWorker.asks system.clock + system.storageWorker.asks system.clock) +
    8 * system.lock.members.length

end System

namespace Lock

theorem tick_length (lock : Lock State) (clock : Instant) :
    (lock.tick clock).2.members.length ≤ lock.members.length := by
  have kept : lock.remaining.length ≤ lock.members.length := List.length_filter_le _ _
  have looks := lock.tick_looks clock
  generalize (lock.tick clock).1 = decision at looks
  generalize (lock.tick clock).2 = after at looks ⊢
  cases looks with
  | empty | exit | broken => exact Nat.zero_le _
  | waiting group _ present | untimed group present =>
      rw [← lock.members_purgeAborted group present] at kept
      exact kept

/-- An action makes one record at most. -/
theorem perform_length_le (lock : Lock State) (distinct : lock.HasDistinctNames) (clock : Instant)
    (action : LockAction State Result) :
    (lock.perform clock action).members.length ≤ lock.members.length + 1 := by
  have lengths := lock.perform_length distinct clock action
  rcases lock.admits_cases clock action with ⟨nobody, _⟩ | ⟨transaction, somebody, _⟩
  · rw [nobody, List.length_nil] at lengths
    omega
  · rw [somebody, List.length_singleton] at lengths
    omega

end Lock

namespace System

/-- Two kinds that exclude each other are together no more than what includes both. -/
theorem countP_add_le {Item : Type} (items : List Item) (first second both : Item → Bool)
    (counted : ∀ item ∈ items, (first item).toNat + (second item).toNat ≤ (both item).toNat) :
    items.countP first + items.countP second ≤ items.countP both := by
  induction items with
  | nil => exact Nat.le_refl _
  | cons item rest ih =>
      have head := counted item List.mem_cons_self
      have tail := ih fun other later => counted other (List.mem_cons_of_mem item later)
      have step (test : Item → Bool) :
          (item :: rest).countP test = rest.countP test + (test item).toNat := by
        cases holds : test item <;> simp [holds]
      rw [step, step, step]
      omega

section

variable {system : System State Result}

theorem Replies.sleepers {after : System State Result} {waiters : List CallId}
    (replies : system.Replies after waiters) (clock : after.clock = system.clock) :
    after.sleepers ≤ system.sleepers := by
  rw [System.sleepers, replies.calls, List.countP_map, clock]
  refine List.countP_mono_left fun pending _ asleep => ?_
  simp only [Function.comp_apply, reply] at asleep
  split at asleep
  · cases asleep
  · exact asleep

/-- A run leaves something to be asked for only if members have left the lock. -/
theorem LooksOnce.asks {after : System State Result} {toLock toStorage : List (WakeRequest CallId)}
    (once : system.LooksOnce after toLock toStorage) :
    3 * after.lockWorker.asks after.clock + 3 * after.storageWorker.asks after.clock +
        toStorage.length + 8 * after.lock.members.length ≤
      3 * system.storageWorker.asks system.clock + 8 * system.lock.members.length := by
  obtain ⟨worker, receives, ended⟩ := once.lockWorker
  have mailbox : worker.mailbox = toLock := receives.mailbox
  have early := system.lockWorker.collect_early system.clock
  have requests : after.lockWorker.requests = toLock.foldl PendingWake.absorb
      { (system.lockWorker.collect system.clock).pending with now := false, waiters := [] } := by
    rw [ended, ← mailbox]
    exact congrArg (worker.mailbox.foldl PendingWake.absorb ·) receives.pending
  have members : after.lock.members.length ≤ system.lock.members.length := by
    rw [show after.lock = (system.lock.tick system.clock).2 from once.lock]
    exact system.lock.tick_length system.clock
  have lockAsks := after.lockWorker.asks_le system.clock
  have storageAsks := after.storageWorker.asks_le system.clock
  have lookSends := once.lookSends
  have storage := once.storageWorker
  rw [once.clock]
  cases lookSends with
  | idle =>
      have silent := after.lockWorker.asks_zero system.clock (requests ▸ rfl) (requests ▸ early)
      have same := Worker.asks_of_silence _ _ storage system.clock
      rw [silent, same, List.length_nil]
      omega
  | later instant soon =>
      have deferred : isDue system.clock after.lockWorker.requests.deferred = false := by
        rw [requests]
        show isDue system.clock (earlier _ (some instant)) = false
        rw [earlier_isDue, early, isDue_some, decide_eq_false (Int.not_le.mpr soon)]
        rfl
      have silent := after.lockWorker.asks_zero system.clock (requests ▸ rfl) deferred
      have same := Worker.asks_of_silence _ _ storage system.clock
      rw [silent, same, List.length_nil]
      omega
  | broken fewer =>
      have same := Worker.asks_of_silence _ _ storage system.clock
      rw [same, List.length_nil]
      omega
  | exits fewer =>
      rw [List.length_singleton]
      omega

theorem lockTurn_load (responsive : system.Responsive) (ready : .lock ∈ system.ready) :
    (system.resumed .lock).lockTurn.load < system.load := by
  have taken : (system.resumed .lock).ready.length + 1 = system.ready.length :=
    List.length_erase_add_one ready
  have turns := lockTurn_turns (resumed_responsive responsive .lock)
  generalize (system.resumed .lock).lockTurn = after at turns
  cases turns with
  | idle unasked =>
      have silent : (system.lockWorker.collect system.clock).asks system.clock = 0 :=
        Worker.asks_zero _ _ unasked (system.lockWorker.collect_early system.clock)
      have waiters := system.lockWorker.collect_waiters system.clock
      show (system.resumed .lock).ready.length +
        (system.lockWorker.collect system.clock).waiters.length + system.storageWorker.waiters.length +
        system.sleepers + 3 * ((system.lockWorker.collect system.clock).asks system.clock +
          system.storageWorker.asks system.clock) + 8 * system.lock.members.length < system.load
      rw [silent, waiters, load]
      omega
  | looks _ toLock toStorage asked once =>
      have asks : system.lockWorker.asks system.clock = 1 := if_pos asked
      have storageWaiters : after.storageWorker.waiters = system.storageWorker.waiters :=
        once.storageWaiters
      have sleepers : after.sleepers ≤ system.sleepers := once.replies.sleepers once.clock
      have short : after.ready.length ≤ (system.resumed .lock).ready.length +
          system.lockWorker.waiters.length + toStorage.length + 1 := once.short
      have left : 3 * after.lockWorker.asks after.clock + 3 * after.storageWorker.asks after.clock +
          toStorage.length + 8 * after.lock.members.length ≤
          3 * system.storageWorker.asks system.clock + 8 * system.lock.members.length := once.asks
      rw [load, load, once.lockWaiters, storageWaiters, asks, List.length_nil]
      omega

theorem storageTurn_load (responsive : system.Responsive) (ready : .storage ∈ system.ready) :
    (system.resumed .storage).storageTurn.load < system.load := by
  have taken : (system.resumed .storage).ready.length + 1 = system.ready.length :=
    List.length_erase_add_one ready
  have early := system.storageWorker.collect_early system.clock
  have turns := storageTurn_turns (resumed_responsive responsive .storage)
  generalize (system.resumed .storage).storageTurn = after at turns
  cases turns with
  | idle unasked =>
      let worker := system.storageWorker.collect system.clock
      have silent : worker.asks system.clock = 0 := Worker.asks_zero _ _ unasked early
      have waiters : worker.waiters = system.storageWorker.waiters :=
        system.storageWorker.collect_waiters system.clock
      show (system.resumed .storage).ready.length + system.lockWorker.waiters.length +
        worker.waiters.length + system.sleepers +
        3 * (system.lockWorker.asks system.clock + worker.asks system.clock) +
        8 * system.lock.members.length < system.load
      rw [silent, waiters, load]
      omega
  | runs calls ready asked replies again short =>
      let worker := ((system.storageWorker.collect system.clock).start ()).finish
      have silent : worker.asks system.clock = 0 := Worker.asks_zero _ _ rfl early
      have asks : system.storageWorker.asks system.clock = 1 := if_pos asked
      let after := { system.resumed .storage with storageWorker := worker, calls, ready }
      have sleepers : after.sleepers ≤ system.sleepers := replies.sleepers rfl
      have kept : ready.length ≤ (system.resumed .storage).ready.length +
          system.storageWorker.waiters.length + 1 := short
      have nobody : worker.waiters.length = 0 := rfl
      show ready.length + system.lockWorker.waiters.length + worker.waiters.length + after.sleepers +
        3 * (system.lockWorker.asks system.clock + worker.asks system.clock) +
        8 * system.lock.members.length < system.load
      rw [silent, nobody, load, asks]
      omega

/-- A turn for a call adds little to do. -/
theorem Errand.load {before after : System State Result} {call : CallId}
    {action : Option (LockAction State Result)} {wait : Wait} {woken : Nat}
    (errand : before.Errand after call action wait woken) (responsive : before.Responsive)
    (distinct : before.lock.HasDistinctNames) : after.load ≤ before.load + woken + 17 := by
  have members : after.lock.members.length ≤ before.lock.members.length + 1 := by
    rw [errand.lock]
    cases action with
    | none => exact Nat.le_succ _
    | some action => exact before.lock.perform_length_le distinct before.clock action
  have sleepers : after.sleepers ≤ before.sleepers + 1 := by
    have old : (before.calls.filter fun pending => pending.call != call).countP
        (fun pending => pending.stage.isAsleep before.clock) ≤ before.sleepers :=
      List.filter_sublist.countP_le
    have new : ((wait.stage?.map (@PendingCall.mk State Result call)).toList.countP
        fun pending => pending.stage.isAsleep before.clock) ≤ 1 := by
      apply Nat.le_trans List.countP_le_length
      cases wait.stage? <;> simp
    rw [System.sleepers, errand.clock, errand.calls, List.countP_append]
    exact Nat.add_le_add old new
  have lockWaiters : after.lockWorker.waiters.length ≤ before.lockWorker.waiters.length + 1 := by
    rw [errand.lockWaiters responsive, List.length_append]
    cases wait <;> simp [Wait.toLock, WakeRequest.waiter?]
  have storageWaiters : after.storageWorker.waiters.length ≤ before.storageWorker.waiters.length + 1 := by
    rw [errand.storageWaiters responsive, List.length_append]
    cases wait <;> simp [Wait.toStorage, WakeRequest.waiter?]
  have lockAsks := after.lockWorker.asks_le after.clock
  have storageAsks := after.storageWorker.asks_le after.clock
  have short := errand.short
  rw [System.load, System.load]
  omega

/-- Time passes when nobody is ready; whoever becomes ready slept before. -/
theorem advance_load (wakeful : system.Wakeful) (idle : system.ready = []) (target : Instant) :
    (system.advance target).load ≤ system.load + 8 := by
  let clock := max system.clock target
  let due := system.timers.filter fun timer => isDue clock timer.2
  have listed : (system.advance target).ready.length ≤ due.length := by
    have all := enqueueAll_length system.ready (due.map fun timer => timer.1)
    have same : system.ready.length + (due.map fun timer => timer.1).length = due.length := by
      rw [idle, List.length_nil, List.length_map, Nat.zero_add]
    exact Nat.le_trans all (Nat.le_of_eq same)
  have woken : due.length + (system.advance target).sleepers ≤ 2 + system.sleepers := by
    have calls : due.length ≤ 2 + system.calls.countP fun pending =>
        isDue clock pending.stage.timer? := by
      simp only [due, timers, ← List.countP_eq_length_filter, List.countP_cons, List.countP_map]
      simp only [Function.comp_def]
      split <;> split <;> omega
    have slept : (system.calls.countP fun pending => isDue clock pending.stage.timer?) +
        (system.advance target).sleepers ≤ system.sleepers := by
      refine countP_add_le system.calls _ _ _ fun pending present => ?_
      cases wakeful.willResume pending present with
      | asks | answered => exact Nat.le_refl _
      | sleeps call due awake =>
          have early : system.clock < due := awake.resolve_left (idle ▸ List.not_mem_nil)
          have asleep : decide (system.clock < due) = true := decide_eq_true early
          show (decide (due ≤ clock)).toNat + (decide (clock < due)).toNat ≤
            (decide (system.clock < due)).toNat
          rw [asleep]
          by_cases past : due ≤ clock
          · rw [decide_eq_true past, decide_eq_false (Int.not_lt.mpr past)]
            exact Nat.le_refl _
          · rw [decide_eq_false past, decide_eq_true (Int.lt_of_not_ge past)]
            exact Nat.le_refl _
    omega
  have lockAsks := (system.advance target).lockWorker.asks_le clock
  have storageAsks := (system.advance target).storageWorker.asks_le clock
  show (system.advance target).ready.length + system.lockWorker.waiters.length +
    system.storageWorker.waiters.length + (system.advance target).sleepers +
    3 * ((system.advance target).lockWorker.asks clock +
      (system.advance target).storageWorker.asks clock) +
    8 * system.lock.members.length ≤ system.load + 8
  rw [load, idle, List.length_nil]
  omega

end

end System

end WoundWait
