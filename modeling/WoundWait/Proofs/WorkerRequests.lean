import WoundWait.Worker.Basic
import WoundWait.Proofs.EarliestInstant

/-!
What a worker has been asked for, wherever the requests are: in its mailbox or already taken from
it.
-/

namespace WoundWait

variable {Run Waiter : Type}

namespace PendingWake

@[simp] theorem absorb_deferred_now (pending : PendingWake Waiter) (instant : Instant) :
    (pending.absorb (.deferred instant)).now = pending.now := rfl

theorem absorb_now (pending : PendingWake Waiter) (request : WakeRequest Waiter)
    (asked : pending.now = true) : (pending.absorb request).now = true := by
  cases request with
  | immediate => rfl
  | deferred _ => exact asked
  | flush _ => rfl

theorem absorb_deferred (pending : PendingWake Waiter) (request : WakeRequest Waiter) :
    ComesBy (pending.absorb request).deferred pending.deferred := by
  cases request with
  | immediate => exact comesBy_refl _
  | deferred instant => exact earlier_comesBy_left pending.deferred (some instant)
  | flush _ => exact comesBy_refl _

theorem absorb_waiters (pending : PendingWake Waiter) (request : WakeRequest Waiter) :
    (pending.absorb request).waiters = pending.waiters ++ request.waiter?.toList := by
  cases request <;> simp [absorb, WakeRequest.waiter?]

theorem absorbAll_now (requests : List (WakeRequest Waiter)) (pending : PendingWake Waiter)
    (asked : pending.now = true) : (requests.foldl absorb pending).now = true := by
  induction requests generalizing pending with
  | nil => exact asked
  | cons request rest ih => exact ih (pending.absorb request) (pending.absorb_now request asked)

theorem absorbAll_deferred (requests : List (WakeRequest Waiter)) (pending : PendingWake Waiter) :
    ComesBy (requests.foldl absorb pending).deferred pending.deferred := by
  induction requests generalizing pending with
  | nil => exact comesBy_refl _
  | cons request rest ih =>
      exact (ih (pending.absorb request)).trans (pending.absorb_deferred request)

theorem absorbAll_waiters (requests : List (WakeRequest Waiter)) (pending : PendingWake Waiter) :
    (requests.foldl absorb pending).waiters =
      pending.waiters ++ requests.filterMap WakeRequest.waiter? := by
  induction requests generalizing pending with
  | nil => simp
  | cons request rest ih =>
      rw [List.foldl_cons, ih, absorb_waiters, List.append_assoc, List.filterMap_cons]
      cases request.waiter? <;> rfl

@[simp] theorem promote_waiters (pending : PendingWake Waiter) (clock : Instant) :
    (pending.promote clock).waiters = pending.waiters := by
  unfold promote
  split <;> rfl

/-- What was not asked for at once and is not due is kept as it is. -/
theorem promote_idle (pending : PendingWake Waiter) (clock : Instant)
    (idle : (pending.promote clock).now = false) :
    pending.promote clock = pending ∧ pending.now = false ∧ isDue clock pending.deferred = false := by
  by_cases due : isDue clock pending.deferred = true
  · simp [promote, due] at idle
  · have same : pending.promote clock = pending := by simp [promote, due]
    rw [same] at idle
    exact ⟨same, idle, Bool.eq_false_iff.mpr due⟩

end PendingWake

namespace Worker

/-- All requests that no run has served, as the worker would hold them after taking in its mail. -/
def requests (worker : Worker Run Waiter) : PendingWake Waiter :=
  worker.mailbox.foldl PendingWake.absorb worker.pending

structure Receives (before after : Worker Run Waiter) (sent : List (WakeRequest Waiter)) :
    Prop where
  phase : after.phase = before.phase
  pending : after.pending = before.pending
  mailbox : after.mailbox = before.mailbox ++ if before.isStopped then [] else sent

theorem isStopped_congr (before after : Worker Run Waiter) (phase : after.phase = before.phase) :
    after.isStopped = before.isStopped := by
  simp [isStopped, phase]

theorem receives_refl (worker : Worker Run Waiter) : worker.Receives worker [] :=
  ⟨rfl, rfl, by simp⟩

theorem Receives.trans {first second third : Worker Run Waiter}
    {early late : List (WakeRequest Waiter)} (sooner : first.Receives second early)
    (later : second.Receives third late) : first.Receives third (early ++ late) := by
  refine ⟨later.phase.trans sooner.phase, later.pending.trans sooner.pending, ?_⟩
  rw [later.mailbox, sooner.mailbox, isStopped_congr first second sooner.phase]
  cases first.isStopped <;> simp

theorem send_receives (worker : Worker Run Waiter) (request : WakeRequest Waiter) :
    worker.Receives (worker.send request) [request] := by
  unfold send
  split
  · rename_i stopped
    exact ⟨rfl, rfl, by simp [stopped]⟩
  · rename_i alive
    exact ⟨rfl, rfl, by simp [alive]⟩

/-- Whatever is sent to a stopped worker is lost. -/
theorem stopped_receives (worker : Worker Run Waiter) (sent : List (WakeRequest Waiter))
    (stopped : worker.isStopped = true) : worker.Receives worker sent :=
  ⟨rfl, rfl, by simp [stopped]⟩

theorem notify_receives (worker : Worker Run Waiter) :
    worker.Receives worker.notify [.immediate] :=
  ⟨(worker.send_receives .immediate).phase, (worker.send_receives .immediate).pending,
    (worker.send_receives .immediate).mailbox⟩

theorem notifyAt_receives (worker : Worker Run Waiter) (instant : Instant) :
    worker.Receives (worker.notifyAt instant) [.deferred instant] :=
  ⟨(worker.send_receives (.deferred instant)).phase,
    (worker.send_receives (.deferred instant)).pending,
    (worker.send_receives (.deferred instant)).mailbox⟩

theorem Receives.requests {before after : Worker Run Waiter} {sent : List (WakeRequest Waiter)}
    (receives : before.Receives after sent) (alive : before.isStopped = false) :
    after.requests = sent.foldl PendingWake.absorb before.requests := by
  simp [Worker.requests, receives.mailbox, receives.pending, alive]

theorem Receives.waiters {before after : Worker Run Waiter} {sent : List (WakeRequest Waiter)}
    (receives : before.Receives after sent) :
    after.waiters = before.waiters ++
      if before.isStopped then [] else sent.filterMap WakeRequest.waiter? := by
  simp only [Worker.waiters, taken, receives.phase, receives.pending, receives.mailbox]
  cases before.isStopped <;> simp

theorem requests_waiters (worker : Worker Run Waiter) :
    worker.requests.waiters =
      worker.pending.waiters ++ worker.mailbox.filterMap WakeRequest.waiter? :=
  PendingWake.absorbAll_waiters worker.mailbox worker.pending

theorem waiters_split (worker : Worker Run Waiter) :
    worker.waiters = worker.taken ++ worker.requests.waiters := by
  rw [requests_waiters, waiters, List.append_assoc]

theorem collect_requests (worker : Worker Run Waiter) (clock : Instant) :
    (worker.collect clock).requests = worker.requests.promote clock := rfl

theorem collect_waiters (worker : Worker Run Waiter) (clock : Instant) :
    (worker.collect clock).waiters = worker.waiters := by
  simp [waiters, collect, taken, PendingWake.absorbAll_waiters]

end Worker

end WoundWait
