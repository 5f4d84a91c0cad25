import WoundWait.Proofs.ChronicleRecording

/-!
A worker that waits is ready for a turn, or has nothing to do: its mailbox is empty, nobody asked
for a run, and no instant that it waits for has come.
-/

namespace WoundWait.Bench

structure NothingDue (bench : Bench) : Prop where
  mailbox : bench.worker.mailbox = []
  unasked : bench.worker.pending.now = false
  early : isDue bench.clock bench.worker.pending.deferred = false

def Attentive (bench : Bench) : Prop :=
  bench.worker.phase = .waiting → .worker ∈ bench.ready ∨ bench.NothingDue

variable {bench : Bench}

theorem NothingDue.requests (nothingDue : bench.NothingDue) :
    bench.worker.requests.now = false ∧ isDue bench.clock bench.worker.requests.deferred = false := by
  unfold Worker.requests
  rw [nothingDue.mailbox]
  exact ⟨nothingDue.unasked, nothingDue.early⟩

theorem wake_ready (bench : Bench) (task : BenchTask) : task ∈ (bench.wake task).ready := by
  simp only [wake, Cooperative.enqueue]
  split
  · assumption
  · simp

/-- Whoever waits is woken by a message. -/
theorem wakeWorker_attentive (bench : Bench) : bench.wakeWorker.Attentive := by
  intro waiting
  left
  unfold wakeWorker at waiting ⊢
  split at waiting
  · rename_i awaits
    rw [if_pos awaits]
    exact bench.wake_ready .worker
  · rename_i awaits
    simp [Worker.isWaiting, waiting] at awaits

theorem notify_attentive (bench : Bench) : bench.notify.Attentive :=
  wakeWorker_attentive _

theorem notifyAfter_attentive (bench : Bench) (milliseconds : Int) :
    (bench.notifyAfter milliseconds).Attentive :=
  wakeWorker_attentive _

theorem flush_attentive (bench : Bench) (call : CallId) : (bench.flush call).Attentive := by
  unfold flush
  split
  · rename_i stopped
    intro waiting
    have same : bench.worker.phase = .waiting := waiting
    simp [Worker.isStopped, same] at stopped
  · exact wakeWorker_attentive _

theorem stop_attentive (bench : Bench) : bench.stop.Attentive :=
  nofun

/-- A run that does not wait anymore goes round again before any other task. -/
theorem perform_attentive (steps : List WorkStep) (run : Nat)
    (busy : bench.worker.phase ≠ .waiting) : (bench.perform run steps).Attentive := by
  induction steps generalizing bench with
  | nil => exact fun _ => Or.inl List.mem_cons_self
  | cons step rest ih =>
      have continues (current : BenchRun) :
          (bench.worker.continueRun current).phase ≠ .waiting := by
        unfold Worker.continueRun
        split
        · nofun
        · exact busy
      cases step with
      | notify => exact ih (by rwa [bench.notify_asks.receives.phase])
      | notifyAfter milliseconds =>
          exact ih (by rwa [(bench.notifyAfter_asks milliseconds).receives.phase])
      | sleep milliseconds =>
          cases milliseconds with
          | zero => exact ih busy
          | succ before => exact fun waiting => absurd waiting (continues _)
      | giveWay => exact fun waiting => absurd waiting (continues _)
      | crash => exact stop_attentive bench

theorem workerTurn_attentive (bench : Bench) : bench.workerTurn.Attentive := by
  cases phase : bench.worker.phase with
  | stopped =>
      simp only [workerTurn, phase]
      exact fun waiting => by cases phase.symm.trans waiting
  | running run taken =>
      simp only [workerTurn, phase]
      split
      · exact perform_attentive run.rest run.number (by simp [phase])
      · exact fun waiting => by cases phase.symm.trans waiting
  | waiting =>
      simp only [workerTurn, phase]
      split
      · exact perform_attentive _ _ (by simp [Worker.start])
      · rename_i unasked
        intro _
        obtain ⟨same, now, early⟩ :=
          PendingWake.promote_idle bench.worker.requests bench.clock (Bool.eq_false_iff.mpr unasked)
        refine Or.inr ⟨rfl, Bool.eq_false_iff.mpr unasked, ?_⟩
        exact (congrArg (isDue bench.clock ·.deferred) same).trans early

theorem step_attentive (event : BenchEvent) (attentive : bench.Attentive) :
    (bench.step event).Attentive := by
  cases event with
  | notify => exact notify_attentive bench
  | notifyAfter milliseconds => exact notifyAfter_attentive bench milliseconds
  | flush call =>
      simp only [step]
      split
      · exact flush_attentive bench call
      · exact attentive
  | turn task =>
      simp only [step, turnOf]
      split
      · cases task with
        | worker => exact workerTurn_attentive _
        | call call =>
            have kept (ready : .worker ∈ bench.ready) :
                .worker ∈ bench.ready.erase (.call call) :=
              (List.mem_erase_of_ne (by simp)).mpr ready
            simp only [callTurn]
            split <;> exact fun waiting => (attentive waiting).imp kept
              fun nothingDue => ⟨nothingDue.mailbox, nothingDue.unasked, nothingDue.early⟩
      · exact attentive
  | pass target =>
      intro waiting
      simp only [step, advance] at waiting ⊢
      split
      · exact Or.inl (wake_ready _ _)
      · rename_i early
        rw [if_neg early] at waiting
        refine (attentive waiting).imp id fun nothingDue => ⟨nothingDue.mailbox, nothingDue.unasked, ?_⟩
        have timer : bench.timer? = bench.worker.pending.deferred := by
          simp [timer?, Worker.timer?, show bench.worker.phase = .waiting from waiting]
        exact timer ▸ Bool.eq_false_iff.mpr early
  | stop => exact stop_attentive bench

theorem run_attentive (events : List BenchEvent) (attentive : bench.Attentive) :
    (bench.run events).Attentive := by
  induction events generalizing bench with
  | nil => exact attentive
  | cons event rest ih => exact ih (step_attentive event attentive)

theorem new_run_attentive (name : String) (work : Nat → List WorkStep) (ownRequests : Nat)
    (events : List BenchEvent) : ((new name work ownRequests).run events).Attentive :=
  run_attentive events fun _ => Or.inl List.mem_cons_self

end WoundWait.Bench
