import WoundWait.Proofs.WorkerReadiness

/-!
Requests for a later instant. Of several only the earliest instant is kept, and the run that starts
when it has come serves them all. No such request is forgotten, and no run starts without a request
of its own.
-/

namespace WoundWait

def Undue (told later : List Mark) : Prop :=
  AtStarts (fun before _ clock => isDue clock (Docket.of (told ++ before)).armed = false) later

theorem undue_of_unstarted {told later : List Mark}
    (unstarted : ∀ run clock, .starts run clock ∉ later) : Undue told later := by
  rintro before run clock after rfl
  exact absurd (by simp) (unstarted run clock)

/-- Only the start of a run that is due disarms; a request never puts off what is awaited. -/
theorem armed_comesBy (told later : List Mark) (undue : Undue told later) :
    ComesBy (Docket.of (told ++ later)).armed (Docket.of told).armed := by
  induction later using List.reverseRecOn with
  | nil =>
      rw [List.append_nil]
      exact comesBy_refl _
  | append_singleton later mark ih =>
      have sooner := ih undue.shorten
      rw [← List.append_assoc, Docket.of_concat]
      cases mark with
      | asks request =>
          cases request with
          | deferred instant => exact (earlier_comesBy_left _ _).trans sooner
          | immediate | flush _ => exact sooner
      | starts run clock =>
          have early := undue later run clock [] rfl
          simpa [Docket.note, early] using sooner
      | ends | stops => exact sooner

theorem asked_comesBy (told later : List Mark) (instant : Instant)
    (undue : Undue (told ++ [.asks (.deferred instant)]) later) :
    ComesBy (Docket.of (told ++ .asks (.deferred instant) :: later)).armed (some instant) := by
  have armed : ComesBy (Docket.of (told ++ [.asks (.deferred instant)])).armed (some instant) := by
    rw [Docket.of_concat]
    exact earlier_comesBy_right _ _
  rw [List.append_cons]
  exact (armed_comesBy _ later undue).trans armed

/-- What is still to be served, at once or later, has a request that no start has used up. -/
theorem unused_asks (told : List Mark) (caused : AtStarts Caused told) :
    told.countP Mark.isStart + min 1 (Docket.of told).unserved.length +
      (Docket.of told).armed.toList.length ≤ told.countP Mark.isAsk := by
  induction told using List.reverseRecOn with
  | nil => exact Nat.le_refl 0
  | append_singleton told mark ih =>
      have bound := ih caused.shorten
      rw [Docket.of_concat, List.countP_append, List.countP_append]
      cases mark with
      | asks request =>
          cases request with
          | deferred instant =>
              have one : (earlier (Docket.of told).armed (some instant)).toList.length = 1 := by
                cases (Docket.of told).armed <;> rfl
              simp [Docket.note, Mark.isStart, Mark.isAsk, one]
              omega
          | immediate | flush _ =>
              simp [Docket.note, Mark.isStart, Mark.isAsk]
              omega
      | starts run clock =>
          simp only [Docket.note, List.countP_singleton, Mark.isStart, Mark.isAsk]
          rcases (caused told run clock [] rfl).cause with unserved | due
          · have one : min 1 (Docket.of told).unserved.length = 1 :=
              Nat.min_eq_left (List.length_pos_iff.mpr unserved)
            by_cases due : isDue clock (Docket.of told).armed = true <;> simp [due] <;> omega
          · have one : (Docket.of told).armed.toList.length = 1 := by
              cases armed : (Docket.of told).armed with
              | none => simp [armed] at due
              | some instant => rfl
            simp [due]
            omega
      | ends | stops => simpa [Docket.note, Mark.isStart, Mark.isAsk] using bound

theorem starts_le_asks {told : List Mark} (caused : AtStarts Caused told) :
    told.countP Mark.isStart ≤ told.countP Mark.isAsk := by
  have bound := unused_asks told caused
  omega

namespace Bench

/-- What holds of requests for a later instant once some events have happened to a bench. -/
structure ServesDeferred (bench : Bench) (events : List BenchEvent) : Prop where
  recorded : (bench.run events).Keeps (bench.chronicle events)
  -- A worker that waits, with nothing left to do, has started a run since each request whose instant
  -- has come.
  served : (bench.run events).worker.phase = .waiting → .worker ∉ (bench.run events).ready →
    ∀ before instant after, bench.chronicle events = before ++ .asks (.deferred instant) :: after →
      instant ≤ (bench.run events).clock → ∃ run clock, .starts run clock ∈ after
  -- Runs that start before the awaited instant neither clear it nor put it off.
  kept : ∀ later, Undue (bench.chronicle events) ((bench.run events).chronicle later) →
    ((bench.run events).run later).worker.isStopped = false →
    ComesBy ((bench.run events).run later).worker.requests.deferred
      (bench.run events).worker.requests.deferred
  caused : ∀ before run clock after, bench.chronicle events = before ++ .starts run clock :: after →
    (sinceStart before).filterMap Mark.immediate? ≠ [] ∨
      ∃ instant, (Docket.of before).armed = some instant ∧ instant ≤ clock
  bounded : (bench.run events).started ≤ (bench.chronicle events).countP Mark.isAsk

theorem run_deferred_served (name : String) (work : Nat → List WorkStep) (ownRequests : Nat)
    (events : List BenchEvent) : (new name work ownRequests).ServesDeferred events := by
  have recorded := new_run_keeps name work ownRequests events
  constructor
  case recorded => exact recorded
  case served =>
    intro waiting unready before instant after split come
    by_contra unstarted
    have alive : ((new name work ownRequests).run events).worker.isStopped = false := by
      simp [Worker.isStopped, waiting]
    obtain ⟨kept, armed, sooner⟩ := asked_comesBy before after instant
      (undue_of_unstarted fun run clock started => unstarted ⟨run, clock, started⟩) instant rfl
    have rests := (new_run_attentive name work ownRequests events waiting).resolve_left unready
    have early := rests.requests.2
    rw [recorded.requests alive, split] at early
    simp only [Docket.outstanding, armed, isDue_some, decide_eq_false_iff_not] at early
    exact early (Int.le_trans sooner come)
  case kept =>
    intro later undue alive
    have before : ((new name work ownRequests).run events).worker.isStopped = false := by
      by_contra stopped
      rw [run_stopped later (by simpa using stopped)] at alive
      cases alive
    rw [(run_keeps later recorded).requests alive, recorded.requests before]
    exact armed_comesBy _ _ undue
  case caused =>
    intro before run clock after split
    rw [← Docket.unserved_eq]
    refine (recorded.caused before run clock after split).cause.imp id fun due => ?_
    cases armed : (Docket.of before).armed with
    | none => simp [armed] at due
    | some instant => exact ⟨instant, rfl, by simpa [armed] using due⟩
  case bounded =>
    rw [recorded.started, Docket.served_length]
    exact starts_le_asks recorded.caused

end Bench

end WoundWait
