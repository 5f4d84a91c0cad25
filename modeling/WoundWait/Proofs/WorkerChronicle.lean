import Mathlib.Data.List.DropRight
import Mathlib.Data.List.Induction
import WoundWait.Proofs.WorkerRequests
import WoundWait.Worker.Event

/-!
What happens at a worker, told in the order in which it happens: requests, starts and ends of runs,
and a stop. The chronicle of a bench tells all that its worker keeps: which requests are still to be
served, which instant it is armed for, and whom the run in flight is going to answer.
-/

namespace WoundWait

inductive Mark where
  | asks (request : WakeRequest CallId)
  | starts (run : Nat) (clock : Instant)
  | ends (run : Nat) (clock : Instant)
  | stops
  deriving DecidableEq, Repr

namespace Mark

def isAsk : Mark → Bool
  | asks _ => true
  | _ => false

def isNotification : Mark → Bool
  | asks .immediate => true
  | _ => false

def isDeferral : Mark → Bool
  | asks (.deferred _) => true
  | _ => false

def isStart : Mark → Bool
  | starts .. => true
  | _ => false

def isEnd : Mark → Bool
  | ends .. => true
  | _ => false

def log? : Mark → Option RunLog
  | starts run clock => some (.started run clock)
  | ends run clock => some (.ended run clock)
  | _ => none

def immediate? : Mark → Option (WakeRequest CallId)
  | asks (.deferred _) => none
  | asks request => some request
  | _ => none

end Mark

def sinceStart (told : List Mark) : List Mark :=
  told.rtakeWhile fun mark => !mark.isStart

/-! Which run serves which request -/

/-- Immediate requests are served by the first run that starts after them. Deferred requests fall
together to the earliest instant, and the first run that starts at that instant or later serves them
all. -/
structure Docket where
  served : List (List (WakeRequest CallId))
  unserved : List (WakeRequest CallId)
  armed : Option Instant

namespace Docket

def new : Docket :=
  { served := [], unserved := [], armed := none }

def note (docket : Docket) : Mark → Docket
  | .asks (.deferred instant) => { docket with armed := earlier docket.armed (some instant) }
  | .asks request => { docket with unserved := docket.unserved ++ [request] }
  | .starts _ clock =>
      { served := docket.served ++ [docket.unserved]
        unserved := []
        armed := if isDue clock docket.armed then none else docket.armed }
  | .ends .. | .stops => docket

def of (told : List Mark) : Docket :=
  told.foldl note new

def outstanding (docket : Docket) : PendingWake CallId :=
  { now := !docket.unserved.isEmpty
    deferred := docket.armed
    waiters := docket.unserved.filterMap WakeRequest.waiter? }

def awaiting (docket : Docket) : List CallId :=
  (docket.served.getLast?.getD []).filterMap WakeRequest.waiter?


@[simp] theorem of_concat (told : List Mark) (mark : Mark) :
    of (told ++ [mark]) = (of told).note mark := by
  simp [of]

theorem note_absorb (docket : Docket) (request : WakeRequest CallId) :
    (docket.note (.asks request)).outstanding = docket.outstanding.absorb request := by
  cases request <;> simp [note, outstanding, PendingWake.absorb, WakeRequest.waiter?]

theorem note_starts (docket : Docket) (run : Nat) (clock : Instant) :
    (docket.note (.starts run clock)).outstanding =
      { docket.outstanding.promote clock with now := false, waiters := [] } := by
  by_cases due : isDue clock docket.armed = true <;>
    simp [note, outstanding, PendingWake.promote, due]

theorem note_starts_awaiting (docket : Docket) (run : Nat) (clock : Instant) :
    (docket.note (.starts run clock)).awaiting = (docket.outstanding.promote clock).waiters := by
  simp [note, awaiting, outstanding]

theorem outstanding_asked (docket : Docket) (clock : Instant)
    (asked : (docket.outstanding.promote clock).now = true) :
    docket.unserved ≠ [] ∨ isDue clock docket.armed = true := by
  by_cases due : isDue clock docket.armed = true
  · exact Or.inr due
  · exact Or.inl (by simpa [PendingWake.promote, outstanding, due] using asked)

/-- Every immediate request is served by one run, or is still to be served. -/
theorem served_flatten (told : List Mark) :
    (of told).served.flatten ++ (of told).unserved = told.filterMap Mark.immediate? := by
  induction told using List.reverseRecOn with
  | nil => rfl
  | append_singleton told mark ih =>
      rw [of_concat, List.filterMap_append, ← ih]
      cases mark with
      | asks request => cases request <;> simp [note, Mark.immediate?]
      | starts | ends | stops => simp [note, Mark.immediate?]

theorem served_length (told : List Mark) : (of told).served.length = told.countP Mark.isStart := by
  induction told using List.reverseRecOn with
  | nil => rfl
  | append_singleton told mark ih =>
      rw [of_concat, List.countP_append, ← ih]
      cases mark with
      | asks request => cases request <;> simp [note, Mark.isStart]
      | starts | ends | stops => simp [note, Mark.isStart]

/-- What is still to be served was asked for since the last start. -/
theorem unserved_eq (told : List Mark) :
    (of told).unserved = (sinceStart told).filterMap Mark.immediate? := by
  induction told using List.reverseRecOn with
  | nil => rfl
  | append_singleton told mark ih =>
      rw [of_concat, sinceStart, List.rtakeWhile_concat]
      cases mark with
      | asks request => cases request <;> simp [note, Mark.isStart, Mark.immediate?, ih, sinceStart]
      | starts => simp [note, Mark.isStart]
      | ends | stops => simp [note, Mark.isStart, Mark.immediate?, ih, sinceStart]

end Docket

/-! Why runs start -/

def AtStarts (holds : List Mark → Nat → Instant → Prop) (told : List Mark) : Prop :=
  ∀ before run clock after, told = before ++ .starts run clock :: after → holds before run clock

theorem AtStarts.note {holds : List Mark → Nat → Instant → Prop} {told : List Mark} {mark : Mark}
    (atStarts : AtStarts holds told)
    (last : ∀ run clock, mark = .starts run clock → holds told run clock) :
    AtStarts holds (told ++ [mark]) := by
  intro before run clock after split
  rcases List.eq_nil_or_concat after with rfl | ⟨early, final, rfl⟩
  · obtain ⟨rfl, same⟩ := List.append_inj' split rfl
    exact last run clock (List.singleton_inj.mp same)
  · rw [List.concat_eq_append, ← List.cons_append, ← List.append_assoc] at split
    exact atStarts before run clock early (List.append_inj' split rfl).1

theorem AtStarts.shorten {holds : List Mark → Nat → Instant → Prop} {told : List Mark} {mark : Mark}
    (atStarts : AtStarts holds (told ++ [mark])) : AtStarts holds told := by
  rintro before run clock after rfl
  exact atStarts before run clock (after ++ [mark]) (by simp)

/-- A run starts under the next number, and because of a request: one that came since the last
start, or a deferred one whose instant has come. -/
structure Caused (before : List Mark) (run : Nat) (clock : Instant) : Prop where
  number : run = (Docket.of before).served.length + 1
  cause : (Docket.of before).unserved ≠ [] ∨ isDue clock (Docket.of before).armed = true

/-! What is told of a bench -/

namespace Bench

def stepMarks (clock : Instant) (run : Nat) : List WorkStep → List Mark
  | [] => [.ends run clock]
  | .notify :: rest => .asks .immediate :: stepMarks clock run rest
  | .notifyAfter milliseconds :: rest =>
      .asks (.deferred (clock + milliseconds)) :: stepMarks clock run rest
  | .sleep 0 :: rest => stepMarks clock run rest
  | .sleep (_ + 1) :: _ => []
  | .giveWay :: _ => []
  | .crash :: _ => [.stops]

def workerMarks (bench : Bench) : List Mark :=
  match bench.worker.phase with
  | .stopped => []
  | .running run _ =>
      if run.due ≤ bench.clock then stepMarks bench.clock run.number run.rest else []
  | .waiting =>
      if (bench.worker.collect bench.clock).pending.now then
        .starts (bench.started + 1) bench.clock ::
          stepMarks bench.clock (bench.started + 1) (bench.work (bench.started + 1))
      else []

def marks (bench : Bench) : BenchEvent → List Mark
  | .notify => [.asks .immediate]
  | .notifyAfter milliseconds => [.asks (.deferred (bench.clock + milliseconds))]
  | .flush call => if bench.isFree call then [.asks (.flush call)] else []
  | .turn .worker => if .worker ∈ bench.ready then bench.workerMarks else []
  | .turn (.call _) => []
  | .pass _ => []
  | .stop => [.stops]

def chronicle (bench : Bench) : List BenchEvent → List Mark
  | [] => []
  | event :: rest => bench.marks event ++ (bench.step event).chronicle rest

end Bench

/-! A log of runs, one after another -/

/-- Runs are numbered from one and each starts after the end of the one before. The flag tells
whether the last one has started and not ended. Newest first. -/
inductive Sequential : Nat → Bool → List RunLog → Prop where
  | nothing : Sequential 0 false []
  | starts {runs : Nat} {log : List RunLog} (clock : Instant) (before : Sequential runs false log) :
      Sequential (runs + 1) true (.started (runs + 1) clock :: log)
  | ends {runs : Nat} {log : List RunLog} (clock : Instant) (before : Sequential runs true log) :
      Sequential runs false (.ended runs clock :: log)

/-- No run ends before it has started, nor while it is in flight. -/
theorem Sequential.ended_le {runs : Nat} {inFlight : Bool} {log : List RunLog}
    (sequential : Sequential runs inFlight log) {run : Nat} {clock : Instant}
    (ended : .ended run clock ∈ log) : run ≤ runs ∧ (inFlight = true → run < runs) := by
  induction sequential with
  | nothing => cases ended
  | starts _ _ ih =>
      have earlier := ih (by simpa using ended)
      exact ⟨by omega, fun _ => by omega⟩
  | ends _ _ ih =>
      rcases List.mem_cons.mp ended with same | earlier
      · cases same
        exact ⟨Nat.le_refl _, nofun⟩
      · exact ⟨(ih earlier).1, nofun⟩

end WoundWait
