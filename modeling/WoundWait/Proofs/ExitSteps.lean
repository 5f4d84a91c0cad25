import WoundWait.Proofs.RecordIsolation

/-!
What the lock's worker does for an exit, step by step. It takes every member at once, hands one
record over after the other, each when the queue is done with the one before, and then tells both
workers. A turn of the worker goes on where the turn before has stopped.
-/

namespace WoundWait

variable {State Result : Type}

/-- What the lock's worker does for an exit. -/
inductive ExitStep (State : Type) where
  | takes (records : List (TransactionRecord State))
  | calls (record : TransactionRecord State)
  | returns (record : TransactionRecord State)
  | tellsLock
  | tellsStorage

namespace ExitStep

def returned? : ExitStep State → Option (TransactionRecord State)
  | returns record => some record
  | _ => none

def toLock? : ExitStep State → Option (WakeRequest CallId)
  | tellsLock => some .immediate
  | _ => none

def toStorage? : ExitStep State → Option (WakeRequest CallId)
  | tellsStorage => some .immediate
  | _ => none

def hands (records : List (TransactionRecord State)) : List (ExitStep State) :=
  records.flatMap fun record => [calls record, returns record]

def exit (records : List (TransactionRecord State)) : List (ExitStep State) :=
  takes records :: hands records ++ [tellsLock, tellsStorage]

theorem hands_append (records later : List (TransactionRecord State)) :
    hands (records ++ later) = hands records ++ hands later :=
  List.flatMap_append

theorem hands_returned (records : List (TransactionRecord State)) :
    (hands records).filterMap returned? = records := by
  induction records with
  | nil => rfl
  | cons record rest ih =>
      rw [← List.singleton_append, hands_append, List.filterMap_append, ih]
      rfl

theorem hands_silent (records : List (TransactionRecord State)) :
    (hands records).filterMap toLock? = [] ∧ (hands records).filterMap toStorage? = [] := by
  constructor <;>
    (rw [List.filterMap_eq_nil_iff]
     intro exitStep member
     obtain ⟨record, _, there⟩ := List.mem_flatMap.mp member
     simp only [List.mem_cons, List.not_mem_nil, or_false] at there
     rcases there with rfl | rfl <;> rfl)

end ExitStep

namespace System

def commitsHanded (system : System State Result) : List (TransactionRecord State) :=
  ((system.handed.filter fun parcel => parcel.1 == .commit).map Prod.snd).reverse

def handOffSteps (system : System State Result) : List (TransactionRecord State) → List (ExitStep State)
  | [] => [.tellsLock, .tellsStorage]
  | record :: rest =>
      let handOff := system.queue.handOff system.clock .commit record
      .calls record ::
        if handOff.due ≤ system.clock then
          .returns record :: (system.deliver handOff).handOffSteps rest
        else []

def lockExitSteps (system : System State Result) : List (ExitStep State) :=
  match system.lockWorker.phase with
  | .stopped | .running (.breaking _) _ => []
  | .running (.exiting current rest) _ =>
      if current.due ≤ system.clock then
        .returns current.record :: (system.deliver current).handOffSteps rest
      else []
  | .waiting =>
      if (system.lockWorker.collect system.clock).pending.now then
        match (system.lock.tick system.clock).1 with
        | .exit records => .takes records :: system.looked.handOffSteps records
        | _ => []
      else []

def exitSteps (system : System State Result) : Event State Result → List (ExitStep State)
  | .turn .lock =>
      if .lock ∈ system.ready then { system with ready := system.ready.erase .lock }.lockExitSteps
      else []
  | _ => []

inductive Unfinished : WorkerPhase (TickRun State) CallId → List (ExitStep State) → Prop where
  | waiting : Unfinished .waiting []
  | breaking (pending : List (HandOff State)) (taken : List CallId)
      (aborts : ∀ handOff ∈ pending, handOff.outcome ≠ .commit) :
      Unfinished (.running (.breaking pending) taken) []
  | exiting (handed : List (TransactionRecord State)) (current : HandOff State)
      (rest : List (TransactionRecord State)) (taken : List CallId)
      (commits : current.outcome = .commit) :
      Unfinished (.running (.exiting current rest) taken)
        (.takes (handed ++ current.record :: rest) :: ExitStep.hands handed ++ [.calls current.record])

def Continues (before after : WorkerPhase (TickRun State) CallId) (exitSteps : List (ExitStep State)) :
    Prop :=
  ∀ unfinished, Unfinished before unfinished →
    ∃ (exits : List (List (TransactionRecord State))) (unfinished' : List (ExitStep State)),
      unfinished ++ exitSteps = exits.flatMap ExitStep.exit ++ unfinished' ∧ Unfinished after unfinished'

theorem deliver_commits (system : System State Result) (handOff : HandOff State)
    (commits : handOff.outcome = .commit) :
    (system.deliver handOff).commitsHanded = system.commitsHanded ++ [handOff.record] := by
  have handed : (system.deliver handOff).handed = handOff.parcel :: system.handed := rfl
  simp [commitsHanded, handed, HandOff.parcel, commits]

/-- Hand-offs that can be done at once are done in the order of the records. -/
theorem deliverExits_exitSteps (system : System State Result)
    (records : List (TransactionRecord State)) :
    ∃ handed, (system.deliverExits records).1.commitsHanded = system.commitsHanded ++ handed ∧
      (((system.deliverExits records).2 = none ∧ records = handed ∧
          system.handOffSteps records = ExitStep.hands handed ++ [.tellsLock, .tellsStorage]) ∨
        ∃ current rest, (system.deliverExits records).2 = some (.exiting current rest) ∧
          current.outcome = .commit ∧ records = handed ++ current.record :: rest ∧
          system.handOffSteps records = ExitStep.hands handed ++ [.calls current.record]) := by
  induction records generalizing system with
  | nil => exact ⟨[], by simp [deliverExits], .inl ⟨rfl, rfl, rfl⟩⟩
  | cons record rest ih =>
      let handOff := system.queue.handOff system.clock .commit record
      by_cases due : handOff.due ≤ system.clock
      · have opened : system.deliverExits (record :: rest) =
            (system.deliver handOff).deliverExits rest := by
          simp only [deliverExits]
          exact if_pos due
        have told : system.handOffSteps (record :: rest) =
            .calls record :: .returns record :: (system.deliver handOff).handOffSteps rest := by
          simp only [handOffSteps]
          exact congrArg _ (if_pos due)
        obtain ⟨handed, commits, ends⟩ := ih (system.deliver handOff)
        rw [opened, told]
        refine ⟨record :: handed, ?_, ?_⟩
        · rw [commits, deliver_commits _ _ rfl, List.append_assoc]
          rfl
        · rcases ends with ⟨finished, all, same⟩ | ⟨current, later, waits, commit, split, same⟩
          · exact .inl ⟨finished, by rw [all], by rw [same]; rfl⟩
          · exact .inr ⟨current, later, waits, commit, by rw [split]; rfl, by rw [same]; rfl⟩
      · have opened : system.deliverExits (record :: rest) =
            (system, some (.exiting handOff rest)) := by
          simp only [deliverExits]
          exact if_neg due
        have told : system.handOffSteps (record :: rest) = [.calls record] := by
          simp only [handOffSteps]
          exact congrArg _ (if_neg due)
        rw [opened, told]
        exact ⟨[], by simp, .inr ⟨handOff, rest, rfl, rfl, rfl, rfl⟩⟩

structure Plays (middle after : System State Result) (exitSteps : List (ExitStep State)) : Prop where
  commits : after.commitsHanded = middle.commitsHanded ++ exitSteps.filterMap ExitStep.returned?
  storage : middle.storageWorker.Receives after.storageWorker (exitSteps.filterMap ExitStep.toStorage?)
  lock : after.lockWorker.mailbox = middle.lockWorker.mailbox ++ exitSteps.filterMap ExitStep.toLock?

theorem concludeExits_plays (system : System State Result) (old : TickRun State)
    (taken : List CallId) (running : system.lockWorker.phase = .running old taken)
    (handed records : List (TransactionRecord State)) :
    system.Plays (concludeExits (system.deliverExits records)) (system.handOffSteps records) ∧
      ∃ (exits : List (List (TransactionRecord State))) (unfinished : List (ExitStep State)),
        .takes (handed ++ records) :: ExitStep.hands handed ++ system.handOffSteps records =
          exits.flatMap ExitStep.exit ++ unfinished ∧
        Unfinished (concludeExits (system.deliverExits records)).lockWorker.phase unfinished := by
  obtain ⟨now, commits, ends⟩ := system.deliverExits_exitSteps records
  obtain ⟨_, stretch, _⟩ := system.deliverExits_stretch records
  obtain ⟨noLock, noStorage⟩ := ExitStep.hands_silent now
  cases delivered : system.deliverExits records with
  | mk middle run =>
      rw [delivered] at commits ends stretch
      have alive : system.lockWorker.isStopped = false := by simp [Worker.isStopped, running]
      have mailbox : middle.lockWorker.mailbox = system.lockWorker.mailbox := by
        simpa using stretch.lockWorker.mailbox
      rcases ends with ⟨finished, all, told⟩ | ⟨current, rest, waits, commit, split, told⟩
      · simp only at finished
        subst finished
        subst all
        have tells := middle.notifyLock_stretch.trans middle.notifyLock.notifyStorage_stretch
        have mailed := tells.lockWorker.mailbox
        have same : middle.lockWorker.isStopped = false := by
          rwa [Worker.isStopped_congr _ _ stretch.lockWorker.phase]
        simp only [same, Bool.false_eq_true, ↓reduceIte] at mailed
        refine ⟨⟨?_, ?_, ?_⟩, [handed ++ records], [], ?_, .waiting⟩
        · have kept : (concludeExits (middle, none)).commitsHanded = middle.commitsHanded := by
            have handed' : (concludeExits (middle, none)).handed = middle.handed := tells.handed
            rw [commitsHanded, commitsHanded, handed']
          rw [kept, commits, told, List.filterMap_append, ExitStep.hands_returned]
          simp [ExitStep.returned?]
        · have receives := stretch.storageWorker.trans tells.storageWorker
          rw [told, List.filterMap_append, noStorage]
          exact receives
        · have box : (concludeExits (middle, none)).lockWorker.mailbox =
              middle.notifyLock.notifyStorage.lockWorker.mailbox := rfl
          rw [box, mailed, mailbox, told, List.filterMap_append, noLock]
          rfl
        · simp [ExitStep.exit, told, ExitStep.hands_append]
      · simp only at waits
        subst waits
        have still : middle.lockWorker.phase = .running old taken :=
          stretch.lockWorker.phase.trans running
        have phase : (concludeExits (middle, some (.exiting current rest))).lockWorker.phase =
            .running (.exiting current rest) taken := by
          simp only [concludeExits, Worker.continueRun, still]
        refine ⟨⟨?_, ?_, ?_⟩, [],
          .takes (handed ++ records) :: ExitStep.hands handed ++
            (ExitStep.hands now ++ [.calls current.record]), ?_, ?_⟩
        · rw [told, List.filterMap_append, ExitStep.hands_returned]
          exact commits.trans (by simp [ExitStep.returned?])
        · rw [told, List.filterMap_append, noStorage]
          exact stretch.storageWorker
        · have box : (concludeExits (middle, some (.exiting current rest))).lockWorker.mailbox =
              middle.lockWorker.mailbox := by
            simp only [concludeExits, Worker.continueRun, still]
          rw [box, mailbox, told, List.filterMap_append, noLock]
          simp [ExitStep.toLock?]
        · rw [told]
          rfl
        · rw [phase, split]
          have left := Unfinished.exiting (handed ++ now) current rest taken commit
          simpa [ExitStep.hands_append] using left

/-- Hand-offs for other reasons are no part of an exit. -/
theorem spared_commits (before after : System State Result) (delivered : List (Parcel State))
    (handed : after.handed = delivered ++ before.handed)
    (aborts : ∀ parcel ∈ delivered, parcel.1 ≠ .commit) :
    after.commitsHanded = before.commitsHanded := by
  have none : delivered.filter (fun parcel => parcel.1 == .commit) = [] := by
    rw [List.filter_eq_nil_iff]
    intro parcel member same
    exact aborts parcel member (by simpa using same)
  rw [commitsHanded, commitsHanded, handed, List.filter_append, none, List.nil_append]

structure ExitTurn (before after : System State Result) (exitSteps : List (ExitStep State)) : Prop where
  continues : Continues before.lockWorker.phase after.lockWorker.phase exitSteps
  commits : after.commitsHanded = before.commitsHanded ++ exitSteps.filterMap ExitStep.returned?
  storage : before.storageWorker.Receives after.storageWorker (exitSteps.filterMap ExitStep.toStorage?)
  lock : exitSteps ≠ [] → after.lockWorker.mailbox =
    (if before.lockWorker.isWaiting then [] else before.lockWorker.mailbox) ++
      exitSteps.filterMap ExitStep.toLock?

/-- A turn that has nothing to do with an exit. -/
theorem exitTurn_idle (before after : System State Result) (delivered : List (Parcel State))
    (unfinished : Unfinished before.lockWorker.phase [])
    (finished : Unfinished after.lockWorker.phase [])
    (handed : after.handed = delivered ++ before.handed)
    (aborts : ∀ parcel ∈ delivered, parcel.1 ≠ .commit)
    (storage : before.storageWorker.Receives after.storageWorker []) :
    before.ExitTurn after [] := by
  refine ⟨?_, ?_, storage, fun some => absurd rfl some⟩
  · intro other is
    have none : other = [] := by
      revert unfinished is
      generalize before.lockWorker.phase = phase
      intro unfinished is
      cases unfinished <;> cases is <;> rfl
    subst none
    exact ⟨[], [], rfl, finished⟩
  · rw [spared_commits before after delivered handed aborts]
    simp

theorem concludeBreaks_exitTurn (before middle : System State Result) (old : TickRun State)
    (taken : List CallId) (running : middle.lockWorker.phase = .running old taken)
    (delivered : List (Parcel State)) (pending : List (HandOff State))
    (unfinished : Unfinished before.lockWorker.phase [])
    (handed : middle.handed = delivered ++ before.handed)
    (storage : before.storageWorker.Receives middle.storageWorker [])
    (aborts : ∀ parcel ∈ delivered ++ pending.map HandOff.parcel, parcel.1 ≠ .commit) :
    before.ExitTurn (concludeBreaks (middle, pending)) [] := by
  have spared : ∀ parcel ∈ delivered, parcel.1 ≠ .commit :=
    fun parcel member => aborts parcel (List.mem_append_left _ member)
  cases pending with
  | nil =>
      have tells := middle.notifyLock_stretch
      have receives := storage.trans tells.storageWorker
      exact exitTurn_idle before _ delivered unfinished .waiting (tells.handed.trans handed) spared
        receives
  | cons first rest =>
      have phase : (concludeBreaks (middle, first :: rest)).lockWorker.phase =
          .running (.breaking (first :: rest)) taken := by
        simp only [concludeBreaks, Worker.continueRun, running]
      have left : Unfinished (concludeBreaks (middle, first :: rest)).lockWorker.phase [] := by
        rw [phase]
        refine .breaking (first :: rest) taken ?_
        intro handOff member
        exact aborts handOff.parcel (List.mem_append_right _ (List.mem_map_of_mem member))
      exact exitTurn_idle before _ delivered unfinished left handed spared storage

theorem continueTick_exitTurn (system : System State Result) (run : TickRun State)
    (taken : List CallId) (running : system.lockWorker.phase = .running run taken)
    (unfinished : List (ExitStep State)) (is : Unfinished system.lockWorker.phase unfinished) :
    system.ExitTurn (system.continueTick run) system.lockExitSteps := by
  cases run with
  | breaking pending =>
      have none : system.lockExitSteps = [] := by simp only [lockExitSteps, running]
      have aborts : ∀ handOff ∈ pending, handOff.outcome ≠ .commit := by
        rw [running] at is
        cases is with
        | breaking _ _ aborts => exact aborts
      obtain ⟨delivered, stretch, perm⟩ := system.deliverDue_stretch pending
      rw [none]
      apply concludeBreaks_exitTurn system _ _ taken (stretch.lockWorker.phase.trans running)
        delivered _ _ stretch.handed stretch.storageWorker
      · intro parcel member
        obtain ⟨handOff, there, same⟩ := List.mem_map.mp (perm.subset member)
        subst same
        exact aborts handOff there
      · rw [running]
        exact .breaking pending taken aborts
  | exiting current rest =>
      by_cases due : current.due ≤ system.clock
      · have told : system.lockExitSteps =
            .returns current.record :: (system.deliver current).handOffSteps rest := by
          simp only [lockExitSteps, running]
          exact if_pos due
        have same : system.continueTick (.exiting current rest) =
            concludeExits ((system.deliver current).deliverExits rest) := by
          simp only [continueTick]
          exact if_pos due
        have waiting : system.lockWorker.isWaiting = false := by simp [Worker.isWaiting, running]
        rw [told, same]
        constructor
        · intro other is
          rw [running] at is
          cases is with
          | exiting handed _ _ _ commits =>
              obtain ⟨_, exits, left, split, after⟩ := (system.deliver current).concludeExits_plays
                _ taken running (handed ++ [current.record]) rest
              exact ⟨exits, left, by simpa [ExitStep.hands_append, ExitStep.hands] using split, after⟩
        · have commits : current.outcome = .commit := by
            rw [running] at is
            cases is with
            | exiting _ _ _ _ commits => exact commits
          have plays := ((system.deliver current).concludeExits_plays _ taken running [] rest).1
          rw [plays.commits, system.deliver_commits current commits, List.append_assoc]
          rfl
        · exact ((system.deliver current).concludeExits_plays _ taken running [] rest).1.storage
        · intro _
          rw [waiting]
          exact ((system.deliver current).concludeExits_plays _ taken running [] rest).1.lock
      · have told : system.lockExitSteps = [] := by
          simp only [lockExitSteps, running]
          exact if_neg due
        have same : system.continueTick (.exiting current rest) = system := by
          simp only [continueTick]
          exact if_neg due
        rw [told, same]
        refine ⟨?_, by simp, system.storageWorker.receives_refl, fun some => absurd rfl some⟩
        intro other is
        exact ⟨[], other, by simp, is⟩

theorem startTick_exitTurn (system : System State Result)
    (waiting : system.lockWorker.phase = .waiting)
    (asked : (system.lockWorker.collect system.clock).pending.now = true) :
    system.ExitTurn system.collected.startTick system.lockExitSteps := by
  have unfinished : Unfinished system.lockWorker.phase ([] : List (ExitStep State)) := by
    rw [waiting]
    exact .waiting
  have running : system.looked.lockWorker.phase =
      .running (.breaking []) (system.lockWorker.collect system.clock).pending.waiters := rfl
  have isWaiting : system.lockWorker.isWaiting = true := by simp [Worker.isWaiting, waiting]
  rw [startTick_looked]
  cases decision : (system.lock.tick system.clock).1 with
  | idle =>
      have told : system.lockExitSteps = [] := by simp [lockExitSteps, waiting, asked, decision]
      rw [told]
      exact exitTurn_idle system _ [] unfinished .waiting rfl (by simp)
        system.storageWorker.receives_refl
  | recheck instant =>
      have told : system.lockExitSteps = [] := by simp [lockExitSteps, waiting, asked, decision]
      have tells := system.looked.notifyLockAt_stretch instant
      rw [told]
      exact exitTurn_idle system _ [] unfinished .waiting tells.handed (by simp) tells.storageWorker
  | breakLock records =>
      have told : system.lockExitSteps = [] := by simp [lockExitSteps, waiting, asked, decision]
      obtain ⟨delivered, stretch, perm⟩ := system.looked.startNotifying_stretch records
      rw [told]
      apply concludeBreaks_exitTurn system _ _ _ (stretch.lockWorker.phase.trans running)
        delivered _ unfinished stretch.handed stretch.storageWorker
      intro parcel member
      obtain ⟨record, _, same⟩ := List.mem_map.mp (perm.subset member)
      subst same
      simp
  | exit records =>
      have told : system.lockExitSteps = .takes records :: system.looked.handOffSteps records := by
        simp only [lockExitSteps, waiting, asked, decision, ↓reduceIte]
      rw [told]
      obtain ⟨plays, exits, left, split, after⟩ :=
        system.looked.concludeExits_plays _ _ running [] records
      refine ⟨?_, plays.commits, plays.storage, ?_⟩
      · intro other is
        rw [waiting] at is
        cases is
        exact ⟨exits, left, split, after⟩
      · intro _
        rw [isWaiting]
        exact plays.lock

theorem lockTurn_exitTurn (system : System State Result) (unfinished : List (ExitStep State))
    (is : Unfinished system.lockWorker.phase unfinished) :
    system.ExitTurn system.lockTurn system.lockExitSteps := by
  cases phase : system.lockWorker.phase with
  | stopped =>
      rw [phase] at is
      cases is
  | running run taken =>
      have same : system.lockTurn = system.continueTick run := by simp only [lockTurn, phase]
      rw [same]
      exact system.continueTick_exitTurn run taken phase unfinished is
  | waiting =>
      by_cases asked : (system.lockWorker.collect system.clock).pending.now = true
      · have same : system.lockTurn = system.collected.startTick := by
          simp only [lockTurn, phase]
          exact if_pos asked
        rw [same]
        exact system.startTick_exitTurn phase asked
      · have same : system.lockTurn = system.collected := by
          simp only [lockTurn, phase]
          exact if_neg asked
        have told : system.lockExitSteps = [] := by simp [lockExitSteps, phase, asked]
        have none : Unfinished system.lockWorker.phase ([] : List (ExitStep State)) := by
          rw [phase]
          exact .waiting
        rw [same, told]
        exact exitTurn_idle system system.collected [] none none rfl (by simp)
          system.storageWorker.receives_refl

end System

end WoundWait
