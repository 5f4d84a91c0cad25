import WoundWait.Proofs.TickTurns
import WoundWait.Proofs.GroupExits
import WoundWait.Proofs.LockWakeUps

/-!
The lock's worker looks at the group no more often than it is given reason to. It wakes itself once
for every run in which members have left, so no more often than records were ever made. Whoever
calls gives it reason for three looks at most: for the message, for a new record, and for a deadline
that is still to come. A look uses up one of these, and time passing makes no new ones.
-/

namespace WoundWait

variable {State Result : Type}

def Worker.busy {Run Waiter : Type} (worker : Worker Run Waiter) : Nat :=
  match worker.phase with
  | .running .. => 1
  | _ => 0

theorem Worker.busy_congr {Run Waiter : Type} (before after : Worker Run Waiter)
    (phase : after.phase = before.phase) : after.busy = before.busy := by
  simp only [busy, phase]

theorem Worker.waiting_busy {Run Waiter : Type} (worker : Worker Run Waiter)
    (waits : worker.phase = .waiting) : worker.busy = 0 := by
  simp only [busy, waits]

theorem Worker.running_busy {Run Waiter : Type} (worker : Worker Run Waiter) (run : Run)
    (taken : List Waiter) (runs : worker.phase = .running run taken) : worker.busy = 1 := by
  simp only [busy, runs]

/-- Who is resident has been admitted. -/
theorem Lock.perform_growth (lock : Lock State) (distinct : lock.HasDistinctNames) (clock : Instant)
    (action : LockAction State Result) :
    (lock.perform clock action).members.length + lock.admissions ≤
      lock.members.length + (lock.perform clock action).admissions := by
  have tally := (lock.perform_tally distinct clock action).length_eq
  simp only [List.length_append, List.length_map] at tally
  rcases lock.admits_cases clock action with ⟨none, same⟩ | ⟨transaction, one, more⟩
  · rw [none, List.length_nil] at tally
    omega
  · rw [one, List.length_singleton] at tally
    omega

namespace System

/-! How often the worker wakes itself -/

def selfWakes (system : System State Result) : Event State Result → List Instant
  | .turn .lock => List.replicate ((system.step (.turn .lock)).lockWorker.stats.notifications -
      system.lockWorker.stats.notifications) system.clock
  | _ => []

/-- A run that has handed something over costs a member, and wakes the worker once. -/
theorem lockTurn_selfWakes (system after : System State Result) (turn : system.TickTurn after) :
    system.lockWorker.stats.notifications ≤ after.lockWorker.stats.notifications ∧
    after.lockWorker.stats.notifications + after.lock.members.length + after.lockWorker.busy ≤
      system.lockWorker.stats.notifications + system.lock.members.length +
        system.lockWorker.busy := by
  have ends (worker : Worker (TickRun State) CallId) (concluded : Concluded worker after) :
      worker.stats.notifications ≤ after.lockWorker.stats.notifications ∧
      after.lockWorker.stats.notifications + after.lockWorker.busy =
        worker.stats.notifications + 1 := by
    cases concluded with
    | ended waits requests woken again =>
        rw [woken, after.lockWorker.waiting_busy waits]
        omega
    | lasts run taken runs requests silent =>
        rw [silent, after.lockWorker.running_busy run taken runs]
        omega
  cases turn with
  | stopped halted same =>
      rw [same]
      omega
  | rests waits unasked same =>
      rw [same]
      exact ⟨Nat.le_refl _, Nat.le_refl _⟩
  | goesOn run taken runs lock clock concluded =>
      have ended := ends _ concluded
      rw [lock, system.lockWorker.running_busy run taken runs]
      omega
  | looks waits asked lock clock follows =>
      have fewer := system.lock.tick_length system.clock
      rw [← lock] at fewer
      rw [system.lockWorker.waiting_busy waits]
      cases follows with
      | nothing decision rests requests silent again
      | rechecks instant decision rests requests silent again =>
          rw [silent, after.lockWorker.waiting_busy rests]
          omega
      | leaves left nobody concluded =>
          have ended := ends _ concluded
          have same : system.looked.lockWorker.stats.notifications =
            system.lockWorker.stats.notifications := rfl
          omega

theorem step_selfWakes (system : System State Result) (event : Event State Result)
    (named : system.Named) (distinct : system.lock.HasDistinctNames) :
    (system.selfWakes event).length + (system.step event).lock.members.length +
        (system.step event).lockWorker.busy + system.lock.admissions ≤
      system.lock.members.length + system.lockWorker.busy +
        (system.step event).lock.admissions := by
  have growth : (system.step event).lock.members.length + system.lock.admissions ≤
      system.lock.members.length + (system.step event).lock.admissions := by
    rw [system.step_lock event named]
    cases system.action? event with
    | none => exact Nat.le_refl _
    | some action => exact system.lock.perform_growth distinct system.clock action
  by_cases look : event = .turn .lock
  · subst look
    by_cases ready : .lock ∈ system.ready
    · have spent := lockTurn_selfWakes _ _ (system.resumed .lock).lockTurn_tickTurn
      have admissions : (system.step (.turn .lock)).lock.admissions = system.lock.admissions := by
        rw [system.step_lock (.turn .lock) named]
        simp only [action?, ready, ↓reduceIte, turnAction?, lookAction?]
        split
        · exact system.lock.looks_admissions _ _ _ (system.lock.tick_looks system.clock)
        · rfl
      have same : system.step (.turn .lock) = (system.resumed .lock).lockTurn :=
        step_turn_lock system ready
      have worker : (system.resumed .lock).lockWorker = system.lockWorker := rfl
      have lock : (system.resumed .lock).lock = system.lock := rfl
      rw [worker, lock] at spent
      rw [selfWakes, List.length_replicate, admissions, same]
      omega
    · rw [step_unready system .lock ready] at growth ⊢
      simp only [selfWakes, step_unready system .lock ready, Nat.sub_self, List.replicate_zero,
        List.length_nil]
      omega
  · have silent : system.selfWakes event = [] := by
      cases event with
      | turn task =>
          cases task with
          | lock => exact absurd rfl look
          | _ => rfl
      | _ => rfl
    have busy : (system.step event).lockWorker.busy ≤ system.lockWorker.busy := by
      by_cases halt : event = .stopLock
      · subst halt
        exact Nat.zero_le _
      · exact Nat.le_of_eq (Worker.busy_congr _ _ (system.step_phase event named look halt))
    rw [silent, List.length_nil]
    omega

theorem run_selfWakes (options : Options) (system : System State Result)
    (events : List (Event State Result)) (orderly : system.Orderly options) :
    (gather selfWakes system events).length + (system.run events).lock.members.length +
        (system.run events).lockWorker.busy + system.lock.admissions ≤
      system.lock.members.length + system.lockWorker.busy +
        (system.run events).lock.admissions := by
  induction events generalizing system with
  | nil =>
      show 0 + system.lock.members.length + system.lockWorker.busy + system.lock.admissions ≤ _
      rw [Nat.zero_add]
      exact Nat.le_refl _
  | cons event later ih =>
      have first := system.step_selfWakes event orderly.named orderly.kept.distinct
      have rest := ih (system.step event) (step_orderly options system event orderly)
      simp only [gather, List.length_append]
      change _ + (((system.step event).run later).lock.members.length) +
        ((system.step event).run later).lockWorker.busy + _ ≤
        _ + ((system.step event).run later).lock.admissions
      omega

end System

/-! What there is to look for -/

theorem earlier_cases (first : Option Instant) (second : Instant) :
    earlier first (some second) = first ∨ earlier first (some second) = some second := by
  cases first with
  | none => exact .inr rfl
  | some instant =>
      rcases Int.le_total instant second with sooner | later
      · exact .inl (congrArg some (Int.min_eq_left sooner))
      · exact .inr (congrArg some (Int.min_eq_right later))

def PendingWake.urgency (pending : PendingWake CallId) (clock : Instant) : Nat :=
  pending.now.toNat + (isDue clock pending.deferred).toNat

theorem PendingWake.urgency_asked (pending : PendingWake CallId) (clock : Instant)
    (asked : (pending.promote clock).now = true) : 1 ≤ pending.urgency clock := by
  unfold promote at asked
  unfold urgency
  split at asked
  · rename_i due
    simp [due]
  · simp [asked]

namespace Lock

def dues (lock : Lock State) : List Instant :=
  lock.members.map fun member => member.deadline

def horizon (lock : Lock State) (pending : PendingWake CallId) (clock : Instant) : Finset Instant :=
  (lock.dues ++ pending.deferred.toList).toFinset.filter fun instant => clock < instant

/-- The reasons that there are for looks at the group. -/
def outlook (lock : Lock State) (pending : PendingWake CallId) (clock : Instant) : Nat :=
  pending.urgency clock + (lock.horizon pending clock).card + lock.members.length

section

variable (lock : Lock State) (pending : PendingWake CallId) (clock : Instant)

theorem mem_horizon (instant : Instant) :
    instant ∈ lock.horizon pending clock ↔
      (instant ∈ lock.dues ∨ pending.deferred = some instant) ∧ clock < instant := by
  simp [horizon]

/-- Nothing new is to be seen if neither the members nor the requests name a new instant. -/
theorem horizon_card_le (after : Lock State) (later : PendingWake CallId)
    (dues : ∀ instant ∈ after.dues, instant ∈ lock.dues)
    (deferred : ∀ instant, later.deferred = some instant →
      instant ∈ lock.dues ∨ pending.deferred = some instant) :
    (after.horizon later clock).card ≤ (lock.horizon pending clock).card := by
  refine Finset.card_le_card fun instant there => ?_
  obtain ⟨named, early⟩ := (after.mem_horizon later clock instant).mp there
  refine (lock.mem_horizon pending clock instant).mpr ⟨?_, early⟩
  rcases named with due | armed
  · exact .inl (dues instant due)
  · exact deferred instant armed

theorem horizon_fresh (after : Lock State) (fresh : Instant)
    (dues : ∀ instant ∈ after.dues, instant ∈ lock.dues ∨ instant = fresh) :
    (after.horizon pending clock).card ≤ (lock.horizon pending clock).card + 1 := by
  have inside : after.horizon pending clock ⊆ insert fresh (lock.horizon pending clock) := by
    intro instant there
    obtain ⟨named, early⟩ := (after.mem_horizon pending clock instant).mp there
    rw [Finset.mem_insert, mem_horizon]
    rcases named with due | armed
    · exact (dues instant due).elim (fun kept => .inr ⟨.inl kept, early⟩) .inl
    · exact .inr ⟨.inr armed, early⟩
  exact Nat.le_trans (Finset.card_le_card inside) (Finset.card_insert_le _ _)

/-- A message is a reason for one look. It names no instant but that of a member. -/
theorem absorb_outlook (request : WakeRequest CallId)
    (known : ∀ instant, request = .deferred instant → instant ∈ lock.dues) :
    lock.outlook (pending.absorb request) clock ≤ lock.outlook pending clock + 1 := by
  have urgent : (pending.absorb request).urgency clock ≤ pending.urgency clock + 1 := by
    unfold PendingWake.urgency
    cases request with
    | immediate | flush =>
        simp only [PendingWake.absorb, Bool.toNat_true]
        omega
    | deferred instant =>
        simp only [PendingWake.absorb, earlier_isDue]
        have one := Bool.toNat_le (isDue clock pending.deferred || isDue clock (some instant))
        omega
  have seen : (lock.horizon (pending.absorb request) clock).card ≤
      (lock.horizon pending clock).card := by
    refine lock.horizon_card_le pending clock lock _ (fun _ due => due) ?_
    intro instant armed
    cases request with
    | immediate | flush => exact .inr armed
    | deferred other =>
        rcases earlier_cases pending.deferred other with kept | taken
        · exact .inr (kept.symm.trans armed)
        · obtain rfl : other = instant := Option.some.inj (taken.symm.trans armed)
          exact .inl (known other rfl)
  unfold outlook
  omega

/-- To be told of an instant that is still to come, and that was known, is no new reason. -/
theorem absorb_known (instant : Instant) (early : clock < instant) (known : instant ∈ lock.dues) :
    lock.outlook (pending.absorb (.deferred instant)) clock ≤ lock.outlook pending clock := by
  have urgent : (pending.absorb (.deferred instant)).urgency clock = pending.urgency clock := by
    have still : isDue clock (some instant) = false := by
      rw [isDue_some, decide_eq_false (Int.not_le.mpr early)]
    simp only [PendingWake.urgency, PendingWake.absorb, earlier_isDue, still, Bool.or_false]
  have seen : (lock.horizon (pending.absorb (.deferred instant)) clock).card ≤
      (lock.horizon pending clock).card := by
    refine lock.horizon_card_le pending clock lock _ (fun _ due => due) ?_
    intro other armed
    rcases earlier_cases pending.deferred instant with kept | taken
    · exact .inr (kept.symm.trans armed)
    · obtain rfl : instant = other := Option.some.inj (taken.symm.trans armed)
      exact .inl known
  unfold outlook
  omega

/-- Time that passes makes an instant to come an urgent one, or goes past it. -/
theorem outlook_pass (later : Instant) (forward : clock ≤ later) :
    lock.outlook pending later ≤ lock.outlook pending clock := by
  have shrinks : lock.horizon pending later ⊆ lock.horizon pending clock := by
    intro instant there
    obtain ⟨named, early⟩ := (lock.mem_horizon pending later instant).mp there
    exact (lock.mem_horizon pending clock instant).mpr ⟨named, Int.lt_of_le_of_lt forward early⟩
  unfold outlook PendingWake.urgency
  cases due : isDue clock pending.deferred with
  | true =>
      have card := Finset.card_le_card shrinks
      have one := Bool.toNat_le (isDue later pending.deferred)
      simp only [Bool.toNat_true]
      omega
  | false =>
      cases due' : isDue later pending.deferred with
      | false =>
          have card := Finset.card_le_card shrinks
          omega
      | true =>
          obtain ⟨instant, armed⟩ : ∃ instant, pending.deferred = some instant := by
            cases deferred : pending.deferred with
            | none => simp [deferred] at due'
            | some instant => exact ⟨instant, rfl⟩
          rw [armed, isDue_some, decide_eq_false_iff_not, Int.not_le] at due
          rw [armed, isDue_some, decide_eq_true_iff] at due'
          have fewer : lock.horizon pending later ⊂ lock.horizon pending clock := by
            refine ⟨shrinks, fun all => ?_⟩
            have there := all ((lock.mem_horizon pending clock instant).mpr ⟨.inr armed, due⟩)
            exact absurd ((lock.mem_horizon pending later instant).mp there).2 (Int.not_lt.mpr due')
          have card := Finset.card_lt_card fewer
          simp only [Bool.toNat_true, Bool.toNat_false]
          omega

end

def novelty : LockAction State Result → Nat
  | .enter _ => 2
  | .assignRole .. => 1
  | .validate .. | .rollback .. | .abortAll | .edit .. | .tick => 0

theorem enter_dues (lock : Lock State) (clock : Instant)
    (request : EntryRequest State Result) (entry : Entry State Result)
    (admits : lock.Admits clock request entry) :
    ∀ instant ∈ entry.lock.dues, instant ∈ lock.dues ∨
      instant = (lock.entrant clock request).deadline := by
  intro instant there
  obtain ⟨member, present, rfl⟩ := List.mem_map.mp there
  rw [admits.members] at present
  obtain ⟨before, found, rfl⟩ := List.mem_map.mp present
  split
  · exact .inr rfl
  · rename_i other
    rcases List.mem_append.mp found with stays | comes
    · exact .inl (List.mem_map_of_mem ((lock.stayers_sublist request).subset stays))
    · exact .inr (by rw [lock.mem_newcomers clock request before comes])

theorem assignRole_dues (lock : Lock State) (clock : Instant) (transaction : TransactionId)
    (role : CommitRole) (timestamp : Timestamp) :
    ∀ instant ∈ (lock.assignRole clock transaction role timestamp).dues, instant ∈ lock.dues ∨
      instant = clock + lock.options.lockTimeout := by
  intro instant there
  obtain ⟨member, present, rfl⟩ := List.mem_map.mp there
  rw [members_assignRole] at present
  obtain ⟨before, found, rfl⟩ := List.mem_map.mp present
  have kept : before.deadline ∈ lock.dues := List.mem_map_of_mem found
  split
  · simp only [TransactionRecord.assignRole]
    split
    · exact .inr rfl
    · exact .inl kept
  · exact .inl kept

theorem perform_outlook (lock : Lock State) (distinct : lock.HasDistinctNames) (clock : Instant)
    (action : LockAction State Result) (pending : PendingWake CallId) :
    (lock.perform clock action).outlook pending clock ≤ lock.outlook pending clock + novelty action := by
  unfold outlook
  have fewer (other : ¬ lock.IsAdmission clock action)
      (undecided : ∀ transaction role timestamp, action ≠ .assignRole transaction role timestamp) :
      ((lock.perform clock action).horizon pending clock).card ≤ (lock.horizon pending clock).card ∧
        (lock.perform clock action).members.length ≤ lock.members.length := by
    have sublist := lock.perform_sublist (fun record => record.deadline) distinct clock action other
      (fun _ _ _ _ same => absurd same (undecided _ _ _)) fun _ _ _ _ => rfl
    refine ⟨?_, by simpa using sublist.length_le⟩
    exact lock.horizon_card_le pending clock _ pending (fun _ due => sublist.subset due)
      fun _ armed => .inr armed
  cases action with
  | enter request =>
      cases outcome : lock.enter clock request with
      | error refusal =>
          simp only [perform, outcome]
          omega
      | ok entry =>
          have admits := (lock.enter_ok clock request entry outcome).2.2
          have seen := lock.horizon_fresh pending clock entry.lock _
            (lock.enter_dues clock request entry admits)
          have more := lock.perform_length_le distinct clock (.enter request)
          simp only [perform, outcome, novelty] at more ⊢
          omega
  | assignRole transaction role timestamp =>
      simp only [perform, novelty]
      split
      · have seen := lock.horizon_fresh pending clock _ _
          (lock.assignRole_dues clock transaction role timestamp)
        rw [members_assignRole, List.length_map]
        omega
      · omega
  | validate | rollback | abortAll | edit | tick =>
      have kept := fewer (by rintro ⟨request, entry, same, _⟩; cases same)
        (by intro transaction role timestamp same; cases same)
      simp only [novelty]
      omega

end Lock

namespace System

def prospects (system : System State Result) : Nat :=
  system.lock.outlook system.lockWorker.requests system.clock + system.lockWorker.busy

/-- A look that was asked for serves what was urgent. -/
theorem looked_outlook (system : System State Result)
    (asked : (system.lockWorker.collect system.clock).pending.now = true) :
    system.lock.outlook system.looked.lockWorker.requests system.clock + 1 ≤
      system.lock.outlook system.lockWorker.requests system.clock := by
  have urgent := system.lockWorker.requests.urgency_asked system.clock asked
  have early := system.lockWorker.collect_early system.clock
  have served : system.looked.lockWorker.requests.urgency system.clock = 0 := by
    show Bool.toNat false + Bool.toNat (isDue system.clock
      (system.lockWorker.collect system.clock).pending.deferred) = 0
    rw [early]
    rfl
  have seen : (system.lock.horizon system.looked.lockWorker.requests system.clock).card ≤
      (system.lock.horizon system.lockWorker.requests system.clock).card := by
    refine system.lock.horizon_card_le _ system.clock system.lock _ (fun _ due => due) ?_
    intro instant armed
    have promoted : (system.lockWorker.requests.promote system.clock).deferred = some instant := armed
    unfold PendingWake.promote at promoted
    split at promoted
    · cases promoted
    · exact .inr promoted
  unfold Lock.outlook
  omega

theorem tick_outlook (lock : Lock State) (clock : Instant) (pending : PendingWake CallId) :
    (lock.tick clock).2.outlook pending clock + lock.members.length ≤
      lock.outlook pending clock + (lock.tick clock).2.members.length := by
  have dues : ∀ instant ∈ (lock.tick clock).2.dues, instant ∈ lock.dues := by
    intro instant there
    obtain ⟨member, present, rfl⟩ := List.mem_map.mp there
    rcases lock.looks_members _ clock _ (lock.tick_looks clock) with nobody | stays
    · rw [nobody] at present
      cases present
    · rw [stays] at present
      exact List.mem_map_of_mem (List.mem_filter.mp present).1
  have seen := lock.horizon_card_le pending clock _ pending dues fun _ armed => .inr armed
  unfold Lock.outlook
  omega

/-- An instant at which the worker is to look again is somebody's deadline. -/
theorem recheck_due (lock : Lock State) (timed : lock.IsTimed) (clock instant : Instant)
    (decision : (lock.tick clock).1 = .recheck instant) : instant ∈ (lock.tick clock).2.dues := by
  have looks := lock.tick_looks clock
  rw [decision] at looks
  generalize (lock.tick clock).2 = after at looks ⊢
  cases looks with
  | waiting group deadline present unready early next =>
      obtain ⟨member, there, rfl⟩ :=
        group.purgeAborted.isTimed_mem (lock.purgeAborted_isTimed timed group present) instant next
      exact List.mem_map_of_mem there

/-- A look uses up a reason, and members who leave are good for another. -/
theorem lockTurn_prospects (system after : System State Result) (timed : system.lock.IsTimed)
    (turn : system.TickTurn after) :
    (system.lookAction?.elim 0 fun _ => 1) + after.prospects ≤ system.prospects := by
  have ends (worker : Worker (TickRun State) CallId) (clock : Instant)
      (concluded : Concluded worker after) :
      after.lock.outlook after.lockWorker.requests clock + after.lockWorker.busy ≤
        after.lock.outlook worker.requests clock + 1 := by
    cases concluded with
    | ended waits requests woken again =>
        rw [requests, after.lockWorker.waiting_busy waits]
        exact after.lock.absorb_outlook worker.requests clock .immediate fun _ same => by cases same
    | lasts run taken runs requests silent =>
        rw [requests, after.lockWorker.running_busy run taken runs]
  unfold prospects
  cases turn with
  | stopped halted same =>
      have unasked : system.lookAction? = none := by simp [lookAction?, Worker.isWaiting, halted]
      rw [unasked, same]
      exact Nat.le_of_eq (Nat.zero_add _)
  | rests waits unasked same =>
      have silent : system.lookAction? = none := by simp [lookAction?, unasked]
      have kept : (system.lockWorker.collect system.clock).requests = system.lockWorker.requests :=
        (system.lockWorker.requests.promote_idle system.clock unasked).1
      rw [silent, same]
      show 0 + (system.lock.outlook (system.lockWorker.collect system.clock).requests system.clock +
        (system.lockWorker.collect system.clock).busy) ≤ _
      rw [kept, Nat.zero_add]
      exact Nat.le_refl _
  | goesOn run taken runs lock clock concluded =>
      have ended := ends _ system.clock concluded
      have unasked : system.lookAction? = none := by simp [lookAction?, Worker.isWaiting, runs]
      rw [lock] at ended
      rw [unasked, lock, clock, system.lockWorker.running_busy run taken runs]
      show 0 + _ ≤ _
      omega
  | looks waits asked lock clock follows =>
      have look : system.lookAction? = some (.tick : LockAction State Result) := by
        simp [lookAction?, Worker.isWaiting, waits, asked]
      have served := system.looked_outlook asked
      have fewer := tick_outlook system.lock system.clock system.looked.lockWorker.requests
      have left := system.lock.tick_length system.clock
      rw [← lock] at fewer left
      rw [look, clock, system.lockWorker.waiting_busy waits]
      show 1 + _ ≤ _
      cases follows with
      | nothing decision rests requests silent again =>
          rw [requests, after.lockWorker.waiting_busy rests]
          omega
      | rechecks instant decision rests requests silent again =>
          have known := recheck_due system.lock timed system.clock instant decision
          rw [← lock] at known
          have told := after.lock.absorb_known system.looked.lockWorker.requests system.clock instant
            (system.lock.tick_recheck system.clock instant decision) known
          rw [requests, after.lockWorker.waiting_busy rests]
          omega
      | leaves gone nobody concluded =>
          have ended := ends _ system.clock concluded
          omega

/-! What everybody else adds -/

def mail (system : System State Result) : Event State Result → List (WakeRequest CallId)
  | .call call request => if system.isFree call then system.requestMail call request else []
  | .turn (.call call) =>
      if .call call ∈ system.ready then system.wakesOf (system.callAction? call) else []
  | .assignRole transaction role timestamp =>
      system.wakesOf (some (.assignRole transaction role timestamp))
  | .notifyLock => [.immediate]
  | _ => []

def isAsk : Event State Result → Bool
  | .call .. | .assignRole .. | .notifyLock => true
  | _ => false

theorem step_mail (system : System State Result) (event : Event State Result)
    (named : system.Named) (other : event ≠ .turn .lock) (alive : event ≠ .stopLock) :
    system.lockWorker.Receives (system.step event).lockWorker (system.mail event) := by
  have nothing : system.lockWorker.Receives system.lockWorker [] := system.lockWorker.receives_refl
  cases event with
  | call call request =>
      by_cases free : system.isFree call = true
      · simpa [step, mail, free] using (system.spawn_piece call request named free).lockWorker
      · simpa [step, mail, free] using nothing
  | turn task =>
      by_cases ready : task ∈ system.ready
      · have erased : (system.resumed task).Named := ⟨named.distinct, named.lock, named.storage⟩
        cases task with
        | storage =>
            rw [step_turn_storage system ready]
            exact (storageTurn_piece _ erased).lockWorker
        | lock => exact absurd rfl other
        | call call =>
            rw [step_turn_call system call ready]
            simp only [mail, ready, ↓reduceIte]
            exact (resume_piece _ call erased).lockWorker
      · rw [step_unready system task ready]
        cases task with
        | lock => exact absurd rfl other
        | storage => exact nothing
        | call call => simpa [mail, ready] using nothing
  | assignRole transaction role timestamp =>
      exact (system.assignRole_piece transaction role timestamp named).lockWorker
  | withRecord transaction operation =>
      exact (system.withRecord_piece transaction operation named).lockWorker
  | notifyLock => exact system.notifyLock_stretch.lockWorker
  | notifyStorage => exact system.notifyStorage_stretch.lockWorker
  | stopStorage => exact (system.stopStorage_piece named).lockWorker
  | stopLock => exact absurd rfl alive
  | _ => exact nothing

/-- A message is one at most, and names no instant but the deadline of a member. -/
theorem wakes_known (lock : Lock State) (distinct : lock.HasDistinctNames) (timed : lock.IsTimed)
    (clock : Instant) (action : LockAction State Result) :
    lock.wakes clock action = [] ∨ ∃ request, lock.wakes clock action = [request] ∧
      ∀ instant, request = .deferred instant → instant ∈ (lock.perform clock action).dues := by
  have asks (condition : Prop) [Decidable condition] :
      (if condition then [WakeRequest.immediate] else ([] : List (WakeRequest CallId))) = [] ∨
        ∃ request, (if condition then [WakeRequest.immediate] else
          ([] : List (WakeRequest CallId))) = [request] ∧
            ∀ instant, request = .deferred instant → instant ∈ (lock.perform clock action).dues := by
    split
    · exact .inr ⟨.immediate, rfl, fun _ same => by cases same⟩
    · exact .inl rfl
  cases action with
  | enter request =>
      cases outcome : lock.enter clock request with
      | error refusal => exact .inl (by simp [Lock.wakes, outcome])
      | ok entry =>
          have admits := (lock.enter_ok clock request entry outcome).2.2
          simp only [Lock.wakes, outcome, Lock.perform]
          split
          · cases next : entry.lock.group.bind LockGroup.deadline with
            | none => exact .inl rfl
            | some instant =>
                refine .inr ⟨.deferred instant, rfl, fun other same => ?_⟩
                cases same
                obtain ⟨group, present, deadline⟩ := Option.bind_eq_some_iff.mp next
                obtain ⟨member, there, rfl⟩ :=
                  group.isTimed_mem (admits.timed distinct timed group present) instant deadline
                exact List.mem_map_of_mem (by rw [entry.lock.members_some group present]; exact there)
          · exact .inr ⟨.immediate, rfl, fun _ same => by cases same⟩
  | validate transaction counter =>
      simp only [Lock.wakes]
      split
      · exact .inr ⟨.immediate, rfl, fun _ same => by cases same⟩
      · exact .inl rfl
  | rollback transaction notify => exact asks _
  | assignRole transaction role timestamp => exact asks _
  | abortAll =>
      simp only [Lock.wakes]
      split
      · exact .inl rfl
      · exact .inr ⟨.immediate, rfl, fun _ same => by cases same⟩
  | edit | tick => exact .inl rfl

theorem mail_known (system : System State Result) (event : Event State Result)
    (named : system.Named) (distinct : system.lock.HasDistinctNames) (timed : system.lock.IsTimed) :
    system.mail event = [] ∨ ∃ request, system.mail event = [request] ∧
      ∀ instant, request = .deferred instant → instant ∈ (system.step event).lock.dues := by
  rw [system.step_lock event named]
  have wakes (action : Option (LockAction State Result)) :
      system.wakesOf action = [] ∨ ∃ request, system.wakesOf action = [request] ∧
        ∀ instant, request = .deferred instant → instant ∈ (system.lockAfter action).dues := by
    cases action with
    | none => exact .inl rfl
    | some action => exact wakes_known system.lock distinct timed system.clock action
  cases event with
  | call call request =>
      by_cases free : system.isFree call = true
      · simp only [mail, action?, free, ↓reduceIte]
        cases request with
        | recover => exact .inr ⟨.flush call, rfl, fun _ same => by cases same⟩
        | _ => exact wakes _
      · exact .inl (by simp [mail, free])
  | turn task =>
      cases task with
      | call call =>
          by_cases ready : .call call ∈ system.ready
          · simp only [mail, action?, ready, ↓reduceIte]
            exact wakes _
          · exact .inl (by simp [mail, ready])
      | _ => exact .inl rfl
  | assignRole transaction role timestamp => exact wakes _
  | notifyLock => exact .inr ⟨.immediate, rfl, fun _ same => by cases same⟩
  | _ => exact .inl rfl

def enters (system : System State Result) (event : Event State Result) : Nat :=
  match system.action? event with
  | some (.enter _) => 1
  | _ => 0

def knocks : Event State Result → Nat
  | .call _ (.enter _) => 1
  | _ => 0

def burden (system : System State Result) (event : Event State Result) : Nat :=
  (system.action? event).elim 0 Lock.novelty + (system.mail event).length

/-- All that a call which goes on can do to the lock is to enter. -/
theorem callTurn_enters (system : System State Result) (call : CallId) (action : LockAction State Result)
    (does : system.action? (.turn (.call call)) = some action) : ∃ request, action = .enter request := by
  simp only [action?, turnAction?, callAction?] at does
  split at does
  · obtain ⟨pending, _, does⟩ := Option.bind_eq_some_iff.mp does
    cases stage : pending.stage with
    | atGate request =>
        simp only [stage, stageAction?] at does
        split at does <;> cases does
        exact ⟨request, rfl⟩
    | _ => simp [stage, stageAction?] at does
  · cases does

theorem callTurn_silent (system : System State Result) (call : CallId)
    (idle : system.action? (.turn (.call call)) = none) : system.mail (.turn (.call call)) = [] := by
  by_cases ready : .call call ∈ system.ready
  · have nothing : system.callAction? call = none := by simpa [action?, ready, turnAction?] using idle
    simp [mail, ready, nothing, wakesOf]
  · simp [mail, ready]

theorem burden_le (system : System State Result) (event : Event State Result)
    (named : system.Named) (distinct : system.lock.HasDistinctNames) (timed : system.lock.IsTimed)
    (other : event ≠ .turn .lock) :
    system.burden event + 3 * knocks event ≤
      3 * system.enters event + 3 * (isAsk event).toNat := by
  have short : (system.mail event).length ≤ 1 := by
    rcases system.mail_known event named distinct timed with none | ⟨_, one, _⟩
    · simp [none]
    · simp [one]
  unfold burden
  cases event with
  | call call request =>
      by_cases free : system.isFree call = true
      · cases request with
        | enter entry =>
            cases gate : system.queue.gateOpen with
            | true =>
                have enter : system.action? (.call call (.enter entry)) = some (.enter entry) := by
                  simp [action?, free, requestAction?, gate]
                simp only [enters, enter, Option.elim_some, Lock.novelty, knocks, isAsk,
                  Bool.toNat_true] at short ⊢
                omega
            | false =>
                have waits : system.action? (.call call (.enter entry)) = none := by
                  simp [action?, free, requestAction?, gate]
                have silent : system.mail (.call call (.enter entry)) = [] := by
                  simp [mail, free, requestMail, requestAction?, gate, wakesOf]
                simp [enters, waits, silent, knocks, isAsk]
        | _ =>
            simp only [action?, free, ↓reduceIte, requestAction?, Option.elim_some, Option.elim_none,
              Lock.novelty, knocks, isAsk, Bool.toNat_true] at short ⊢
            omega
      · have nothing : system.action? (.call call request) = none := by simp [action?, free]
        have silent : system.mail (.call call request) = [] := by simp [mail, free]
        rw [nothing, silent]
        cases request <;> simp [enters, nothing, knocks, isAsk]
  | turn task =>
      cases task with
      | lock => exact absurd rfl other
      | storage => simp [action?, turnAction?, mail, knocks]
      | call call =>
          cases does : system.action? (.turn (.call call)) with
          | none => simp [system.callTurn_silent call does, knocks]
          | some action =>
              obtain ⟨request, rfl⟩ := system.callTurn_enters call action does
              simp only [enters, does, Option.elim_some, Lock.novelty, knocks] at short ⊢
              omega
  | assignRole transaction role timestamp =>
      simp only [action?, Option.elim_some, Lock.novelty, knocks, isAsk, Bool.toNat_true]
      omega
  | withRecord transaction operation => simp [action?, Lock.novelty, mail, knocks]
  | notifyLock => simp [action?, mail, knocks, isAsk]
  | _ => simp [action?, mail, knocks]

/-- An action and a message are the only new reasons for looks. -/
theorem asked_prospects (system : System State Result) (event : Event State Result)
    (named : system.Named) (distinct : system.lock.HasDistinctNames) (timed : system.lock.IsTimed)
    (other : event ≠ .turn .lock) (alive : event ≠ .stopLock)
    (clock : (system.step event).clock = system.clock) :
    (system.step event).prospects ≤ system.prospects + system.burden event := by
  have receives := system.step_mail event named other alive
  have busy := Worker.busy_congr _ _ receives.phase
  have lock : (system.step event).lock.outlook system.lockWorker.requests system.clock ≤
      system.lock.outlook system.lockWorker.requests system.clock +
        (system.action? event).elim 0 Lock.novelty := by
    rw [system.step_lock event named]
    cases system.action? event with
    | none => exact Nat.le_refl _
    | some action => exact system.lock.perform_outlook distinct system.clock action _
  have told : (system.step event).lock.outlook (system.step event).lockWorker.requests system.clock ≤
      (system.step event).lock.outlook system.lockWorker.requests system.clock +
        (system.mail event).length := by
    cases halted : system.lockWorker.isStopped with
    | true =>
        have same : (system.step event).lockWorker.requests = system.lockWorker.requests := by
          rw [Worker.requests, Worker.requests, receives.pending, receives.mailbox, halted]
          simp
        rw [same]
        omega
    | false =>
        rw [receives.requests halted]
        rcases system.mail_known event named distinct timed with none | ⟨request, one, known⟩
        · simp [none]
        · rw [one]
          exact (system.step event).lock.absorb_outlook _ system.clock request known
  unfold prospects burden
  rw [clock, busy]
  omega

/-! Calls at the gate -/

def atGate (system : System State Result) : List CallId :=
  (system.calls.filter fun pending => pending.stage.entering?.isSome).map fun pending => pending.call

theorem mem_atGate (system : System State Result) (call : CallId) :
    call ∈ system.atGate ↔
      ∃ pending ∈ system.calls, pending.stage.entering?.isSome = true ∧ pending.call = call := by
  simp [atGate, and_assoc]

theorem atGate_nodup (system : System State Result) (named : system.Named) :
    system.atGate.Nodup :=
  (List.filter_sublist.map _).nodup named.distinct

theorem enterLock_entering? (system : System State Result) (request : EntryRequest State Result) :
    (system.enterLock request).2.entering? = none := by
  unfold enterLock
  split
  · rfl
  · exact notifyThen_entering? _ _ _

/-- Whoever comes to wait at the gate has just been made to enter, and has not entered. -/
theorem step_atGate (system : System State Result) (event : Event State Result)
    (named : system.Named) (call : CallId) (waits : call ∈ (system.step event).atGate) :
    call ∈ system.atGate ∨
      (∃ request, event = .call call (.enter request)) ∧ system.enters event = 0 := by
  obtain ⟨pending, present, entering, rfl⟩ := (mem_atGate _ call).mp waits
  obtain ⟨request, entry⟩ := Option.isSome_iff_exists.mp entering
  have inside : pending.stage.isFlushing = false := by
    cases stage : pending.stage <;> simp [stage, Stage.entering?, Stage.isFlushing] at entry ⊢
  rcases system.step_pending event named pending present inside with before | own
  · exact .inl ((mem_atGate system _).mpr ⟨pending, before, entering, rfl⟩)
  · cases system.progress?_origin event pending.call _ own with
    | begun request' event_eq free came =>
        have came' : (system.start pending.call request').2.entering? = some request := by
          rw [← came]
          exact entry
        obtain rfl := system.start_entering? pending.call request' request came'
        refine .inr ⟨⟨request, event_eq⟩, ?_⟩
        cases gate : system.queue.gateOpen with
        | false => simp [event_eq, enters, action?, free, requestAction?, gate]
        | true =>
            simp only [start, passGate, gate, ↓reduceIte, enterLock_entering?] at came'
            cases came'
    | resumed before event_eq ready found came =>
        obtain ⟨there, same⟩ := named?_some system.calls pending.call before found
        have stage : before.stage.entering? = some request := by
          refine proceed_entering? (system.resumed (.call pending.call)) before.stage request ?_
          show ((system.resumed (.call pending.call)).proceed before.stage).2.entering? = _
          exact (congrArg Progress.entering? came).symm.trans entry
        exact .inl ((mem_atGate system _).mpr ⟨before, there, by rw [stage]; rfl, same⟩)

/-- Whoever has had its turn and has not come to the gate does not wait there. -/
theorem own_atGate (system : System State Result) (event : Event State Result)
    (named : system.Named) (call : CallId) (outcome : Progress State Result)
    (own : system.progress? event = some (call, outcome)) (inside : outcome.entering? = none) :
    call ∉ (system.step event).atGate := by
  intro still
  obtain ⟨pending, present, entering, rfl⟩ := (mem_atGate _ call).mp still
  have place := system.step_own event _ outcome own
  rw [named?_of_mem _ (system.step_named event named).distinct pending present] at place
  cases outcome with
  | answered answer => cases place
  | waits stage =>
      have same : pending.stage = stage := congrArg PendingCall.stage (Option.some.inj place)
      rw [same, show stage.entering? = none from inside] at entering
      cases entering

/-- Whoever passes the gate after a wait waits there no more. -/
theorem entered_atGate (system : System State Result) (call : CallId) (named : system.Named)
    (request : EntryRequest State Result)
    (does : system.action? (.turn (.call call)) = some (.enter request)) :
    call ∈ system.atGate ∧ call ∉ (system.step (.turn (.call call))).atGate := by
  by_cases ready : .call call ∈ system.ready
  · simp only [action?, ready, ↓reduceIte, turnAction?, callAction?] at does
    obtain ⟨pending, found, does⟩ := Option.bind_eq_some_iff.mp does
    obtain ⟨there, same⟩ := named?_some system.calls call pending found
    cases stage : pending.stage with
    | atGate waiting =>
        simp only [stage, stageAction?] at does
        split at does
        · rename_i gate
          refine ⟨(mem_atGate system call).mpr ⟨pending, there, by rw [stage]; rfl, same⟩, ?_⟩
          refine system.own_atGate _ named call _ (system.progress?_turn call pending ready found) ?_
          simp only [stage, proceed, passGate, gate, ↓reduceIte]
          exact enterLock_entering? _ waiting
        · cases does
    | _ => simp [stage, stageAction?] at does
  · simp [action?, ready] at does

/-- Every entry that passes the gate was made once, just now or before a wait. -/
theorem step_gate_length (system : System State Result) (event : Event State Result)
    (named : system.Named) :
    (system.step event).atGate.length + system.enters event ≤
      system.atGate.length + knocks event := by
  have nodup := (system.step event).atGate_nodup (system.step_named event named)
  have comes := system.step_atGate event named
  -- Nobody comes to the gate, unless a call has been made to enter and has not entered.
  have others (apart : (∀ call request, event ≠ .call call (.enter request)) ∨
      system.enters event ≠ 0) : (system.step event).atGate ⊆ system.atGate := by
    intro call waits
    rcases comes call waits with before | ⟨⟨request, same⟩, none⟩
    · exact before
    · exact (apart.elim (fun other => other call request same) fun some => some none).elim
  by_cases stays : system.enters event = 0
  · rw [stays, Nat.add_zero]
    by_cases comer : ∃ call request, event = .call call (.enter request)
    · obtain ⟨call, request, rfl⟩ := comer
      have inside : (system.step (.call call (.enter request))).atGate ⊆ call :: system.atGate := by
        intro other waits
        rcases comes other waits with before | ⟨⟨_, same⟩, _⟩
        · exact List.mem_cons_of_mem call before
        · cases same
          exact List.mem_cons_self
      exact (List.subperm_of_subset nodup inside).length_le
    · have inside := others (.inl fun call request same => comer ⟨call, request, same⟩)
      exact Nat.le_trans (List.subperm_of_subset nodup inside).length_le (Nat.le_add_right _ _)
  · have inside := others (.inr stays)
    obtain ⟨request, does⟩ : ∃ request, system.action? event = some (.enter request) := by
      unfold enters at stays
      split at stays
      · rename_i request does
        exact ⟨request, does⟩
      · exact absurd rfl stays
    have one : system.enters event = 1 := by simp [enters, does]
    rw [one]
    cases event with
    | call call asked =>
        have entry : knocks (.call call asked : Event State Result) = 1 := by
          cases asked with
          | enter asked => rfl
          | _ =>
              simp only [action?, requestAction?] at does
              split at does <;> cases does
        rw [entry]
        exact Nat.add_le_add_right (List.subperm_of_subset nodup inside).length_le 1
    | turn task =>
        cases task with
        | call call =>
            obtain ⟨before, after⟩ := system.entered_atGate call named request does
            have whole : call :: (system.step (.turn (.call call))).atGate ⊆ system.atGate :=
              List.cons_subset.mpr ⟨before, inside⟩
            exact (List.subperm_of_subset (List.nodup_cons.mpr ⟨after, nodup⟩) whole).length_le
        | storage => simp [action?, turnAction?] at does
        | lock =>
            simp only [action?, turnAction?, lookAction?] at does
            split at does
            · split at does <;> cases does
            · cases does
    | _ => cases does

/-! Runs -/

def reserve (system : System State Result) : Nat :=
  system.prospects + 3 * system.atGate.length

theorem step_clock (system : System State Result) (event : Event State Result)
    (named : system.Named) (still : ∀ target, event ≠ .pass target) :
    (system.step event).clock = system.clock := by
  cases system.step_effect event named with
  | piece toLock mail piece => exact piece.clock
  | turn event_eq turn => exact turn.clock
  | passes target event_eq => exact absurd event_eq (still target)
  | stops event_eq =>
      subst event_eq
      rfl

/-- A turn of the lock's worker uses up what it looks for. -/
theorem lookTurn_prospects (system : System State Result) (timed : system.lock.IsTimed)
    (ready : .lock ∈ system.ready) :
    (system.looks (.turn .lock)).length + (system.step (.turn .lock)).prospects ≤
      system.prospects := by
  have spent := lockTurn_prospects (system.resumed .lock) _ timed (system.resumed .lock).lockTurn_tickTurn
  have same : system.step (.turn .lock) = (system.resumed .lock).lockTurn :=
    step_turn_lock system ready
  have count : (system.looks (.turn .lock)).length =
      ((system.resumed .lock).lookAction?.elim 0 fun _ => 1) := by
    have awake : (system.resumed .lock).lookAction? = system.lookAction? := rfl
    have action : system.action? (.turn .lock) = system.lookAction? := by
      simp only [action?, ready, ↓reduceIte, turnAction?]
    rw [awake]
    unfold looks
    rw [action]
    unfold lookAction?
    cases system.lockWorker.isWaiting &&
      (system.lockWorker.collect system.clock).pending.now <;> rfl
  rw [same, count]
  exact spent

theorem looks_other (system : System State Result) (event : Event State Result)
    (other : event ≠ .turn .lock) : (system.looks event).length = 0 := by
  unfold looks
  split
  · rename_i does
    exact absurd (system.action?_tick event does) other
  · rfl

theorem stopLock_prospects (system : System State Result) :
    (system.step .stopLock).prospects ≤ system.prospects := by
  have seen := system.lock.horizon_card_le system.lockWorker.requests system.clock system.lock
    PendingWake.none (fun _ due => due) fun _ armed => by cases armed
  unfold prospects Lock.outlook
  show 0 + (system.lock.horizon PendingWake.none system.clock).card +
    system.lock.members.length + 0 ≤ _
  omega

theorem pass_prospects (system : System State Result) (target : Instant) :
    (system.step (.pass target)).prospects ≤ system.prospects :=
  Nat.add_le_add_right (system.lock.outlook_pass system.lockWorker.requests system.clock
    (max system.clock target) (Int.le_max_left _ _)) _

/-- A look uses up a reason, and a call gives three at most. -/
theorem step_reserve (system : System State Result) (event : Event State Result)
    (named : system.Named) (distinct : system.lock.HasDistinctNames) (timed : system.lock.IsTimed) :
    (system.looks event).length + (system.step event).reserve ≤
      system.reserve + 3 * (isAsk event).toNat := by
  have gate := system.step_gate_length event named
  unfold reserve
  by_cases look : event = .turn .lock
  · subst look
    by_cases ready : .lock ∈ system.ready
    · have spent := system.lookTurn_prospects timed ready
      simp only [knocks] at gate
      omega
    · rw [step_unready system .lock ready]
      simp [looks, action?, ready]
  have silent := system.looks_other event look
  by_cases halt : event = .stopLock
  · subst halt
    have rest := system.stopLock_prospects
    simp only [knocks] at gate
    omega
  by_cases passes : ∃ target, event = .pass target
  · obtain ⟨target, rfl⟩ := passes
    have rest := system.pass_prospects target
    simp only [knocks] at gate
    omega
  have clock := system.step_clock event named fun target same => passes ⟨target, same⟩
  have asked := system.asked_prospects event named distinct timed look halt clock
  have burden := system.burden_le event named distinct timed look
  omega

theorem run_reserve (options : Options) (system : System State Result)
    (events : List (Event State Result)) (orderly : system.Orderly options)
    (timed : system.lock.IsTimed) :
    (gather looks system events).length + (system.run events).reserve ≤
      system.reserve + 3 * events.countP isAsk := by
  induction events generalizing system with
  | nil => exact Nat.le_of_eq (Nat.zero_add _)
  | cons event later ih =>
      have first := system.step_reserve event orderly.named orderly.kept.distinct timed
      have timed' : (system.step event).lock.IsTimed := by
        rw [system.step_lock event orderly.named]
        exact system.lockAfter_isTimed _ orderly.kept.distinct timed
      have rest := ih (system.step event) (step_orderly options system event orderly) timed'
      have split : (event :: later).countP isAsk = later.countP isAsk + (isAsk event).toNat := by
        rw [List.countP_cons]
        cases isAsk event <;> rfl
      rw [gather, List.length_append, split]
      change _ + ((system.step event).run later).reserve ≤ _
      omega

theorem run_admissions (system : System State Result) (events : List (Event State Result))
    (named : system.Named) :
    (system.run events).lock.admissions =
      system.lock.admissions + (gather admits system events).length := by
  induction events generalizing system with
  | nil => rfl
  | cons event later ih =>
      have rest := ih (system.step event) (system.step_named event named)
      have first : (system.step event).lock.admissions =
          system.lock.admissions + (system.admits event).length := by
        rw [system.step_lock event named, admits]
        cases system.action? event with
        | none => rfl
        | some action =>
            rcases system.lock.admits_cases system.clock action with ⟨none, same⟩ | ⟨_, one, more⟩
            · rw [Option.elim_some, none]
              exact same
            · rw [Option.elim_some, one]
              exact more
      rw [gather, List.length_append]
      change ((system.step event).run later).lock.admissions = _
      omega

def posed (system : System State Result) (clock : Instant) (mailbox : List (WakeRequest CallId)) :
    System State Result :=
  { system with
    clock
    queue := { system.queue with commitDelay := 0, abortDelay := 0, lag := fun _ _ => 0 }
    lockWorker := { system.lockWorker with mailbox }
    ready := Cooperative.enqueue system.ready .lock }

/-- How often the lock's worker looks at the group. -/
structure NeverSpins (options : Options) (events : List (Event State Result)) : Prop where
  -- Left alone at one instant, it begins two looks at most, and then waits for an instant that is still
  -- to come, if for any.
  settles : ∀ clock mailbox, ((new options).run events).lockWorker.phase ≠ .stopped →
    (∀ run taken, ((new options).run events).lockWorker.phase = .running run taken →
      run.IsOver clock) →
      (((new options).run events).posed clock mailbox).ComesToRest 2 4
  selfWakes : (gather selfWakes (new options) events).length ≤
    (admitted options events).length
  -- Each call, each decision and each message is good for three looks.
  looks : (gather looks (new options) events).length ≤ 3 * events.countP isAsk

/-- In whatever state a run leaves the lock, its worker comes to rest, and over the whole run it
does not look at the group more often than it is given reason to. -/
theorem run_looks_bounded (options : Options) (events : List (Event State Result)) :
    NeverSpins options events := by
  have named : (new options : System State Result).Named := new_named options
  have orderly : (new options : System State Result).Orderly options := run_orderly options []
  constructor
  case settles =>
    intro clock mailbox alive past
    apply alone_comesToRest
    · intro outcome record
      cases outcome <;> rfl
    · exact (mem_enqueue _ _ _).mpr (.inr rfl)
    · exact alive
    · exact past
  case selfWakes =>
    have spent := run_selfWakes options _ events orderly
    have made := run_admissions _ events named
    have nobody : (new options : System State Result).lock.members.length = 0 := rfl
    have rests : (new options : System State Result).lockWorker.busy = 0 := rfl
    show _ ≤ (gather admits (new options) events).length
    omega
  case looks =>
    have timed : (new options : System State Result).lock.IsTimed := fun _ none => by cases none
    have spent := run_reserve options _ events orderly timed
    have nothing : (new options : System State Result).reserve = 0 := rfl
    omega

/-- A member whose time is up, and a message: one look takes it out, and one finds nobody. -/
example :
    gather looks
      (((new ⟨8000, 10000, 20000, 1⟩ : System Nat Unit).run
        [.call 0 (.enter (.visit (.ofNat 1) ⟨1⟩ .zero .write))]).posed 10000 [.immediate])
      (alone Nat Unit 4) = [10000, 10000] := by
  cbv

end System

end WoundWait
