import WoundWait.Proofs.LockIdling

/-!
A worker that has the lock to itself. Nobody is there to refuse it and no deadline has come, so it
gets whatever it asks for, and its record leaves for commit at the first look after the decision.
-/

namespace WoundWait

variable {State Result : Type}

namespace Lock

section

variable (lock : Lock State) (clock : Instant)

/-- Nobody is there to refuse it, whether it comes for the first time or again. -/
theorem enter_alone (request : EntryRequest State Result) (knownOrFresh : lock.KnownOrFresh request)
    (own : ∀ member ∈ lock.members, member.transaction = request.transaction)
    (known : lock.Absent request.transaction → request.counter = .zero) :
    ∃ entry, lock.enter clock request = .ok entry ∧ lock.Admits clock request entry ∧
      ¬ entry.lock.Absent request.transaction := by
  have agree : lock.CountsAgree request :=
    (lock.knownOrFresh_agree request knownOrFresh).mpr ⟨known, knownOrFresh.fresh⟩
  have unopposed : lock.Unopposed request := by
    intro rival rivals
    obtain ⟨present, other, _⟩ := (lock.mem_rivals request rival).mp rivals
    exact absurd (own rival present) other
  obtain ⟨entry, admitted, admits⟩ := lock.enter_admits clock request agree unopposed
  refine ⟨entry, admitted, admits, ?_⟩
  have named : request.transaction ∈ entry.lock.members.map fun member => member.transaction := by
    rw [lock.present_names clock request entry admits]
    exact List.mem_map.mpr
      ⟨_, lock.entrant_present clock request, lock.entrant_transaction clock request⟩
  obtain ⟨member, present, same⟩ := List.mem_map.mp named
  exact fun absent => absent member present same

variable (Result) in
/-- As long as nobody's deadline has come, a look waits for somebody or lets everybody leave. -/
theorem tick_unhurried (timed : lock.IsTimed)
    (unaborted : ∀ member ∈ lock.members, member.role ≠ .aborted)
    (early : ∀ member ∈ lock.members, clock < member.deadline) :
    ((∃ member ∈ lock.members, member.role.isExitReady = false) ∧
        (lock.perform clock (.tick : LockAction State Result)).members = lock.members) ∨
      ((lock.perform clock (.tick : LockAction State Result)).members = [] ∧
        ∀ member ∈ lock.members, member.role.isExitReady = true ∧
          (Outcome.commit, member) ∈ lock.handsOver clock (.tick : LockAction State Result)) := by
  have everybody : lock.remaining = lock.members :=
    List.filter_eq_self.mpr fun member present => by simpa using unaborted member present
  have looks := lock.tick_looks clock
  simp only [perform, handsOver]
  generalize (lock.tick clock).1 = decision at looks ⊢
  generalize (lock.tick clock).2 = after at looks ⊢
  cases looks with
  | empty nobody =>
      rw [everybody] at nobody
      exact .inr ⟨rfl, by simp [nobody]⟩
  | exit somebody ready =>
      rw [everybody] at ready ⊢
      refine .inr ⟨rfl, fun member present => ⟨ready member present, List.mem_map_of_mem ?_⟩⟩
      exact (lock.members.mergeSort_perm TransactionRecord.commitsBefore).symm.subset present
  | broken group present unready expired =>
      obtain ⟨member, stays, reached⟩ := lock.expired_late timed group present clock expired
      exact absurd (early member (everybody ▸ stays)) (Int.not_lt.mpr reached)
  | waiting group _ present unready | untimed group present unready =>
      rw [everybody] at unready
      exact .inl ⟨unready, (lock.members_purgeAborted group present).trans everybody⟩

end

end Lock

namespace WorkerPool

inductive Remains (pool : WorkerPool) (clock : Instant) (view : WorkerView)
    (member : TransactionRecord Ledger) :
    Prop where
  | resident (there : member ∈ pool.lock.members)
  | entered (mine : view.activity.transaction? = some member.transaction)
      (undecided : member.role = .notYetDetermined)
      (since : (∃ before ∈ pool.lock.members, before.transaction = member.transaction ∧
          before.role = .notYetDetermined ∧ before.deadline = member.deadline) ∨
        member.deadline = clock + pool.lock.options.lockAcquireTimeout)
  | decided (mine : view.activity.transaction? = some member.transaction)
      (ready : member.role.isExitReady = true)
      (leaves : member.deadline = clock + pool.lock.options.lockTimeout)

inductive Unhindered (pool : WorkerPool) : WorkerView → Prop where
  | seeking : Unhindered pool ⟨.seeking, none⟩
  | finished : Unhindered pool ⟨.finished, none⟩
  | admitted (attempt : Attempt) (seen : AccessCounter) (mode : AccessMode) (rest : List AccessMode)
      (balance : Int64) (resident : ¬ pool.lock.Absent attempt.transaction) :
      Unhindered pool ⟨.entering attempt seen mode rest, some (.entered (.ok balance))⟩
  | valid (attempt : Attempt) (seen : AccessCounter) (record : Option (TransactionRecord Ledger))
      (resident : ¬ pool.lock.Absent attempt.transaction) :
      Unhindered pool ⟨.validating attempt seen, some (.validated .ok record)⟩
  | leaving (view : WorkerView) (transaction : TransactionId)
      (awaits : view.activity.awaits? = some transaction)
      (ready : ∀ member ∈ pool.lock.members, member.role.isExitReady = true)
      (left : pool.lock.Absent transaction → transaction ∈ pool.committed) : Unhindered pool view

structure Undisturbed (pool : WorkerPool) (clock : Instant) (view : WorkerView) : Prop where
  own : ∀ member ∈ pool.lock.members, view.activity.transaction? = some member.transaction
  early : ∀ member ∈ pool.lock.members, clock < member.deadline
  unhindered : pool.Unhindered view

structure Solo (pool : WorkerPool) (counted : List TransactionId) (view : WorkerView) : Prop where
  sound : pool.Sound counted
  limit : pool.config.transactions ≤ 2 ^ 128
  positive : 1 ≤ pool.config.maxAttempts
  views : pool.views = [view]
  acquires : 0 < pool.lock.options.lockAcquireTimeout
  leaves : 0 < pool.lock.options.lockTimeout

theorem Solo.there {pool : WorkerPool} {counted : List TransactionId} {view : WorkerView}
    (solo : pool.Solo counted view) : view ∈ pool.views :=
  solo.views ▸ List.mem_singleton_self view

structure StaysUndisturbed (pool after : WorkerPool) (clock : Instant) (view : WorkerView) : Prop where
  restarts : after.tally.restarts = pool.tally.restarts
  keeps : (after.tally.abandoned = pool.tally.abandoned + 1 ∧ view.activity = .seeking) ∨
    (after.tally.abandoned = pool.tally.abandoned ∧ after.Undisturbed clock view)

section

variable {pool after : WorkerPool} {counted : List TransactionId} {clock : Instant} {number : Nat}
  {view view' : WorkerView} {action : Option LedgerAction}

theorem Turns.remains (turns : pool.Turns after clock number view view' action)
    (solo : pool.Solo counted view) (member : TransactionRecord Ledger)
    (present : member ∈ after.lock.members) : pool.Remains clock view' member := by
  by_cases mine : view'.activity.transaction? = some member.transaction
  swap
  · exact .resident (turns.others member present mine)
  have moves := turns.moves
  have lock := turns.lock
  generalize after.tally = tally at moves
  generalize after.begun = begun at moves
  cases moves with
  | enters _ attempt seen mode rest _ comes =>
      have knownOrFresh := comes.knownOrFresh solo.sound solo.limit turns.there mode
      have named : member.transaction = attempt.transaction := (Option.some.inj mine).symm
      rw [lock] at present
      have undecided := reception_undecided pool.lock _ knownOrFresh member present named
      simp only [Option.elim_some, Lock.perform] at present
      cases outcome : pool.lock.enter clock (attempt.request seen mode) with
      | error refusal =>
          rw [outcome] at present
          exact .resident present
      | ok entry =>
          rw [outcome] at present
          have admits := (pool.lock.enter_ok clock _ entry outcome).2.2
          refine .entered mine undecided ?_
          rcases pool.lock.enter_deadline clock solo.sound.kept.distinct _ entry admits member present with
            ⟨before, there, same, deadline⟩ | fresh
          · exact .inl ⟨before, there, same,
              (knownOrFresh.knows before there (same.trans named)).2, deadline⟩
          · exact .inr fresh
  | givesWay attempt seen mode rest transaction holder answer =>
      rw [lock] at present
      have absent : (pool.lock.perform clock (.rollback attempt.transaction false : LedgerAction)).Absent
          attempt.transaction := rollback_absent pool.lock attempt.transaction
      exact absurd (Option.some.inj mine).symm (absent member present)
  | decides attempt seen record role timestamp ready resident =>
      rw [lock] at present
      obtain ⟨decision, leaves⟩ := assigned_record pool.lock _ role timestamp resident ready member
        present (Option.some.inj mine).symm
      exact .decided mine (decision ▸ ready) leaves
  | _ =>
      rw [lock] at present
      exact .resident present

theorem moves_abandoned {tally : Tally} {begun : Nat}
    (moves : pool.Moves clock view view' tally begun action) :
    pool.tally.abandoned ≤ tally.abandoned := by
  cases moves with
  | abandons => exact Nat.le_succ _
  | _ => exact Nat.le_refl _

/-! Moves -/

/-- No deadline comes sooner than that of a record which was made or decided about just now. -/
theorem Turns.lasts (turns : pool.Turns after clock number view view' action)
    (solo : pool.Solo counted view) (first : Instant)
    (acquires : first ≤ clock + pool.lock.options.lockAcquireTimeout)
    (leaves : first ≤ clock + pool.lock.options.lockTimeout)
    (lasts : ∀ member ∈ pool.lock.members, first ≤ member.deadline) :
    ∀ member ∈ after.lock.members, first ≤ member.deadline := by
  intro member present
  cases turns.remains solo member present with
  | resident there => exact lasts member there
  | entered _ _ since =>
      rcases since with ⟨before, there, _, _, same⟩ | fresh
      · exact same ▸ lasts before there
      · exact fresh ▸ acquires
  | decided _ _ deadline => exact deadline ▸ leaves

theorem Turns.early (turns : pool.Turns after clock number view view' action)
    (solo : pool.Solo counted view) (early : ∀ member ∈ pool.lock.members, clock < member.deadline) :
    ∀ member ∈ after.lock.members, clock < member.deadline :=
  turns.lasts solo (clock + 1) (Int.add_le_add_left (Int.ofNat_le.mpr solo.acquires) clock)
    (Int.add_le_add_left (Int.ofNat_le.mpr solo.leaves) clock) early

theorem Undisturbed.congr (members : after.lock.members = pool.lock.members)
    (committed : ∀ transaction ∈ pool.committed, transaction ∈ after.committed)
    (undisturbed : pool.Undisturbed clock view) : after.Undisturbed clock view := by
  obtain ⟨own, early, unhindered⟩ := undisturbed
  have absent (transaction : TransactionId) :
      after.lock.Absent transaction ↔ pool.lock.Absent transaction := by
    rw [Lock.Absent, members, Lock.Absent]
  refine ⟨members ▸ own, members ▸ early, ?_⟩
  cases unhindered with
  | seeking => exact .seeking
  | finished => exact .finished
  | admitted attempt seen mode rest balance resident =>
      exact .admitted attempt seen mode rest balance fun gone => resident ((absent _).mp gone)
  | valid attempt seen record resident =>
      exact .valid attempt seen record fun gone => resident ((absent _).mp gone)
  | leaving _ transaction awaits ready left =>
      exact .leaving _ transaction awaits (members ▸ ready) fun gone =>
        committed transaction (left ((absent transaction).mp gone))

/-- Whoever is at no transaction has no record. -/
theorem Undisturbed.nobody (undisturbed : pool.Undisturbed clock view)
    (idle : view.activity.transaction? = none) : pool.lock.members = [] := by
  rw [List.eq_nil_iff_forall_not_mem]
  intro member present
  have mine := undisturbed.own member present
  rw [idle] at mine
  cases mine

theorem undisturbed_empty (empty : pool.lock.members = []) (unhindered : pool.Unhindered view) :
    pool.Undisturbed clock view := by
  refine ⟨?_, ?_, unhindered⟩ <;> simp [empty]

/-- Whoever comes into a lock that nobody else is in has it to itself. -/
theorem Turns.comesAlone {attempt : Attempt} {seen : AccessCounter} {mode : AccessMode}
    {rest : List AccessMode} {begun : Nat}
    (turns : pool.Turns after clock number view ⟨.entering attempt seen mode rest,
      some (pool.lock.reception clock (attempt.request seen mode))⟩
      (some (.enter (attempt.request seen mode))))
    (solo : pool.Solo counted view) (comes : pool.Comes view attempt seen begun)
    (own : ∀ member ∈ pool.lock.members, member.transaction = attempt.transaction)
    (known : pool.lock.Absent attempt.transaction → seen = .zero)
    (early : ∀ member ∈ pool.lock.members, clock < member.deadline) :
    after.Undisturbed clock ⟨.entering attempt seen mode rest,
      some (pool.lock.reception clock (attempt.request seen mode))⟩ := by
  have knownOrFresh := comes.knownOrFresh solo.sound solo.limit turns.there mode
  obtain ⟨entry, admitted, admits, resident⟩ := pool.lock.enter_alone clock _ knownOrFresh own known
  refine ⟨?_, turns.early solo early, ?_⟩
  · intro member present
    cases turns.remains solo member present with
    | resident there => exact congrArg some (own member there).symm
    | entered mine | decided mine => exact mine
  · obtain ⟨balance, result⟩ := attempt.request_operation seen mode
      (pool.lock.entrant clock (attempt.request seen mode))
    have answer : pool.lock.reception clock (attempt.request seen mode) = .entered (.ok balance) := by
      simp [Lock.reception, admitted, admits.result, result, Except.mapError]
    have lock : after.lock = entry.lock := by
      rw [turns.lock]
      simp only [Option.elim_some, Lock.perform, admitted]
    rw [answer]
    exact .admitted attempt seen mode rest balance (lock ▸ resident)

theorem assigned_resident (lock : Lock Ledger) (transaction : TransactionId) (role : CommitRole)
    (timestamp : Timestamp) (resident : (lock.find? transaction).isSome = true) :
    ¬ (lock.perform clock (.assignRole transaction role timestamp : LedgerAction)).Absent transaction := by
  obtain ⟨record, found⟩ := Option.isSome_iff_exists.mp resident
  obtain ⟨there, named⟩ := lock.find?_some transaction record found
  intro absent
  simp only [Lock.perform, resident, ↓reduceIte] at absent
  refine absent (record.assignRole role timestamp (clock + lock.options.lockTimeout)) ?_ named
  rw [Lock.members_assignRole]
  exact List.mem_map.mpr ⟨record, there, if_pos named⟩

theorem Turns.decidesAlone {attempt : Attempt} {role : CommitRole} {timestamp : Timestamp}
    {deadline : Instant}
    (turns : pool.Turns after clock number view ⟨.awaitingExit attempt deadline, none⟩
      (some (.assignRole attempt.transaction role timestamp)))
    (solo : pool.Solo counted view) (ready : role.isExitReady = true)
    (resident : (pool.lock.find? attempt.transaction).isSome = true)
    (own : ∀ member ∈ pool.lock.members, member.transaction = attempt.transaction)
    (early : ∀ member ∈ pool.lock.members, clock < member.deadline) :
    after.Undisturbed clock ⟨.awaitingExit attempt deadline, none⟩ := by
  have lock := turns.lock
  have mine : ∀ member ∈ after.lock.members, member.transaction = attempt.transaction := by
    intro member present
    cases turns.remains solo member present with
    | resident there => exact own member there
    | entered mine | decided mine => exact (Option.some.inj mine).symm
  refine ⟨fun member present => congrArg some (mine member present).symm, turns.early solo early,
    .leaving _ attempt.transaction rfl ?_ fun absent => ?_⟩
  · intro member present
    have named := mine member present
    rw [lock] at present
    rw [(assigned_record pool.lock _ role timestamp resident ready member present named).1]
    exact ready
  · exact absurd (lock ▸ absent)
      (assigned_resident pool.lock attempt.transaction role timestamp resident)

/-- A worker that has met with nothing has its record in the lock, or it has left for commit. -/
theorem Unhindered.unbroken {attempt : Attempt} (unhindered : pool.Unhindered view)
    (held : Held view attempt)
    (absent : pool.lock.Absent attempt.transaction) :
    view.activity.awaits? ≠ none ∧ attempt.transaction ∈ pool.committed := by
  cases unhindered with
  | leaving _ transaction awaits ready left =>
      cases held with
      | awaiting =>
          obtain rfl := Option.some.inj awaits
          exact ⟨by simp [awaits], left absent⟩
      | entering | validating => cases awaits
  | valid attempt seen record resident =>
      cases held
      exact absurd absent resident
  | seeking | finished | admitted => cases held

/-- The lock is the worker's own until it abandons its transaction. -/
theorem Turns.undisturbed (turns : pool.Turns after clock number view view' action)
    (solo : pool.Solo counted view) (undisturbed : pool.Undisturbed clock view) :
    pool.StaysUndisturbed after clock view' := by
  have early := undisturbed.early
  have own := undisturbed.own
  have unhindered := undisturbed.unhindered
  have moves := turns.moves
  have lock := turns.lock
  generalize tallied : after.tally = tally at moves
  generalize after.begun = begun at moves
  -- A move without an action leaves the lock as it is.
  have rests (restarts : tally.restarts = pool.tally.restarts)
      (abandoned : tally.abandoned = pool.tally.abandoned) (same : after.lock = pool.lock)
      (still : pool.Undisturbed clock view') : pool.StaysUndisturbed after clock view' :=
    ⟨tallied ▸ restarts, .inr ⟨tallied ▸ abandoned, still.congr (congrArg Lock.members same)
      fun _ there => turns.committed ▸ there⟩⟩
  have acts (restarts : tally.restarts = pool.tally.restarts)
      (abandoned : tally.abandoned = pool.tally.abandoned)
      (still : after.Undisturbed clock view') : pool.StaysUndisturbed after clock view' :=
    ⟨tallied ▸ restarts, .inr ⟨tallied ▸ abandoned, still⟩⟩
  cases moves with
  | stays => exact rests rfl rfl lock undisturbed
  | finishes => exact rests rfl rfl lock (undisturbed_empty (undisturbed.nobody rfl) .finished)
  | abandons => exact ⟨tallied ▸ rfl, .inl ⟨tallied ▸ rfl, rfl⟩⟩
  | enters _ attempt seen mode rest _ comes =>
      have alone := turns.comesAlone solo comes
      apply acts rfl rfl
      cases comes with
      | first =>
          have nobody := undisturbed.nobody rfl
          exact alone (by simp [nobody]) (fun _ => rfl) early
      | next attempt before _ _ balance =>
          cases unhindered with
          | admitted _ _ _ _ _ resident =>
              exact alone (fun member present => (Option.some.inj (own member present)).symm)
                (fun absent => absurd absent resident) early
          | leaving _ _ awaits => cases awaits
      | again =>
          cases unhindered with
          | leaving _ _ awaits => cases awaits
  | validates attempt seen mode balance status record stands =>
      cases unhindered with
      | admitted _ _ _ _ _ resident =>
          cases stands with
          | valid => exact rests rfl rfl lock ⟨own, early, .valid _ _ _ resident⟩
          | invalid _ _ _ absent => exact absurd absent resident
      | leaving _ _ awaits => cases awaits
  | givesWay | restarts | givesUp =>
      cases unhindered with
      | leaving _ _ awaits => cases awaits
  | breaks _ attempt inbox held absent uncommitted =>
      obtain ⟨awaits, left⟩ := unhindered.unbroken held absent
      exact absurd left (uncommitted awaits)
  | decides attempt seen record role timestamp ready resident =>
      exact acts rfl rfl (turns.decidesAlone solo ready resident
        (fun member present => (Option.some.inj (own member present)).symm) early)
  | polls attempt deadline inbox | looks attempt deadline inbox =>
      cases unhindered with
      | leaving _ transaction awaits ready left =>
          exact rests rfl rfl lock ⟨own, early, .leaving _ transaction awaits ready left⟩
  | commits attempt deadline left =>
      have nobody : pool.lock.members = [] := by
        rw [List.eq_nil_iff_forall_not_mem]
        intro member present
        exact solo.sound.gone _ left member present (Option.some.inj (own member present)).symm
      exact rests rfl rfl lock (undisturbed_empty nobody .seeking)

/-! Looks -/

/-- Whoever is handed over for commit counts as committed. -/
theorem Looks.committed (looks : pool.Looks after clock) :
    (∀ transaction ∈ pool.committed, transaction ∈ after.committed) ∧
      ∀ member, (Outcome.commit, member) ∈ pool.lock.handsOver clock (.tick : LedgerAction) →
        member.transaction ∈ after.committed := by
  obtain ⟨delivered, handed, perm⟩ := looks.handed
  constructor
  · intro transaction before
    rw [WorkerPool.committed, handed, List.filter_append, List.map_append]
    exact List.mem_append_right _ before
  · intro member leaves
    rw [WorkerPool.committed, handed]
    refine List.mem_map.mpr ⟨(.commit, member), List.mem_filter.mpr ⟨?_, rfl⟩, rfl⟩
    exact List.mem_append_left _ (perm.symm.subset leaves)

/-- A worker that is to leave has left after the look; until then nothing happens to it. -/
theorem Looks.undisturbed (looks : pool.Looks after clock) (sound : pool.Sound counted)
    (there : view ∈ pool.views) (undisturbed : pool.Undisturbed clock view) :
    after.Undisturbed clock view := by
  obtain ⟨still, leave⟩ := looks.committed
  have tick := pool.lock.tick_unhurried Int64 clock sound.kept.timed sound.unaborted undisturbed.early
  rw [← looks.lock] at tick
  rcases tick with ⟨_, same⟩ | ⟨nobody, ready⟩
  · exact undisturbed.congr same still
  apply undisturbed_empty nobody
  -- Whoever has not decided yet cannot have left.
  have undecided {transaction : TransactionId} {seen : AccessCounter}
      (knows : pool.lock.Knows transaction seen) : pool.lock.Absent transaction := by
    intro member present named
    have leaves := (ready member present).1
    rw [(knows member present named).2] at leaves
    cases leaves
  have stands := sound.stands view there
  cases undisturbed.unhindered with
  | seeking => exact .seeking
  | finished => exact .finished
  | admitted attempt seen mode rest balance resident =>
      cases stands with
      | admitted _ _ _ _ _ knows => exact absurd (undecided knows) resident
  | valid attempt seen record resident =>
      cases stands with
      | valid _ _ _ knows => exact absurd (undecided knows) resident
  | leaving _ transaction awaits _ left =>
      refine .leaving _ transaction awaits (by simp [nobody]) fun _ => ?_
      by_cases absent : pool.lock.Absent transaction
      · exact still transaction (left absent)
      · obtain ⟨member, present, named⟩ : ∃ member ∈ pool.lock.members,
            member.transaction = transaction := by
          simpa [Lock.Absent] using absent
        exact named ▸ leave member (ready member present).2

/-! Any event -/

/-- Where there is one worker, an event is its move, a look or nothing. -/
theorem PoolStep.alone {counts : List TransactionId} (poolStep : pool.PoolStep clock after counts)
    (lone : pool.views = [view]) (lone' : after.views = [view']) :
    (after = pool ∧ view' = view) ∨ (pool.Looks after clock ∧ view' = view) ∨
      ∃ action, pool.Turns after clock 0 view view' action := by
  cases poolStep with
  | rests => exact .inl ⟨rfl, List.singleton_inj.mp (lone'.symm.trans lone)⟩
  | looks _ looks =>
      have same := looks.views
      rw [lone, lone'] at same
      exact .inr (.inl ⟨looks, List.singleton_inj.mp same⟩)
  | turns _ number own own' action turns =>
      have there := turns.there
      rw [lone] at there
      obtain ⟨rfl, rfl⟩ : number = 0 ∧ view = own := by
        cases number with
        | zero => exact ⟨rfl, Option.some.inj there⟩
        | succ number => cases there
      have views := turns.views
      rw [lone, lone'] at views
      obtain rfl : view' = own' := List.singleton_inj.mp views
      exact .inr (.inr ⟨action, turns⟩)

theorem PoolStep.staysUndisturbed {counts : List TransactionId}
    (poolStep : pool.PoolStep clock after counts)
    (solo : pool.Solo counted view) (views' : after.views = [view'])
    (undisturbed : pool.Undisturbed clock view) : pool.StaysUndisturbed after clock view' := by
  rcases poolStep.alone solo.views views' with ⟨rfl, rfl⟩ | ⟨looks, rfl⟩ | ⟨action, turns⟩
  · exact ⟨rfl, .inr ⟨rfl, undisturbed⟩⟩
  · have still := looks.undisturbed solo.sound solo.there undisturbed
    exact ⟨congrArg Tally.restarts looks.tally, .inr ⟨congrArg Tally.abandoned looks.tally, still⟩⟩
  · exact turns.undisturbed solo undisturbed

theorem PoolStep.abandoned {counts : List TransactionId} (poolStep : pool.PoolStep clock after counts) :
    pool.tally.abandoned ≤ after.tally.abandoned := by
  cases poolStep with
  | rests => exact Nat.le_refl _
  | turns _ number own own' action turns => exact moves_abandoned turns.moves
  | looks _ looks => exact Nat.le_of_eq (congrArg Tally.abandoned looks.tally).symm

end

end WorkerPool

end WoundWait
