import WoundWait.Proofs.WorkerPool

/-!
A worker's move keeps the workers apart. Moves without an action leave the lock as it is; the three
actions are an entry, a rollback and a decision, each in the name of the worker's own transaction.
-/

namespace WoundWait

namespace WorkerPool

structure Turns (pool after : WorkerPool) (clock : Instant) (number : Nat) (view view' : WorkerView)
    (action : Option LedgerAction) : Prop where
  there : pool.views[number]? = some view
  views : after.views = pool.views.set number view'
  alone : ∀ (place : Nat) (other : WorkerView), place ≠ number → pool.views[place]? = some other →
    other.isRefused = false
  config : after.config = pool.config
  moves : pool.Moves clock view view' after.tally after.begun action
  lock : after.lock = action.elim pool.lock (pool.lock.perform clock)
  handed : ∃ delivered, after.handed = delivered ++ pool.handed ∧
    delivered.Perm (action.elim [] (pool.lock.handsOver clock))

def counts (pool after : WorkerPool) (view : WorkerView) : List TransactionId :=
  if after.tally.committed = pool.tally.committed then [] else view.activity.transaction?.toList

theorem moves_begun (pool : WorkerPool) (clock : Instant) (view view' : WorkerView) (tally : Tally)
    (begun : Nat) (action : Option LedgerAction) (moves : pool.Moves clock view view' tally begun action) :
    pool.begun ≤ begun := by
  cases moves with
  | finishes => exact Nat.le_succ _
  | enters _ attempt seen mode rest _ comes =>
      cases comes with
      | first => exact Nat.le_succ _
      | next | again => exact Nat.le_refl _
  | _ => exact Nat.le_refl _

theorem moves_action (pool : WorkerPool) (clock : Instant) (view view' : WorkerView) (tally : Tally)
    (begun : Nat) (action : Option LedgerAction) (moves : pool.Moves clock view view' tally begun action) :
    action = none ∨ ∃ done, action = some done ∧ done ≠ .tick ∧
      done.subject? = view'.activity.transaction? := by
  cases moves with
  | enters | givesWay | decides => exact .inr ⟨_, rfl, by simp, rfl⟩
  | _ => exact .inl rfl

section

variable {pool after : WorkerPool} {counted : List TransactionId} {clock : Instant} {number : Nat}
  {view view' : WorkerView} {action : Option LedgerAction}

theorem Turns.committed (turns : pool.Turns after clock number view view' action) :
    after.committed = pool.committed := by
  obtain ⟨delivered, handed, perm⟩ := turns.handed
  have aborts : ∀ parcel ∈ delivered, parcel.1 ≠ .commit := by
    intro parcel member
    have out := perm.subset member
    rcases moves_action _ _ _ _ _ _ _ turns.moves with rfl | ⟨done, rfl, other, _⟩
    · cases out
    · exact pool.lock.handsOver_aborts clock done other parcel out
  have nothing : delivered.filter (fun parcel => parcel.1 == .commit) = [] := by
    rw [List.filter_eq_nil_iff]
    intro parcel member same
    exact aborts parcel member (by simpa using same)
  rw [WorkerPool.committed, WorkerPool.committed, handed, List.filter_append, nothing, List.nil_append]

theorem Turns.kept (turns : pool.Turns after clock number view view' action)
    (sound : pool.Sound counted) : after.lock.WellKept := by
  rw [turns.lock]
  cases action with
  | none => exact sound.kept
  | some done => exact pool.lock.perform_wellKept clock done sound.kept

theorem Turns.others (turns : pool.Turns after clock number view view' action) :
    ∀ member ∈ after.lock.members,
      view'.activity.transaction? ≠ some member.transaction → member ∈ pool.lock.members := by
  intro member present foreign
  rw [turns.lock] at present
  rcases moves_action _ _ _ _ _ _ _ turns.moves with rfl | ⟨done, rfl, _, subject⟩
  · exact present
  · exact pool.lock.perform_others clock done member present (subject ▸ foreign)

/-- A move that leaves the lock as it is. -/
theorem Turns.idle (turns : pool.Turns after clock number view view' none)
    (sound : pool.Sound counted) (stands : Stands pool.lock view')
    (same : ∀ attempt, view'.activity.attempt? = some attempt →
      view.activity.attempt? = some attempt)
    (frees : ∀ transaction, view.activity.awaits? = some transaction →
      view'.activity.awaits? = some transaction ∨
        (pool.lock.Absent transaction ∧
          (transaction ∈ pool.committed → transaction ∈ pool.counts after view)))
    (counts : pool.counts after view = [] ∨ ∃ transaction,
      pool.counts after view = [transaction] ∧ view.activity.awaits? = some transaction ∧
      transaction ∈ pool.committed ∧ view'.activity.transaction? = none) :
    pool.Fares after counted (counted ++ pool.counts after view) number view view' := by
  have lock : after.lock = pool.lock := turns.lock
  have present := List.mem_of_getElem? turns.there
  have mine : ∀ transaction, view'.activity.transaction? = some transaction →
      view.activity.transaction? = some transaction := by
    intro transaction theirs
    obtain ⟨attempt, at', named⟩ := Option.map_eq_some_iff.mp theirs
    exact Option.map_eq_some_iff.mpr ⟨attempt, same attempt at', named⟩
  have begun := moves_begun _ _ _ _ _ _ _ turns.moves
  refine ⟨turns.there, turns.views, turns.alone, turns.config, begun, turns.committed,
    turns.kept sound, turns.others, lock ▸ stands, ?_, fun transaction theirs =>
    .inl (mine transaction theirs), ?_, ?_, ?_, ?_⟩
  · intro attempt at'
    exact (sound.fits view present attempt (same attempt at')).later turns.config begun
  · rw [lock]
    intro member resident theirs
    refine ⟨sound.unaborted member resident, ?_⟩
    intro ready
    obtain ⟨other, there, awaits⟩ := sound.owned member resident ready
    obtain ⟨place, found⟩ := List.mem_iff_getElem?.mp there
    have own := sound.apart number place view other member.transaction turns.there found
      (mine _ theirs) (other.activity.awaits?_transaction? _ awaits)
    subst own
    rw [turns.there, Option.some.injEq] at found
    subst found
    rcases frees member.transaction awaits with still | ⟨absent, _⟩
    · exact still
    · exact absurd rfl (absent member resident)
  · rw [lock]
    exact fun transaction _ committed => sound.gone transaction committed
  · rw [lock]
    intro transaction awaits
    exact (frees transaction awaits).imp_right
      (And.imp_right fun counts committed => List.mem_append_right _ (counts committed))
  · rcases counts with none | ⟨transaction, some, rest⟩
    · exact .inl (by rw [none, List.append_nil])
    · exact .inr ⟨transaction, by rw [some], rest⟩

/-! Entries -/

/-- The answer to an entry tells the worker what it may rely on. -/
theorem reception_stands (lock : Lock Ledger) (attempt : Attempt) (seen : AccessCounter)
    (mode : AccessMode) (rest : List AccessMode)
    (knownOrFresh : lock.KnownOrFresh (attempt.request seen mode)) :
    Stands (lock.perform clock (.enter (attempt.request seen mode)))
      ⟨.entering attempt seen mode rest,
        some (lock.reception clock (attempt.request seen mode))⟩ := by
  have enters := lock.enter_knownOrFresh clock (attempt.request seen mode) knownOrFresh
  simp only [Lock.perform, Lock.reception]
  generalize lock.enter clock (attempt.request seen mode) = outcome at enters ⊢
  cases enters with
  | admitted entry admits knows _ =>
      obtain ⟨balance, result⟩ := attempt.request_operation seen mode
        (lock.entrant clock (attempt.request seen mode))
      simp only [admits.result, result]
      exact .admitted attempt seen mode rest balance knows
  | refused holder resident => exact .refused attempt seen mode rest _ holder resident
  | broken counted absent => exact .broken attempt seen mode rest _ _ counted absent

/-- Whatever has happened meanwhile, the entrant has no decision noted. -/
theorem reception_undecided (lock : Lock Ledger) (request : EntryRequest Ledger Int64)
    (knownOrFresh : lock.KnownOrFresh request) (member : TransactionRecord Ledger)
    (present : member ∈ (lock.perform clock (.enter request)).members)
    (named : member.transaction = request.transaction) : member.role = .notYetDetermined := by
  have enters := lock.enter_knownOrFresh clock request knownOrFresh
  simp only [Lock.perform] at present
  generalize lock.enter clock request = outcome at enters present
  cases enters with
  | admitted entry admits knows _ => exact (knows member present named).2
  | refused => exact (knownOrFresh.knows member present named).2
  | broken => exact (knownOrFresh.knows member present named).2

theorem Comes.knownOrFresh {attempt : Attempt} {seen : AccessCounter} {begun : Nat}
    (comes : pool.Comes view attempt seen begun) (sound : pool.Sound counted)
    (limit : pool.config.transactions ≤ 2 ^ 128) (there : pool.views[number]? = some view)
    (mode : AccessMode) : pool.lock.KnownOrFresh (attempt.request seen mode) := by
  have stands := sound.stands view (List.mem_of_getElem? there)
  cases comes with
  | first priority plan left somewhat =>
      have absent : pool.lock.Absent (.ofNat pool.begun) := by
        intro member present named
        exact pool.used_ofNat limit left (named ▸ sound.used member present)
      exact ⟨pool.lock.absent_knows _ _ absent, fun _ => absent⟩
  | next attempt seen before rest balance =>
      cases stands with
      | admitted _ _ _ _ _ knows =>
          exact ⟨knows, fun none => absurd none (seen.record_ne_zero before)⟩
  | again attempt inbox left =>
      cases stands with
      | backingOff _ _ absent => exact ⟨pool.lock.absent_knows _ _ absent, fun _ => absent⟩

theorem Comes.mine {attempt : Attempt} {seen : AccessCounter} {begun : Nat}
    (comes : pool.Comes view attempt seen begun)
    (limit : pool.config.transactions ≤ 2 ^ 128) :
    view.activity.awaits? = none ∧
      (view.activity.transaction? = some attempt.transaction ∨ ¬ pool.Used attempt.transaction) := by
  cases comes with
  | first priority plan left somewhat => exact ⟨rfl, .inr (pool.used_ofNat limit left)⟩
  | next | again => exact ⟨rfl, .inl rfl⟩

theorem Comes.fits {attempt : Attempt} {seen : AccessCounter} {begun : Nat}
    (comes : pool.Comes view attempt seen begun) (sound : pool.Sound counted)
    (there : pool.views[number]? = some view) (positive : 1 ≤ pool.config.maxAttempts)
    (config : after.config = pool.config) (begins : after.begun = begun) :
    after.Fits attempt := by
  have fits := sound.fits view (List.mem_of_getElem? there)
  cases comes with
  | first priority plan left somewhat =>
      refine ⟨⟨pool.begun, ?_, config ▸ left, rfl⟩, somewhat, Nat.le_refl 1, config ▸ positive⟩
      rw [begins]
      exact Nat.lt_succ_self _
  | next attempt seen mode rest balance =>
      exact (fits attempt rfl).later config (Nat.le_of_eq begins.symm)
  | again attempt inbox left =>
      have before := (fits attempt rfl).later config (Nat.le_of_eq begins.symm)
      exact ⟨before.used, before.planned, Nat.le_add_left 1 _, config ▸ left⟩

theorem Turns.enters {attempt : Attempt} {seen : AccessCounter} {mode : AccessMode}
    {rest : List AccessMode} {begun : Nat}
    (turns : pool.Turns after clock number view ⟨.entering attempt seen mode rest,
      some (pool.lock.reception clock (attempt.request seen mode))⟩
      (some (.enter (attempt.request seen mode))))
    (sound : pool.Sound counted) (limit : pool.config.transactions ≤ 2 ^ 128)
    (positive : 1 ≤ pool.config.maxAttempts) (comes : pool.Comes view attempt seen begun)
    (begins : after.begun = begun) (same : after.tally = pool.tally) :
    pool.Fares after counted (counted ++ pool.counts after view) number view
      ⟨.entering attempt seen mode rest,
        some (pool.lock.reception clock (attempt.request seen mode))⟩ := by
  have knownOrFresh := comes.knownOrFresh sound limit turns.there mode
  obtain ⟨unawaited, mine⟩ := comes.mine limit
  have lock : after.lock = pool.lock.perform clock (.enter (attempt.request seen mode)) := turns.lock
  have named {transaction : TransactionId}
      (theirs : (Activity.entering attempt seen mode rest).transaction? = some transaction) :
      transaction = attempt.transaction := (Option.some.inj theirs).symm
  refine ⟨turns.there, turns.views, turns.alone, turns.config, moves_begun _ _ _ _ _ _ _ turns.moves,
    turns.committed, turns.kept sound, turns.others, ?_, ?_, ?_, ?_, ?_, ?_, .inl ?_⟩
  · rw [lock]
    exact reception_stands pool.lock attempt seen mode rest knownOrFresh
  · intro other at'
    rw [← Option.some.inj at']
    exact comes.fits sound turns.there positive turns.config begins
  · intro transaction theirs
    rwa [named theirs]
  · intro member present theirs
    rw [lock] at present
    have undecided := reception_undecided pool.lock _ knownOrFresh member present (named theirs)
    simp [undecided, CommitRole.isExitReady]
  · intro transaction theirs committed
    rw [named theirs] at committed
    rcases mine with own | unused
    · exact absurd committed (sound.uncommitted number view turns.there _ own (by simp [unawaited]))
    · exact absurd (sound.committed_used _ committed) unused
  · intro transaction awaits
    rw [unawaited] at awaits
    cases awaits
  · rw [counts, same]
    simp

/-! All moves -/

theorem rollback_absent (lock : Lock Ledger) (transaction : TransactionId) :
    (lock.perform clock (.rollback transaction false : LedgerAction)).Absent transaction := by
  intro member present
  cases found : lock.find? transaction with
  | none =>
      simp only [Lock.perform, found] at present
      exact (lock.find?_none transaction).mp found member present
  | some record =>
      simp only [Lock.perform, found, Lock.members_remove] at present
      exact ((lock.mem_others transaction member).mp present).2

theorem assigned_record (lock : Lock Ledger) (transaction : TransactionId) (role : CommitRole)
    (timestamp : Timestamp) (resident : (lock.find? transaction).isSome = true)
    (ready : role.isExitReady = true) (member : TransactionRecord Ledger)
    (present : member ∈ (lock.perform clock
      (.assignRole transaction role timestamp : LedgerAction)).members)
    (named : member.transaction = transaction) :
    member.role = role ∧ member.deadline = clock + lock.options.lockTimeout := by
  simp only [Lock.perform, resident, ↓reduceIte, Lock.members_assignRole] at present
  obtain ⟨before, there, same⟩ := List.mem_map.mp present
  by_cases own : before.transaction = transaction
  · simp only [own, ↓reduceIte] at same
    subst same
    simp [TransactionRecord.assignRole, ready]
  · simp only [own, ↓reduceIte] at same
    exact absurd (same ▸ named) own

theorem Turns.givesWay {attempt : Attempt} {answer : LedgerAnswer}
    (turns : pool.Turns after clock number view ⟨.givingWay attempt, some answer⟩
      (some (.rollback attempt.transaction false)))
    (sound : pool.Sound counted) (mine : view.activity.attempt? = some attempt)
    (unawaited : view.activity.awaits? = none) (counts : pool.counts after view = []) :
    pool.Fares after counted (counted ++ pool.counts after view) number view
      ⟨.givingWay attempt, some answer⟩ := by
  have present := List.mem_of_getElem? turns.there
  have lock : after.lock =
      pool.lock.perform clock (.rollback attempt.transaction false : LedgerAction) := turns.lock
  have absent : after.lock.Absent attempt.transaction := by
    rw [lock]
    exact rollback_absent pool.lock attempt.transaction
  have begun := moves_begun _ _ _ _ _ _ _ turns.moves
  refine ⟨turns.there, turns.views, turns.alone, turns.config, begun, turns.committed,
    turns.kept sound, turns.others, .givingWay attempt answer absent, ?_, ?_, ?_, ?_, ?_, .inl ?_⟩
  · intro other at'
    rw [← Option.some.inj at']
    exact (sound.fits view present attempt mine).later turns.config begun
  · intro transaction theirs
    have own : view.activity.transaction? = some attempt.transaction := by
      simp [Activity.transaction?, mine]
    exact .inl (own.trans theirs)
  · intro member resident theirs
    exact absurd (Option.some.inj theirs).symm (absent member resident)
  · intro transaction theirs _
    rw [← Option.some.inj theirs]
    exact absent
  · intro transaction awaits
    rw [unawaited] at awaits
    cases awaits
  · rw [counts, List.append_nil]

theorem Turns.decides {attempt : Attempt} {role : CommitRole} {timestamp : Timestamp}
    (turns : pool.Turns after clock number view
      ⟨.awaitingExit attempt (clock + pool.lock.options.lockTimeout), none⟩
      (some (.assignRole attempt.transaction role timestamp)))
    (sound : pool.Sound counted) (mine : view.activity.attempt? = some attempt)
    (unawaited : view.activity.awaits? = none) (ready : role.isExitReady = true)
    (resident : (pool.lock.find? attempt.transaction).isSome = true)
    (counts : pool.counts after view = []) :
    pool.Fares after counted (counted ++ pool.counts after view) number view
      ⟨.awaitingExit attempt (clock + pool.lock.options.lockTimeout), none⟩ := by
  have present := List.mem_of_getElem? turns.there
  have own : view.activity.transaction? = some attempt.transaction := by
    simp [Activity.transaction?, mine]
  have lock : after.lock = pool.lock.perform clock
      (.assignRole attempt.transaction role timestamp : LedgerAction) := turns.lock
  have begun := moves_begun _ _ _ _ _ _ _ turns.moves
  refine ⟨turns.there, turns.views, turns.alone, turns.config, begun, turns.committed,
    turns.kept sound, turns.others, ?_, ?_, ?_, ?_, ?_, ?_, .inl ?_⟩
  · refine .awaiting attempt _ ?_
    rw [lock]
    intro member there named
    exact (assigned_record pool.lock _ role timestamp resident ready member there named).2
  · intro other at'
    rw [← Option.some.inj at']
    exact (sound.fits view present attempt mine).later turns.config begun
  · intro transaction theirs
    exact .inl (own.trans theirs)
  · intro member there theirs
    rw [lock] at there
    have role' := (assigned_record pool.lock _ role timestamp resident ready member there
      (Option.some.inj theirs).symm).1
    refine ⟨?_, fun _ => theirs⟩
    rw [role']
    intro aborted
    rw [aborted] at ready
    cases ready
  · intro transaction theirs committed
    rw [← Option.some.inj theirs] at committed
    exact absurd committed
      (sound.uncommitted number view turns.there _ own (by simp [unawaited]))
  · intro transaction awaits
    rw [unawaited] at awaits
    cases awaits
  · rw [counts, List.append_nil]

theorem Turns.fares (turns : pool.Turns after clock number view view' action)
    (sound : pool.Sound counted) (limit : pool.config.transactions ≤ 2 ^ 128)
    (positive : 1 ≤ pool.config.maxAttempts) :
    pool.Fares after counted (counted ++ pool.counts after view) number view view' := by
  have stands := sound.stands view (List.mem_of_getElem? turns.there)
  have moves := turns.moves
  -- Most moves count no commit.
  have uncounted (same : after.tally.committed = pool.tally.committed) :
      pool.counts after view = [] := by
    rw [counts, same]
    simp
  generalize tallied : after.tally = tally at moves
  generalize begins : after.begun = begun at moves
  cases moves with
  | stays =>
      exact turns.idle sound stands (fun _ at' => at') (fun _ awaits => .inl awaits)
        (.inl (uncounted (by rw [tallied])))
  | finishes =>
      exact turns.idle sound .finished (by rintro _ ⟨⟩) (by rintro _ ⟨⟩)
        (.inl (uncounted (by rw [tallied])))
  | enters _ attempt seen mode rest _ comes =>
      exact turns.enters sound limit positive comes begins tallied
  | abandons attempt seen mode balance =>
      exact turns.idle sound .seeking (by rintro _ ⟨⟩) (by rintro _ ⟨⟩)
        (.inl (uncounted (by rw [tallied])))
  | validates attempt seen mode balance status record relies =>
      exact turns.idle sound relies (fun _ at' => at') (by rintro _ ⟨⟩)
        (.inl (uncounted (by rw [tallied])))
  | givesWay attempt seen mode rest transaction holder answer =>
      exact turns.givesWay sound rfl rfl (uncounted (by rw [tallied]))
  | restarts attempt answer inbox =>
      cases stands with
      | givingWay _ _ absent =>
          exact turns.idle sound (.backingOff attempt inbox absent) (fun _ at' => at')
            (by rintro _ ⟨⟩) (.inl (uncounted (by rw [tallied])))
  | breaks _ attempt inbox held absent uncommitted =>
      have mine : view.activity.attempt? = some attempt := by cases held <;> rfl
      refine turns.idle sound (.backingOff attempt inbox absent) (fun _ at' => mine.trans at') ?_
        (.inl (uncounted (by rw [tallied])))
      intro transaction awaits
      have own : attempt.transaction = transaction := by
        have theirs := view.activity.awaits?_transaction? transaction awaits
        simpa [Activity.transaction?, mine] using theirs
      subst own
      exact .inr ⟨absent, fun committed =>
        absurd committed (uncommitted (by simp [awaits]))⟩
  | decides attempt seen record role timestamp ready resident =>
      exact turns.decides sound rfl rfl ready resident (uncounted (by rw [tallied]))
  | polls attempt deadline inbox =>
      cases stands with
      | awaiting _ _ leaves =>
          exact turns.idle sound (.polling attempt deadline inbox leaves) (fun _ at' => at')
            (fun _ awaits => .inl awaits) (.inl (uncounted (by rw [tallied])))
  | looks attempt deadline inbox =>
      cases stands with
      | polling _ _ _ leaves =>
          exact turns.idle sound (.awaiting attempt deadline leaves) (fun _ at' => at')
            (fun _ awaits => .inl awaits) (.inl (uncounted (by rw [tallied])))
  | commits attempt deadline left =>
      have counts : pool.counts after ⟨.awaitingExit attempt deadline, none⟩ =
          [attempt.transaction] := by
        rw [WorkerPool.counts, tallied]
        simp [Activity.transaction?, Activity.attempt?]
      refine turns.idle sound .seeking (by rintro _ ⟨⟩) ?_
        (.inr ⟨attempt.transaction, counts, rfl, left, rfl⟩)
      intro transaction awaits
      have own : attempt.transaction = transaction := Option.some.inj awaits
      subst own
      exact .inr ⟨sound.gone _ left, fun _ => by simp [counts]⟩
  | givesUp attempt inbox last =>
      exact turns.idle sound .seeking (by rintro _ ⟨⟩) (by rintro _ ⟨⟩)
        (.inl (uncounted (by rw [tallied])))

end

end WorkerPool

end WoundWait
