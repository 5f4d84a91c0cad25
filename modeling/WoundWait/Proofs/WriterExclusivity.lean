import WoundWait.Proofs.LockAction

/-!
Who may share a lock. No step checks that a writer is alone: it follows from who is in conflict with
whom, and from the accesses being counted together with the decision.
-/

namespace WoundWait

variable {State Result : Type}

namespace AccessCounter

theorem increment_pos (count : Nat) : 0 < increment count := by
  unfold increment
  split
  · exact Nat.succ_pos count
  · rename_i full
    simp only [limit, Word.halfLimit] at full
    omega

theorem record_total_pos (counter : AccessCounter) (mode : AccessMode) :
    0 < (counter.record mode).total := by
  cases mode with
  | read => exact Nat.add_pos_left (increment_pos counter.reads) _
  | write => exact Nat.add_pos_right _ (increment_pos counter.writes)

end AccessCounter

namespace Lock

structure WellKept (lock : Lock State) : Prop where
  distinct : lock.HasDistinctNames
  alone : ∀ member ∈ lock.members, member.hasWrites = true → lock.members = [member]
  bounded : lock.members.length ≤ max 1 lock.options.maxLockGroupSize
  counted : ∀ member ∈ lock.members, 0 < member.accesses.total
  timed : lock.IsTimed

theorem new_wellKept (options : Options) : (new options : Lock State).WellKept := by
  constructor
  case timed => exact fun _ none => by cases none
  all_goals simp [HasDistinctNames]

theorem singleton_of_length {Item : Type} (items : List Item) (item : Item)
    (present : item ∈ items) (short : items.length ≤ 1) : items = [item] := by
  match items, present, short with
  | [other], present, _ => rw [List.mem_singleton.mp present]

/-- Members whose names are distinct and all the same are one at most. -/
theorem length_le_one (members : List (TransactionRecord State)) (transaction : TransactionId)
    (distinct : (members.map fun member => member.transaction).Nodup)
    (same : ∀ member ∈ members, member.transaction = transaction) : members.length ≤ 1 := by
  match members, distinct, same with
  | [], _, _ => exact Nat.zero_le 1
  | [_], _, _ => exact Nat.le_refl 1
  | first :: second :: _, distinct, same =>
      have equal : first.transaction = second.transaction :=
        (same first (by simp)).trans (same second (by simp)).symm
      simp [equal] at distinct

theorem wellKept_of_sublist (lock after : Lock State) (kept : lock.WellKept)
    (options : after.options = lock.options)
    (fewer : (after.members.map TransactionRecord.credentials).Sublist
      (lock.members.map TransactionRecord.credentials))
    (timed : after.IsTimed) : after.WellKept := by
  have origin : ∀ member ∈ after.members, ∃ record ∈ lock.members,
      record.credentials = member.credentials := by
    intro member present
    exact List.mem_map.mp (fewer.subset (List.mem_map_of_mem present))
  constructor
  · have names := fewer.map Prod.fst
    rw [List.map_map, List.map_map] at names
    exact names.nodup kept.distinct
  · intro member present writes
    obtain ⟨record, resident, same⟩ := origin member present
    have accesses : record.accesses = member.accesses := congrArg (·.2.2.2) same
    have single := kept.alone record resident (by
      simpa [TransactionRecord.hasWrites, accesses] using writes)
    have short := fewer.length_le
    rw [single] at short
    exact singleton_of_length after.members member present (by simpa using short)
  · have shorter := fewer.length_le
    simp only [List.length_map] at shorter
    rw [options]
    exact Nat.le_trans shorter kept.bounded
  · intro member present
    obtain ⟨record, resident, same⟩ := origin member present
    have accesses : record.accesses = member.accesses := congrArg (·.2.2.2) same
    rw [← accesses]
    exact kept.counted record resident
  · exact timed

/-! Admissions -/

theorem present_names (lock : Lock State) (clock : Instant) (request : EntryRequest State Result)
    (entry : Entry State Result) (admits : lock.Admits clock request entry) :
    entry.lock.members.map (fun member => member.transaction) =
      (lock.present clock request).map fun member => member.transaction := by
  rw [admits.members, List.map_map]
  apply List.map_congr_left
  intro member _
  by_cases named : member.transaction = request.transaction
  · simp [named, TransactionRecord.settle, TransactionRecord.run, TransactionRecord.withState,
      TransactionRecord.countAccess, lock.entrant_transaction clock request]
  · simp [named]

theorem present_distinct (lock : Lock State) (clock : Instant)
    (request : EntryRequest State Result) (distinct : lock.HasDistinctNames) :
    ((lock.present clock request).map fun member => member.transaction).Nodup := by
  have stayers : ((lock.stayers request).map fun member => member.transaction).Nodup :=
    ((lock.stayers_sublist request).map _).nodup distinct
  unfold present newcomers
  cases found : lock.find? request.transaction with
  | some record => simpa using stayers
  | none =>
      simp only [Option.isSome_none, Bool.false_eq_true, ↓reduceIte, List.map_append,
        List.map_cons, List.map_nil, lock.entrant_transaction clock request]
      rw [← List.concat_eq_append, List.nodup_concat]
      refine ⟨?_, stayers⟩
      intro named
      obtain ⟨member, stays, same⟩ := List.mem_map.mp named
      have resident := (lock.stayers_sublist request).subset stays
      exact (lock.find?_none request.transaction).mp found member resident same

/-- After an entry the entrant has what its operation left of its record. -/
theorem admits_find? (lock : Lock State) (clock : Instant) (request : EntryRequest State Result)
    (entry : Entry State Result) (distinct : lock.HasDistinctNames)
    (admits : lock.Admits clock request entry) :
    entry.lock.find? request.transaction =
      some ((lock.entrant clock request).settle request.mode request.operation) := by
  have named := lock.entrant_transaction clock request
  have still : entry.lock.HasDistinctNames := by
    rw [HasDistinctNames, lock.present_names clock request entry admits]
    exact lock.present_distinct clock request distinct
  have resident : (lock.entrant clock request).settle request.mode request.operation ∈
      entry.lock.members := by
    rw [admits.members]
    exact List.mem_map.mpr ⟨_, lock.entrant_present clock request, if_pos named⟩
  have found := entry.lock.find?_of_mem still _ resident
  rwa [show ((lock.entrant clock request).settle request.mode request.operation).transaction =
    request.transaction from named] at found

/-- Everybody else is gone when there was a rival. -/
theorem present_named (lock : Lock State) (clock : Instant) (request : EntryRequest State Result)
    (somebody : ¬ (lock.rivals request).isEmpty = true) (member : TransactionRecord State)
    (there : member ∈ lock.present clock request) : member.transaction = request.transaction := by
  rcases List.mem_append.mp there with stays | comes
  · simp only [stayers, somebody, Bool.false_eq_true, ↓reduceIte, List.mem_filter,
      beq_iff_eq] at stays
    exact stays.2
  · rw [lock.mem_newcomers clock request member comes]
    exact lock.entrant_transaction clock request

/-- With a rival everybody else is gone; a newcomer to a full group meets rivals unless it is empty.
-/
theorem present_bounded (lock : Lock State) (clock : Instant) (request : EntryRequest State Result)
    (kept : lock.WellKept) :
    (lock.present clock request).length ≤ max 1 lock.options.maxLockGroupSize := by
  by_cases nobody : (lock.rivals request).isEmpty = true
  · have stayers : lock.stayers request = lock.members := by simp [stayers, nobody]
    cases found : lock.find? request.transaction with
    | some record =>
        simp only [present, newcomers, found, stayers, Option.isSome_some, ↓reduceIte,
          List.append_nil]
        exact kept.bounded
    | none =>
        have free : lock.members = [] ∨
            lock.members.length < lock.options.maxLockGroupSize := by
          by_cases full : lock.options.maxLockGroupSize ≤ lock.members.length
          · refine .inl (List.eq_nil_iff_forall_not_mem.mpr ?_)
            intro member resident
            have rival := (lock.mem_rivals request member).mpr ⟨resident,
              (lock.find?_none request.transaction).mp found member resident,
              .inr (.inr ⟨found, full⟩)⟩
            rw [List.isEmpty_iff.mp nobody] at rival
            cases rival
          · exact .inr (Nat.lt_of_not_le full)
        have length : (lock.present clock request).length = lock.members.length + 1 := by
          simp [present, newcomers, found, stayers]
        rw [length]
        rcases free with nobody | room
        · rw [nobody]
          exact Nat.le_max_left 1 _
        · exact Nat.le_trans room (Nat.le_max_right _ _)
  · have single := length_le_one _ request.transaction
      (lock.present_distinct clock request kept.distinct)
      (lock.present_named clock request nobody)
    exact Nat.le_trans single (Nat.le_max_left _ _)

/-- A writer is the only one present: a writing entrant has no one beside it, and a reader stays
beside nobody who wrote. -/
theorem present_alone (lock : Lock State) (clock : Instant) (request : EntryRequest State Result)
    (kept : lock.WellKept) (member : TransactionRecord State)
    (there : member ∈ lock.present clock request)
    (writes : member.hasWrites = true ∨
      member.transaction = request.transaction ∧ request.mode = .write) :
    (lock.present clock request).length ≤ 1 := by
  have distinct := lock.present_distinct clock request kept.distinct
  by_cases nobody : (lock.rivals request).isEmpty = true
  · have noRival : ∀ rival, rival ∉ lock.rivals request := by
      intro rival
      rw [List.isEmpty_iff.mp nobody]
      exact List.not_mem_nil
    have stayers : lock.stayers request = lock.members := by simp [stayers, nobody]
    by_cases mode : request.mode = .write
    · apply length_le_one _ request.transaction distinct
      intro other present
      rcases List.mem_append.mp present with stays | comes
      · rw [stayers] at stays
        by_contra different
        exact noRival other ((lock.mem_rivals request other).mpr ⟨stays, different, .inl mode⟩)
      · rw [lock.mem_newcomers clock request other comes]
        exact lock.entrant_transaction clock request
    · have wrote : member.hasWrites = true := by
        rcases writes with wrote | ⟨_, writing⟩
        · exact wrote
        · exact absurd writing mode
      rcases List.mem_append.mp there with stays | comes
      · rw [stayers] at stays
        have own : member.transaction = request.transaction := by
          by_contra different
          exact noRival member
            ((lock.mem_rivals request member).mpr ⟨stays, different, .inr (.inl wrote)⟩)
        have found := lock.find?_of_mem kept.distinct member stays
        rw [own] at found
        simp [present, newcomers, found, stayers, kept.alone member stays wrote]
      · have fresh := lock.mem_newcomers clock request member comes
        cases found : lock.find? request.transaction with
        | some record => simp [newcomers, found] at comes
        | none =>
            simp [fresh, entrant, found, TransactionRecord.fresh, TransactionRecord.hasWrites,
              AccessCounter.zero] at wrote
  · exact length_le_one _ request.transaction distinct
      (lock.present_named clock request nobody)

theorem admission_wellKept (lock : Lock State) (clock : Instant)
    (request : EntryRequest State Result) (entry : Entry State Result) (kept : lock.WellKept)
    (admits : lock.Admits clock request entry) : entry.lock.WellKept := by
  have names := lock.present_names clock request entry admits
  have distinct := lock.present_distinct clock request kept.distinct
  have length : entry.lock.members.length = (lock.present clock request).length := by
    simpa using congrArg List.length names
  have origin : ∀ member ∈ entry.lock.members, ∃ before ∈ lock.present clock request,
      (before.transaction = request.transaction ∧
        member = (lock.entrant clock request).settle request.mode request.operation) ∨
      (before.transaction ≠ request.transaction ∧ member = before) := by
    intro member present
    rw [admits.members] at present
    obtain ⟨before, there, same⟩ := List.mem_map.mp present
    by_cases named : before.transaction = request.transaction
    · exact ⟨before, there, .inl ⟨named, by simpa [named] using same.symm⟩⟩
    · exact ⟨before, there, .inr ⟨named, by simpa [named] using same.symm⟩⟩
  constructor
  · rw [HasDistinctNames, names]
    exact distinct
  · intro member present writes
    apply singleton_of_length entry.lock.members member present
    rw [length]
    obtain ⟨before, there, ⟨named, same⟩ | ⟨_, same⟩⟩ := origin member present
    · rw [same] at writes
      refine lock.present_alone clock request kept before there ?_
      have own := lock.present_entrant clock request kept.distinct before there named
      cases mode : request.mode with
      | write => exact .inr ⟨named, rfl⟩
      | read =>
          rw [mode] at writes
          rw [own]
          exact .inl writes
    · rw [same] at writes
      exact lock.present_alone clock request kept before there (.inl writes)
  · rw [length, admits.options]
    exact lock.present_bounded clock request kept
  · intro member present
    obtain ⟨before, there, ⟨_, same⟩ | ⟨different, same⟩⟩ := origin member present
    · rw [same]
      exact AccessCounter.record_total_pos _ _
    · rw [same]
      rcases List.mem_append.mp there with stays | comes
      · exact kept.counted before ((lock.stayers_sublist request).subset stays)
      · rw [lock.mem_newcomers clock request before comes] at different
        exact absurd (lock.entrant_transaction clock request) different
  · exact admits.timed kept.distinct kept.timed

theorem perform_wellKept (lock : Lock State) (clock : Instant) (action : LockAction State Result)
    (kept : lock.WellKept) : (lock.perform clock action).WellKept := by
  by_cases admission : lock.IsAdmission clock action
  · obtain ⟨request, entry, rfl, admitted⟩ := admission
    have admits := (lock.enter_ok clock request entry admitted).2.2
    simp only [perform, admitted]
    exact lock.admission_wellKept clock request entry kept admits
  · exact lock.wellKept_of_sublist _ kept (lock.perform_options clock action)
      (lock.perform_credentials kept.distinct clock action admission)
      (lock.perform_isTimed clock action kept.distinct kept.timed)

end Lock

end WoundWait
