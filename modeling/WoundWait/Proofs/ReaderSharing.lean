import WoundWait.Proofs.RecordDeadlines
import WoundWait.Proofs.GateEvents
import WoundWait.Proofs.RemovalReports

/-!
Readers that share a lock. Entries that read, each for another transaction, can be let in one after
the other without anybody having to go if the lock has room for all of them, and then the order in
which they come makes no difference to them or to the group.
-/

namespace WoundWait

variable {State Result : Type}

/-- An operation that cannot tell how many records the lock made before. -/
def Blind (operation : Operation State Result) : Prop :=
  ∀ record serial, operation { record with serial } = operation record

namespace TransactionRecord

def unnumbered (record : TransactionRecord State) : TransactionRecord State :=
  { record with serial := 0 }

variable {operation : Operation State Result} {record other : TransactionRecord State}

theorem blind_same (blind : Blind operation) (same : record.unnumbered = other.unnumbered) :
    operation record = operation other := by
  have first : operation record.unnumbered = operation record := blind record 0
  have second : operation other.unnumbered = operation other := blind other 0
  rw [← first, ← second, same]

theorem settle_unnumbered (blind : Blind operation) (mode : AccessMode)
    (same : record.unnumbered = other.unnumbered) :
    (record.settle mode operation).unnumbered = (other.settle mode operation).unnumbered := by
  have settled (member : TransactionRecord State) : (member.settle mode operation).unnumbered =
      { member.unnumbered with
        state := (operation member).2
        accesses := member.unnumbered.accesses.record mode } := rfl
  rw [settled, settled, blind_same blind same, same]

end TransactionRecord

namespace LockGroup

structure Alike (first second : LockGroup State) : Prop where
  members : (first.members.map TransactionRecord.unnumbered).Perm
    (second.members.map TransactionRecord.unnumbered)
  fillCount : first.fillCount = second.fillCount
  deadline : first.deadline = second.deadline

theorem alike_of_isTimed (first second : LockGroup State) (timed : first.IsTimed)
    (timed' : second.IsTimed)
    (members : (first.members.map TransactionRecord.unnumbered).Perm
      (second.members.map TransactionRecord.unnumbered))
    (fillCount : first.fillCount = second.fillCount) : first.Alike second := by
  have deadlines : (first.members.map TransactionRecord.deadline).Perm
      (second.members.map TransactionRecord.deadline) := by
    have numberless := members.map TransactionRecord.deadline
    rwa [List.map_map, List.map_map] at numberless
  refine ⟨members, fillCount, Option.ext fun deadline => ?_⟩
  rw [first.isTimed_isLeast timed, second.isTimed_isLeast timed']
  have same : {instant | ∃ member ∈ first.members, member.deadline = instant} =
      {instant | ∃ member ∈ second.members, member.deadline = instant} := by
    ext instant
    simpa using deadlines.mem_iff (a := instant)
  rw [same]

end LockGroup

namespace Lock

def filled (lock : Lock State) : Nat :=
  (lock.group.getD .empty).fillCount

def strangers (lock : Lock State) (requests : List (EntryRequest State Result)) :
    List (EntryRequest State Result) :=
  requests.filter fun request => (lock.find? request.transaction).isNone

def UnwrittenFor (lock : Lock State) (request : EntryRequest State Result) : Prop :=
  ∀ member ∈ lock.members, member.transaction ≠ request.transaction → member.hasWrites = false

def HasRoomFor (lock : Lock State) (requests : List (EntryRequest State Result)) : Prop :=
  (lock.strangers requests).length = 0 ∨
    lock.members.length + (lock.strangers requests).length ≤ lock.options.maxLockGroupSize ∨
    (lock.members.length = 0 ∧ (lock.strangers requests).length = 1)

structure Welcomes (lock : Lock State) (requests : List (EntryRequest State Result)) : Prop where
  agrees : ∀ request ∈ requests, lock.CountsAgree request
  unwritten : ∀ request ∈ requests, lock.UnwrittenFor request
  room : lock.HasRoomFor requests

def visited (requests : List (EntryRequest State Result)) (member : TransactionRecord State) :
    TransactionRecord State :=
  match requests.find? fun request => request.transaction == member.transaction with
  | some request => member.settle request.mode request.operation
  | none => member

def shared (lock : Lock State) (clock : Instant) (requests : List (EntryRequest State Result)) :
    List (TransactionRecord State) :=
  (lock.members.map fun member => (visited requests member).unnumbered) ++
    (lock.strangers requests).map fun request =>
      ((lock.entrant clock request).settle request.mode request.operation).unnumbered

structure Shares (lock : Lock State) (clock : Instant) (requests : List (EntryRequest State Result))
    (after : Lock State) : Prop where
  options : after.options = lock.options
  admissions : after.admissions = lock.admissions + (lock.strangers requests).length
  present : after.group.isSome = (lock.group.isSome || !requests.isEmpty)
  filled : after.filled = lock.filled + (lock.strangers requests).length
  members : after.members.map TransactionRecord.unnumbered = lock.shared clock requests

theorem strangers_cons (lock : Lock State) (request : EntryRequest State Result)
    (rest : List (EntryRequest State Result)) :
    lock.strangers (request :: rest) = lock.strangers [request] ++ lock.strangers rest :=
  List.filter_append [request] rest

theorem strangers_length (lock : Lock State) (request : EntryRequest State Result)
    (rest : List (EntryRequest State Result)) :
    (lock.strangers (request :: rest)).length =
      (lock.strangers [request]).length + (lock.strangers rest).length := by
  rw [strangers_cons, List.length_append]

theorem strangers_single_le (lock : Lock State) (request : EntryRequest State Result) :
    (lock.strangers [request]).length ≤ 1 :=
  List.length_filter_le _ [request]

/-! One reader -/

theorem resolveConflict_fillCount (group remaining : LockGroup State) (transaction : TransactionId)
    (mode : AccessMode) (priority : Priority) (atCapacity : Bool)
    (wounded : List (TransactionRecord State))
    (done : resolveConflict group transaction mode priority atCapacity = .ok (remaining, wounded)) :
    remaining.fillCount = group.fillCount := by
  unfold resolveConflict at done
  split at done <;> cases done <;> rfl

theorem enter_filled (lock : Lock State) (clock : Instant) (request : EntryRequest State Result)
    (entry : Entry State Result) (admitted : lock.enter clock request = .ok entry) :
    entry.lock.group.isSome = true ∧
      entry.lock.filled = lock.filled + (lock.strangers [request]).length := by
  have granted (after : Lock State) (wounded : List (TransactionRecord State))
      (grants : lock.grant clock request = .ok (after, wounded)) :
      ∃ group, after.group = some group ∧
        group.fillCount = lock.filled + (lock.strangers [request]).length := by
    cases found : lock.find? request.transaction with
    | some record =>
        simp only [grant, found] at grants
        split at grants
        · cases grants
        · split at grants
          · cases grants
          · rename_i remaining _ resolved
            cases grants
            exact ⟨remaining, rfl, by
              simpa [strangers, found, filled] using
                resolveConflict_fillCount _ _ _ _ _ _ _ resolved⟩
    | none =>
        simp only [grant, found] at grants
        split at grants
        · split at grants
          · cases grants
          · rename_i remaining _ resolved
            cases grants
            refine ⟨_, rfl, ?_⟩
            simpa [strangers, found, filled, LockGroup.insert, LockGroup.refreshDeadline] using
              resolveConflict_fillCount _ _ _ _ _ _ _ resolved
        · cases grants
  unfold enter at admitted
  split at admitted
  · cases admitted
  · rename_i after wounded grants
    split at admitted
    · cases admitted
    · cases admitted
      obtain ⟨group, present, fill⟩ := granted after wounded grants
      constructor
      · simp [modify, present]
      · simpa [filled, modify, present, LockGroup.modify] using fill

theorem strangers_single (lock : Lock State) (clock : Instant) (request : EntryRequest State Result) :
    (lock.strangers [request]).length = (lock.newcomers clock request).length := by
  cases found : lock.find? request.transaction <;> simp [strangers, newcomers, found]

theorem rivals_nil (lock : Lock State) (request : EntryRequest State Result)
    (reads : request.mode = .read) :
    lock.rivals request = [] ↔ lock.UnwrittenFor request ∧ lock.HasRoomFor [request] := by
  have member_iff (member : TransactionRecord State) := lock.mem_rivals request member
  simp only [reads, reduceCtorEq, false_or] at member_iff
  rw [List.eq_nil_iff_forall_not_mem]
  constructor
  · intro nobody
    have free (member : TransactionRecord State) (resident : member ∈ lock.members)
        (other : member.transaction ≠ request.transaction) :=
      not_or.mp fun conflicts => nobody member ((member_iff member).mpr ⟨resident, other, conflicts⟩)
    refine ⟨fun member resident other => Bool.eq_false_iff.mpr (free member resident other).1, ?_⟩
    cases found : lock.find? request.transaction with
    | some record => exact .inl (by simp [strangers, found])
    | none =>
        right
        cases members : lock.members with
        | nil => exact .inr ⟨rfl, by simp [strangers, found]⟩
        | cons first later =>
            have resident : first ∈ lock.members := by simp [members]
            have other := (lock.find?_none request.transaction).mp found first resident
            have full := (free first resident other).2
            rw [members] at full
            simp only [found, true_and, Nat.not_le] at full
            exact .inl (by simpa [strangers, found] using full)
  · rintro ⟨unwritten, room⟩ member rival
    obtain ⟨resident, other, wrote | ⟨found, full⟩⟩ := (member_iff member).mp rival
    · cases wrote.symm.trans (unwritten member resident other)
    · have somebody : 0 < lock.members.length := List.length_pos_of_mem resident
      have one : (lock.strangers [request]).length = 1 := by simp [strangers, found]
      unfold HasRoomFor at room
      omega

/-- If nobody but one transaction has written, no other one has. -/
theorem entrant_unwritten (lock : Lock State) (clock : Instant) (request other : EntryRequest State Result)
    (apart : other.transaction ≠ request.transaction) (unwritten : lock.UnwrittenFor other) :
    (lock.entrant clock request).hasWrites = false := by
  cases found : lock.find? request.transaction with
  | none =>
      rw [entrant, found]
      rfl
  | some record =>
      obtain ⟨resident, named⟩ := lock.find?_some _ record found
      rw [entrant, found]
      exact unwritten record resident (named ▸ apart.symm)

/-- A reader comes in without anybody having to go just if there is room for it. -/
theorem enter_quiet_iff (lock : Lock State) (clock : Instant) (request : EntryRequest State Result)
    (reads : request.mode = .read) :
    (∃ entry, lock.enter clock request = .ok entry ∧ entry.wounded = []) ↔
      lock.Welcomes [request] := by
  have rivals := lock.rivals_nil request reads
  constructor
  · rintro ⟨entry, admitted, unharmed⟩
    obtain ⟨agree, _, admits⟩ := lock.enter_ok clock request entry admitted
    have nobody : lock.rivals request = [] := by
      by_contra somebody
      obtain ⟨rival, present⟩ := List.exists_mem_of_ne_nil _ somebody
      have wounds : lock.wounds request = lock.others request.transaction :=
        if_neg (by simpa using somebody)
      have gone := lock.rivals_subset_others request rival present
      rw [← wounds, ← admits.wounded, unharmed] at gone
      cases gone
    obtain ⟨unwritten, room⟩ := rivals.mp nobody
    exact ⟨by simpa using agree, by simpa using unwritten, room⟩
  · intro welcome
    have agree := welcome.agrees request List.mem_cons_self
    have nobody := rivals.mpr ⟨welcome.unwritten request List.mem_cons_self, welcome.room⟩
    have unopposed : lock.Unopposed request := by
      intro rival present
      rw [nobody] at present
      cases present
    obtain ⟨entry, admitted, admits⟩ := lock.enter_admits clock request agree unopposed
    refine ⟨entry, admitted, ?_⟩
    rw [admits.wounded, wounds, nobody]
    rfl

structure Joins (lock : Lock State) (clock : Instant) (request : EntryRequest State Result)
    (entry : Entry State Result) : Prop where
  admitted : lock.enter clock request = .ok entry
  unharmed : entry.wounded = []
  reads : request.mode = .read
  distinct : lock.HasDistinctNames

section

variable {lock : Lock State} {clock : Instant} {request : EntryRequest State Result}
  {entry : Entry State Result}

theorem Joins.admits (joins : lock.Joins clock request entry) : lock.Admits clock request entry :=
  (lock.enter_ok clock request entry joins.admitted).2.2

theorem Joins.welcome (joins : lock.Joins clock request entry) : lock.Welcomes [request] :=
  (lock.enter_quiet_iff clock request joins.reads).mp ⟨entry, joins.admitted, joins.unharmed⟩

theorem Joins.present (joins : lock.Joins clock request entry) :
    lock.present clock request = lock.members ++ lock.newcomers clock request := by
  have nobody := (lock.rivals_nil request joins.reads).mpr
    ⟨joins.welcome.unwritten request List.mem_cons_self, joins.welcome.room⟩
  simp [Lock.present, stayers, nobody]

theorem Joins.length (joins : lock.Joins clock request entry) :
    entry.lock.members.length = lock.members.length + (lock.strangers [request]).length := by
  rw [joins.admits.members, joins.present, List.length_map, List.length_append,
    lock.strangers_single clock request]

/-- The records of all other transactions are as they were. -/
theorem Joins.find?_other (joins : lock.Joins clock request entry) (transaction : TransactionId)
    (other : transaction ≠ request.transaction) :
    entry.lock.find? transaction = lock.find? transaction := by
  have named := lock.entrant_transaction clock request
  let set (member : TransactionRecord State) : TransactionRecord State :=
    if member.transaction = request.transaction then
      (lock.entrant clock request).settle request.mode request.operation
    else member
  have kept (member : TransactionRecord State) : (set member).transaction = member.transaction := by
    by_cases own : member.transaction = request.transaction
    · simp only [set, own, ↓reduceIte]
      exact named
    · simp only [set, own, ↓reduceIte]
  have newcomer : (lock.newcomers clock request).find?
      (fun member => member.transaction == transaction) = none := by
    rw [List.find?_eq_none]
    intro member comes
    rw [lock.mem_newcomers clock request member comes, named]
    simpa using other.symm
  rw [find?_members, joins.admits.members, joins.present, List.find?_map,
    show ((fun member : TransactionRecord State => member.transaction == transaction) ∘ set) =
      fun member => member.transaction == transaction from funext fun member => by simp [kept],
    List.find?_append, newcomer, Option.or_none, ← find?_members]
  cases found : lock.find? transaction with
  | none => rfl
  | some member =>
      have own := (lock.find?_some transaction member found).2
      simp [own, other]

theorem Joins.strangers (joins : lock.Joins clock request entry)
    (rest : List (EntryRequest State Result))
    (apart : ∀ other ∈ rest, other.transaction ≠ request.transaction) :
    entry.lock.strangers rest = lock.strangers rest := by
  apply List.filter_congr
  intro other later
  rw [joins.find?_other other.transaction (apart other later)]

theorem Joins.entrant (joins : lock.Joins clock request entry) (other : EntryRequest State Result)
    (apart : other.transaction ≠ request.transaction) :
    (entry.lock.entrant clock other).unnumbered = (lock.entrant clock other).unnumbered := by
  rw [Lock.entrant, Lock.entrant, joins.find?_other other.transaction apart, joins.admits.options]
  cases lock.find? other.transaction <;> rfl

/-- A reader leaves no new writes. -/
theorem Joins.origin (joins : lock.Joins clock request entry) (member : TransactionRecord State)
    (present : member ∈ entry.lock.members) :
    (member.transaction = request.transaction ∧
        member.hasWrites = (lock.entrant clock request).hasWrites) ∨
      (member.transaction ≠ request.transaction ∧ member ∈ lock.members) := by
  rw [joins.admits.members, joins.present] at present
  obtain ⟨before, there, same⟩ := List.mem_map.mp present
  by_cases own : before.transaction = request.transaction
  · rw [if_pos own] at same
    subst same
    refine .inl ⟨lock.entrant_transaction clock request, ?_⟩
    rw [joins.reads]
    rfl
  · rw [if_neg own] at same
    subst same
    rcases List.mem_append.mp there with resident | comes
    · exact .inr ⟨own, resident⟩
    · rw [lock.mem_newcomers clock request before comes] at own
      exact absurd (lock.entrant_transaction clock request) own

theorem Joins.stays (joins : lock.Joins clock request entry) (member : TransactionRecord State)
    (resident : member ∈ lock.members) :
    ∃ after ∈ entry.lock.members, after.transaction = member.transaction ∧
      after.hasWrites = member.hasWrites := by
  have there : member ∈ lock.present clock request := by
    rw [joins.present]
    exact List.mem_append_left _ resident
  refine ⟨_, joins.admits.members ▸ List.mem_map_of_mem there, ?_⟩
  by_cases own : member.transaction = request.transaction
  · rw [if_pos own, ← lock.present_entrant clock request joins.distinct member there own, joins.reads]
    exact ⟨rfl, rfl⟩
  · rw [if_neg own]
    exact ⟨rfl, rfl⟩

/-! Several readers -/

theorem Welcomes.head {rest : List (EntryRequest State Result)}
    (welcome : lock.Welcomes (request :: rest)) : lock.Welcomes [request] := by
  have room := welcome.room
  have cons := lock.strangers_length request rest
  have single := lock.strangers_single_le request
  have first (other : EntryRequest State Result) (only : other ∈ [request]) :
      other ∈ request :: rest :=
    List.mem_cons.mpr (.inl (List.mem_singleton.mp only))
  refine ⟨?_, ?_, ?_⟩
  · exact fun other only => welcome.agrees other (first other only)
  · exact fun other only => welcome.unwritten other (first other only)
  · unfold HasRoomFor at room ⊢
    omega

theorem Joins.agrees_iff (joins : lock.Joins clock request entry) (other : EntryRequest State Result)
    (apart : other.transaction ≠ request.transaction) :
    entry.lock.CountsAgree other ↔ lock.CountsAgree other := by
  rw [CountsAgree, CountsAgree, joins.find?_other other.transaction apart]

theorem Joins.unwritten_iff (joins : lock.Joins clock request entry) (other : EntryRequest State Result)
    (apart : other.transaction ≠ request.transaction) :
    entry.lock.UnwrittenFor other ↔ lock.UnwrittenFor other := by
  constructor
  · intro unwritten member resident different
    obtain ⟨after, there, named, writes⟩ := joins.stays member resident
    rw [← writes]
    exact unwritten after there (named ▸ different)
  · intro unwritten member present different
    rcases joins.origin member present with ⟨own, writes⟩ | ⟨_, resident⟩
    · rw [writes]
      exact lock.entrant_unwritten clock request other apart unwritten
    · exact unwritten member resident different

theorem Joins.room_iff (joins : lock.Joins clock request entry)
    (rest : List (EntryRequest State Result))
    (apart : ∀ other ∈ rest, other.transaction ≠ request.transaction) :
    entry.lock.HasRoomFor rest ↔ lock.HasRoomFor (request :: rest) := by
  have room := joins.welcome.room
  have length := joins.length
  have cons := lock.strangers_length request rest
  have single := lock.strangers_single_le request
  -- A lock that somebody has joined is not empty.
  have somebody : 0 < entry.lock.members.length := by
    have found := lock.admits_find? clock request entry joins.distinct joins.admits
    exact List.length_pos_of_mem (entry.lock.find?_some _ _ found).1
  unfold HasRoomFor at room ⊢
  rw [joins.strangers rest apart, joins.admits.options]
  omega

/-- There is room for all just if there is room for the first and then for the others. -/
theorem Joins.welcomes_iff (joins : lock.Joins clock request entry)
    (rest : List (EntryRequest State Result))
    (apart : ∀ other ∈ rest, other.transaction ≠ request.transaction) :
    entry.lock.Welcomes rest ↔ lock.Welcomes (request :: rest) := by
  have first := joins.welcome
  constructor
  · intro welcome
    refine ⟨?_, ?_, (joins.room_iff rest apart).mp welcome.room⟩
    · rw [List.forall_mem_cons]
      exact ⟨first.agrees request List.mem_cons_self, fun other later =>
        (joins.agrees_iff other (apart other later)).mp (welcome.agrees other later)⟩
    · rw [List.forall_mem_cons]
      exact ⟨first.unwritten request List.mem_cons_self, fun other later =>
        (joins.unwritten_iff other (apart other later)).mp (welcome.unwritten other later)⟩
  · intro welcome
    refine ⟨?_, ?_, (joins.room_iff rest apart).mpr welcome.room⟩
    · exact fun other later => (joins.agrees_iff other (apart other later)).mpr
        (welcome.agrees other (List.mem_cons_of_mem _ later))
    · exact fun other later => (joins.unwritten_iff other (apart other later)).mpr
        (welcome.unwritten other (List.mem_cons_of_mem _ later))

theorem visited_none (requests : List (EntryRequest State Result)) (member : TransactionRecord State)
    (apart : ∀ other ∈ requests, other.transaction ≠ member.transaction) :
    visited requests member = member := by
  have absent : requests.find? (fun other => other.transaction == member.transaction) = none := by
    simpa using apart
  rw [visited, absent]

theorem visited_own (request : EntryRequest State Result) (rest : List (EntryRequest State Result))
    (member : TransactionRecord State) (own : request.transaction = member.transaction) :
    visited (request :: rest) member = member.settle request.mode request.operation := by
  rw [visited, List.find?_cons_of_pos (by simpa using own)]

theorem visited_other (request : EntryRequest State Result) (rest : List (EntryRequest State Result))
    (member : TransactionRecord State) (other : request.transaction ≠ member.transaction) :
    visited (request :: rest) member = visited rest member := by
  rw [visited, visited, List.find?_cons_of_neg (by simpa using other)]

theorem Joins.shared (joins : lock.Joins clock request entry)
    (rest : List (EntryRequest State Result))
    (apart : ∀ other ∈ rest, other.transaction ≠ request.transaction)
    (blind : ∀ other ∈ rest, Blind other.operation) :
    entry.lock.shared clock rest = lock.shared clock (request :: rest) := by
  have named := lock.entrant_transaction clock request
  have own : visited rest ((lock.entrant clock request).settle request.mode request.operation) =
      (lock.entrant clock request).settle request.mode request.operation :=
    visited_none rest _ fun other later same => apart other later (same.trans named)
  have residents : (lock.members.map fun member => (visited rest
      (if member.transaction = request.transaction then
        (lock.entrant clock request).settle request.mode request.operation
      else member)).unnumbered) =
        lock.members.map fun member => (visited (request :: rest) member).unnumbered := by
    apply List.map_congr_left
    intro member resident
    by_cases mine : member.transaction = request.transaction
    · have there : member ∈ lock.present clock request := by
        rw [joins.present]
        exact List.mem_append_left _ resident
      have same := lock.present_entrant clock request joins.distinct member there mine
      rw [if_pos mine, own, visited_own request rest member mine.symm, same]
    · rw [if_neg mine, visited_other request rest member (Ne.symm mine)]
  have newcomer : ((lock.newcomers clock request).map fun member => (visited rest
      (if member.transaction = request.transaction then
        (lock.entrant clock request).settle request.mode request.operation
      else member)).unnumbered) =
        (lock.strangers [request]).map fun other =>
          ((lock.entrant clock other).settle other.mode other.operation).unnumbered := by
    cases found : lock.find? request.transaction with
    | some record => simp [newcomers, Lock.strangers, found]
    | none => simp [newcomers, Lock.strangers, found, named, own]
  have later : ((lock.strangers rest).map fun other =>
      ((entry.lock.entrant clock other).settle other.mode other.operation).unnumbered) =
        (lock.strangers rest).map fun other =>
          ((lock.entrant clock other).settle other.mode other.operation).unnumbered := by
    apply List.map_congr_left
    intro other stranger
    have present := List.mem_of_mem_filter stranger
    exact TransactionRecord.settle_unnumbered (blind other present) other.mode
      (joins.entrant other (apart other present))
  rw [Lock.shared, Lock.shared, joins.strangers rest apart, later, strangers_cons, List.map_append,
    joins.admits.members, joins.present, List.map_map, List.map_append]
  simp only [Function.comp_def]
  rw [residents, newcomer, List.append_assoc]

theorem Joins.shares (joins : lock.Joins clock request entry)
    (rest : List (EntryRequest State Result))
    (apart : ∀ other ∈ rest, other.transaction ≠ request.transaction)
    (blind : ∀ other ∈ rest, Blind other.operation) (after : Lock State)
    (later : entry.lock.Shares clock rest after) : lock.Shares clock (request :: rest) after := by
  obtain ⟨present, fill⟩ := lock.enter_filled clock request entry joins.admitted
  have counted := lock.strangers_length request rest
  constructor
  · exact later.options.trans joins.admits.options
  · rw [later.admissions, joins.admits.admissions, joins.strangers rest apart, counted,
      lock.strangers_single clock request, Nat.add_assoc]
  · rw [later.present, present]
    simp
  · rw [later.filled, fill, joins.strangers rest apart, counted, Nat.add_assoc]
  · rw [later.members, joins.shared rest apart blind]

end

theorem shares_refl (lock : Lock State) (clock : Instant) :
    lock.Shares clock ([] : List (EntryRequest State Result)) lock := by
  refine ⟨rfl, rfl, ?_, rfl, ?_⟩
  · simp
  · simp [shared, visited, strangers]

/-! Orders -/

theorem welcomes_perm (lock : Lock State) {requests others : List (EntryRequest State Result)}
    (perm : requests.Perm others) (welcome : lock.Welcomes requests) : lock.Welcomes others := by
  have counted : (lock.strangers requests).length = (lock.strangers others).length :=
    (perm.filter _).length_eq
  have room := welcome.room
  rw [HasRoomFor, counted] at room
  refine ⟨?_, ?_, room⟩
  · exact fun request present => welcome.agrees request (perm.mem_iff.mpr present)
  · exact fun request present => welcome.unwritten request (perm.mem_iff.mpr present)

theorem visited_perm {requests others : List (EntryRequest State Result)}
    (perm : requests.Perm others) (apart : (requests.map fun request => request.transaction).Nodup)
    (member : TransactionRecord State) : visited requests member = visited others member := by
  have found : (requests.find? fun request => request.transaction == member.transaction) =
      others.find? fun request => request.transaction == member.transaction := by
    cases first : requests.find? fun request => request.transaction == member.transaction with
    | none =>
        symm
        rw [List.find?_eq_none] at first ⊢
        exact fun request present => first request (perm.mem_iff.mpr present)
    | some request =>
        have present := perm.mem_iff.mp (List.mem_of_find?_eq_some first)
        have own : request.transaction = member.transaction := by
          simpa using List.find?_some first
        cases second : others.find? fun request => request.transaction == member.transaction with
        | none => simpa [own] using List.find?_eq_none.mp second request present
        | some other =>
            have named : other.transaction = member.transaction := by
              simpa using List.find?_some second
            rw [List.inj_on_of_nodup_map ((perm.map _).nodup_iff.mp apart) present
              (List.mem_of_find?_eq_some second) (own.trans named.symm)]
  rw [visited, visited, found]

theorem shared_perm (lock : Lock State) (clock : Instant)
    {requests others : List (EntryRequest State Result)} (perm : requests.Perm others)
    (apart : (requests.map fun request => request.transaction).Nodup) :
    (lock.shared clock requests).Perm (lock.shared clock others) := by
  have residents : (lock.members.map fun member => (visited requests member).unnumbered) =
      lock.members.map fun member => (visited others member).unnumbered :=
    List.map_congr_left fun member _ => by rw [visited_perm perm apart member]
  rw [shared, shared, residents]
  exact ((perm.filter _).map _).append_left _

structure Alike (first second : Lock State) : Prop where
  options : first.options = second.options
  admissions : first.admissions = second.admissions
  group : Option.Rel LockGroup.Alike first.group second.group

theorem shares_alike (lock : Lock State) (clock : Instant)
    {requests others : List (EntryRequest State Result)} (perm : requests.Perm others)
    (apart : (requests.map fun request => request.transaction).Nodup) (first second : Lock State)
    (shares : lock.Shares clock requests first) (shares' : lock.Shares clock others second)
    (timed : first.IsTimed) (timed' : second.IsTimed) : first.Alike second := by
  have counted : (lock.strangers requests).length = (lock.strangers others).length :=
    (perm.filter _).length_eq
  have admissions : first.admissions = second.admissions := by
    rw [shares.admissions, shares'.admissions, counted]
  refine ⟨shares.options.trans shares'.options.symm, admissions, ?_⟩
  have present : first.group.isSome = second.group.isSome := by
    rw [shares.present, shares'.present, perm.isEmpty_eq]
  have fill : first.filled = second.filled := by
    rw [shares.filled, shares'.filled, counted]
  have members : (first.members.map TransactionRecord.unnumbered).Perm
      (second.members.map TransactionRecord.unnumbered) := by
    rw [shares.members, shares'.members]
    exact lock.shared_perm clock perm apart
  cases found : first.group with
  | none =>
      cases found' : second.group with
      | none => exact .none
      | some group' => simp [found, found'] at present
  | some group =>
      cases found' : second.group with
      | none => simp [found, found'] at present
      | some group' =>
          apply Option.Rel.some
          apply group.alike_of_isTimed group' (timed group found) (timed' group' found')
          · simpa [Lock.members, found, found'] using members
          · simpa [filled, found, found'] using fill

end Lock

namespace System

structure Readers (calls : List (CallId × EntryRequest State Result)) : Prop where
  reads : ∀ call ∈ calls, call.2.mode = .read
  apart : (calls.map fun call => call.2.transaction).Nodup
  blind : ∀ call ∈ calls, Blind call.2.operation

def entering (calls : List (CallId × EntryRequest State Result)) : List (Event State Result) :=
  calls.map fun call => .call call.1 (.enter call.2)

def EntersQuietly (system : System State Result) :
    List (CallId × EntryRequest State Result) → Prop
  | [] => True
  | (call, request) :: rest =>
      system.isFree call = true ∧ system.queue.gateOpen = true ∧
        (∃ entry, system.lock.enter system.clock request = .ok entry ∧ entry.wounded = []) ∧
        (system.step (.call call (.enter request))).EntersQuietly rest

def told (system : System State Result) (request : EntryRequest State Result) : Answer State Result :=
  .entered (((system.lock.entrant system.clock request).run request.operation).1.mapError .operation)

section

variable {system : System State Result} {options : Options} {call : CallId}
  {request : EntryRequest State Result} {rest : List (CallId × EntryRequest State Result)}

theorem Readers.tail (readers : Readers ((call, request) :: rest)) : Readers rest :=
  ⟨fun other later => readers.reads other (List.mem_cons_of_mem _ later),
    (List.nodup_cons.mp readers.apart).2,
    fun other later => readers.blind other (List.mem_cons_of_mem _ later)⟩

theorem Readers.others (readers : Readers ((call, request) :: rest)) :
    ∀ other ∈ rest.map Prod.snd, other.transaction ≠ request.transaction := by
  intro other later same
  obtain ⟨begun, there, rfl⟩ := List.mem_map.mp later
  exact (List.nodup_cons.mp readers.apart).1 (List.mem_map.mpr ⟨begun, there, same⟩)

theorem Readers.perm {calls others : List (CallId × EntryRequest State Result)}
    (readers : Readers calls) (perm : calls.Perm others) : Readers others :=
  ⟨fun call there => readers.reads call (perm.mem_iff.mpr there),
    (perm.map _).nodup_iff.mp readers.apart,
    fun call there => readers.blind call (perm.mem_iff.mpr there)⟩

structure LetsIn (system : System State Result) (call : CallId) (request : EntryRequest State Result)
    (entry : Entry State Result) : Prop where
  clock : (system.step (.call call (.enter request))).clock = system.clock
  lock : (system.step (.call call (.enter request))).lock = entry.lock
  gateOpen : (system.step (.call call (.enter request))).queue.gateOpen = system.queue.gateOpen
  free : ∀ other, (system.step (.call call (.enter request))).isFree other = system.isFree other
  reply : system.reply? (.call call (.enter request)) =
    some (call, .entered (entry.result.mapError .operation))

theorem step_letsIn (free : system.isFree call = true) (gate : system.queue.gateOpen = true)
    (entry : Entry State Result) (admitted : system.lock.enter system.clock request = .ok entry)
    (unharmed : entry.wounded = []) : system.LetsIn call request entry := by
  let counted := { system with
    queue := { system.queue with readyCalls := system.queue.readyCalls + 1 }
    lock := entry.lock }
  have started : system.start call (.enter request) =
      (counted.notifyAfterEntry [], .answered (.entered (entry.result.mapError .operation))) := by
    simp only [start, passGate, gate, ↓reduceIte, enterLock, admitted, unharmed, notifyThen,
      startNotifying, List.map_nil, deliverDue, counted]
  have stretch := counted.notifyAfterEntry_stretch []
  -- Nobody waits for the worker to look at the lock once more.
  have waiters : (counted.notifyAfterEntry []).lockWorker.waiters = system.lockWorker.waiters := by
    rw [stretch.lockWorker.waiters]
    cases counted.lock.group.bind LockGroup.deadline <;> simp [WakeRequest.waiter?, counted]
  have idle : (counted.notifyAfterEntry []).storageWorker.waiters = system.storageWorker.waiters := by
    rw [stretch.storageWorker.waiters]
    simp [counted]
  have after : system.step (.call call (.enter request)) =
      (counted.notifyAfterEntry []).note (.answered (counted.notifyAfterEntry []).clock call
        (.entered (entry.result.mapError .operation))) := by
    simp only [step, free, ↓reduceIte, spawn, begin, started]
  constructor
  · rw [after]
    exact stretch.clock
  · rw [after]
    exact stretch.lock
  · exact (system.step_attends (.call call (.enter request))).gateOpen
  · intro other
    rw [after]
    simp only [isFree, note, stretch.calls, waiters, idle]
    rfl
  · simp only [reply?, system.progress?_call call _ free, started]
    rfl

theorem entersQuietly_iff (orderly : system.Orderly options)
    (calls : List (CallId × EntryRequest State Result)) (readers : Readers calls) :
    system.EntersQuietly calls ↔
      (∀ call ∈ calls, system.isFree call.1 = true ∧ system.queue.gateOpen = true) ∧
        system.lock.Welcomes (calls.map Prod.snd) := by
  induction calls generalizing system with
  | nil =>
      refine iff_of_true trivial ⟨?_, ⟨?_, ?_, .inl rfl⟩⟩
      all_goals
        intro call there
        cases there
  | cons begun rest ih =>
      obtain ⟨call, request⟩ := begun
      have reads := readers.reads _ List.mem_cons_self
      have further (free : system.isFree call = true) (gate : system.queue.gateOpen = true)
          (entry : Entry State Result)
          (admitted : system.lock.enter system.clock request = .ok entry)
          (unharmed : entry.wounded = []) :
          (system.step (.call call (.enter request))).EntersQuietly rest ↔
            (∀ other ∈ rest, system.isFree other.1 = true ∧ system.queue.gateOpen = true) ∧
              system.lock.Welcomes (request :: rest.map Prod.snd) := by
        have lets := step_letsIn free gate entry admitted unharmed
        have joins : system.lock.Joins system.clock request entry :=
          ⟨admitted, unharmed, reads, orderly.kept.distinct⟩
        rw [ih (step_orderly options system _ orderly) readers.tail,
          lets.lock, lets.gateOpen, joins.welcomes_iff (rest.map Prod.snd) readers.others]
        simp only [lets.free]
      constructor
      · rintro ⟨free, gate, ⟨entry, admitted, unharmed⟩, later⟩
        obtain ⟨free', welcome⟩ := (further free gate entry admitted unharmed).mp later
        refine ⟨?_, welcome⟩
        rintro other (_ | ⟨_, there⟩)
        · exact ⟨free, gate⟩
        · exact free' other there
      · rintro ⟨free, welcome⟩
        obtain ⟨free', gate⟩ := free _ List.mem_cons_self
        have first : system.lock.Welcomes [request] := welcome.head
        obtain ⟨entry, admitted, unharmed⟩ :=
          (system.lock.enter_quiet_iff system.clock request reads).mpr first
        refine ⟨free', gate, ⟨entry, admitted, unharmed⟩, ?_⟩
        exact (further free' gate entry admitted unharmed).mpr
          ⟨fun other there => free other (List.mem_cons_of_mem _ there), welcome⟩

/-- What the lock comes to, and what everybody is told, in terms of how things were before. -/
theorem entersQuietly_spec (orderly : system.Orderly options)
    (calls : List (CallId × EntryRequest State Result)) (readers : Readers calls)
    (quiet : system.EntersQuietly calls) :
    system.lock.Shares system.clock (calls.map Prod.snd) (system.run (entering calls)).lock ∧
      gather replies system (entering calls) =
        calls.map fun call => (call.1, system.told call.2) := by
  induction calls generalizing system with
  | nil => exact ⟨system.lock.shares_refl system.clock, rfl⟩
  | cons begun rest ih =>
      obtain ⟨call, request⟩ := begun
      obtain ⟨free, gate, ⟨entry, admitted, unharmed⟩, later⟩ := quiet
      have lets := step_letsIn free gate entry admitted unharmed
      have joins : system.lock.Joins system.clock request entry :=
        ⟨admitted, unharmed, readers.reads _ List.mem_cons_self, orderly.kept.distinct⟩
      have blind : ∀ other ∈ rest.map Prod.snd, Blind other.operation := by
        intro other there
        obtain ⟨begun, present, rfl⟩ := List.mem_map.mp there
        exact readers.blind begun (List.mem_cons_of_mem _ present)
      obtain ⟨shares, replied⟩ := ih (step_orderly options system _ orderly) readers.tail later
      rw [lets.clock, lets.lock] at shares
      refine ⟨joins.shares (rest.map Prod.snd) readers.others blind _ shares, ?_⟩
      have own : system.replies (.call call (.enter request)) = [(call, system.told request)] := by
        rw [replies, lets.reply, told, joins.admits.result]
        rfl
      have same : ∀ other ∈ rest, (system.step (.call call (.enter request))).told other.2 =
          system.told other.2 := by
        intro other there
        have present := List.mem_map_of_mem (f := Prod.snd) there
        have equal := TransactionRecord.blind_same (blind other.2 present)
          (joins.entrant other.2 (readers.others other.2 present))
        rw [told, told, lets.lock, lets.clock]
        simp only [TransactionRecord.run, equal]
      show system.replies (.call call (.enter request)) ++
        gather replies (system.step (.call call (.enter request))) (entering rest) = _
      rw [own, replied, List.map_cons, List.singleton_append]
      exact congrArg _ (List.map_congr_left fun other there => by rw [same other there])

end

/-- Readers may come in either order. -/
structure Commutes (system : System State Result)
    (calls others : List (CallId × EntryRequest State Result)) : Prop where
  quiet : system.EntersQuietly others
  -- Everybody is told the same.
  told : ∃ told : EntryRequest State Result → Answer State Result,
    gather replies system (entering calls) = (calls.map fun call => (call.1, told call.2)) ∧
      gather replies system (entering others) = others.map fun call => (call.1, told call.2)
  alike : (system.run (entering calls)).lock.Alike (system.run (entering others)).lock

/-- In whatever state a run leaves the system: if readers for different transactions are let in one
after the other without anybody having to go, they might as well come in any other order. -/
theorem run_readers_commute (options : Options) (past : List (Event State Result))
    (calls others : List (CallId × EntryRequest State Result)) (perm : calls.Perm others)
    (readers : Readers calls) (quiet : ((new options).run past).EntersQuietly calls) :
    ((new options).run past).Commutes calls others := by
  have orderly : ((new options).run past).Orderly options := run_orderly options past
  have quiet' : ((new options).run past).EntersQuietly others := by
    obtain ⟨free, welcome⟩ := (entersQuietly_iff orderly calls readers).mp quiet
    refine (entersQuietly_iff orderly others (readers.perm perm)).mpr ⟨?_, ?_⟩
    · exact fun call there => free call (perm.mem_iff.mpr there)
    · exact Lock.welcomes_perm _ (perm.map Prod.snd) welcome
  obtain ⟨shares, replied⟩ := entersQuietly_spec orderly calls readers quiet
  obtain ⟨shares', replied'⟩ := entersQuietly_spec orderly others (readers.perm perm) quiet'
  have timed (events : List (Event State Result)) :
      (((new options).run past).run events).lock.IsTimed := by
    have watched : ((new options).run (past ++ events)).Watched options :=
      run_watched options (past ++ events)
    rw [run, List.foldl_append] at watched
    exact watched.timed
  refine ⟨quiet', ⟨_, replied, replied'⟩, ?_⟩
  refine Lock.shares_alike _ _ (perm.map Prod.snd) ?_ _ _ shares shares' (timed _) (timed _)
  rw [List.map_map]
  exact readers.apart

def recount (transaction : TransactionId) (counter : AccessCounter) : EntryRequest Nat Nat :=
  { transaction, priority := ⟨0⟩, counter, mode := .read
    operation := fun record => (.ok record.accesses.reads, record.state) }

def recounting : List (CallId × EntryRequest Nat Nat) :=
  [(1, recount (.ofNat 1) ⟨1, 0⟩), (2, recount (.ofNat 2) .zero), (3, recount (.ofNat 3) .zero)]

theorem recounting_readers_commute :
    recounting.Perm recounting.reverse ∧ Readers recounting ∧
      ((new ⟨8000, 10000, 20000, 3⟩).run [.call 0 (.enter (recount (.ofNat 1) .zero))]).EntersQuietly
        recounting ∧
      ((new ⟨8000, 10000, 20000, 3⟩).run [.call 0 (.enter (recount (.ofNat 1) .zero))]).Commutes
        recounting recounting.reverse := by
  have readers : Readers recounting := by
    refine ⟨by simp [recounting, recount], by decide, ?_⟩
    simp [recounting, recount, Blind]
  have quiet : ((new ⟨8000, 10000, 20000, 3⟩).run
      [.call 0 (.enter (recount (.ofNat 1) .zero))]).EntersQuietly recounting :=
    ⟨rfl, rfl, ⟨_, rfl, rfl⟩, rfl, rfl, ⟨_, rfl, rfl⟩, rfl, rfl, ⟨_, rfl, rfl⟩, trivial⟩
  have perm : recounting.Perm recounting.reverse := recounting.reverse_perm.symm
  exact ⟨perm, readers, quiet, run_readers_commute _ _ _ _ perm readers quiet⟩

end System

end WoundWait
