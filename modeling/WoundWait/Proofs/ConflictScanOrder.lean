import WoundWait.Proofs.ConflictScan

/-!
The comparison of an entrant with the members of a group, whoever they are and in whatever order
they are looked at. What it finds is told from the members alone. The order only decides who is
named of several members that are equally old, and each of them is named in some order.
-/

namespace WoundWait

variable {State : Type}

structure OldestOpponent (opposes : TransactionRecord State → Prop) (priority : Priority)
    (member : TransactionRecord State) : Prop where
  opposing : opposes member
  older : member.priority < priority
  oldest : ∀ other, opposes other → other.priority < priority → member.priority ≤ other.priority

theorem OldestOpponent.same_priority {opposes : TransactionRecord State → Prop} {priority : Priority}
    {first second : TransactionRecord State} (one : OldestOpponent opposes priority first)
    (other : OldestOpponent opposes priority second) : first.priority = second.priority := by
  have below : first.priority.value ≤ second.priority.value := one.oldest second other.opposing other.older
  have above : second.priority.value ≤ first.priority.value := other.oldest first one.opposing one.older
  exact congrArg Priority.mk (Nat.le_antisymm below above)

namespace Conflict

structure Finds (opposes : TransactionRecord State → Prop) (priority : Priority) (outcome : Conflict) :
    Prop where
  absent : outcome = .absent ↔ ∀ member, ¬ opposes member
  unresolvable : (∃ holder holderPriority, outcome = .unresolvable holder holderPriority) ↔
    ∃ member, opposes member ∧ member.priority < priority
  resolvable : outcome = .resolvable ↔
    (∃ member, opposes member) ∧ ∀ member, opposes member → ¬ member.priority < priority
  named : ∀ holder holderPriority, outcome = .unresolvable holder holderPriority →
    ∃ member, OldestOpponent opposes priority member ∧
      member.transaction = holder ∧ member.priority = holderPriority

/-- The same outcome, if it does not matter which holder is named as long as its priority is the
same. -/
def SameButHolder : Conflict → Conflict → Prop
  | absent, absent => True
  | resolvable, resolvable => True
  | unresolvable _ first, unresolvable _ second => first = second
  | _, _ => False

theorem Reports.finds {priority : Priority} {rivals : List (TransactionRecord State)}
    {outcome : Conflict} (reports : outcome.Reports priority rivals) :
    outcome.Finds (fun member => member ∈ rivals) priority := by
  cases outcome with
  | absent =>
      have nobody : rivals = [] := reports
      subst nobody
      constructor <;> simp
  | resolvable =>
      obtain ⟨some, younger⟩ := reports
      obtain ⟨rival, present⟩ := List.exists_mem_of_ne_nil rivals some
      constructor
      · simpa using ⟨rival, present⟩
      · simpa using younger
      · simpa using ⟨⟨rival, present⟩, younger⟩
      · simp
  | unresolvable holder holderPriority =>
      obtain ⟨⟨rival, present, rfl, rfl, older⟩, least⟩ := reports
      constructor
      · simpa using ⟨rival, present⟩
      · simpa using ⟨rival, present, older⟩
      · simpa using fun _ _ => ⟨rival, present, older⟩
      · rintro _ _ ⟨⟩
        exact ⟨rival, ⟨present, older, least⟩, rfl, rfl⟩

theorem Finds.sameButHolder {opposes : TransactionRecord State → Prop} {priority : Priority}
    {first second : Conflict} (one : first.Finds opposes priority)
    (other : second.Finds opposes priority) : first.SameButHolder second := by
  cases first with
  | absent =>
      have same : second = .absent := other.absent.mpr (one.absent.mp rfl)
      subst same
      trivial
  | resolvable =>
      have same : second = .resolvable := other.resolvable.mpr (one.resolvable.mp rfl)
      subst same
      trivial
  | unresolvable holder holderPriority =>
      obtain ⟨otherHolder, otherPriority, rfl⟩ :=
        other.unresolvable.mpr (one.unresolvable.mp ⟨holder, holderPriority, rfl⟩)
      obtain ⟨member, opponent, _, rfl⟩ := one.named holder holderPriority rfl
      obtain ⟨rival, prevailsToo, _, rfl⟩ := other.named otherHolder otherPriority rfl
      exact opponent.same_priority prevailsToo

/-- A holder stays named if nobody who comes later is older. -/
theorem foldl_note_unresolvable (priority : Priority) (holder : TransactionId)
    (holderPriority : Priority) (rest : List (TransactionRecord State))
    (oldest : ∀ rival ∈ rest, rival.priority < priority → holderPriority ≤ rival.priority) :
    rest.foldl (note priority) (unresolvable holder holderPriority) =
      unresolvable holder holderPriority := by
  induction rest with
  | nil => rfl
  | cons rival rest ih =>
      have stays : note priority (unresolvable holder holderPriority) rival =
          unresolvable holder holderPriority := by
        by_cases older : rival.priority < priority
        · have notBefore : ¬ rival.priority < holderPriority :=
            (Priority.not_lt_iff _ _).mpr (oldest rival List.mem_cons_self older)
          simp [note, notBefore]
        · have notOlder : ¬ priority.isYoungerThan rival.priority = true := by
            rwa [Priority.isYoungerThan_iff]
          simp [note, notOlder]
      rw [List.foldl_cons, stays]
      exact ih fun other member => oldest other (List.mem_cons_of_mem rival member)

end Conflict

namespace LockGroup

section

variable (group : LockGroup State) (transaction : TransactionId) (mode : AccessMode)
  (priority : Priority) (atCapacity : Bool)

def Opposes (member : TransactionRecord State) : Prop :=
  member ∈ group.members ∧ member.transaction ≠ transaction ∧
    (atCapacity = true ∨ mode = .write ∨ 0 < member.accesses.writes)

/-- What the comparison comes to, in whatever order the members of a group are looked at. -/
structure OrderIndependent : Prop where
  finds : ∀ ordered : LockGroup State, ordered.members.Perm group.members →
    (ordered.conflict transaction mode priority atCapacity).Finds
      (group.Opposes transaction mode atCapacity) priority
  alike : ∀ first second : LockGroup State, first.members.Perm group.members →
    second.members.Perm group.members →
      (first.conflict transaction mode priority atCapacity).SameButHolder
        (second.conflict transaction mode priority atCapacity)
  -- Every oldest opponent is named in some order, and nobody else is.
  named : ∀ holder holderPriority,
    (∃ ordered : LockGroup State, ordered.members.Perm group.members ∧
      ordered.conflict transaction mode priority atCapacity = .unresolvable holder holderPriority) ↔
    ∃ member, OldestOpponent (group.Opposes transaction mode atCapacity) priority member ∧
      member.transaction = holder ∧ member.priority = holderPriority

theorem mem_rivals_eq : (fun member => member ∈ group.rivals transaction mode atCapacity) =
    group.Opposes transaction mode atCapacity := by
  funext member
  simp [rivals, conflictsWith, Opposes, TransactionRecord.hasWrites, or_assoc]

theorem opposes_perm (ordered : LockGroup State) (same : ordered.members.Perm group.members) :
    ordered.Opposes transaction mode atCapacity = group.Opposes transaction mode atCapacity := by
  funext member
  simp only [Opposes, same.mem_iff]

theorem conflict_finds : (group.conflict transaction mode priority atCapacity).Finds
    (group.Opposes transaction mode atCapacity) priority := by
  have reports := group.conflict_reports transaction mode priority atCapacity
  rw [← mem_rivals_eq]
  exact reports.finds

/-- An oldest opponent is named if it is looked at first. -/
theorem conflict_first (member : TransactionRecord State) (rest : List (TransactionRecord State))
    (first : group.members = member :: rest)
    (opponent : OldestOpponent (group.Opposes transaction mode atCapacity) priority member) :
    group.conflict transaction mode priority atCapacity =
      .unresolvable member.transaction member.priority := by
  have rival : member ∈ group.rivals transaction mode atCapacity :=
    (congrFun (group.mem_rivals_eq transaction mode atCapacity) member).mpr opponent.opposing
  obtain ⟨others, ahead⟩ : ∃ others, group.rivals transaction mode atCapacity = member :: others := by
    rw [rivals, first]
    exact ⟨_, List.filter_cons_of_pos (List.mem_filter.mp rival).2⟩
  have gives : Conflict.note priority .absent member =
      .unresolvable member.transaction member.priority :=
    if_pos ((Priority.isYoungerThan_iff priority member.priority).mpr opponent.older)
  change (group.rivals transaction mode atCapacity).foldl (Conflict.note priority) .absent = _
  rw [ahead, List.foldl_cons, gives]
  refine Conflict.foldl_note_unresolvable priority _ _ _ fun other later older => ?_
  have opposing : group.Opposes transaction mode atCapacity other := by
    rw [← mem_rivals_eq, ahead]
    exact List.mem_cons_of_mem member later
  exact opponent.oldest other opposing older

/-- The comparison with any members finds what there is to find in every order, and the order
decides at most which of several equally old members is named. -/
theorem conflict_order_independent : group.OrderIndependent transaction mode priority atCapacity := by
  have finds (ordered : LockGroup State) (same : ordered.members.Perm group.members) :
      (ordered.conflict transaction mode priority atCapacity).Finds
        (group.Opposes transaction mode atCapacity) priority := by
    rw [← group.opposes_perm transaction mode atCapacity ordered same]
    exact ordered.conflict_finds transaction mode priority atCapacity
  refine ⟨finds, fun first second one other => ?_, fun holder holderPriority => ⟨?_, ?_⟩⟩
  · exact (finds first one).sameButHolder (finds second other)
  · rintro ⟨ordered, same, outcome⟩
    exact (finds ordered same).named holder holderPriority outcome
  · rintro ⟨member, opponent, rfl, rfl⟩
    -- It is named when it is looked at before all others.
    obtain ⟨before, after, split⟩ := List.append_of_mem opponent.opposing.1
    let ordered := { group with members := member :: (before ++ after) }
    have same : ordered.members.Perm group.members := split ▸ List.perm_middle.symm
    refine ⟨ordered, same, ordered.conflict_first transaction mode priority atCapacity member _ rfl ?_⟩
    rwa [group.opposes_perm transaction mode atCapacity ordered same]

end

def tied : LockGroup Nat :=
  { members :=
      [.fresh 0 (.ofNat 1) ⟨3⟩ 10, .fresh 1 (.ofNat 2) ⟨9⟩ 10, .fresh 2 (.ofNat 3) ⟨5⟩ 10,
        .fresh 3 (.ofNat 4) ⟨3⟩ 10]
    fillCount := 4
    deadline := some 10 }

def tiedBackwards : LockGroup Nat :=
  { tied with members := tied.members.reverse }

/-- From either end the first of the two is named, with one priority. -/
theorem tied_order_independent :
    (tied.conflict (.ofNat 3) .write ⟨5⟩ false).SameButHolder
        (tiedBackwards.conflict (.ofNat 3) .write ⟨5⟩ false) ∧
      tied.conflict (.ofNat 3) .write ⟨5⟩ false = .unresolvable (.ofNat 1) ⟨3⟩ ∧
      tiedBackwards.conflict (.ofNat 3) .write ⟨5⟩ false = .unresolvable (.ofNat 4) ⟨3⟩ := by
  have scans := tied.conflict_order_independent (.ofNat 3) .write ⟨5⟩ false
  exact ⟨scans.alike tied tiedBackwards (.refl _) (List.reverse_perm _), rfl, rfl⟩

end LockGroup

end WoundWait
