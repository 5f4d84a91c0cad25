import WoundWait.Lock.Group

/-!
What the comparison of an entrant with the members of a group finds. The members are looked at one
after the other, and the outcome so far says all that matters about those already seen.
-/

namespace WoundWait

namespace Priority

theorem isYoungerThan_iff (priority other : Priority) :
    priority.isYoungerThan other = true ↔ other < priority := by
  simp only [isYoungerThan, decide_eq_true_eq]
  exact Iff.rfl

theorem not_lt_iff (first second : Priority) : ¬ first < second ↔ second ≤ first :=
  Nat.not_lt

theorem le_of_lt {first second : Priority} (before : first < second) : first ≤ second :=
  Nat.le_of_lt before

theorem le_trans {first second third : Priority} (lower : first ≤ second) (upper : second ≤ third) :
    first ≤ third :=
  Nat.le_trans lower upper

end Priority

variable {State : Type}

def Conflict.Reports (priority : Priority) (rivals : List (TransactionRecord State)) :
    Conflict → Prop
  | absent => rivals = []
  | resolvable => rivals ≠ [] ∧ ∀ rival ∈ rivals, ¬ rival.priority < priority
  | unresolvable holder holderPriority =>
      (∃ rival ∈ rivals, rival.transaction = holder ∧ rival.priority = holderPriority ∧
        rival.priority < priority) ∧
      ∀ rival ∈ rivals, rival.priority < priority → holderPriority ≤ rival.priority

/-- A member that is not older changes nothing but the absence of a conflict. -/
theorem note_younger (priority : Priority) (seen : List (TransactionRecord State))
    (member : TransactionRecord State) (outcome : Conflict)
    (reports : outcome.Reports priority seen) (younger : ¬ member.priority < priority) :
    (outcome.note priority member).Reports priority (seen ++ [member]) := by
  have notOlder : priority.isYoungerThan member.priority = false := by
    rw [← Bool.not_eq_true, Priority.isYoungerThan_iff]
    exact younger
  cases outcome with
  | absent =>
      have none : seen = [] := reports
      subst none
      simp [Conflict.note, notOlder, Conflict.Reports, younger]
  | resolvable =>
      simp only [Conflict.note, notOlder, Bool.false_eq_true, ↓reduceIte, Conflict.Reports]
      refine ⟨by simp, ?_⟩
      intro rival present
      rcases List.mem_append.mp present with old | new
      · exact reports.2 rival old
      · rw [List.mem_singleton.mp new]
        exact younger
  | unresolvable holder holderPriority =>
      obtain ⟨⟨rival, present, named⟩, least⟩ := reports
      simp only [Conflict.note, notOlder, Bool.false_eq_true, ↓reduceIte, Conflict.Reports]
      refine ⟨⟨rival, List.mem_append_left _ present, named⟩, ?_⟩
      intro other member' older
      rcases List.mem_append.mp member' with old | new
      · exact least other old older
      · rw [List.mem_singleton.mp new] at older
        exact absurd older younger

/-- An older member is named, unless one at least as old was named before. -/
theorem note_older (priority : Priority) (seen : List (TransactionRecord State))
    (member : TransactionRecord State) (outcome : Conflict)
    (reports : outcome.Reports priority seen) (older : member.priority < priority) :
    (outcome.note priority member).Reports priority (seen ++ [member]) := by
  have isOlder : priority.isYoungerThan member.priority = true :=
    (Priority.isYoungerThan_iff priority member.priority).mpr older
  have last : member ∈ seen ++ [member] := by simp
  have alone (noneOlder : ∀ rival ∈ seen, ¬ rival.priority < priority) :
      (Conflict.unresolvable member.transaction member.priority).Reports priority
        (seen ++ [member]) := by
    refine ⟨⟨member, last, rfl, rfl, older⟩, ?_⟩
    intro rival present oldRival
    rcases List.mem_append.mp present with old | new
    · exact absurd oldRival (noneOlder rival old)
    · rw [List.mem_singleton.mp new]
      exact Nat.le_refl _
  cases outcome with
  | absent =>
      have none : seen = [] := reports
      simp only [Conflict.note, isOlder, ↓reduceIte]
      exact alone (by simp [none])
  | resolvable =>
      simp only [Conflict.note, isOlder, ↓reduceIte]
      exact alone reports.2
  | unresolvable holder holderPriority =>
      obtain ⟨⟨rival, present, named⟩, least⟩ := reports
      simp only [Conflict.note, isOlder, ↓reduceIte]
      by_cases oldest : member.priority < holderPriority
      · simp only [oldest, ↓reduceIte]
        refine ⟨⟨member, last, rfl, rfl, older⟩, ?_⟩
        intro other member' oldOther
        rcases List.mem_append.mp member' with old | new
        · exact Priority.le_trans (Priority.le_of_lt oldest) (least other old oldOther)
        · rw [List.mem_singleton.mp new]
          exact Nat.le_refl _
      · simp only [oldest, ↓reduceIte]
        refine ⟨⟨rival, List.mem_append_left _ present, named⟩, ?_⟩
        intro other member' oldOther
        rcases List.mem_append.mp member' with old | new
        · exact least other old oldOther
        · rw [List.mem_singleton.mp new]
          exact (Priority.not_lt_iff _ _).mp oldest

theorem note_reports (priority : Priority) (seen : List (TransactionRecord State))
    (member : TransactionRecord State) (outcome : Conflict)
    (reports : outcome.Reports priority seen) :
    (outcome.note priority member).Reports priority (seen ++ [member]) := by
  by_cases older : member.priority < priority
  · exact note_older priority seen member outcome reports older
  · exact note_younger priority seen member outcome reports older

theorem scan_reports (priority : Priority) (seen rest : List (TransactionRecord State))
    (outcome : Conflict) (reports : outcome.Reports priority seen) :
    (rest.foldl (Conflict.note priority) outcome).Reports priority (seen ++ rest) := by
  induction rest generalizing seen outcome with
  | nil => simpa using reports
  | cons member rest ih =>
      have next := ih (seen ++ [member]) _ (note_reports priority seen member outcome reports)
      simpa using next

namespace LockGroup

def rivals (group : LockGroup State) (transaction : TransactionId) (mode : AccessMode)
    (atCapacity : Bool) : List (TransactionRecord State) :=
  group.members.filter fun member =>
    member.transaction != transaction && conflictsWith mode atCapacity member

theorem conflict_reports (group : LockGroup State) (transaction : TransactionId)
    (mode : AccessMode) (priority : Priority) (atCapacity : Bool) :
    (group.conflict transaction mode priority atCapacity).Reports priority
      (group.rivals transaction mode atCapacity) :=
  scan_reports priority [] (group.rivals transaction mode atCapacity) .absent rfl

end LockGroup

end WoundWait
