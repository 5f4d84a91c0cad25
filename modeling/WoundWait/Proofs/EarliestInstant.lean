import WoundWait.Instant

/-!
The earliest of several instants, some of which may never come. An instant that never comes is later
than every other.
-/

namespace WoundWait

def ComesBy (first second : Option Instant) : Prop :=
  ∀ instant, second = some instant → ∃ sooner, first = some sooner ∧ sooner ≤ instant

theorem comesBy_refl (instant : Option Instant) : ComesBy instant instant :=
  fun value present => ⟨value, present, Int.le_refl value⟩

theorem ComesBy.trans {first second third : Option Instant}
    (sooner : ComesBy first second) (later : ComesBy second third) : ComesBy first third := by
  intro instant present
  obtain ⟨middle, found, below⟩ := later instant present
  obtain ⟨least, start, lower⟩ := sooner middle found
  exact ⟨least, start, Int.le_trans lower below⟩

theorem earlier_comesBy_left (first second : Option Instant) :
    ComesBy (earlier first second) first := by
  rintro instant rfl
  cases second with
  | none => exact ⟨instant, rfl, Int.le_refl instant⟩
  | some other => exact ⟨min instant other, rfl, Int.min_le_left instant other⟩

theorem earlier_comesBy_right (first second : Option Instant) :
    ComesBy (earlier first second) second := by
  rintro instant rfl
  cases first with
  | none => exact ⟨instant, rfl, Int.le_refl instant⟩
  | some other => exact ⟨min other instant, rfl, Int.min_le_right other instant⟩

@[simp] theorem isDue_none (clock : Instant) : isDue clock none = false := rfl

@[simp] theorem isDue_some (clock instant : Instant) :
    isDue clock (some instant) = decide (instant ≤ clock) := rfl

theorem earlier_isDue (clock : Instant) (first second : Option Instant) :
    isDue clock (earlier first second) = (isDue clock first || isDue clock second) := by
  cases first with
  | none => simp [earlier]
  | some first =>
      cases second with
      | none => simp [earlier]
      | some second =>
          simp only [earlier, isDue_some, ← Bool.decide_or, decide_eq_decide]
          exact Std.min_le

theorem earliest_isDue (clock : Instant) (instants : List (Option Instant)) :
    isDue clock (earliest instants) = instants.any (isDue clock) := by
  induction instants with
  | nil => rfl
  | cons instant rest ih =>
      rw [List.any_cons, ← ih]
      exact earlier_isDue clock instant (earliest rest)

theorem earliest_comesBy (instants : List (Option Instant)) (instant : Option Instant)
    (member : instant ∈ instants) : ComesBy (earliest instants) instant := by
  induction instants with
  | nil => cases member
  | cons head rest ih =>
      rcases List.mem_cons.mp member with same | later
      · subst same
        exact earlier_comesBy_left instant (earliest rest)
      · exact (earlier_comesBy_right head (earliest rest)).trans (ih later)

/-- Among instants that all come, the earliest comes unless there are none. -/
theorem earliest_exists (instants : List Instant) (present : instants ≠ []) :
    ∃ instant, earliest (instants.map some) = some instant := by
  obtain ⟨head, rest, same⟩ := List.exists_cons_of_ne_nil present
  subst same
  obtain ⟨least, found, _⟩ := earliest_comesBy ((head :: rest).map some) (some head) (by simp)
    head rfl
  exact ⟨least, found⟩

theorem earliest_le (instants : List Instant) (least instant : Instant)
    (found : earliest (instants.map some) = some least) (member : instant ∈ instants) :
    least ≤ instant := by
  obtain ⟨sooner, same, below⟩ := earliest_comesBy (instants.map some) (some instant)
    (List.mem_map_of_mem member) instant rfl
  rw [found] at same
  cases same
  exact below

theorem earliest_mem (instants : List Instant) (least : Instant)
    (found : earliest (instants.map some) = some least) : least ∈ instants := by
  induction instants generalizing least with
  | nil => cases found
  | cons head rest ih =>
      cases later : earliest (rest.map some) with
      | none =>
          have first : earliest ((head :: rest).map some) = some head :=
            congrArg (earlier (some head)) later
          rw [first] at found
          cases found
          exact List.mem_cons_self
      | some second =>
          have first : earliest ((head :: rest).map some) = some (min head second) :=
            congrArg (earlier (some head)) later
          rw [first] at found
          cases found
          rcases Std.min_eq_or (a := head) (b := second) with same | same
          · rw [same]
            exact List.mem_cons_self
          · rw [same]
            exact List.mem_cons_of_mem _ (ih second later)

end WoundWait
