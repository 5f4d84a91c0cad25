import WoundWait.Proofs.LockOccupancy

/-!
Who gives way to whom. An entrant is refused by an older member in conflict with it and by nobody
else, and what it wounds is no older than itself. Where each transaction keeps its priority, the
eldest is never held up by the others.
-/

namespace WoundWait

variable {State Result : Type}

namespace Lock

def InConflict (lock : Lock State) (request : EntryRequest State Result)
    (member : TransactionRecord State) : Prop :=
  member ∈ lock.members ∧ member.transaction ≠ request.transaction ∧
    (request.mode = .write ∨ member.hasWrites = true ∨
      (lock.find? request.transaction = none ∧
        lock.options.maxLockGroupSize ≤ lock.members.length))

/-- What an entry comes to, told by the members in conflict with the entrant. -/
structure DecidesBySeniority (lock : Lock State) (clock : Instant)
    (request : EntryRequest State Result) : Prop where
  -- An older member in conflict refuses the entrant, and nobody else does.
  refused : (∃ transaction holder,
      lock.enter clock request = .error (.upgradeConflict transaction holder)) ↔
    ∃ rival, lock.InConflict request rival ∧ rival.priority < request.priority
  holder : ∀ transaction holder,
    lock.enter clock request = .error (.upgradeConflict transaction holder) →
      transaction = request.transaction ∧
      ∃ rival, lock.InConflict request rival ∧ rival.transaction = holder ∧
        rival.priority < request.priority ∧
        ∀ other, lock.InConflict request other → rival.priority ≤ other.priority
  admitted : (∀ rival, lock.InConflict request rival → ¬ rival.priority < request.priority) →
    ∃ entry, lock.enter clock request = .ok entry
  -- If somebody is in conflict, then everybody else is, and goes.
  wounds : ∀ entry, lock.enter clock request = .ok entry →
    (∃ rival, lock.InConflict request rival) →
      entry.wounded = lock.others request.transaction ∧
      (∀ member ∈ entry.lock.members, member.transaction = request.transaction) ∧
      ∀ record ∈ entry.wounded,
        lock.InConflict request record ∧ ¬ record.priority < request.priority
  spares : ∀ entry, lock.enter clock request = .ok entry →
    (∀ member, ¬ lock.InConflict request member) →
      entry.wounded = [] ∧
      ∀ member ∈ lock.members, ∃ kept ∈ entry.lock.members,
        kept.transaction = member.transaction ∧ kept.serial = member.serial

theorem inConflict_iff (lock : Lock State) (request : EntryRequest State Result)
    (member : TransactionRecord State) :
    lock.InConflict request member ↔ member ∈ lock.rivals request :=
  (lock.mem_rivals request member).symm

/-- A rival that wrote is alone, so it is all the others there are; any other reason for a conflict
concerns every member. -/
theorem others_inConflict (lock : Lock State) (request : EntryRequest State Result)
    (kept : lock.WellKept) (rival member : TransactionRecord State)
    (conflict : lock.InConflict request rival) (other : member ∈ lock.others request.transaction) :
    lock.InConflict request member := by
  obtain ⟨present, different⟩ := (lock.mem_others request.transaction member).mp other
  obtain ⟨resident, _, reason⟩ := conflict
  refine ⟨present, different, ?_⟩
  rcases reason with writing | wrote | full
  · exact .inl writing
  · have alone := kept.alone rival resident wrote
    rw [alone, List.mem_singleton] at present
    exact .inr (.inl (present ▸ wrote))
  · exact .inr (.inr full)

theorem opposed_iff (lock : Lock State) (request : EntryRequest State Result) :
    ¬ lock.Unopposed request ↔
      ∃ rival, lock.InConflict request rival ∧ rival.priority < request.priority := by
  simp [Unopposed, inConflict_iff]

theorem refused_iff (lock : Lock State) (clock : Instant) (request : EntryRequest State Result)
    (agree : lock.CountsAgree request) :
    (∃ transaction holder,
        lock.enter clock request = .error (.upgradeConflict transaction holder)) ↔
      ¬ lock.Unopposed request := by
  constructor
  · intro ⟨transaction, holder, refused⟩ unopposed
    obtain ⟨entry, admitted, _⟩ := lock.enter_admits clock request agree unopposed
    rw [refused] at admitted
    cases admitted
  · intro opposed
    obtain ⟨holder, refused, _⟩ := lock.enter_refuses clock request agree opposed
    exact ⟨_, _, refused⟩

/-- Members in conflict that are not older than the entrant are not older than the holder either. -/
theorem refusal_holder (lock : Lock State) (clock : Instant) (request : EntryRequest State Result)
    (agree : lock.CountsAgree request) (transaction holder : TransactionId)
    (refused : lock.enter clock request = .error (.upgradeConflict transaction holder)) :
    transaction = request.transaction ∧
      ∃ rival, lock.InConflict request rival ∧ rival.transaction = holder ∧
        rival.priority < request.priority ∧
        ∀ other, lock.InConflict request other → rival.priority ≤ other.priority := by
  have opposed := (lock.refused_iff clock request agree).mp ⟨transaction, holder, refused⟩
  obtain ⟨rival, named, refuses⟩ := lock.enter_refuses clock request agree opposed
  rw [refused] at named
  cases named
  refine ⟨rfl, rival, (lock.inConflict_iff request rival).mpr refuses.rival, rfl, refuses.older, ?_⟩
  intro other conflict
  by_cases older : other.priority < request.priority
  · exact refuses.oldest other ((lock.inConflict_iff request other).mp conflict) older
  · have younger := (Priority.not_lt_iff _ _).mp older
    exact Priority.le_trans (Priority.le_of_lt refuses.older) younger

/-- The members of whom an entry makes its own are those that were there, and the entrant. -/
theorem admits_origin (lock : Lock State) (clock : Instant) (request : EntryRequest State Result)
    (entry : Entry State Result) (admits : lock.Admits clock request entry)
    (member : TransactionRecord State) (present : member ∈ entry.lock.members) :
    ∃ before ∈ lock.present clock request, before.transaction = member.transaction := by
  have named : member.transaction ∈ entry.lock.members.map fun member => member.transaction :=
    List.mem_map_of_mem present
  rw [lock.present_names clock request entry admits] at named
  exact List.mem_map.mp named

theorem admits_keeps (lock : Lock State) (clock : Instant) (request : EntryRequest State Result)
    (entry : Entry State Result) (distinct : lock.HasDistinctNames)
    (admits : lock.Admits clock request entry) (member : TransactionRecord State)
    (stays : member ∈ lock.stayers request) :
    ∃ kept ∈ entry.lock.members,
      kept.transaction = member.transaction ∧ kept.serial = member.serial := by
  have there : member ∈ lock.present clock request := List.mem_append_left _ stays
  have image := List.mem_map_of_mem there (f := fun member =>
    if member.transaction = request.transaction then
      (lock.entrant clock request).settle request.mode request.operation
    else member)
  rw [← admits.members] at image
  refine ⟨_, image, ?_⟩
  by_cases named : member.transaction = request.transaction
  · have own := lock.present_entrant clock request distinct member there named
    simp only [named, ↓reduceIte, ← own]
    exact ⟨named, rfl⟩
  · simp [named]

theorem wellKept_decides (lock : Lock State) (kept : lock.WellKept) (clock : Instant)
    (request : EntryRequest State Result) (agree : lock.CountsAgree request) :
    lock.DecidesBySeniority clock request := by
  have nobody : (∀ member, ¬ lock.InConflict request member) ↔
      (lock.rivals request).isEmpty = true := by
    simp [inConflict_iff, List.eq_nil_iff_forall_not_mem]
  constructor
  · exact (lock.refused_iff clock request agree).trans (lock.opposed_iff request)
  · exact lock.refusal_holder clock request agree
  · intro younger
    have unopposed : lock.Unopposed request := fun rival conflict =>
      younger rival ((lock.inConflict_iff request rival).mpr conflict)
    obtain ⟨entry, admitted, _⟩ := lock.enter_admits clock request agree unopposed
    exact ⟨entry, admitted⟩
  · intro entry admitted ⟨rival, conflict⟩
    obtain ⟨_, unopposed, admits⟩ := lock.enter_ok clock request entry admitted
    have somebody : ¬ (lock.rivals request).isEmpty = true :=
      fun none => nobody.mpr none rival conflict
    have wounded : entry.wounded = lock.others request.transaction := by
      simp [admits.wounded, Lock.wounds, somebody]
    refine ⟨wounded, ?_, ?_⟩
    · intro member present
      obtain ⟨before, there, same⟩ := lock.admits_origin clock request entry admits member present
      rw [← same]
      exact lock.present_named clock request somebody before there
    · intro record out
      rw [wounded] at out
      have shared := lock.others_inConflict request kept rival record conflict out
      exact ⟨shared, unopposed record ((lock.inConflict_iff request record).mp shared)⟩
  · intro entry admitted none
    have admits := (lock.enter_ok clock request entry admitted).2.2
    have empty := nobody.mp none
    refine ⟨by simp [admits.wounded, Lock.wounds, empty], ?_⟩
    intro member present
    apply lock.admits_keeps clock request entry kept.distinct admits member
    simpa [Lock.stayers, empty] using present

def Aged (priorityOf : TransactionId → Priority) (lock : Lock State) : Prop :=
  ∀ member ∈ lock.members, member.priority = priorityOf member.transaction

theorem entrant_aged (lock : Lock State) (clock : Instant) (request : EntryRequest State Result)
    (priorityOf : TransactionId → Priority) (aged : lock.Aged priorityOf)
    (fixed : request.priority = priorityOf request.transaction) :
    (lock.entrant clock request).priority = priorityOf request.transaction := by
  cases found : lock.find? request.transaction with
  | none => simpa [entrant, found, TransactionRecord.fresh] using fixed
  | some record =>
      obtain ⟨resident, named⟩ := lock.find?_some _ record found
      simpa [entrant, found, named] using aged record resident

theorem perform_aged (lock : Lock State) (kept : lock.WellKept) (clock : Instant)
    (action : LockAction State Result) (priorityOf : TransactionId → Priority)
    (aged : lock.Aged priorityOf)
    (fixed : ∀ request, action = .enter request →
      request.priority = priorityOf request.transaction) :
    (lock.perform clock action).Aged priorityOf := by
  intro member present
  by_cases admission : lock.IsAdmission clock action
  · obtain ⟨request, entry, rfl, admitted⟩ := admission
    have admits := (lock.enter_ok clock request entry admitted).2.2
    simp only [perform, admitted, admits.members] at present
    obtain ⟨before, there, same⟩ := List.mem_map.mp present
    have entrant := lock.entrant_aged clock request priorityOf aged (fixed request rfl)
    have named := lock.entrant_transaction clock request
    by_cases own : before.transaction = request.transaction
    · simp only [own, ↓reduceIte] at same
      subst same
      exact entrant.trans (congrArg priorityOf named.symm)
    · simp only [own, ↓reduceIte] at same
      subst same
      rcases List.mem_append.mp there with stays | comes
      · exact aged before ((lock.stayers_sublist request).subset stays)
      · rw [lock.mem_newcomers clock request before comes, entrant, named]
  · have fewer := lock.perform_credentials kept.distinct clock action admission
    obtain ⟨record, resident, same⟩ := List.mem_map.mp
      (fewer.subset (List.mem_map_of_mem present))
    have transaction : record.transaction = member.transaction := congrArg (·.1) same
    have priority : record.priority = member.priority := congrArg (·.2.2.1) same
    rw [← transaction, ← priority]
    exact aged record resident

/-- An elder in conflict would have to be older than the eldest. -/
theorem eldest_unrefused (lock : Lock State) (clock : Instant)
    (request : EntryRequest State Result) (priorityOf : TransactionId → Priority)
    (eldest : TransactionId) (aged : lock.Aged priorityOf)
    (fixed : request.priority = priorityOf request.transaction)
    (strictly : ∀ other, other ≠ eldest → priorityOf eldest < priorityOf other)
    (holder : TransactionId) :
    lock.enter clock request ≠ .error (.upgradeConflict eldest holder) := by
  intro refused
  by_cases agree : lock.CountsAgree request
  · obtain ⟨own, rival, ⟨present, different, _⟩, _, older, _⟩ :=
      lock.refusal_holder clock request agree eldest holder refused
    rw [aged rival present, fixed, ← own] at older
    exact Nat.lt_asymm older (strictly rival.transaction (own ▸ different))
  · rcases lock.enter_disagrees clock request agree with broken | broken <;>
      (rw [refused] at broken; cases broken)

/-- The eldest would have to be as young as whoever wounds it. -/
theorem eldest_unwounded (lock : Lock State) (kept : lock.WellKept) (clock : Instant)
    (request : EntryRequest State Result) (priorityOf : TransactionId → Priority)
    (eldest : TransactionId) (aged : lock.Aged priorityOf)
    (fixed : request.priority = priorityOf request.transaction)
    (strictly : ∀ other, other ≠ eldest → priorityOf eldest < priorityOf other)
    (entry : Entry State Result) (admitted : lock.enter clock request = .ok entry) :
    ∀ record ∈ entry.wounded, record.transaction ≠ eldest := by
  intro record out named
  have agree := (lock.enter_ok clock request entry admitted).1
  have decides := lock.wellKept_decides kept clock request agree
  by_cases somebody : ∃ rival, lock.InConflict request rival
  · obtain ⟨⟨present, different, _⟩, younger⟩ :=
      (decides.wounds entry admitted somebody).2.2 record out
    rw [named] at different
    apply younger
    rw [aged record present, fixed, named]
    exact strictly request.transaction (Ne.symm different)
  · have none := (decides.spares entry admitted fun member conflict =>
      somebody ⟨member, conflict⟩).1
    rw [none] at out
    cases out

end Lock

namespace System

/-- At some moment of a run an entry gets behind the gate, and this is the system that it finds. -/
def Enters (options : Options) (events : List (Event State Result)) (system : System State Result)
    (request : EntryRequest State Result) : Prop :=
  ∃ before event after, events = before ++ event :: after ∧ system = (new options).run before ∧
    system.action? event = some (.enter request)

structure Aged (options : Options) (priorityOf : TransactionId → Priority)
    (system : System State Result) : Prop where
  orderly : system.Orderly options
  members : system.lock.Aged priorityOf
  gate : ∀ entry ∈ system.gate, entry.priority = priorityOf entry.transaction

theorem newcomers_aged (priorityOf : TransactionId → Priority) (event : Event State Result)
    (fixed : ∀ call request, event = .call call (.enter request) →
      request.priority = priorityOf request.transaction) :
    ∀ entry ∈ newcomers event, entry.priority = priorityOf entry.transaction := by
  intro entry comes
  cases event with
  | call call request =>
      cases request with
      | enter asked =>
          rw [List.mem_singleton.mp comes]
          exact fixed call asked rfl
      | _ => cases comes
  | _ => cases comes

theorem action?_aged (options : Options) (priorityOf : TransactionId → Priority)
    (system : System State Result) (event : Event State Result)
    (aged : system.Aged options priorityOf)
    (fixed : ∀ call request, event = .call call (.enter request) →
      request.priority = priorityOf request.transaction)
    (request : EntryRequest State Result) (action : system.action? event = some (.enter request)) :
    request.priority = priorityOf request.transaction := by
  rcases system.action?_enter event request action with waits | comes
  · exact aged.gate request waits
  · exact newcomers_aged priorityOf event fixed request comes

theorem step_aged (options : Options) (priorityOf : TransactionId → Priority)
    (system : System State Result) (event : Event State Result)
    (fixed : ∀ call request, event = .call call (.enter request) →
      request.priority = priorityOf request.transaction)
    (aged : system.Aged options priorityOf) : (system.step event).Aged options priorityOf := by
  have named := aged.orderly.named
  refine ⟨step_orderly options system event aged.orderly, ?_, ?_⟩
  · rw [system.step_lock event named]
    cases action : system.action? event with
    | none => exact aged.members
    | some action' =>
        apply system.lock.perform_aged aged.orderly.kept system.clock action' priorityOf aged.members
        intro request same
        subst same
        exact action?_aged options priorityOf system event aged fixed request action
  · intro entry waits
    rcases system.step_gate event named entry waits with old | comes
    · exact aged.gate entry old
    · exact newcomers_aged priorityOf event fixed entry comes

theorem run_aged (options : Options) (priorityOf : TransactionId → Priority)
    (events : List (Event State Result))
    (fixed : ∀ call request, .call call (.enter request) ∈ events →
      request.priority = priorityOf request.transaction) :
    ((new options : System State Result).run events).Aged options priorityOf := by
  apply run_invariant (Aged options priorityOf)
  · intro system event member
    exact step_aged options priorityOf system event fun call request same =>
      fixed call request (same ▸ member)
  · refine ⟨⟨new_named options, Lock.new_wellKept options, rfl⟩, ?_, ?_⟩
    · intro member present
      cases present
    · intro entry waits
      cases waits

theorem enters_aged (options : Options) (priorityOf : TransactionId → Priority)
    (events : List (Event State Result))
    (fixed : ∀ call request, .call call (.enter request) ∈ events →
      request.priority = priorityOf request.transaction)
    (system : System State Result) (request : EntryRequest State Result)
    (enters : Enters options events system request) :
    system.Aged options priorityOf ∧ request.priority = priorityOf request.transaction := by
  obtain ⟨before, event, after, split, rfl, action⟩ := enters
  have aged := run_aged options priorityOf before fun call asked member =>
    fixed call asked (by simp [split, member])
  refine ⟨aged, action?_aged options priorityOf _ event aged ?_ request action⟩
  intro call asked same
  exact fixed call asked (by simp [split, same])

/-- In every reachable system an entry is judged by the members in conflict with it, and in a run in
which every transaction keeps its priority, one that is strictly the eldest is neither refused by
the others nor wounded by them. -/
theorem run_entry_by_seniority (options : Options) (events : List (Event State Result)) :
    (∀ (clock : Instant) (request : EntryRequest State Result),
      ((new options).run events).lock.CountsAgree request →
        ((new options).run events).lock.DecidesBySeniority clock request) ∧
    ∀ (priorityOf : TransactionId → Priority) (eldest : TransactionId),
      (∀ call request, .call call (.enter request) ∈ events →
        request.priority = priorityOf request.transaction) →
      (∀ other, other ≠ eldest → priorityOf eldest < priorityOf other) →
      ∀ system request, Enters options events system request →
        (∀ holder, system.lock.enter system.clock request ≠
          .error (.upgradeConflict eldest holder)) ∧
        ∀ entry, system.lock.enter system.clock request = .ok entry →
          ∀ record ∈ entry.wounded, record.transaction ≠ eldest := by
  constructor
  · intro clock request agree
    exact Lock.wellKept_decides _ (run_orderly options events).kept clock request agree
  · intro priorityOf eldest fixed strictly system request enters
    obtain ⟨aged, own⟩ := enters_aged options priorityOf events fixed system request enters
    exact ⟨system.lock.eldest_unrefused system.clock request priorityOf eldest aged.members own
        strictly,
      system.lock.eldest_unwounded aged.orderly.kept system.clock request priorityOf eldest
        aged.members own strictly⟩

def contestPriority (transaction : TransactionId) : Priority :=
  ⟨if transaction = .ofNat 1 then 1 else 2⟩

def contender (number : Nat) (counter : AccessCounter) (mode : AccessMode) :
    EntryRequest Nat Unit :=
  .visit (.ofNat number) (contestPriority (.ofNat number)) counter mode

def contest : List (Event Nat Unit) :=
  [.call 0 (.enter (contender 1 .zero .read)), .call 1 (.enter (contender 2 .zero .read)),
    .call 2 (.enter (contender 1 ⟨1, 0⟩ .write))]

def contested : System Nat Unit :=
  (new ⟨8000, 10000, 20000, 2⟩).run (contest.take 2)

/-- The elder reader enters again to write, and is neither refused nor wounded. -/
theorem contest_entry_by_seniority :
    contested.lock.CountsAgree (contender 1 ⟨1, 0⟩ .write) ∧
      contested.lock.DecidesBySeniority contested.clock (contender 1 ⟨1, 0⟩ .write) ∧
      Enters ⟨8000, 10000, 20000, 2⟩ contest contested (contender 1 ⟨1, 0⟩ .write) ∧
      (∀ holder, contested.lock.enter contested.clock (contender 1 ⟨1, 0⟩ .write) ≠
        .error (.upgradeConflict (.ofNat 1) holder)) ∧
      ∀ entry, contested.lock.enter contested.clock (contender 1 ⟨1, 0⟩ .write) = .ok entry →
        ∀ record ∈ entry.wounded, record.transaction ≠ .ofNat 1 := by
  have agree : contested.lock.CountsAgree (contender 1 ⟨1, 0⟩ .write) := rfl
  have enters : Enters ⟨8000, 10000, 20000, 2⟩ contest contested (contender 1 ⟨1, 0⟩ .write) :=
    ⟨contest.take 2, .call 2 (.enter (contender 1 ⟨1, 0⟩ .write)), [], rfl, rfl, rfl⟩
  have fixed : ∀ call request, .call call (.enter request) ∈ contest →
      request.priority = contestPriority request.transaction := by
    intro call request member
    simp only [contest, List.mem_cons, Event.call.injEq, Request.enter.injEq, List.not_mem_nil,
      or_false] at member
    rcases member with ⟨_, rfl⟩ | ⟨_, rfl⟩ | ⟨_, rfl⟩ <;> rfl
  have strictly : ∀ other, other ≠ .ofNat 1 →
      contestPriority (.ofNat 1) < contestPriority other := by
    intro other different
    simp only [contestPriority, different, ↓reduceIte]
    decide
  have decides := (run_entry_by_seniority ⟨8000, 10000, 20000, 2⟩ (contest.take 2)).1 contested.clock
    (contender 1 ⟨1, 0⟩ .write) agree
  have spared := (run_entry_by_seniority ⟨8000, 10000, 20000, 2⟩ contest).2 contestPriority (.ofNat 1)
    fixed strictly contested (contender 1 ⟨1, 0⟩ .write) enters
  exact ⟨agree, decides, enters, spared.1, spared.2⟩

end System

end WoundWait
