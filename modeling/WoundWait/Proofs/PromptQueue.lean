import WoundWait.Proofs.ExitSteps

/-!
Systems whose queue takes everything at once and refuses nothing. There nobody waits but for a run
of a worker or for an instant, and each piece of work hands over all that it has to.
-/

namespace WoundWait

variable {State Result : Type}

namespace OutcomeQueue

/-- The gate is open, and a hand-off is accepted as soon as it begins. -/
structure IsPrompt (queue : OutcomeQueue State) : Prop where
  gate : queue.gateOpen = true
  accepts : ∀ handOff, queue.rejects handOff = false
  undelayed : ∀ outcome record, queue.delay outcome + queue.lag outcome record = 0

theorem new_isPrompt : (new : OutcomeQueue State).IsPrompt := by
  refine ⟨rfl, fun _ => rfl, ?_⟩
  intro outcome record
  cases outcome <;> rfl

theorem receive_isPrompt (queue : OutcomeQueue State) (prompt : queue.IsPrompt)
    (handOff : HandOff State) : (queue.receive handOff).IsPrompt := by
  have undelayed (outcome : Outcome) := prompt.undelayed outcome
  rw [receive, prompt.accepts handOff]
  cases handOff.outcome with
  | commit =>
      refine ⟨prompt.gate, prompt.accepts, ?_⟩
      intro outcome
      cases outcome with
      | commit => exact undelayed .commit
      | abort cause => exact undelayed (.abort cause)
  | abort status =>
      refine ⟨prompt.gate, prompt.accepts, ?_⟩
      intro outcome
      cases outcome with
      | commit => exact undelayed .commit
      | abort cause => exact undelayed (.abort cause)

theorem handOff_due (queue : OutcomeQueue State) (prompt : queue.IsPrompt) (clock : Instant)
    (outcome : Outcome) (record : TransactionRecord State) :
    (queue.handOff clock outcome record).due ≤ clock := by
  have same : (queue.handOff clock outcome record).due = clock := by
    simp [handOff, prompt.undelayed outcome record]
  exact Int.le_of_eq same

end OutcomeQueue

namespace System

def abortsHanded (system : System State Result) : Nat :=
  system.handed.countP fun parcel => parcel.1 != .commit

theorem handed_length (system : System State Result) :
    system.handed.length = system.commitsHanded.length + system.abortsHanded := by
  have split := List.length_eq_countP_add_countP (fun parcel => parcel.1 == .commit)
    (l := system.handed)
  have others : system.abortsHanded =
      system.handed.countP fun parcel => decide ¬ (parcel.1 == .commit) = true := by
    apply List.countP_congr
    intro parcel _
    simp
  rw [split, others, commitsHanded, List.length_reverse, List.length_map,
    List.countP_eq_length_filter]

structure Prompt (system : System State Result) : Prop where
  queue : system.queue.IsPrompt
  commits : system.queue.committed = system.commitsHanded
  aborts : system.queue.aborts.length = system.abortsHanded

theorem Prompt.congr {system other : System State Result} (prompt : system.Prompt)
    (queue : other.queue = system.queue) (handed : other.handed = system.handed) : other.Prompt where
  queue := queue ▸ prompt.queue
  commits := by rw [queue, prompt.commits, commitsHanded, commitsHanded, handed]
  aborts := by rw [queue, prompt.aborts, abortsHanded, abortsHanded, handed]

theorem deliver_prompt (system : System State Result) (prompt : system.Prompt)
    (handOff : HandOff State) : (system.deliver handOff).Prompt := by
  have handed : (system.deliver handOff).handed = handOff.parcel :: system.handed := rfl
  have queue : (system.deliver handOff).queue = system.queue.receive handOff := rfl
  have accepts := prompt.queue.accepts handOff
  have commits := prompt.commits
  have aborts := prompt.aborts
  constructor
  · exact system.queue.receive_isPrompt prompt.queue handOff
  · unfold commitsHanded OutcomeQueue.committed OutcomeQueue.receive at *
    rw [queue, handed, accepts]
    cases outcome : handOff.outcome <;> simp [HandOff.parcel, outcome, commits]
  · unfold abortsHanded OutcomeQueue.receive at *
    rw [queue, handed, accepts]
    cases outcome : handOff.outcome <;> simp [HandOff.parcel, outcome, aborts]

theorem deliverDue_prompt (system : System State Result) (prompt : system.Prompt)
    (handOffs : List (HandOff State)) (due : ∀ handOff ∈ handOffs, handOff.due ≤ system.clock) :
    (system.deliverDue handOffs).2 = [] ∧ (system.deliverDue handOffs).1.Prompt := by
  induction handOffs generalizing system with
  | nil => exact ⟨rfl, prompt⟩
  | cons handOff rest ih =>
      rw [List.forall_mem_cons] at due
      simp only [deliverDue, due.1, ↓reduceIte]
      exact ih (system.deliver handOff) (system.deliver_prompt prompt handOff) due.2

theorem startNotifying_prompt (system : System State Result) (prompt : system.Prompt)
    (records : List (TransactionRecord State)) :
    (system.startNotifying records).2 = [] ∧ (system.startNotifying records).1.Prompt := by
  apply system.deliverDue_prompt prompt
  intro handOff member
  obtain ⟨record, _, rfl⟩ := List.mem_map.mp member
  exact system.queue.handOff_due prompt.queue _ _ record

theorem deliverExits_prompt (system : System State Result) (prompt : system.Prompt)
    (records : List (TransactionRecord State)) :
    (system.deliverExits records).2 = none ∧ (system.deliverExits records).1.Prompt := by
  induction records generalizing system with
  | nil => exact ⟨rfl, prompt⟩
  | cons record rest ih =>
      have due := system.queue.handOff_due prompt.queue system.clock .commit record
      simp only [deliverExits, due, ↓reduceIte]
      exact ih _ (system.deliver_prompt prompt _)

theorem notifyThen_prompt (system : System State Result) (prompt : system.Prompt)
    (records : List (TransactionRecord State)) (answer : Answer State Result) :
    (system.notifyThen records answer).2 = .answered answer ∧
      (system.notifyThen records answer).1.Prompt := by
  obtain ⟨nothing, after⟩ := system.startNotifying_prompt prompt records
  unfold notifyThen
  cases later : system.startNotifying records with
  | mk notified pending =>
      rw [later] at nothing after
      simp only at nothing
      subst nothing
      exact ⟨rfl, after⟩

/-- Messages to the workers are no concern of the queue. -/
theorem wakeLock_prompt (system : System State Result) (prompt : system.Prompt) :
    system.wakeLock.Prompt := by
  unfold wakeLock
  split
  · exact prompt.congr rfl rfl
  · exact prompt

theorem wakeStorage_prompt (system : System State Result) (prompt : system.Prompt) :
    system.wakeStorage.Prompt := by
  unfold wakeStorage
  split
  · exact prompt.congr rfl rfl
  · exact prompt

theorem notifyLock_prompt (system : System State Result) (prompt : system.Prompt) :
    system.notifyLock.Prompt :=
  wakeLock_prompt _ (prompt.congr rfl rfl)

theorem notifyLockAt_prompt (system : System State Result) (prompt : system.Prompt)
    (instant : Instant) : (system.notifyLockAt instant).Prompt :=
  wakeLock_prompt _ (prompt.congr rfl rfl)

theorem notifyStorage_prompt (system : System State Result) (prompt : system.Prompt) :
    system.notifyStorage.Prompt :=
  wakeStorage_prompt _ (prompt.congr rfl rfl)

theorem notifyAfterEntry_prompt (system : System State Result) (prompt : system.Prompt)
    (wounded : List (TransactionRecord State)) : (system.notifyAfterEntry wounded).Prompt := by
  unfold notifyAfterEntry
  split
  · split
    · exact system.notifyLockAt_prompt prompt _
    · exact prompt
  · exact system.notifyLock_prompt prompt

end System

end WoundWait
