import WoundWait.Proofs.WriterExclusivity
import WoundWait.Proofs.SystemSteps

/-!
Who shares the lock of a running system: a writer nobody, readers no more than there are places for,
and nobody without an access of their own.
-/

namespace WoundWait

variable {State Result : Type}

namespace System

/-- An action at most, and every action keeps the members well. -/
theorem lockAfter_wellKept (system : System State Result) (action : Option (LockAction State Result))
    (kept : system.lock.WellKept) : (system.lockAfter action).WellKept := by
  cases action with
  | none => exact kept
  | some action => exact system.lock.perform_wellKept system.clock action kept

theorem lockAfter_options (system : System State Result) (action : Option (LockAction State Result)) :
    (system.lockAfter action).options = system.lock.options := by
  cases action with
  | none => rfl
  | some action => exact system.lock.perform_options system.clock action

structure Orderly (options : Options) (system : System State Result) : Prop where
  named : system.Named
  kept : system.lock.WellKept
  options : system.lock.options = options

theorem step_orderly (options : Options) (system : System State Result)
    (event : Event State Result) (orderly : system.Orderly options) :
    (system.step event).Orderly options := by
  have after := system.step_lock event orderly.named
  refine ⟨system.step_named event orderly.named, ?_, ?_⟩
  · rw [after]
    exact system.lockAfter_wellKept _ orderly.kept
  · rw [after, lockAfter_options]
    exact orderly.options

theorem Orderly.run {options : Options} {system : System State Result}
    (orderly : system.Orderly options) (events : List (Event State Result)) :
    (system.run events).Orderly options :=
  run_invariant (Orderly options) _ events (fun system event _ => step_orderly options system event)
    orderly

theorem run_orderly (options : Options) (events : List (Event State Result)) :
    ((new options : System State Result).run events).Orderly options :=
  Orderly.run ⟨new_named options, Lock.new_wellKept options, rfl⟩ events

/-- Whoever asked for what in whatever order: a member that wrote is alone, the members are no more
than there are places, each is kept under its own name and no name twice, and each has counted an
access. -/
theorem run_members_exclusive (options : Options) (events : List (Event State Result)) :
    let lock := ((new options : System State Result).run events).lock
    (∀ member ∈ lock.members, member.hasWrites = true → lock.members = [member]) ∧
      lock.members.length ≤ max 1 options.maxLockGroupSize ∧
      (lock.members.map fun member => member.transaction).Nodup ∧
      (∀ member ∈ lock.members, lock.find? member.transaction = some member) ∧
      ∀ member ∈ lock.members, 0 < member.accesses.total := by
  intro lock
  have orderly : ((new options : System State Result).run events).Orderly options :=
    run_orderly options events
  have bounded := orderly.kept.bounded
  rw [orderly.options] at bounded
  exact ⟨orderly.kept.alone, bounded, orderly.kept.distinct,
    lock.find?_of_mem orderly.kept.distinct, orderly.kept.counted⟩

end System

end WoundWait
