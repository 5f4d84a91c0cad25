import Mathlib.Algebra.GroupWithZero.Nat
import WoundWait.Proofs.WorkerViews

/-!
What holds of the workers of a simulation together. Each is at a transaction of its own; a record in
the lock belongs to the worker that is at its transaction, or was abandoned; and a record that was
handed over for commit is one that a worker has counted or is about to count.
-/

namespace WoundWait

namespace WorkerPool

def Used (pool : WorkerPool) (transaction : TransactionId) : Prop :=
  ∃ index, index < pool.begun ∧ index < pool.config.transactions ∧ transaction = .ofNat index

structure Fits (pool : WorkerPool) (attempt : Attempt) : Prop where
  used : pool.Used attempt.transaction
  planned : attempt.plan.modes ≠ []
  started : 1 ≤ attempt.number
  bounded : attempt.number ≤ pool.config.maxAttempts

/-- The workers keep apart, and what they rely on is so. The last list holds the transactions that
were counted as committed. -/
structure Sound (pool : WorkerPool) (counted : List TransactionId) : Prop where
  kept : pool.lock.WellKept
  stands : ∀ view ∈ pool.views, Stands pool.lock view
  fits : ∀ view ∈ pool.views, ∀ attempt, view.activity.attempt? = some attempt → pool.Fits attempt
  apart : ∀ (number other : Nat) (view another : WorkerView) (transaction : TransactionId),
    pool.views[number]? = some view → pool.views[other]? = some another →
    view.activity.transaction? = some transaction →
    another.activity.transaction? = some transaction → number = other
  used : ∀ member ∈ pool.lock.members, pool.Used member.transaction
  unaborted : ∀ member ∈ pool.lock.members, member.role ≠ .aborted
  owned : ∀ member ∈ pool.lock.members, member.role.isExitReady = true →
    ∃ view ∈ pool.views, view.activity.awaits? = some member.transaction
  once : pool.committed.Nodup
  gone : ∀ transaction ∈ pool.committed, pool.lock.Absent transaction
  awaited : ∀ transaction ∈ pool.committed, transaction ∈ counted ∨
    ∃ view ∈ pool.views, view.activity.awaits? = some transaction
  countedOnce : counted.Nodup
  booked : ∀ transaction ∈ counted, transaction ∈ pool.committed
  settled : ∀ transaction ∈ counted, ∀ view ∈ pool.views,
    view.activity.transaction? ≠ some transaction
  reached : ∀ transaction ∈ counted, pool.Used transaction

theorem mem_set_cases {Item : Type} (items : List Item) (index : Nat) (item other : Item)
    (member : other ∈ items.set index item) :
    other = item ∨ ∃ place, place ≠ index ∧ items[place]? = some other := by
  obtain ⟨place, within, same⟩ := List.mem_iff_getElem.mp member
  rw [List.getElem_set] at same
  split at same
  · exact .inl same.symm
  · rename_i different
    refine .inr ⟨place, fun equal => different equal.symm, ?_⟩
    rw [List.length_set] at within
    rw [List.getElem?_eq_getElem within, same]

theorem mem_set_other {Item : Type} (items : List Item) (index place : Nat) (item other : Item)
    (different : place ≠ index) (there : items[place]? = some other) :
    other ∈ items.set index item := by
  apply List.mem_of_getElem? (i := place)
  rw [List.getElem?_set_ne (Ne.symm different)]
  exact there

theorem mem_set_self {Item : Type} (items : List Item) (index : Nat) (item before : Item)
    (there : items[index]? = some before) : item ∈ items.set index item := by
  apply List.mem_of_getElem? (i := index)
  obtain ⟨within, _⟩ := List.getElem?_eq_some_iff.mp there
  simp [within]

theorem used_ofNat (pool : WorkerPool) (limit : pool.config.transactions ≤ 2 ^ 128)
    (within : pool.begun < pool.config.transactions) : ¬ pool.Used (.ofNat pool.begun) := by
  rintro ⟨index, earlier, bounded, same⟩
  have bits : BitVec.ofNat 128 pool.begun = BitVec.ofNat 128 index :=
    congrArg TransactionId.bits same
  have numbers := congrArg BitVec.toNat bits
  rw [BitVec.toNat_ofNat, BitVec.toNat_ofNat, Nat.mod_eq_of_lt (by omega),
    Nat.mod_eq_of_lt (by omega)] at numbers
  omega

theorem Used.later {pool after : WorkerPool} {transaction : TransactionId}
    (used : pool.Used transaction) (config : after.config = pool.config)
    (begun : pool.begun ≤ after.begun) : after.Used transaction := by
  obtain ⟨index, earlier, bounded, same⟩ := used
  exact ⟨index, Nat.lt_of_lt_of_le earlier begun, config ▸ bounded, same⟩

theorem Fits.later {pool after : WorkerPool} {attempt : Attempt} (fits : pool.Fits attempt)
    (config : after.config = pool.config) (begun : pool.begun ≤ after.begun) :
    after.Fits attempt :=
  ⟨fits.used.later config begun, fits.planned, fits.started, config ▸ fits.bounded⟩

section

variable {pool after : WorkerPool} {counted counted' : List TransactionId}

theorem Sound.view_used (sound : pool.Sound counted) (view : WorkerView) (present : view ∈ pool.views)
    (transaction : TransactionId) (mine : view.activity.transaction? = some transaction) :
    pool.Used transaction := by
  obtain ⟨attempt, own, rfl⟩ := Option.map_eq_some_iff.mp mine
  exact (sound.fits view present attempt own).used

theorem Sound.committed_used (sound : pool.Sound counted) (transaction : TransactionId)
    (committed : transaction ∈ pool.committed) : pool.Used transaction := by
  rcases sound.awaited transaction committed with done | ⟨view, present, awaits⟩
  · exact sound.reached transaction done
  · exact sound.view_used view present transaction
      (view.activity.awaits?_transaction? transaction awaits)

/-- What a worker is at was not handed over for commit before it waits for that. -/
theorem Sound.uncommitted (sound : pool.Sound counted) (number : Nat) (view : WorkerView)
    (there : pool.views[number]? = some view) (transaction : TransactionId)
    (mine : view.activity.transaction? = some transaction)
    (unawaited : view.activity.awaits? ≠ some transaction) : transaction ∉ pool.committed := by
  intro committed
  have present := List.mem_of_getElem? there
  rcases sound.awaited transaction committed with done | ⟨other, there', awaits⟩
  · exact sound.settled transaction done view present mine
  · obtain ⟨place, found⟩ := List.mem_iff_getElem?.mp there'
    have same := sound.apart number place view other transaction there found mine
      (other.activity.awaits?_transaction? transaction awaits)
    subst same
    rw [there, Option.some.injEq] at found
    subst found
    exact unawaited awaits

structure Fares (pool after : WorkerPool) (counted counted' : List TransactionId) (number : Nat)
    (view view' : WorkerView) : Prop where
  there : pool.views[number]? = some view
  views : after.views = pool.views.set number view'
  alone : ∀ (place : Nat) (other : WorkerView), place ≠ number → pool.views[place]? = some other →
    other.isRefused = false
  config : after.config = pool.config
  begun : pool.begun ≤ after.begun
  committed : after.committed = pool.committed
  kept : after.lock.WellKept
  others : ∀ member ∈ after.lock.members,
    view'.activity.transaction? ≠ some member.transaction → member ∈ pool.lock.members
  stands : Stands after.lock view'
  fits : ∀ attempt, view'.activity.attempt? = some attempt → after.Fits attempt
  mine : ∀ transaction, view'.activity.transaction? = some transaction →
    view.activity.transaction? = some transaction ∨ ¬ pool.Used transaction
  own : ∀ member ∈ after.lock.members, view'.activity.transaction? = some member.transaction →
    member.role ≠ .aborted ∧
      (member.role.isExitReady = true → view'.activity.awaits? = some member.transaction)
  free : ∀ transaction, view'.activity.transaction? = some transaction →
    transaction ∈ pool.committed → after.lock.Absent transaction
  frees : ∀ transaction, view.activity.awaits? = some transaction →
    view'.activity.awaits? = some transaction ∨
      (after.lock.Absent transaction ∧ (transaction ∈ pool.committed → transaction ∈ counted'))
  counts : counted' = counted ∨ ∃ transaction, counted' = counted ++ [transaction] ∧
    view.activity.awaits? = some transaction ∧ transaction ∈ pool.committed ∧
    view'.activity.transaction? = none

namespace Fares

variable {number : Nat} {view view' : WorkerView}

theorem origin (fares : pool.Fares after counted counted' number view view') (other : WorkerView)
    (present : other ∈ after.views) :
    other = view' ∨ ∃ place, place ≠ number ∧ pool.views[place]? = some other := by
  rw [fares.views] at present
  exact mem_set_cases _ _ _ _ present

/-- The transaction that the worker is at now is no other worker's. -/
theorem stranger (fares : pool.Fares after counted counted' number view view')
    (sound : pool.Sound counted) (place : Nat) (other : WorkerView) (different : place ≠ number)
    (there : pool.views[place]? = some other) (transaction : TransactionId)
    (theirs : other.activity.transaction? = some transaction) :
    view'.activity.transaction? ≠ some transaction := by
  intro mine
  rcases fares.mine transaction mine with before | unused
  · exact different (sound.apart place number other view transaction there fares.there theirs before)
  · exact unused (sound.view_used other (List.mem_of_getElem? there) transaction theirs)

theorem viewed (fares : pool.Fares after counted counted' number view view') (place : Nat)
    (other : WorkerView) (there : after.views[place]? = some other) :
    (place = number ∧ other = view') ∨ (place ≠ number ∧ pool.views[place]? = some other) := by
  rw [fares.views] at there
  by_cases own : place = number
  · subst own
    rw [List.getElem?_set_self (List.getElem?_eq_some_iff.mp fares.there).1] at there
    exact .inl ⟨rfl, (Option.some.inj there).symm⟩
  · rw [List.getElem?_set_ne (Ne.symm own)] at there
    exact .inr ⟨own, there⟩

/-- Workers at one transaction are one. -/
theorem apart (fares : pool.Fares after counted counted' number view view')
    (sound : pool.Sound counted) (place place' : Nat) (other another : WorkerView)
    (transaction : TransactionId) (there : after.views[place]? = some other)
    (there' : after.views[place']? = some another)
    (theirs : other.activity.transaction? = some transaction)
    (theirs' : another.activity.transaction? = some transaction) : place = place' := by
  rcases fares.viewed place other there with ⟨rfl, rfl⟩ | ⟨one, before⟩ <;>
    rcases fares.viewed place' another there' with ⟨rfl, rfl⟩ | ⟨two, before'⟩
  · rfl
  · exact absurd theirs (fares.stranger sound place' another two before' _ theirs')
  · exact absurd theirs' (fares.stranger sound place other one before _ theirs)
  · exact sound.apart place place' other another transaction before before' theirs theirs'

theorem counted_subset (fares : pool.Fares after counted counted' number view view')
    (transaction : TransactionId) (done : transaction ∈ counted) : transaction ∈ counted' := by
  rcases fares.counts with same | ⟨new, more, _⟩
  · rwa [same]
  · rw [more]
    exact List.mem_append_left _ done

theorem counted_cases (fares : pool.Fares after counted counted' number view view')
    (transaction : TransactionId) (done : transaction ∈ counted') :
    transaction ∈ counted ∨ (view.activity.awaits? = some transaction ∧
      transaction ∈ pool.committed ∧ view'.activity.transaction? = none) := by
  rcases fares.counts with same | ⟨new, more, awaits, committed, nothing⟩
  · exact .inl (same ▸ done)
  · rw [more, List.mem_append, List.mem_singleton] at done
    rcases done with old | rfl
    · exact .inl old
    · exact .inr ⟨awaits, committed, nothing⟩

/-- Whoever awaited a commit still does, or need not. -/
theorem awaits (fares : pool.Fares after counted counted' number view view') (other : WorkerView)
    (present : other ∈ pool.views) (transaction : TransactionId)
    (awaits : other.activity.awaits? = some transaction) :
    (∃ another ∈ after.views, another.activity.awaits? = some transaction) ∨
      (after.lock.Absent transaction ∧ (transaction ∈ pool.committed → transaction ∈ counted')) := by
  obtain ⟨place, found⟩ := List.mem_iff_getElem?.mp present
  by_cases own : place = number
  · subst own
    rw [fares.there, Option.some.injEq] at found
    subst found
    rcases fares.frees transaction awaits with still | free
    · exact .inl ⟨view', fares.views ▸ mem_set_self _ _ _ _ fares.there, still⟩
    · exact .inr free
  · exact .inl ⟨other, fares.views ▸ mem_set_other _ _ _ _ _ own found, awaits⟩

/-- Nobody goes back to a transaction that was counted. -/
theorem settled (fares : pool.Fares after counted counted' number view view')
    (sound : pool.Sound counted) (transaction : TransactionId) (done : transaction ∈ counted')
    (other : WorkerView) (present : other ∈ after.views) :
    other.activity.transaction? ≠ some transaction := by
  intro theirs
  rcases fares.counted_cases transaction done with old | ⟨awaits, _, nothing⟩ <;>
    rcases fares.origin other present with rfl | ⟨place, different, there⟩
  · rcases fares.mine transaction theirs with before | unused
    · exact sound.settled transaction old view (List.mem_of_getElem? fares.there) before
    · exact unused (sound.reached transaction old)
  · exact sound.settled transaction old other (List.mem_of_getElem? there) theirs
  · rw [nothing] at theirs
    cases theirs
  · exact different (sound.apart place number other view transaction there fares.there theirs
      (view.activity.awaits?_transaction? transaction awaits))

theorem sound (fares : pool.Fares after counted counted' number view view')
    (sound : pool.Sound counted) : after.Sound counted' := by
  constructor
  · exact fares.kept
  · intro other present
    rcases fares.origin other present with rfl | ⟨place, different, there⟩
    · exact fares.stands
    · apply (sound.stands other (List.mem_of_getElem? there)).lasts
        (fares.alone place other different there)
      intro member resident theirs
      exact fares.others member resident
        (fares.stranger sound place other different there _ theirs)
  · intro other present attempt at'
    rcases fares.origin other present with rfl | ⟨place, different, there⟩
    · exact fares.fits attempt at'
    · exact (sound.fits other (List.mem_of_getElem? there) attempt at').later fares.config fares.begun
  · exact fares.apart sound
  · intro member resident
    by_cases mine : view'.activity.transaction? = some member.transaction
    · obtain ⟨attempt, at', same⟩ := Option.map_eq_some_iff.mp mine
      exact same ▸ (fares.fits attempt at').used
    · exact (sound.used member (fares.others member resident mine)).later fares.config fares.begun
  · intro member resident
    by_cases mine : view'.activity.transaction? = some member.transaction
    · exact (fares.own member resident mine).1
    · exact sound.unaborted member (fares.others member resident mine)
  · intro member resident ready
    by_cases mine : view'.activity.transaction? = some member.transaction
    · exact ⟨view', fares.views ▸ mem_set_self _ _ _ _ fares.there,
        (fares.own member resident mine).2 ready⟩
    · obtain ⟨other, present, awaits⟩ :=
        sound.owned member (fares.others member resident mine) ready
      rcases fares.awaits other present member.transaction awaits with still | ⟨absent, _⟩
      · exact still
      · exact absurd rfl (absent member resident)
  · rw [fares.committed]
    exact sound.once
  · intro transaction committed member resident named
    rw [fares.committed] at committed
    by_cases mine : view'.activity.transaction? = some member.transaction
    · exact fares.free transaction (named ▸ mine) committed member resident named
    · exact sound.gone transaction committed member (fares.others member resident mine) named
  · intro transaction committed
    rw [fares.committed] at committed
    rcases sound.awaited transaction committed with done | ⟨other, present, awaits⟩
    · exact .inl (fares.counted_subset transaction done)
    · rcases fares.awaits other present transaction awaits with still | ⟨_, counts⟩
      · exact .inr still
      · exact .inl (counts committed)
  · rcases fares.counts with same | ⟨transaction, more, awaits, _, _⟩
    · rw [same]
      exact sound.countedOnce
    · rw [more, ← List.concat_eq_append, List.nodup_concat]
      refine ⟨?_, sound.countedOnce⟩
      intro done
      exact sound.settled transaction done view (List.mem_of_getElem? fares.there)
        (view.activity.awaits?_transaction? transaction awaits)
  · intro transaction done
    rw [fares.committed]
    rcases fares.counted_cases transaction done with old | ⟨_, committed, _⟩
    · exact sound.booked transaction old
    · exact committed
  · exact fares.settled sound
  · intro transaction done
    rcases fares.counted_cases transaction done with old | ⟨awaits, _, _⟩
    · exact (sound.reached transaction old).later fares.config fares.begun
    · exact (sound.view_used view (List.mem_of_getElem? fares.there) transaction
        (view.activity.awaits?_transaction? transaction awaits)).later fares.config fares.begun

end Fares

end

end WorkerPool

end WoundWait
