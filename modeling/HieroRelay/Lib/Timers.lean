import Mathlib.Data.List.Nodup

/-! Timers of an event loop. A timer is run once, at some moment after its deadline, unless it
is cleared before. -/

namespace HieroRelay.Lib

structure Timer (Callback : Type) where
  id : Nat
  deadline : Nat
  callback : Callback
  deriving Repr, DecidableEq

/-- The clock and the timers that are still to run. No two of them have one identifier, and
new identifiers were never given out before. -/
structure Timers (Callback : Type) where
  now : Nat
  nextId : Nat
  pending : List (Timer Callback)
  distinct : (pending.map Timer.id).Nodup
  issued : ∀ timer ∈ pending, timer.id < nextId

namespace Timers

variable {Callback : Type}

def start : Timers Callback where
  now := 0
  nextId := 0
  pending := []
  distinct := List.nodup_nil
  issued := List.forall_mem_nil _

/-- A delay that is no positive number of 32 bits counts as one. -/
def delayOf (delay : Int) : Nat := if 1 ≤ delay ∧ delay ≤ 2147483647 then delay.toNat else 1

variable (timers : Timers Callback)

def setTimeout (callback : Callback) (delay : Int) : Timers Callback where
  now := timers.now
  nextId := timers.nextId + 1
  pending := { id := timers.nextId, deadline := timers.now + delayOf delay, callback } :: timers.pending
  distinct := by
    refine List.nodup_cons.mpr ⟨?_, timers.distinct⟩
    intro member
    obtain ⟨timer, pending, same⟩ := List.mem_map.mp member
    exact Nat.lt_irrefl _ (same ▸ timers.issued timer pending)
  issued := by
    intro timer member
    rcases List.mem_cons.mp member with rfl | pending
    · exact Nat.lt_succ_self _
    · exact Nat.lt_succ_of_lt (timers.issued timer pending)

/-- A timer that ran already, or none, is cleared without effect. -/
def clearTimeout (id : Nat) : Timers Callback where
  now := timers.now
  nextId := timers.nextId
  pending := timers.pending.filter fun timer => timer.id ≠ id
  distinct := timers.distinct.sublist (List.filter_sublist.map Timer.id)
  issued := fun timer member => timers.issued timer (List.mem_of_mem_filter member)

def advance (duration : Nat) : Timers Callback := { timers with now := timers.now + duration }

/-- The timer that the loop may run next under this identifier. -/
def due (id : Nat) : Option (Timer Callback) :=
  timers.pending.find? fun timer => timer.id = id ∧ timer.deadline ≤ timers.now

/-- All timers that are due have run. -/
def Settled : Prop := ∀ timer ∈ timers.pending, timers.now < timer.deadline

instance : Decidable timers.Settled := inferInstanceAs (Decidable (∀ timer ∈ timers.pending, _))

variable {timers}

theorem mem_setTimeout {callback : Callback} {delay : Int} {timer : Timer Callback} :
    timer ∈ (timers.setTimeout callback delay).pending ↔
      timer = { id := timers.nextId, deadline := timers.now + delayOf delay, callback } ∨ timer ∈ timers.pending :=
  List.mem_cons

theorem mem_clearTimeout {id : Nat} {timer : Timer Callback} :
    timer ∈ (timers.clearTimeout id).pending ↔ timer ∈ timers.pending ∧ timer.id ≠ id := by
  simp [clearTimeout]

@[simp] theorem pending_advance (duration : Nat) : (timers.advance duration).pending = timers.pending := rfl

theorem eq_of_id_eq {timer other : Timer Callback} (member : timer ∈ timers.pending)
    (pending : other ∈ timers.pending)
    (same : timer.id = other.id) : timer = other :=
  List.inj_on_of_nodup_map timers.distinct member pending same

theorem due_eq_some_iff {id : Nat} {timer : Timer Callback} :
    timers.due id = some timer ↔ timer ∈ timers.pending ∧ timer.id = id ∧ timer.deadline ≤ timers.now := by
  constructor
  · intro found
    have holds := List.find?_some found
    exact ⟨List.mem_of_find?_eq_some found, by simpa using holds⟩
  · intro holds
    obtain ⟨member, named, passed⟩ := holds
    cases found : timers.due id with
    | none =>
      have missing := List.find?_eq_none.mp found timer member
      simp [named, passed] at missing
    | some other =>
      have chosen := List.find?_some found
      have same : other.id = timer.id := by simpa [named] using And.left (by simpa using chosen)
      rw [eq_of_id_eq (List.mem_of_find?_eq_some found) member same]

end Timers

end HieroRelay.Lib
