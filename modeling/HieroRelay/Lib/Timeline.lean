import Mathlib.Order.Lattice

/-! Values that are written under keys in the course of time, and read as they were at some time:
what is written later does not change them. -/

namespace HieroRelay.Lib

structure Write (Time Key Value : Type) where
  time : Time
  key : Key
  value : Value
  deriving Repr, DecidableEq

/-- The writes in their order. -/
abbrev Timeline (Time Key Value : Type) := List (Write Time Key Value)

namespace Timeline

variable {Time Key Value : Type} [LinearOrder Time] [DecidableEq Key] (timeline : Timeline Time Key Value)

/-- The value after all writes. -/
def current (key : Key) : Option Value :=
  ((timeline.filter fun write => write.key = key).getLast?).map Write.value

/-- The value after the writes up to a time. -/
def valueAt (time : Time) (key : Key) : Option Value :=
  current (timeline.filter fun write => write.time ≤ time) key

variable {timeline} {time : Time} {key : Key}

/-- Later writes leave the past as it is. -/
theorem valueAt_append {more : Timeline Time Key Value} (after : ∀ write ∈ more, time < write.time) :
    valueAt (timeline ++ more) time key = valueAt timeline time key := by
  have none : more.filter (fun write => write.time ≤ time) = [] := by
    apply List.filter_eq_nil_iff.mpr
    intro write member
    have late := after write member
    simpa using late
  rw [valueAt, List.filter_append, none, List.append_nil]
  rfl

/-- At the end of all writes the past is the present. -/
theorem valueAt_eq_current (ended : ∀ write ∈ timeline, write.time ≤ time) :
    valueAt timeline time key = current timeline key := by
  have all : timeline.filter (fun write => write.time ≤ time) = timeline := by
    apply List.filter_eq_self.mpr
    intro write member
    simpa using ended write member
  rw [valueAt, all]

end Timeline

end HieroRelay.Lib
