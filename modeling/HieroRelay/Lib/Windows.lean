import Mathlib.Data.List.Basic
import Mathlib.Order.Lattice

/-! Fixed windows over a history of events, the latest one first: a window opens with an
event and lasts for a duration, and the first event after it opens the next one. -/

namespace HieroRelay.Lib

/-- The events that share a window, with their times. -/
structure Windows (Event : Type) where
  duration : Nat
  time : Event → Nat
  belongs : Event → Bool

namespace Windows

variable {Event : Type} (windows : Windows Event)

/-- The start of the window of an event, after the current window. -/
def after (current : Option Nat) (now : Nat) : Nat :=
  match current with
  | none => now
  | some start => if start + windows.duration < now then now else start

def current : List Event → Option Nat
  | [] => none
  | event :: earlier =>
      if windows.belongs event then some (windows.after (current earlier) (windows.time event)) else current earlier

/-- The start of the window of an event after a history. -/
def startOf (earlier : List Event) (event : Event) : Nat :=
  windows.after (windows.current earlier) (windows.time event)

/-- The event comes when a window was there and is over. -/
def reopens (earlier : List Event) (event : Event) : Bool :=
  (windows.current earlier).any fun start => start + windows.duration < windows.time event

/-- How many events of a window are chosen; whether one is may depend on the earlier ones. -/
def countIn (chosen : List Event → Event → Bool) (start : Nat) : List Event → Nat
  | [] => 0
  | event :: earlier =>
      (if windows.belongs event ∧ chosen earlier event ∧ windows.startOf earlier event = start then 1 else 0) +
        countIn chosen start earlier

variable {windows} {event : Event} {earlier : List Event} {start : Nat} {chosen : List Event → Event → Bool}

theorem current_cons_of_belongs (own : windows.belongs event = true) :
    windows.current (event :: earlier) = some (windows.startOf earlier event) := if_pos own

theorem current_cons_of_not_belongs (other : windows.belongs event = false) :
    windows.current (event :: earlier) = windows.current earlier := if_neg (Bool.not_eq_true _ ▸ other)

theorem startOf_of_none (none : windows.current earlier = none) :
    windows.startOf earlier event = windows.time event := by
  rw [startOf, none, after]

theorem startOf_of_reopens (reopens : windows.reopens earlier event = true) :
    windows.startOf earlier event = windows.time event := by
  obtain ⟨start, current, ended⟩ := Option.any_eq_true _ _ |>.mp reopens
  rw [startOf, current, after, if_pos (of_decide_eq_true ended)]

theorem startOf_of_stays (current : windows.current earlier = some start)
    (stays : windows.reopens earlier event = false) : windows.startOf earlier event = start := by
  rw [reopens, current, Option.any_some, decide_eq_false_iff_not] at stays
  rw [startOf, current, after, if_neg stays]

/-- Windows come one after the other. -/
theorem le_startOf (current : windows.current earlier = some start) : start ≤ windows.startOf earlier event := by
  rw [startOf, current, after]
  split_ifs with ended
  · omega
  · exact Nat.le_refl start

theorem lt_startOf_of_reopens (current : windows.current earlier = some start)
    (reopens : windows.reopens earlier event = true) : start < windows.startOf earlier event := by
  rw [startOf_of_reopens reopens]
  rw [Windows.reopens, current, Option.any_some, decide_eq_true_eq] at reopens
  omega

/-- A window that is not open yet has no events. -/
theorem countIn_eq_zero (events : List Event)
    (beyond : ∀ current, windows.current events = some current → current < start) :
    windows.countIn chosen start events = 0 := by
  induction events with
  | nil => rfl
  | cons event earlier ih =>
      have before : ∀ current, windows.current earlier = some current → current < start := by
        intro current found
        cases own : windows.belongs event with
        | false => exact beyond current ((current_cons_of_not_belongs own).trans found)
        | true => exact (le_startOf found).trans_lt (beyond _ (current_cons_of_belongs own))
      have different : ¬ (windows.belongs event = true ∧ chosen earlier event = true ∧
          windows.startOf earlier event = start) := by
        rintro ⟨own, _, same⟩
        exact absurd same (Nat.ne_of_lt (beyond _ (current_cons_of_belongs own)))
      rw [countIn, if_neg different, ih before]

theorem countIn_eq_zero_of_opens (opens : windows.current earlier = none ∨ windows.reopens earlier event = true) :
    windows.countIn chosen (windows.startOf earlier event) earlier = 0 := by
  apply countIn_eq_zero
  intro current found
  rcases opens with none | reopens
  · rw [none] at found
    cases found
  · exact lt_startOf_of_reopens found reopens

theorem countIn_cons_of_chosen (own : windows.belongs event = true) (isChosen : chosen earlier event = true) :
    windows.countIn chosen (windows.startOf earlier event) (event :: earlier) =
      windows.countIn chosen (windows.startOf earlier event) earlier + 1 := by
  rw [countIn, if_pos ⟨own, isChosen, rfl⟩, Nat.add_comm]

/-- The event that opened the current window is in it. -/
theorem countIn_pos (events : List Event) (all : ∀ earlier event, chosen earlier event = true)
    (current : windows.current events = some start) : 0 < windows.countIn chosen start events := by
  induction events with
  | nil => cases current
  | cons event earlier ih =>
      cases own : windows.belongs event with
      | true =>
          rw [current_cons_of_belongs own] at current
          obtain rfl := Option.some.inj current
          rw [countIn_cons_of_chosen own (all earlier event)]
          exact Nat.succ_pos _
      | false =>
          rw [current_cons_of_not_belongs own] at current
          exact (ih current).trans_le (Nat.le_add_left _ _)

theorem countIn_cons_of_not (other : windows.belongs event = false ∨ chosen earlier event = false) :
    windows.countIn chosen start (event :: earlier) = windows.countIn chosen start earlier := by
  have different : ¬ (windows.belongs event = true ∧ chosen earlier event = true ∧
      windows.startOf earlier event = start) := by
    rintro ⟨own, isChosen, _⟩
    rcases other with foreign | left
    · rw [foreign] at own
      cases own
    · rw [left] at isChosen
      cases isChosen
  rw [countIn, if_neg different, Nat.zero_add]

/-- Where an event is allowed as long as fewer than a limit came before it in its window, no
window has more allowed events than the limit. -/
theorem countIn_allowed (windows : Windows Event) (chosen allows : List Event → Event → Bool) (start limit : Nat)
    (events : List Event)
    (bounded : ∀ earlier event, event :: earlier <:+ events → windows.belongs event = true → chosen earlier event = true →
      (allows earlier event = true ↔ windows.countIn chosen (windows.startOf earlier event) earlier < limit)) :
    windows.countIn (fun earlier event => chosen earlier event && allows earlier event) start events =
      min (windows.countIn chosen start events) limit := by
  induction events with
  | nil => exact (Nat.zero_min limit).symm
  | cons event earlier ih =>
      have ofEarlier := ih fun before other inside => bounded before other (inside.trans (List.suffix_cons event earlier))
      by_cases counted : windows.belongs event = true ∧ chosen earlier event = true ∧
          windows.startOf earlier event = start
      · obtain ⟨own, isChosen, rfl⟩ := counted
        rw [countIn_cons_of_chosen own isChosen]
        have allowed := bounded earlier event List.suffix_rfl own isChosen
        cases allows? : allows earlier event with
        | true =>
            rw [countIn_cons_of_chosen own (by rw [isChosen, allows?]; rfl), ofEarlier]
            have below := allowed.mp allows?
            omega
        | false =>
            rw [countIn_cons_of_not (.inr (by rw [isChosen, allows?]; rfl)), ofEarlier]
            have above : ¬ _ := fun below => Bool.false_ne_true (allows?.symm.trans (allowed.mpr below))
            omega
      · have left : ¬ (windows.belongs event = true ∧ (chosen earlier event && allows earlier event) = true ∧
            windows.startOf earlier event = start) := by
          rintro ⟨own, both, same⟩
          exact counted ⟨own, (Bool.and_eq_true_iff.mp both).1, same⟩
        rw [countIn, if_neg left, countIn, if_neg counted, ofEarlier]
        omega

section Filter

variable {keep : Event → Bool} (own : ∀ event, windows.belongs event = true → keep event = true)

include own

/-- Other events do not matter. -/
theorem current_filter (events : List Event) : windows.current (events.filter keep) = windows.current events := by
  induction events with
  | nil => rfl
  | cons event earlier ih =>
      cases belongs : windows.belongs event with
      | true =>
          rw [List.filter_cons_of_pos (own event belongs), current_cons_of_belongs belongs,
            current_cons_of_belongs belongs, startOf, startOf, ih]
      | false =>
          rw [current_cons_of_not_belongs belongs, ← ih]
          cases kept : keep event with
          | true => rw [List.filter_cons_of_pos kept, current_cons_of_not_belongs belongs]
          | false => rw [List.filter_cons_of_neg (Bool.eq_false_iff.mp kept)]

theorem startOf_filter (events : List Event) (event : Event) :
    windows.startOf (events.filter keep) event = windows.startOf events event := by
  rw [startOf, current_filter own, startOf]

theorem reopens_filter (events : List Event) (event : Event) :
    windows.reopens (events.filter keep) event = windows.reopens events event := by
  rw [reopens, current_filter own, reopens]

theorem countIn_filter (chosen : Event → Bool) (start : Nat) (events : List Event) :
    windows.countIn (fun _ event => chosen event) start (events.filter keep) =
      windows.countIn (fun _ event => chosen event) start events := by
  induction events with
  | nil => rfl
  | cons event earlier ih =>
      cases belongs : windows.belongs event with
      | true => rw [List.filter_cons_of_pos (own event belongs), countIn, countIn, startOf_filter own, ih]
      | false =>
          rw [countIn_cons_of_not (.inl belongs), ← ih]
          cases kept : keep event with
          | true => rw [List.filter_cons_of_pos kept, countIn_cons_of_not (.inl belongs)]
          | false => rw [List.filter_cons_of_neg (Bool.eq_false_iff.mp kept)]

end Filter

end Windows

end HieroRelay.Lib
