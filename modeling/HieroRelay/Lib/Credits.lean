import HieroRelay.Lib.Noted
import Mathlib.Algebra.Order.BigOperators.Group.List

/-! Credits that the calls of a program bring and take. The rules carry a credit through a program,
so that what a whole run may spend follows from what each of its calls may. -/

namespace HieroRelay.Lib

universe u

variable {Op Note Credit : Type} {Answer : Op → Type} {Result Next : Type u} [AddCommGroup Credit]

/-- The sum over the calls of a run. -/
def total (change : Noted Op Answer Note → Credit) (steps : List (Noted Op Answer Note)) : Credit :=
  (steps.map change).sum

section Sums
variable {change : Noted Op Answer Note → Credit} {step : Noted Op Answer Note}
  {first second steps : List (Noted Op Answer Note)}

@[simp] theorem total_nil : total change [] = 0 := rfl

@[simp] theorem total_cons : total change (step :: steps) = change step + total change steps :=
  List.sum_cons

@[simp] theorem total_append :
    total change (first ++ second) = total change first + total change second := by
  rw [total, List.map_append, List.sum_append]
  rfl

theorem total_neg : total (fun step => -change step) steps = -total change steps := by
  induction steps with
  | nil => exact neg_zero.symm
  | cons step steps ih => rw [total_cons, total_cons, ih, neg_add]

theorem total_sub {other : Noted Op Answer Note → Credit} :
    total (fun step => change step - other step) steps = total change steps - total other steps := by
  induction steps with
  | nil => exact (sub_zero 0).symm
  | cons step steps ih => rw [total_cons, total_cons, total_cons, ih, add_sub_add_comm]

end Sums

variable [PartialOrder Credit] {lawful : Noted Op Answer Note → Prop} {change : Noted Op Answer Note → Credit}
  {credit : Credit} {left : Result → Credit}

namespace Prog

/-- However its calls are answered, a run that begins with the credit has at its end what is left
for its result, as long as it keeps to the law. -/
def Affords (lawful : Noted Op Answer Note → Prop) (change : Noted Op Answer Note → Credit) (credit : Credit)
    (left : Result → Credit) (program : Prog Op Answer Result) : Prop :=
  ∀ steps result, RanNoted program steps result → (∀ step ∈ steps, lawful step) →
    left result ≤ credit + total change steps

theorem affords_done {result : Result} (enough : left result ≤ credit) :
    (done result : Prog Op Answer Result).Affords lawful change credit left := by
  intro steps other ran _
  obtain ⟨rfl, rfl⟩ := ranNoted_done_iff.mp ran
  rw [total_nil, add_zero]
  exact enough

theorem affords_call {op : Op} {next : Answer op → Prog Op Answer Result}
    (following : ∀ answer note, lawful (⟨op, answer⟩, note) →
      (next answer).Affords lawful change (credit + change (⟨op, answer⟩, note)) left) :
    (call op next).Affords lawful change credit left := by
  intro steps result ran kept
  obtain ⟨answer, note, others, rfl, rest⟩ := ranNoted_call_iff.mp ran
  obtain ⟨first, later⟩ := List.forall_mem_cons.mp kept
  rw [total_cons, ← add_assoc]
  exact following answer note first others result rest later

variable [IsOrderedAddMonoid Credit]

theorem Affords.bind {program : Prog Op Answer Result} {next : Result → Prog Op Answer Next}
    {middle : Result → Credit} {left : Next → Credit} (first : program.Affords lawful change credit middle)
    (second : ∀ result, (next result).Affords lawful change (middle result) left) :
    (program >>= next).Affords lawful change credit left := by
  intro steps result ran kept
  obtain ⟨begun, ended, value, rfl, firstRan, secondRan⟩ := ranNoted_bind_iff.mp ran
  obtain ⟨keptFirst, keptSecond⟩ := List.forall_mem_append.mp kept
  calc left result
      ≤ middle value + total change ended := second value ended result secondRan keptSecond
    _ ≤ credit + total change begun + total change ended :=
      add_le_add_left (first begun value firstRan keptFirst) _
    _ = credit + total change (begun ++ ended) := by rw [total_append, add_assoc]

/-- More credit is enough, and less may be left. -/
theorem Affords.weaken {more : Credit} {less : Result → Credit} {program : Prog Op Answer Result}
    (affords : program.Affords lawful change credit left) (begun : credit ≤ more)
    (ended : ∀ result, less result ≤ left result) : program.Affords lawful change more less := by
  intro steps result ran kept
  calc less result
      ≤ left result := ended result
    _ ≤ credit + total change steps := affords steps result ran kept
    _ ≤ more + total change steps := add_le_add_left begun _

/-- Credit that is not needed is left. -/
theorem Affords.keep {program : Prog Op Answer Result} (affords : program.Affords lawful change credit left)
    (more : Credit) : program.Affords lawful change (credit + more) fun result => left result + more := by
  intro steps result ran kept
  rw [add_right_comm]
  exact add_le_add_left (affords steps result ran kept) more

end Prog

section Throwing
variable [IsOrderedAddMonoid Credit] {Error First Second : Type} {call : ExceptT Error (Prog Op Answer) First}
  {next : First → ExceptT Error (Prog Op Answer) Second} {left : Except Error Second → Credit}

open Prog

theorem affords_bindExcept {middle : Except Error First → Credit}
    (first : call.run.Affords lawful change credit middle)
    (second : ∀ value, (next value).run.Affords lawful change (middle (.ok value)) left)
    (thrown : ∀ error, left (.error error) ≤ middle (.error error)) :
    (call >>= next).run.Affords lawful change credit left := by
  rw [ExceptT.run_bind]
  apply first.bind
  intro outcome
  cases outcome with
  | ok value => exact second value
  | error error => exact affords_done (thrown error)

theorem affords_lift_bind {program : Prog Op Answer First} {middle : First → Credit}
    (first : program.Affords lawful change credit middle)
    (second : ∀ value, (next value).run.Affords lawful change (middle value) left) :
    (ExceptT.lift program >>= next).run.Affords lawful change credit left := by
  rw [ExceptT.run_bind_lift]
  exact first.bind second

end Throwing

end HieroRelay.Lib
