import HieroRelay.Lib.Transcript

/-! Runs whose exchanges carry notes that the program does not see, and properties of such
runs that hold of a whole run because they hold of its parts. -/

namespace HieroRelay.Lib

universe u

variable {Op Note : Type} {Answer : Op → Type} {Result Next : Type u}

/-- An exchange with its note. -/
abbrev Noted (Op : Type) (Answer : Op → Type) (Note : Type) := Exchange Op Answer × Note

def RanNoted (program : Prog Op Answer Result) (steps : List (Noted Op Answer Note)) (result : Result) : Prop :=
  Ran program (steps.map Prod.fst) result

theorem ranNoted_done_iff {result other : Result} {steps : List (Noted Op Answer Note)} :
    RanNoted (.done result) steps other ↔ steps = [] ∧ result = other := by
  rw [RanNoted, ran_done_iff, List.map_eq_nil_iff]

theorem ranNoted_call_iff {op : Op} {next : Answer op → Prog Op Answer Result} {result : Result}
    {steps : List (Noted Op Answer Note)} :
    RanNoted (.call op next) steps result ↔
      ∃ answer note others, steps = (⟨op, answer⟩, note) :: others ∧ RanNoted (next answer) others result := by
  rw [RanNoted, ran_call_iff]
  constructor
  · rintro ⟨answer, exchanges, same, ran⟩
    obtain ⟨⟨_, note⟩, others, rfl, rfl, rfl⟩ := List.map_eq_cons_iff.mp same
    exact ⟨answer, note, others, rfl, ran⟩
  · rintro ⟨answer, note, others, rfl, ran⟩
    exact ⟨answer, others.map Prod.fst, rfl, ran⟩

theorem ranNoted_bind_iff {program : Prog Op Answer Result} {next : Result → Prog Op Answer Next} {result : Next}
    {steps : List (Noted Op Answer Note)} :
    RanNoted (program >>= next) steps result ↔
      ∃ first second value, steps = first ++ second ∧ RanNoted program first value ∧
        RanNoted (next value) second result := by
  rw [RanNoted, ran_bind_iff]
  constructor
  · rintro ⟨begun, ended, value, same, firstRan, secondRan⟩
    obtain ⟨first, second, rfl, rfl, rfl⟩ := List.map_eq_append_iff.mp same
    exact ⟨first, second, value, rfl, firstRan, secondRan⟩
  · rintro ⟨first, second, value, rfl, firstRan, secondRan⟩
    exact ⟨_, _, value, List.map_append, firstRan, secondRan⟩

/-- A call that throws ends the run. -/
theorem ranNoted_bindExcept_iff {Error First Second : Type} {call : ExceptT Error (Prog Op Answer) First}
    {next : First → ExceptT Error (Prog Op Answer) Second} {outcome : Except Error Second}
    {steps : List (Noted Op Answer Note)} :
    RanNoted (call >>= next).run steps outcome ↔
      (∃ first second value, steps = first ++ second ∧ RanNoted call.run first (.ok value) ∧
        RanNoted (next value).run second outcome) ∨
      ∃ error, outcome = .error error ∧ RanNoted call.run steps (.error error) := by
  rw [RanNoted, ran_bindExcept_iff]
  constructor
  · rintro (⟨begun, ended, value, same, firstRan, secondRan⟩ | thrown)
    · obtain ⟨first, second, rfl, rfl, rfl⟩ := List.map_eq_append_iff.mp same
      exact .inl ⟨first, second, value, rfl, firstRan, secondRan⟩
    · exact .inr thrown
  · rintro (⟨first, second, value, rfl, firstRan, secondRan⟩ | thrown)
    · exact .inl ⟨_, _, value, List.map_append, firstRan, secondRan⟩
    · exact .inr thrown

theorem ranNoted_lift_bind_iff {Error First Second : Type} {program : Prog Op Answer First}
    {next : First → ExceptT Error (Prog Op Answer) Second} {outcome : Except Error Second}
    {steps : List (Noted Op Answer Note)} :
    RanNoted (ExceptT.lift program >>= next).run steps outcome ↔
      ∃ first second value, steps = first ++ second ∧ RanNoted program first value ∧
        RanNoted (next value).run second outcome := by
  rw [ExceptT.run_bind_lift]
  exact ranNoted_bind_iff

/-- A property of runs that holds of two runs together if it holds of both. -/
structure Additive (holds : List (Noted Op Answer Note) → Prop) : Prop where
  nil : holds []
  append : ∀ first second, holds first → holds second → holds (first ++ second)

section Always
variable (lawful : Noted Op Answer Note → Prop) (holds : List (Noted Op Answer Note) → Prop)

/-- The property holds of every run of the program that keeps to the law. -/
def Prog.Always (program : Prog Op Answer Result) : Prop :=
  ∀ steps result, RanNoted program steps result → (∀ step ∈ steps, lawful step) → holds steps

variable {lawful holds} (additive : Additive holds)
include additive

theorem Prog.always_done (result : Result) : (done result : Prog Op Answer Result).Always lawful holds := by
  intro steps other ran _
  rw [(ranNoted_done_iff.mp ran).1]
  exact additive.nil

theorem Prog.Always.bind {program : Prog Op Answer Result} {next : Result → Prog Op Answer Next}
    (first : program.Always lawful holds) (second : ∀ result, (next result).Always lawful holds) :
    (program >>= next).Always lawful holds := by
  intro steps result ran kept
  obtain ⟨begun, ended, value, rfl, firstRan, secondRan⟩ := ranNoted_bind_iff.mp ran
  obtain ⟨keptFirst, keptSecond⟩ := List.forall_mem_append.mp kept
  exact additive.append begun ended (first begun value firstRan keptFirst) (second value ended result secondRan keptSecond)

theorem Prog.Always.bindExcept {Error First Second : Type} {call : ExceptT Error (Prog Op Answer) First}
    {next : First → ExceptT Error (Prog Op Answer) Second} (first : call.run.Always lawful holds)
    (second : ∀ value, (next value).run.Always lawful holds) : (call >>= next).run.Always lawful holds := by
  rw [ExceptT.run_bind]
  apply Prog.Always.bind additive first
  intro outcome
  cases outcome with
  | ok value => exact second value
  | error error => exact Prog.always_done additive _

end Always

end HieroRelay.Lib
