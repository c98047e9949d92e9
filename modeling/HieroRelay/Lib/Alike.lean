import HieroRelay.Lib.Prog

/-! Programs over different operations that do the same: each makes the calls that match those of the
other one, and as long as the answers match, so do the results. -/

namespace HieroRelay.Lib

variable {Op Other : Type} {Answer : Op → Type} {OtherAnswer : Other → Type}
  {Result OtherResult Next OtherNext Error OtherError : Type}

/-- Which operations match, and which answers to them. -/
structure Matching (Answer : Op → Type) (OtherAnswer : Other → Type) where
  operations : Op → Other → Prop
  answers : (op : Op) → (other : Other) → Answer op → OtherAnswer other → Prop

inductive Alike (matching : Matching Answer OtherAnswer) (results : Result → OtherResult → Prop) :
    Prog Op Answer Result → Prog Other OtherAnswer OtherResult → Prop where
  | done {result : Result} {otherResult : OtherResult} (same : results result otherResult) :
      Alike matching results (.done result) (.done otherResult)
  | call {op : Op} {other : Other} {next : Answer op → Prog Op Answer Result}
      {otherNext : OtherAnswer other → Prog Other OtherAnswer OtherResult} (same : matching.operations op other)
      (alike : ∀ answer otherAnswer, matching.answers op other answer otherAnswer →
        Alike matching results (next answer) (otherNext otherAnswer)) :
      Alike matching results (.call op next) (.call other otherNext)

/-- Both return, or both throw. -/
inductive Outcomes (errors : Error → OtherError → Prop) (results : Result → OtherResult → Prop) :
    Except Error Result → Except OtherError OtherResult → Prop where
  | ok {result : Result} {otherResult : OtherResult} (same : results result otherResult) :
      Outcomes errors results (.ok result) (.ok otherResult)
  | error {error : Error} {otherError : OtherError} (same : errors error otherError) :
      Outcomes errors results (.error error) (.error otherError)

namespace Alike

variable {matching : Matching Answer OtherAnswer} {results : Result → OtherResult → Prop}
  {nexts : Next → OtherNext → Prop} {errors : Error → OtherError → Prop} {program : Prog Op Answer Result}
  {other : Prog Other OtherAnswer OtherResult}

theorem op {op : Op} {other : Other} (same : matching.operations op other) :
    Alike matching (matching.answers op other) (Prog.op op) (Prog.op other) :=
  .call same fun _ _ matches_ => .done matches_

theorem bind {next : Result → Prog Op Answer Next} {otherNext : OtherResult → Prog Other OtherAnswer OtherNext}
    (first : Alike matching results program other)
    (second : ∀ result otherResult, results result otherResult →
      Alike matching nexts (next result) (otherNext otherResult)) :
    Alike matching nexts (program >>= next) (other >>= otherNext) := by
  induction first with
  | done same => exact second _ _ same
  | call same _ ih => exact .call same ih

/-- The rule for programs that may throw: what both throw is passed on. -/
theorem bindExcept {program : ExceptT Error (Prog Op Answer) Result}
    {other : ExceptT OtherError (Prog Other OtherAnswer) OtherResult}
    {next : Result → ExceptT Error (Prog Op Answer) Next}
    {otherNext : OtherResult → ExceptT OtherError (Prog Other OtherAnswer) OtherNext}
    (first : Alike matching (Outcomes errors results) program.run other.run)
    (second : ∀ result otherResult, results result otherResult →
      Alike matching (Outcomes errors nexts) (next result).run (otherNext otherResult).run) :
    Alike matching (Outcomes errors nexts) (program >>= next).run (other >>= otherNext).run := by
  rw [ExceptT.run_bind, ExceptT.run_bind]
  apply bind first
  rintro _ _ (⟨same⟩ | ⟨same⟩)
  · exact second _ _ same
  · exact .done (.error same)

/-- Over answers that match, the results do. -/
theorem answeredBy (alike : Alike matching results program other) {answer : (op : Op) → Answer op}
    {otherAnswer : (other : Other) → OtherAnswer other}
    (matches_ : ∀ op other, matching.operations op other → matching.answers op other (answer op) (otherAnswer other)) :
    results (program.answeredBy answer) (other.answeredBy otherAnswer) := by
  induction alike with
  | done same => exact same
  | call same _ ih => exact ih _ _ (matches_ _ _ same)

end Alike

end HieroRelay.Lib
