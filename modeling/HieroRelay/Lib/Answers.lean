import HieroRelay.Lib.Transcript

/-! Programs whose answers are only known to meet a condition. One operation may be answered
in different ways each time, as where the resource changes meanwhile. -/

namespace HieroRelay.Lib

universe u

variable {Op : Type} {Answer : Op → Type} {Result Next : Type u} {told : (op : Op) → Answer op → Prop}

namespace Prog

/-- Under all answers that meet the condition, the result meets the other one. -/
def Gives (told : (op : Op) → Answer op → Prop) (post : Result → Prop) : Prog Op Answer Result → Prop
  | done result => post result
  | call op next => ∀ answer, told op answer → (next answer).Gives told post

@[simp] theorem gives_done {post : Result → Prop} (result : Result) :
    (done result : Prog Op Answer Result).Gives told post ↔ post result := Iff.rfl

@[simp] theorem gives_call {post : Result → Prop} (op : Op) (next : Answer op → Prog Op Answer Result) :
    (call op next).Gives told post ↔ ∀ answer, told op answer → (next answer).Gives told post := Iff.rfl

@[simp] theorem gives_op {op : Op} {post : Answer op → Prop} :
    (Prog.op op : Prog Op Answer (Answer op)).Gives told post ↔ ∀ answer, told op answer → post answer := Iff.rfl

/-- The rule for one program after another. -/
theorem gives_bind {post : Next → Prop} (program : Prog Op Answer Result) (next : Result → Prog Op Answer Next) :
    (program >>= next).Gives told post ↔ program.Gives told fun result => (next result).Gives told post := by
  induction program with
  | done result => exact Iff.rfl
  | call op follow ih => exact forall_congr' fun answer => imp_congr_right fun _ => ih answer

/-- The rule for a weaker postcondition. -/
theorem Gives.imp {strong weak : Result → Prop} {program : Prog Op Answer Result} (gives : program.Gives told strong)
    (weaker : ∀ result, strong result → weak result) : program.Gives told weak := by
  induction program with
  | done result => exact weaker result gives
  | call op follow ih =>
    intro answer known
    exact ih answer (gives answer known)

/-- One way to answer that meets the condition. -/
theorem Gives.answeredBy {answer : (op : Op) → Answer op} {post : Result → Prop} {program : Prog Op Answer Result}
    (gives : program.Gives told post) (known : ∀ op, told op (answer op)) : post (program.answeredBy answer) := by
  induction program with
  | done result => exact gives
  | call op follow ih => exact ih _ (gives (answer op) (known op))

/-- Where every operation has its one answer, there is one result. -/
theorem gives_iff_answeredBy {answer : (op : Op) → Answer op} {post : Result → Prop} {program : Prog Op Answer Result} :
    program.Gives (fun op given => given = answer op) post ↔ post (program.answeredBy answer) := by
  refine ⟨fun gives => gives.answeredBy fun _ => rfl, ?_⟩
  intro holds
  induction program with
  | done result => exact holds
  | call op follow ih =>
    rintro _ rfl
    exact ih _ holds

section Throwing
variable {Error First Second : Type} {program : ExceptT Error (Prog Op Answer) First}
  {next : First → ExceptT Error (Prog Op Answer) Second} {post : Except Error Second → Prop}

/-- The rule for a first program that does not throw. -/
theorem Gives.bind_ok {middle : First → Prop}
    (first : program.run.Gives told fun outcome => ∃ value, outcome = .ok value ∧ middle value)
    (second : ∀ value, middle value → (next value).run.Gives told post) : (program >>= next).run.Gives told post := by
  rw [ExceptT.run_bind, gives_bind]
  apply first.imp
  rintro _ ⟨value, rfl, holds⟩
  exact second value holds

/-- The rule for a first program with one outcome. -/
theorem Gives.bind_eq {value : First} (first : program.run.Gives told (· = .ok value))
    (second : (next value).run.Gives told post) : (program >>= next).run.Gives told post := by
  have returned : program.run.Gives told fun outcome => ∃ given, outcome = .ok given ∧ given = value :=
    first.imp fun outcome same => ⟨value, same, rfl⟩
  apply Gives.bind_ok returned
  rintro _ rfl
  exact second

/-- The rule for a program whose errors are renamed. -/
theorem Gives.adapt {Other : Type} {rename : Error → Other} {post : Except Other First → Prop}
    (gives : program.run.Gives told fun outcome => post (outcome.mapError rename)) :
    (ExceptT.adapt rename program).run.Gives told post := by
  have renamed : (ExceptT.adapt rename program).run = program.run >>= fun outcome => done (outcome.mapError rename) := rfl
  rw [renamed, gives_bind]
  exact gives

end Throwing

end Prog

end HieroRelay.Lib
