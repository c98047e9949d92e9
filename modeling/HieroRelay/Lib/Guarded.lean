import HieroRelay.Lib.Transcript

/-! Which operations a program may ask after which others. The rules carry the history of a run
through a program, so that what is allowed may depend on the answers so far. -/

namespace HieroRelay.Lib

universe u

variable {Op : Type} {Answer : Op → Type} {Result Next : Type u}

/-- The operations of a run, with their answers, in their order. -/
abbrev Trail (Op : Type) (Answer : Op → Type) := List (Exchange Op Answer)

variable {allowed : Trail Op Answer → Op → Prop} {history : Trail Op Answer}

namespace Prog

/-- After the history every operation is allowed where it is asked, and the end is as it should be. -/
def Guards (allowed : Trail Op Answer → Op → Prop) (post : Trail Op Answer → Result → Prop) :
    Prog Op Answer Result → Trail Op Answer → Prop
  | .done result, history => post history result
  | .call op next, history =>
      allowed history op ∧ ∀ answer, (next answer).Guards allowed post (history ++ [⟨op, answer⟩])

theorem Guards.bind {middle : Trail Op Answer → Result → Prop} {post : Trail Op Answer → Next → Prop}
    {program : Prog Op Answer Result} {next : Result → Prog Op Answer Next}
    (first : program.Guards allowed middle history)
    (second : ∀ later result, middle later result → (next result).Guards allowed post later) :
    (program >>= next).Guards allowed post history := by
  induction program generalizing history with
  | done result => exact second history result first
  | call op follow ih =>
    refine ⟨first.1, ?_⟩
    intro answer
    exact ih answer (first.2 answer)

theorem Guards.weaken {strong weak : Trail Op Answer → Result → Prop} {program : Prog Op Answer Result}
    (guards : program.Guards allowed strong history)
    (weaker : ∀ later result, strong later result → weak later result) :
    program.Guards allowed weak history := by
  induction program generalizing history with
  | done result => exact weaker history result guards
  | call op next ih =>
    refine ⟨guards.1, ?_⟩
    intro answer
    exact ih answer (guards.2 answer)

theorem Guards.widen {wider : Trail Op Answer → Op → Prop} {post : Trail Op Answer → Result → Prop}
    {program : Prog Op Answer Result} (guards : program.Guards allowed post history)
    (also : ∀ before op, allowed before op → wider before op) : program.Guards wider post history := by
  induction program generalizing history with
  | done result => exact guards
  | call op next ih =>
    refine ⟨also history op guards.1, ?_⟩
    intro answer
    exact ih answer (guards.2 answer)

/-- What stays true once it is so may be assumed of every later operation. -/
theorem Guards.under {condition : Trail Op Answer → Prop} {post : Trail Op Answer → Result → Prop}
    {program : Prog Op Answer Result} (guards : program.Guards allowed post history)
    (stays : ∀ before after, condition before → condition (before ++ after)) (holds : condition history) :
    program.Guards (fun before op => condition before ∧ allowed before op) post history := by
  induction program generalizing history with
  | done result => exact guards
  | call op next ih =>
    refine ⟨⟨holds, guards.1⟩, ?_⟩
    intro answer
    exact ih answer (guards.2 answer) (stays history _ holds)

/-- Operations that are allowed at any time. -/
theorem Asks.guards {kind : Op → Prop} {program : Prog Op Answer Result} (asks : program.Asks kind)
    (free : ∀ before op, kind op → allowed before op) :
    program.Guards allowed
      (fun later _ => ∃ more, later = history ++ more ∧ ∀ exchange ∈ more, kind exchange.1) history := by
  induction program generalizing history with
  | done result => exact ⟨[], (List.append_nil history).symm, List.forall_mem_nil _⟩
  | call op next ih =>
    refine ⟨free history op asks.1, ?_⟩
    intro answer
    apply (ih answer (asks.2 answer)).weaken
    intro later _ reached
    obtain ⟨more, rfl, kinds⟩ := reached
    exact ⟨⟨op, answer⟩ :: more, by rw [List.append_assoc]; rfl, List.forall_mem_cons.mpr ⟨asks.1, kinds⟩⟩

/-- In a run every operation was allowed after those before it. -/
theorem Guards.ran {post : Trail Op Answer → Result → Prop} {program : Prog Op Answer Result}
    (guards : program.Guards allowed post history) {transcript : Trail Op Answer} {result : Result}
    (ran : Ran program transcript result) :
    (∀ before op answer after, transcript = before ++ ⟨op, answer⟩ :: after → allowed (history ++ before) op) ∧
      post (history ++ transcript) result := by
  induction ran generalizing history with
  | done =>
    refine ⟨?_, (List.append_nil history).symm ▸ guards⟩
    intro before op answer after split
    exact absurd split (by simp)
  | @call op next answer transcript result ran ih =>
    obtain ⟨following, ended⟩ := ih (guards.2 answer)
    rw [List.append_assoc] at ended
    refine ⟨?_, ended⟩
    intro before asked given after split
    cases before with
    | nil =>
      obtain ⟨same, -⟩ := List.cons.inj split
      cases same
      rw [List.append_nil]
      exact guards.1
    | cons head before =>
      obtain ⟨rfl, rest⟩ := List.cons.inj split
      have allowedThere := following before asked given after rest
      rwa [List.append_assoc] at allowedThere

end Prog

section Throwing
variable {Error First Second : Type} {call : ExceptT Error (Prog Op Answer) First}
  {next : First → ExceptT Error (Prog Op Answer) Second}

open Prog

theorem guards_bindExcept {middle : Trail Op Answer → Except Error First → Prop}
    {post : Trail Op Answer → Except Error Second → Prop} (first : call.run.Guards allowed middle history)
    (second : ∀ later value, middle later (.ok value) → (next value).run.Guards allowed post later)
    (thrown : ∀ later error, middle later (.error error) → post later (.error error)) :
    (call >>= next).run.Guards allowed post history := by
  rw [ExceptT.run_bind]
  apply first.bind
  intro later outcome reached
  cases outcome with
  | ok value => exact second later value reached
  | error error => exact thrown later error reached

theorem guards_lift_bind {program : Prog Op Answer First} {middle : Trail Op Answer → First → Prop}
    {post : Trail Op Answer → Except Error Second → Prop} (first : program.Guards allowed middle history)
    (second : ∀ later value, middle later value → (next value).run.Guards allowed post later) :
    (ExceptT.lift program >>= next).run.Guards allowed post history := by
  rw [ExceptT.run_bind_lift]
  exact first.bind second

/-- What is true where a call returns. One that throws may leave anything. -/
def Returns (post : Trail Op Answer → First → Prop) (later : Trail Op Answer) (outcome : Except Error First) : Prop :=
  ∀ value, outcome = .ok value → post later value

theorem returns_ok {post : Trail Op Answer → First → Prop} {later : Trail Op Answer} {value : First}
    (holds : post later value) : Returns post later (.ok value : Except Error First) := by
  intro other same
  cases same
  exact holds

theorem returns_error {post : Trail Op Answer → First → Prop} {later : Trail Op Answer} (error : Error) :
    Returns post later (.error error) :=
  fun _ same => nomatch same

theorem Prog.Guards.returns_bind {middle : Trail Op Answer → First → Prop} {post : Trail Op Answer → Second → Prop}
    (first : call.run.Guards allowed (Returns middle) history)
    (second : ∀ later value, middle later value → (next value).run.Guards allowed (Returns post) later) :
    (call >>= next).run.Guards allowed (Returns post) history :=
  guards_bindExcept first (fun later value reached => second later value (reached value rfl))
    fun _ error _ => returns_error error

theorem Prog.Guards.returns_weaken {strong weak : Trail Op Answer → First → Prop}
    (guards : call.run.Guards allowed (Returns strong) history)
    (weaker : ∀ later value, strong later value → weak later value) :
    call.run.Guards allowed (Returns weak) history := by
  apply guards.weaken
  intro later outcome reached value same
  exact weaker later value (reached value same)

end Throwing

end HieroRelay.Lib
