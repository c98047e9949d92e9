import Mathlib.Data.List.Induction

/-! Runs of a deterministic labelled transition system: a step takes a state and
a label and may refuse. The rules carry an invariant, or a predicate on the labels
taken so far and the state reached, along every run. -/

namespace HieroRelay.Lib

universe u v
variable {State : Type u} {Label : Type v} (step : State → Label → Option State)

/-- Take the labels in order; `none` when a step refuses. -/
def run (state : State) : List Label → Option State
  | [] => some state
  | label :: rest => (step state label).bind fun next => run next rest

@[simp] theorem run_nil (state : State) : run step state [] = some state := rfl

@[simp] theorem run_cons (state : State) (label : Label) (rest : List Label) :
    run step state (label :: rest) = (step state label).bind fun next => run step next rest := rfl

private theorem run_append (state : State) (first second : List Label) :
    run step state (first ++ second) = (run step state first).bind fun next => run step next second := by
  induction first generalizing state with
  | nil => rfl
  | cons label rest ih =>
    cases taken : step state label with
    | none => simp [taken]
    | some next => simp [taken, ih]

/-- A run that ends with one more label is a shorter run followed by its step. -/
theorem run_snoc {state final : State} {labels : List Label} {label : Label} :
    run step state (labels ++ [label]) = some final ↔
      ∃ middle, run step state labels = some middle ∧ step middle label = some final := by
  rw [run_append, Option.bind_eq_some_iff]
  simp

variable {step}

/-- What every step preserves holds wherever a run ends. -/
theorem run_invariant {motive : State → Prop} {state final : State} {labels : List Label}
    (preserved : ∀ before label after,
      motive before → step before label = some after → motive after)
    (initial : motive state) (reached : run step state labels = some final) :
    motive final := by
  induction labels generalizing state with
  | nil =>
    have same : state = final := Option.some.inj reached
    exact same ▸ initial
  | cons label rest ih =>
    rw [run_cons, Option.bind_eq_some_iff] at reached
    obtain ⟨next, taken, reached⟩ := reached
    exact ih (preserved state label next initial taken) reached

/-- Every step of a run is taken under a condition on its state and label. -/
def Meets (step : State → Label → Option State) (condition : State → Label → Prop) (state : State) :
    List Label → Prop
  | [] => True
  | label :: rest =>
      condition state label ∧ ∀ next, step state label = some next → Meets step condition next rest

theorem meets_cons {condition : State → Label → Prop} {state next : State} {label : Label} {rest : List Label}
    (holds : condition state label) (taken : step state label = some next)
    (following : Meets step condition next rest) :
    Meets step condition state (label :: rest) := by
  refine ⟨holds, ?_⟩
  intro other same
  obtain rfl := Option.some.inj (taken.symm.trans same)
  exact following

theorem meets_append {condition : State → Label → Prop} {state middle : State} {first second : List Label}
    (meets : Meets step condition state first) (reached : run step state first = some middle)
    (following : Meets step condition middle second) : Meets step condition state (first ++ second) := by
  induction first generalizing state with
  | nil =>
    obtain rfl := Option.some.inj reached
    exact following
  | cons label rest ih =>
    rw [run_cons, Option.bind_eq_some_iff] at reached
    obtain ⟨next, taken, reached⟩ := reached
    exact meets_cons meets.1 taken (ih (meets.2 next taken) reached)

/-- What every step under the condition preserves holds wherever such a run ends. -/
theorem run_invariant_of_meets {motive : State → Prop} {condition : State → Label → Prop} {state final : State}
    {labels : List Label}
    (preserved : ∀ before label after,
      motive before → condition before label → step before label = some after → motive after)
    (initial : motive state) (meets : Meets step condition state labels)
    (reached : run step state labels = some final) : motive final := by
  induction labels generalizing state with
  | nil =>
    have same : state = final := Option.some.inj reached
    exact same ▸ initial
  | cons label rest ih =>
    rw [run_cons, Option.bind_eq_some_iff] at reached
    obtain ⟨next, taken, reached⟩ := reached
    obtain ⟨holds, following⟩ := meets
    exact ih (preserved state label next initial holds taken) (following next taken) reached

/-- A condition that the invariant ensures is met by every run. -/
theorem meets_of_invariant {invariant : State → Prop} {condition : State → Label → Prop}
    (preserved : ∀ before label after, invariant before → step before label = some after → invariant after)
    (ensures : ∀ state label, invariant state → condition state label) {state : State} (initial : invariant state)
    (labels : List Label) : Meets step condition state labels := by
  induction labels generalizing state with
  | nil => trivial
  | cons label rest ih =>
    refine ⟨ensures state label initial, ?_⟩
    intro next taken
    exact ih (preserved state label next initial taken)

/-- A condition that follows from another one wherever the invariant holds. -/
theorem Meets.imp_of_invariant {invariant : State → Prop} {first second : State → Label → Prop}
    (preserved : ∀ before label after, invariant before → step before label = some after → invariant after)
    (follows : ∀ state label, invariant state → first state label → second state label) {state : State}
    (initial : invariant state) {labels : List Label} (meets : Meets step first state labels) :
    Meets step second state labels := by
  induction labels generalizing state with
  | nil => trivial
  | cons label rest ih =>
    refine ⟨follows state label initial meets.1, ?_⟩
    intro next taken
    exact ih (preserved state label next initial taken) (meets.2 next taken)

/-- Two conditions that agree wherever the invariant holds are met by the same runs. -/
theorem meets_iff_of_invariant {invariant : State → Prop} {first second : State → Label → Prop}
    (preserved : ∀ before label after, invariant before → step before label = some after → invariant after)
    (agree : ∀ state label, invariant state → (first state label ↔ second state label)) {state : State}
    (initial : invariant state) (labels : List Label) :
    Meets step first state labels ↔ Meets step second state labels := by
  constructor
  · exact Meets.imp_of_invariant preserved (fun state label kept => (agree state label kept).mp) initial
  · exact Meets.imp_of_invariant preserved (fun state label kept => (agree state label kept).mpr) initial

/-- Two conditions that agree wherever an invariant holds that the first one preserves. -/
theorem meets_iff_of_preserved {invariant : State → Prop} {first second : State → Label → Prop}
    (preserved : ∀ before label after,
      invariant before → first before label → step before label = some after → invariant after)
    (agree : ∀ state label, invariant state → (first state label ↔ second state label)) {state : State}
    (initial : invariant state) (labels : List Label) :
    Meets step first state labels ↔ Meets step second state labels := by
  induction labels generalizing state with
  | nil => exact Iff.rfl
  | cons label rest ih =>
    constructor
    · intro meets
      refine ⟨(agree state label initial).mp meets.1, ?_⟩
      intro next taken
      exact (ih (preserved state label next initial meets.1 taken)).mp (meets.2 next taken)
    · intro meets
      have holds := (agree state label initial).mpr meets.1
      refine ⟨holds, ?_⟩
      intro next taken
      exact (ih (preserved state label next initial holds taken)).mpr (meets.2 next taken)

/-- Induction on a run from its start, with the labels taken so far in view. -/
theorem run_trace_induction {motive : List Label → State → Prop} {initial : State}
    (start : motive [] initial)
    (extend : ∀ labels before label after, run step initial labels = some before →
      motive labels before → step before label = some after → motive (labels ++ [label]) after)
    {labels : List Label} {final : State} (reached : run step initial labels = some final) :
    motive labels final := by
  induction labels using List.reverseRecOn generalizing final with
  | nil =>
    have same : initial = final := Option.some.inj reached
    exact same ▸ start
  | append_singleton labels label ih =>
    obtain ⟨before, reached, taken⟩ := (run_snoc step).mp reached
    exact extend labels before label final reached (ih reached) taken

end HieroRelay.Lib
