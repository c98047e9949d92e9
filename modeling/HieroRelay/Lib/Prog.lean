import HieroRelay.Lib.Run
import Mathlib.Logic.Function.Basic

/-! Programs over the atomic operations of a shared resource, run by one party alone
or by several parties whose operations interleave. The rely and guarantee rule carries
what each party knows along every interleaving. -/

namespace HieroRelay.Lib

universe u

/-- A program: a result, or an operation and what follows its answer. -/
inductive Prog (Op : Type) (Answer : Op → Type) (Result : Type u) : Type u where
  | done (result : Result)
  | call (op : Op) (next : Answer op → Prog Op Answer Result)

namespace Prog

variable {Op : Type} {Answer : Op → Type} {Result Next : Type u}

def bind (program : Prog Op Answer Result) (next : Result → Prog Op Answer Next) : Prog Op Answer Next :=
  match program with
  | done result => next result
  | call op follow => call op fun answer => (follow answer).bind next

instance : Monad (Prog Op Answer) where
  pure := done
  bind := bind

/-- One operation. -/
def op (op : Op) : Prog Op Answer (Answer op) := call op done

@[simp] theorem pure_eq_done (result : Result) : (pure result : Prog Op Answer Result) = done result := rfl

@[simp] theorem done_bind (result : Result) (next : Result → Prog Op Answer Next) :
    (done result >>= next) = next result := rfl

@[simp] theorem call_bind (op : Op) (follow : Answer op → Prog Op Answer Result)
    (next : Result → Prog Op Answer Next) :
    (call op follow >>= next) = call op fun answer => follow answer >>= next := rfl

theorem id_map (program : Prog Op Answer Result) : id <$> program = program := by
  induction program with
  | done result => rfl
  | call op follow ih => exact congrArg (call op) (funext ih)

theorem bind_assoc {First Second Third : Type u} (program : Prog Op Answer First)
    (second : First → Prog Op Answer Second) (third : Second → Prog Op Answer Third) :
    program >>= second >>= third = program >>= fun result => second result >>= third := by
  induction program with
  | done result => rfl
  | call op follow ih => exact congrArg (call op) (funext ih)

instance : LawfulMonad (Prog Op Answer) :=
  LawfulMonad.mk' (Prog Op Answer) id_map (fun _ _ => rfl) bind_assoc

section Alone
variable {State : Type} (perform : (op : Op) → State → Answer op × State)

/-- A run of the program without other parties. -/
def eval : Prog Op Answer Result → State → Result × State
  | done result, state => (result, state)
  | call op next, state => eval (next (perform op state).1) (perform op state).2

@[simp] theorem eval_done (result : Result) (state : State) :
    (done result : Prog Op Answer Result).eval perform state = (result, state) := rfl

@[simp] theorem eval_call (op : Op) (next : Answer op → Prog Op Answer Result) (state : State) :
    (call op next).eval perform state = (next (perform op state).1).eval perform (perform op state).2 := rfl

@[simp] theorem eval_op (op : Op) (state : State) :
    (Prog.op op : Prog Op Answer (Answer op)).eval perform state = perform op state := rfl

@[simp] theorem eval_bind (program : Prog Op Answer Result) (next : Result → Prog Op Answer Next) (state : State) :
    (program >>= next).eval perform state =
      (next (program.eval perform state).1).eval perform (program.eval perform state).2 := by
  induction program generalizing state with
  | done result => rfl
  | call op follow ih => exact ih (perform op state).1 (perform op state).2

variable {Error First Second : Type} {program : ExceptT Error (Prog Op Answer) First}
  {next : First → ExceptT Error (Prog Op Answer) Second} {state later : State}

theorem eval_bind_ok {value : First} (returned : program.run.eval perform state = (.ok value, later)) :
    (program >>= next).run.eval perform state = (next value).run.eval perform later := by
  rw [ExceptT.run_bind, eval_bind, returned]

theorem eval_bind_error {error : Error} (thrown : program.run.eval perform state = (.error error, later)) :
    (program >>= next).run.eval perform state = (.error error, later) := by
  rw [ExceptT.run_bind, eval_bind, thrown]
  rfl

end Alone

section Constant
variable (answer : (op : Op) → Answer op)

/-- A run where the same operation always has the same answer. -/
def answeredBy : Prog Op Answer Result → Result
  | done result => result
  | call op next => (next (answer op)).answeredBy

@[simp] theorem answeredBy_done (result : Result) :
    (done result : Prog Op Answer Result).answeredBy answer = result := rfl

@[simp] theorem answeredBy_call (op : Op) (next : Answer op → Prog Op Answer Result) :
    (call op next).answeredBy answer = (next (answer op)).answeredBy answer := rfl

@[simp] theorem answeredBy_bind (program : Prog Op Answer Result) (next : Result → Prog Op Answer Next) :
    (program >>= next).answeredBy answer = (next (program.answeredBy answer)).answeredBy answer := by
  induction program with
  | done result => rfl
  | call op follow ih => exact ih (answer op)

theorem answeredBy_mapM {Element First : Type} (call : Element → Prog Op Answer First) (elements : List Element) :
    (elements.mapM call).answeredBy answer = elements.map fun element => (call element).answeredBy answer := by
  induction elements with
  | nil => rfl
  | cons element rest ih =>
    rw [List.mapM_cons, answeredBy_bind, answeredBy_bind, ih]
    rfl

section Throwing
variable {Error First Second : Type} {program : ExceptT Error (Prog Op Answer) First}
  {next : First → ExceptT Error (Prog Op Answer) Second}

theorem answeredBy_bind_ok {value : First} (returned : program.run.answeredBy answer = .ok value) :
    (program >>= next).run.answeredBy answer = (next value).run.answeredBy answer := by
  rw [ExceptT.run_bind, answeredBy_bind, returned]

end Throwing

end Constant

section Translation
variable {Wider : Type} {WiderAnswer : Wider → Type} {Value : Type}
  (handler : (op : Op) → Prog Wider WiderAnswer (Answer op))

/-- Each operation is carried out by a program over other operations. -/
def translate : Prog Op Answer Value → Prog Wider WiderAnswer Value
  | done value => done value
  | call op next => handler op >>= fun answer => (next answer).translate

@[simp] theorem translate_done (value : Value) :
    (done value : Prog Op Answer Value).translate handler = done value := rfl

@[simp] theorem translate_call (op : Op) (next : Answer op → Prog Op Answer Value) :
    (call op next).translate handler = handler op >>= fun answer => (next answer).translate handler := rfl

theorem answeredBy_translate (answer : (op : Wider) → WiderAnswer op) (program : Prog Op Answer Value) :
    (program.translate handler).answeredBy answer =
      program.answeredBy fun op => (handler op).answeredBy answer := by
  induction program with
  | done value => rfl
  | call op next ih => rw [translate_call, answeredBy_bind, ih, answeredBy_call]

end Translation

end Prog

/-- Parties that share a state: what an operation of a party does, when it is permitted,
what a party may rely on while others run and what it guarantees to them. -/
structure Protocol (Party Op : Type) (Answer : Op → Type) (State : Type) where
  perform : Party → (op : Op) → State → Answer op × State
  permit : Party → Op → State → Prop
  invariant : State → Prop
  rely : Party → State → State → Prop
  guarantee : Party → State → State → Prop
  rely_refl : ∀ party state, rely party state state
  rely_trans : ∀ party first second third, rely party first second → rely party second third →
    rely party first third
  compatible : ∀ party other before after, party ≠ other → guarantee other before after →
    rely party before after

namespace Protocol

variable {Party Op State : Type} {Answer : Op → Type} {Result Next : Type}
  (protocol : Protocol Party Op Answer State)

/-- The shared state, and what is left of each party's program. -/
structure Config (_ : Protocol Party Op Answer State) (Result : Type) where
  shared : State
  programs : Party → Prog Op Answer Result

/-- One party performs its next operation; a party that is done has none. -/
def step [DecidableEq Party] (config : Config protocol Result) (party : Party) : Option (Config protocol Result) :=
  match config.programs party with
  | .done _ => none
  | .call op next => some {
      shared := (protocol.perform party op config.shared).2
      programs := Function.update config.programs party (next (protocol.perform party op config.shared).1) }

/-- Every operation of a schedule is permitted where it is performed. -/
def Permitted [DecidableEq Party] (config : Config protocol Result) : List Party → Prop
  | [] => True
  | party :: rest =>
      (∀ op next, config.programs party = .call op next → protocol.permit party op config.shared) ∧
        ∀ after, protocol.step config party = some after → Permitted after rest

/-- However the others interfere, the permitted operations of the program keep the
invariant and the guarantee, and its result has the postcondition. -/
def Keeps (party : Party) (post : Result → State → Prop) : Prog Op Answer Result → State → Prop
  | .done result, state => ∀ later, protocol.rely party state later → post result later
  | .call op next, state => ∀ later, protocol.rely party state later → protocol.invariant later →
      protocol.permit party op later →
        protocol.guarantee party later (protocol.perform party op later).2 ∧
        protocol.invariant (protocol.perform party op later).2 ∧
        Keeps party post (next (protocol.perform party op later).1) (protocol.perform party op later).2

variable {protocol} {party : Party}

/-- Interference does not break what a program keeps. -/
theorem Keeps.interfere {post : Result → State → Prop} {program : Prog Op Answer Result} {before after : State}
    (keeps : protocol.Keeps party post program before) (relied : protocol.rely party before after) :
    protocol.Keeps party post program after := by
  cases program with
  | done result =>
    intro later interfered
    exact keeps later (protocol.rely_trans party before after later relied interfered)
  | call op next =>
    intro later interfered
    exact keeps later (protocol.rely_trans party before after later relied interfered)

private theorem keeps_done {post : Result → State → Prop} {result : Result} {state : State}
    (holds : ∀ later, protocol.rely party state later → post result later) :
    protocol.Keeps party post (.done result) state := holds

/-- The rule for one program after another. -/
theorem Keeps.bind {middle : Result → State → Prop} {post : Next → State → Prop}
    {program : Prog Op Answer Result} {next : Result → Prog Op Answer Next} {state : State}
    (first : protocol.Keeps party middle program state)
    (second : ∀ result later, middle result later → protocol.Keeps party post (next result) later) :
    protocol.Keeps party post (program >>= next) state := by
  induction program generalizing state with
  | done result => exact second result state (first state (protocol.rely_refl party state))
  | call op follow ih =>
    intro later interfered kept permitted
    obtain ⟨guaranteed, invariant, rest⟩ := first later interfered kept permitted
    exact ⟨guaranteed, invariant, ih _ rest⟩

/-- The rule for a weaker postcondition. -/
theorem Keeps.weaken {strong weak : Result → State → Prop} {program : Prog Op Answer Result} {state : State}
    (keeps : protocol.Keeps party strong program state)
    (weaker : ∀ result later, strong result later → weak result later) :
    protocol.Keeps party weak program state := by
  induction program generalizing state with
  | done result =>
    intro later interfered
    exact weaker result later (keeps later interfered)
  | call op follow ih =>
    intro later interfered kept permitted
    obtain ⟨guaranteed, invariant, rest⟩ := keeps later interfered kept permitted
    exact ⟨guaranteed, invariant, ih _ rest⟩

/-- The rule for a result that is mapped. -/
theorem Keeps.map {post : Next → State → Prop} {program : Prog Op Answer Result} {change : Result → Next}
    {state : State} (keeps : protocol.Keeps party (fun result => post (change result)) program state) :
    protocol.Keeps party post (change <$> program) state := by
  induction program generalizing state with
  | done result => exact keeps
  | call op follow ih =>
    intro later interfered kept permitted
    obtain ⟨guaranteed, invariant, rest⟩ := keeps later interfered kept permitted
    exact ⟨guaranteed, invariant, ih _ rest⟩

/-- The rule for one program after another where the first one may throw: an error is
passed on. -/
theorem Keeps.bindExcept {Error : Type} (middle : Result → State → Prop) {post : Except Error Next → State → Prop}
    {program : ExceptT Error (Prog Op Answer) Result} {next : Result → ExceptT Error (Prog Op Answer) Next}
    {state : State}
    (first : protocol.Keeps party
      (fun outcome later => match outcome with
        | .ok result => middle result later
        | .error error => ∀ after, protocol.rely party later after → post (.error error) after) program.run state)
    (second : ∀ result later, middle result later → protocol.Keeps party post (next result).run later) :
    protocol.Keeps party post (program >>= next).run state := by
  rw [ExceptT.run_bind]
  apply Keeps.bind first
  intro outcome later holds
  cases outcome with
  | ok result => exact second result later holds
  | error error => exact holds

/-- However the others interfere, the result has the postcondition in the state in which
the last operation of the program left it. -/
def Reaches (protocol : Protocol Party Op Answer State) (party : Party) (post : Result → State → Prop)
    (program : Prog Op Answer Result) (state : State) : Prop :=
  protocol.Keeps party (fun result later => ∃ reached, post result reached ∧ protocol.rely party reached later)
    program state

theorem reaches_done {post : Result → State → Prop} {result : Result} {state : State} (holds : post result state) :
    protocol.Reaches party post (.done result) state :=
  keeps_done fun _ interfered => ⟨state, holds, interfered⟩

/-- The rule for one operation. -/
theorem reaches_op {op : Op} {post : Answer op → State → Prop} {state : State}
    (performed : ∀ later, protocol.rely party state later → protocol.invariant later → protocol.permit party op later →
      protocol.guarantee party later (protocol.perform party op later).2 ∧
        protocol.invariant (protocol.perform party op later).2 ∧
        post (protocol.perform party op later).1 (protocol.perform party op later).2) :
    protocol.Reaches party post (Prog.op op) state := by
  intro later interfered kept permitted
  obtain ⟨guaranteed, invariant, holds⟩ := performed later interfered kept permitted
  exact ⟨guaranteed, invariant, reaches_done holds⟩

theorem Reaches.bind {middle : Result → State → Prop} {post : Next → State → Prop}
    {program : Prog Op Answer Result} {next : Result → Prog Op Answer Next} {state : State}
    (first : protocol.Reaches party middle program state)
    (second : ∀ result reached, middle result reached → protocol.Reaches party post (next result) reached) :
    protocol.Reaches party post (program >>= next) state := by
  apply Keeps.bind first
  intro result later holds
  obtain ⟨reached, holds, interfered⟩ := holds
  exact (second result reached holds).interfere interfered

theorem Reaches.weaken {strong weak : Result → State → Prop} {program : Prog Op Answer Result} {state : State}
    (reaches : protocol.Reaches party strong program state)
    (weaker : ∀ result reached, strong result reached → weak result reached) :
    protocol.Reaches party weak program state := by
  apply Keeps.weaken reaches
  intro result later holds
  obtain ⟨reached, holds, interfered⟩ := holds
  exact ⟨reached, weaker result reached holds, interfered⟩

/-- Along a permitted schedule the invariant holds and every party keeps what it kept. -/
theorem keeps_run [DecidableEq Party] {post : Party → Result → State → Prop} {schedule : List Party}
    {config final : Config protocol Result} (invariant : protocol.invariant config.shared)
    (keeps : ∀ party, protocol.Keeps party (post party) (config.programs party) config.shared)
    (permitted : protocol.Permitted config schedule) (reached : run protocol.step config schedule = some final) :
    protocol.invariant final.shared ∧
      ∀ party, protocol.Keeps party (post party) (final.programs party) final.shared := by
  induction schedule generalizing config with
  | nil =>
    obtain rfl := Option.some.inj reached
    exact ⟨invariant, keeps⟩
  | cons party rest ih =>
    rw [run_cons, Option.bind_eq_some_iff] at reached
    obtain ⟨after, taken, reached⟩ := reached
    obtain ⟨allowed, following⟩ := permitted
    have remaining := following after taken
    unfold step at taken
    cases program : config.programs party with
    | done result => simp [program] at taken
    | call op next =>
      rw [program] at taken
      obtain rfl := Option.some.inj taken
      have own := keeps party
      rw [program] at own
      obtain ⟨guaranteed, invariant, kept⟩ :=
        own config.shared (protocol.rely_refl party _) invariant (allowed op next program)
      refine ih invariant ?_ remaining reached
      intro other
      by_cases same : other = party
      · subst same
        simpa using kept
      · have relied := protocol.compatible other party _ _ same guaranteed
        simpa [Function.update_of_ne same] using (keeps other).interfere relied

/-- Along a permitted schedule the invariant holds, and the result of each party that is done
has the postcondition in a state that the others respected since. -/
theorem reaches_run [DecidableEq Party] {post : Party → Result → State → Prop} {schedule : List Party}
    {config final : Config protocol Result} (permitted : protocol.Permitted config schedule)
    (reached : run protocol.step config schedule = some final) (invariant : protocol.invariant config.shared)
    (reaches : ∀ party, protocol.Reaches party (post party) (config.programs party) config.shared) :
    protocol.invariant final.shared ∧ ∀ party result, final.programs party = .done result →
      ∃ state, post party result state ∧ protocol.rely party state final.shared := by
  obtain ⟨kept, keeps⟩ := keeps_run invariant reaches permitted reached
  refine ⟨kept, ?_⟩
  intro party result ended
  have holds := keeps party
  rw [ended] at holds
  exact holds final.shared (protocol.rely_refl party final.shared)

/-- Whether every operation of a schedule passes a check where it is performed. -/
def checks [DecidableEq Party] (check : Party → Op → State → Bool) (config : Config protocol Result) :
    List Party → Bool
  | [] => true
  | party :: rest =>
      match config.programs party with
      | .done _ => true
      | .call op next => check party op config.shared && checks check {
          shared := (protocol.perform party op config.shared).2
          programs := Function.update config.programs party (next (protocol.perform party op config.shared).1) } rest

/-- Operations that pass a check which implies the permission are permitted. -/
theorem permitted_of_checks [DecidableEq Party] {check : Party → Op → State → Bool}
    (sound : ∀ party op state, check party op state = true → protocol.permit party op state)
    {config : Config protocol Result} {schedule : List Party} (passed : protocol.checks check config schedule = true) :
    protocol.Permitted config schedule := by
  induction schedule generalizing config with
  | nil => trivial
  | cons party rest ih =>
    unfold checks at passed
    constructor
    · intro op next program
      rw [program] at passed
      exact sound party op config.shared (Bool.and_eq_true_iff.mp passed).1
    · intro after taken
      unfold step at taken
      cases program : config.programs party with
      | done result => simp [program] at taken
      | call op next =>
        rw [program] at passed taken
        obtain rfl := Option.some.inj taken
        exact ih (Bool.and_eq_true_iff.mp passed).2

end Protocol

end HieroRelay.Lib
