import HieroRelay.Lib.Prog

/-! Runs of a program with the answers it was given. A program that asks again for what is
not ready is compared with its run over the ready answers alone. -/

namespace HieroRelay.Lib

universe u

/-- An operation with its answer. -/
abbrev Exchange (Op : Type) (Answer : Op → Type) := (op : Op) × Answer op

variable {Op : Type} {Answer : Op → Type} {Result Next : Type u} {rest later : List (Exchange Op Answer)}

/-- The program was given these answers and ended with the result. -/
inductive Ran : Prog Op Answer Result → List (Exchange Op Answer) → Result → Prop where
  | done {result : Result} : Ran (.done result) [] result
  | call {op : Op} {next : Answer op → Prog Op Answer Result} {answer : Answer op} {transcript : List (Exchange Op Answer)}
      {result : Result} (ran : Ran (next answer) transcript result) :
      Ran (.call op next) (⟨op, answer⟩ :: transcript) result

theorem ran_done_iff {result other : Result} {transcript : List (Exchange Op Answer)} :
    Ran (.done result) transcript other ↔ transcript = [] ∧ result = other := by
  constructor
  · rintro ⟨⟩
    exact ⟨rfl, rfl⟩
  · rintro ⟨rfl, rfl⟩
    exact .done

theorem ran_call_iff {op : Op} {next : Answer op → Prog Op Answer Result} {result : Result}
    {transcript : List (Exchange Op Answer)} :
    Ran (.call op next) transcript result ↔
      ∃ answer others, transcript = ⟨op, answer⟩ :: others ∧ Ran (next answer) others result := by
  constructor
  · rintro ⟨⟩
    exact ⟨_, _, rfl, ‹_›⟩
  · rintro ⟨answer, others, rfl, ran⟩
    exact .call ran

theorem ran_bind_iff {program : Prog Op Answer Result} {next : Result → Prog Op Answer Next} {result : Next}
    {transcript : List (Exchange Op Answer)} :
    Ran (program >>= next) transcript result ↔
      ∃ first second value, transcript = first ++ second ∧ Ran program first value ∧ Ran (next value) second result := by
  induction program generalizing transcript with
  | done value =>
      constructor
      · intro ran
        exact ⟨[], transcript, value, rfl, .done, ran⟩
      · rintro ⟨first, second, _, rfl, ⟨⟩, ran⟩
        exact ran
  | call op follow ih =>
      rw [Prog.call_bind, ran_call_iff]
      constructor
      · rintro ⟨answer, others, rfl, ran⟩
        obtain ⟨first, second, value, rfl, begun, ended⟩ := (ih answer).mp ran
        exact ⟨_ :: first, second, value, rfl, .call begun, ended⟩
      · rintro ⟨_, second, value, rfl, begun, ended⟩
        obtain ⟨answer, first, rfl, followed⟩ := ran_call_iff.mp begun
        exact ⟨answer, first ++ second, rfl, (ih answer).mpr ⟨first, second, value, rfl, followed, ended⟩⟩

/-- Of two runs neither goes on after the other. -/
theorem Ran.unique {program : Prog Op Answer Result} {transcript other : List (Exchange Op Answer)}
    {result different : Result} (first : Ran program transcript result) (second : Ran program other different)
    (same : transcript ++ rest = other ++ later) : transcript = other ∧ result = different := by
  induction first generalizing other with
  | done =>
      cases second
      exact ⟨rfl, rfl⟩
  | call _ ih =>
      obtain ⟨answer, others, rfl, followed⟩ := ran_call_iff.mp second
      obtain ⟨head, tail⟩ := List.cons.inj same
      cases head
      obtain ⟨rfl, rfl⟩ := ih followed tail
      exact ⟨rfl, rfl⟩

theorem Ran.length_mapM {Element First : Type} {call : Element → Prog Op Answer First} {elements : List Element}
    {results : List First} {transcript : List (Exchange Op Answer)} (ran : Ran (elements.mapM call) transcript results) :
    results.length = elements.length := by
  induction elements generalizing transcript results with
  | nil =>
    cases ran
    rfl
  | cons element others ih =>
    rw [List.mapM_cons] at ran
    obtain ⟨_, _, value, -, -, ran⟩ := ran_bind_iff.mp ran
    obtain ⟨_, _, values, -, followed, returned⟩ := ran_bind_iff.mp ran
    cases returned
    rw [List.length_cons, List.length_cons, ih followed]

/-- Every operation of the program, whatever the answers, is one of these. -/
def Prog.Asks (asked : Op → Prop) : Prog Op Answer Result → Prop
  | .done _ => True
  | .call op next => asked op ∧ ∀ answer, (next answer).Asks asked

namespace Prog

variable {asked : Op → Prop}

@[simp] theorem asks_done (result : Result) : (done result : Prog Op Answer Result).Asks asked ↔ True := Iff.rfl

@[simp] theorem asks_call (op : Op) (next : Answer op → Prog Op Answer Result) :
    (call op next).Asks asked ↔ asked op ∧ ∀ answer, (next answer).Asks asked := Iff.rfl

theorem Asks.bind {program : Prog Op Answer Result} {next : Result → Prog Op Answer Next} (first : program.Asks asked)
    (second : ∀ result, (next result).Asks asked) : (program >>= next).Asks asked := by
  induction program with
  | done result => exact second result
  | call op follow ih => exact ⟨first.1, fun answer => ih answer (first.2 answer)⟩

theorem Asks.imp {wider : Op → Prop} {program : Prog Op Answer Result} (asks : program.Asks asked)
    (weaker : ∀ op, asked op → wider op) : program.Asks wider := by
  induction program with
  | done result => trivial
  | call op follow ih => exact ⟨weaker op asks.1, fun answer => ih answer (asks.2 answer)⟩

/-- Operations that leave the state as it is, and whose answers it has no part in. -/
theorem Asks.eval {State : Type} {perform : (op : Op) → State → Answer op × State} {answer : (op : Op) → Answer op}
    {program : Prog Op Answer Result} (asks : program.Asks fun op => ∀ state, perform op state = (answer op, state))
    (state : State) : program.eval perform state = (program.answeredBy answer, state) := by
  induction program with
  | done result => rfl
  | call op next ih =>
    rw [eval_call, asks.1 state]
    exact ih (answer op) (asks.2 (answer op))

theorem Asks.mapM {Element First : Type} {call : Element → Prog Op Answer First} {elements : List Element}
    (asks : ∀ element ∈ elements, (call element).Asks asked) : (elements.mapM call).Asks asked := by
  induction elements with
  | nil => trivial
  | cons element rest ih =>
    rw [List.mapM_cons]
    apply (asks element List.mem_cons_self).bind
    intro first
    apply (ih fun other member => asks other (List.mem_cons_of_mem element member)).bind
    intro others
    trivial

theorem Asks.translate {Wider Value : Type} {WiderAnswer : Wider → Type} {wider : Wider → Prop}
    {handler : (op : Op) → Prog Wider WiderAnswer (Answer op)} (program : Prog Op Answer Value)
    (asks : ∀ op, (handler op).Asks wider) : (program.translate handler).Asks wider := by
  induction program with
  | done value => trivial
  | call op next ih => exact (asks op).bind ih

theorem Asks.mem {program : Prog Op Answer Result} (asks : program.Asks asked) {transcript : List (Exchange Op Answer)}
    {result : Result} (ran : Ran program transcript result) : ∀ exchange ∈ transcript, asked exchange.1 := by
  induction ran with
  | done => exact List.forall_mem_nil _
  | call _ ih => exact List.forall_mem_cons.mpr ⟨asks.1, ih (asks.2 _)⟩

end Prog

section Throwing
variable {Error First Second : Type} {call : ExceptT Error (Prog Op Answer) First}
  {next : First → ExceptT Error (Prog Op Answer) Second} {transcript : List (Exchange Op Answer)}

/-- A call that throws ends the run. -/
theorem ran_bindExcept_iff {outcome : Except Error Second} :
    Ran (call >>= next).run transcript outcome ↔
      (∃ first second value, transcript = first ++ second ∧ Ran call.run first (.ok value) ∧
        Ran (next value).run second outcome) ∨
      ∃ error, outcome = .error error ∧ Ran call.run transcript (.error error) := by
  rw [ExceptT.run_bind, ran_bind_iff]
  constructor
  · rintro ⟨first, second, value | value, rfl, begun, ended⟩
    · cases ended
      refine .inr ⟨value, rfl, ?_⟩
      rwa [List.append_nil]
    · exact .inl ⟨first, second, value, rfl, begun, ended⟩
  · rintro (⟨first, second, value, rfl, begun, ended⟩ | ⟨error, rfl, begun⟩)
    · exact ⟨first, second, .ok value, rfl, begun, ended⟩
    · exact ⟨transcript, [], .error error, (List.append_nil _).symm, begun, .done⟩

/-- A run that returns. -/
theorem ran_bind_ok_iff {result : Second} :
    Ran (call >>= next).run transcript (.ok result) ↔
      ∃ first second value, transcript = first ++ second ∧ Ran call.run first (.ok value) ∧
        Ran (next value).run second (.ok result) := by
  rw [ran_bindExcept_iff]
  constructor
  · intro ran
    rcases ran with begun | ⟨error, thrown, -⟩
    · exact begun
    · cases thrown
  · exact .inl

/-- A run that renames the errors. -/
theorem ran_adapt_iff {Renamed : Type} {rename : Error → Renamed} {outcome : Except Renamed First} :
    Ran (ExceptT.adapt rename call).run transcript outcome ↔
      ∃ given, Ran call.run transcript given ∧ outcome = given.mapError rename := by
  have renamed : (ExceptT.adapt rename call).run = call.run >>= fun given => .done (given.mapError rename) := rfl
  rw [renamed, ran_bind_iff]
  constructor
  · rintro ⟨first, second, given, rfl, ran, ended⟩
    obtain ⟨rfl, rfl⟩ := ran_done_iff.mp ended
    exact ⟨given, (List.append_nil first).symm ▸ ran, rfl⟩
  · rintro ⟨given, ran, rfl⟩
    exact ⟨transcript, [], given, (List.append_nil transcript).symm, ran, .done⟩

theorem ran_adapt_ok_iff {Renamed : Type} {rename : Error → Renamed} {value : First} :
    Ran (ExceptT.adapt rename call).run transcript (.ok value) ↔ Ran call.run transcript (.ok value) := by
  rw [ran_adapt_iff]
  constructor
  · rintro ⟨given, ran, same⟩
    cases given with
    | ok value =>
      cases same
      exact ran
    | error error => cases same
  · intro ran
    exact ⟨.ok value, ran, rfl⟩

theorem ran_adapt_error_iff {Renamed : Type} {rename : Error → Renamed} {renamed : Renamed} :
    Ran (ExceptT.adapt rename call).run transcript (.error renamed) ↔
      ∃ error, Ran call.run transcript (.error error) ∧ renamed = rename error := by
  rw [ran_adapt_iff]
  constructor
  · rintro ⟨given, ran, same⟩
    cases given with
    | ok value => cases same
    | error error => exact ⟨error, ran, Except.error.inj same⟩
  · rintro ⟨error, ran, rfl⟩
    exact ⟨.error error, ran, rfl⟩

/-- Where every call returns what has the same key, the keys are kept in order. -/
theorem map_of_ran_mapM {Element Key : Type} {keyOf : Element → Key} {resultKey : First → Key}
    {call : Element → ExceptT Error (Prog Op Answer) First}
    (keeps : ∀ element transcript result, Ran (call element).run transcript (.ok result) →
      resultKey result = keyOf element) {elements : List Element} {results : List First}
    (ran : Ran (elements.mapM call).run transcript (.ok results)) : results.map resultKey = elements.map keyOf := by
  induction elements generalizing transcript results with
  | nil =>
    cases ran
    rfl
  | cons element rest ih =>
    rw [List.mapM_cons] at ran
    obtain ⟨_, _, result, -, first, ran⟩ := ran_bind_ok_iff.mp ran
    obtain ⟨_, _, others, -, later, returned⟩ := ran_bind_ok_iff.mp ran
    cases returned
    rw [List.map_cons, List.map_cons, keeps element _ result first, ih later]

theorem ran_lift_bind_iff {program : Prog Op Answer First} {outcome : Except Error Second} :
    Ran (ExceptT.lift program >>= next).run transcript outcome ↔
      ∃ first second value, transcript = first ++ second ∧ Ran program first value ∧
        Ran (next value).run second outcome := by
  rw [ExceptT.run_bind_lift]
  exact ran_bind_iff

theorem asks_bindExcept {asked : Op → Prop} (first : call.run.Asks asked)
    (second : ∀ value, (next value).run.Asks asked) :
    (call >>= next).run.Asks asked := by
  rw [ExceptT.run_bind]
  apply first.bind
  intro outcome
  cases outcome with
  | ok value => exact second value
  | error error => trivial

theorem asks_adapt {Renamed : Type} {rename : Error → Renamed} {asked : Op → Prop} (asks : call.run.Asks asked) :
    (ExceptT.adapt rename call).run.Asks asked := by
  have renamed : (ExceptT.adapt rename call).run = call.run >>= fun given => .done (given.mapError rename) := rfl
  rw [renamed]
  exact asks.bind fun _ => trivial

end Throwing

/-- Which answers are ready, with which ones a program goes on, and which errors tell that
it could not. The answers to all other operations are always ready. -/
structure Screening (Op : Type) (Answer : Op → Type) (Error : Type) where
  ready : Exchange Op Answer → Bool
  taken : Exchange Op Answer → Bool
  refused : Error → Prop
  screened : Op → Prop
  ready_of_not_screened : ∀ op, ¬ screened op → ∀ answer, ready ⟨op, answer⟩ = true

namespace Screening

variable {Error First Second : Type} (screening : Screening Op Answer Error)

/-- The program went on with ready answers only. -/
def Sound (transcript : List (Exchange Op Answer)) : Prop :=
  ∀ exchange ∈ transcript, screening.taken exchange = true → screening.ready exchange = true

def Settled (outcome : Except Error Result) : Prop := ∀ error, outcome = .error error → ¬ screening.refused error

/-- The ready answers lead to the same outcome exactly if the program went on with them
only, and it asks for these kinds of answers. -/
structure Screens (kind : Op → Prop) (program : ExceptT Error (Prog Op Answer) First) : Prop where
  asks : program.run.Asks fun op => screening.screened op → kind op
  keeps : ∀ transcript outcome, Ran program.run transcript outcome → screening.Settled outcome →
    screening.Sound transcript → Ran program.run (transcript.filter screening.ready) outcome
  forces : ∀ transcript other outcome different rest later, Ran program.run transcript outcome →
    Ran program.run other different → screening.Settled outcome → screening.Settled different →
    transcript.filter screening.ready ++ rest = other ++ later → (∀ exchange ∈ rest, ¬ kind exchange.1) →
    screening.Sound transcript ∧ transcript.filter screening.ready = other ∧ outcome = different

variable {screening}

@[simp] theorem sound_append {first second : List (Exchange Op Answer)} :
    screening.Sound (first ++ second) ↔ screening.Sound first ∧ screening.Sound second :=
  List.forall_mem_append

@[simp] theorem settled_ok (result : Result) : screening.Settled (.ok result : Except Error Result) := nofun

@[simp] theorem settled_error {error : Error} :
    screening.Settled (.error error : Except Error Result) ↔ ¬ screening.refused error := by
  constructor
  · intro settled
    exact settled error rfl
  · rintro accepted _ ⟨⟩
    exact accepted

theorem Screens.imp {kind wider : Op → Prop} {program : ExceptT Error (Prog Op Answer) First}
    (screens : screening.Screens kind program)
    (weaker : ∀ op, kind op → wider op) : screening.Screens wider program where
  asks := screens.asks.imp fun op asked screened => weaker op (asked screened)
  keeps := screens.keeps
  forces transcript other outcome different rest later ran again settled settledToo same apart :=
    screens.forces transcript other outcome different rest later ran again settled settledToo same
      fun exchange member asked => apart exchange member (weaker exchange.1 asked)

/-- A program that asks for none of these answers. -/
theorem screens_of_asks {kind : Op → Prop} {program : ExceptT Error (Prog Op Answer) First}
    (asks : program.run.Asks fun op => ¬ screening.screened op) : screening.Screens kind program := by
  have same : ∀ transcript outcome, Ran program.run transcript outcome →
      ∀ exchange ∈ transcript, screening.ready exchange = true := by
    intro transcript outcome ran exchange member
    exact screening.ready_of_not_screened exchange.1 (asks.mem ran exchange member) exchange.2
  constructor
  · exact asks.imp fun op other screened => absurd screened other
  · intro transcript outcome ran _ _
    rwa [List.filter_eq_self.mpr (same transcript outcome ran)]
  · intro transcript other outcome different rest later ran again _ _ equal _
    rw [List.filter_eq_self.mpr (same transcript outcome ran)] at equal ⊢
    obtain ⟨sameTranscript, sameOutcome⟩ := ran.unique again equal
    exact ⟨fun exchange member _ => same transcript outcome ran exchange member, sameTranscript, sameOutcome⟩

/-- A program that goes on with a number of answers of its kind, whatever they are. -/
theorem screens_of_length {kind : Op → Prop} {program : ExceptT Error (Prog Op Answer) First} (count : Nat)
    (asks : program.run.Asks fun op => screening.screened op → kind op)
    (taken : ∀ transcript outcome, Ran program.run transcript outcome → screening.Settled outcome →
      transcript.length = count ∧ ∀ exchange ∈ transcript, kind exchange.1 ∧ screening.taken exchange = true) :
    screening.Screens kind program := by
  refine ⟨asks, ?_, ?_⟩
  · intro transcript outcome ran settled sound
    have all : ∀ exchange ∈ transcript, screening.ready exchange = true := fun exchange member =>
      sound exchange member ((taken transcript outcome ran settled).2 exchange member).2
    rwa [List.filter_eq_self.mpr all]
  · intro transcript other outcome different rest later ran again settled settledToo equal apart
    obtain ⟨length, _⟩ := taken transcript outcome ran settled
    obtain ⟨otherLength, own⟩ := taken other different again settledToo
    have whole : transcript.filter screening.ready = other := by
      rcases List.append_eq_append_iff.mp equal with ⟨more, longer, others⟩ | ⟨more, shorter, _⟩
      · cases more with
        | nil => exact (longer.trans (List.append_nil _)).symm
        | cons exchange _ =>
            have asked := own exchange (by rw [longer]; exact List.mem_append_right _ List.mem_cons_self)
            exact absurd asked.1 (apart exchange (by rw [others]; exact List.mem_cons_self))
      · have atMost : (transcript.filter screening.ready).length ≤ transcript.length := List.length_filter_le ..
        rw [shorter, List.length_append, otherLength, length] at atMost
        rw [shorter, List.length_eq_zero_iff.mp (by omega : more.length = 0), List.append_nil]
    have all : transcript.filter screening.ready = transcript :=
      List.filter_eq_self.mpr (List.length_filter_eq_length_iff.mp (by rw [whole, otherLength, length]))
    rw [all] at equal ⊢
    obtain ⟨sameTranscript, sameOutcome⟩ := ran.unique again equal
    exact ⟨fun exchange member _ => List.filter_eq_self.mp all exchange member, sameTranscript, sameOutcome⟩

/-- The rule for one program after another, where the second one asks for no answers of
the kind of the first one. -/
theorem Screens.bind {kind : Op → Prop} {call : ExceptT Error (Prog Op Answer) First}
    {next : First → ExceptT Error (Prog Op Answer) Second} (first : screening.Screens kind call) (later : Op → Prop)
    (second : ∀ value, screening.Screens later (next value)) (own : ∀ op, kind op → screening.screened op)
    (disjoint : ∀ op, kind op → ¬ later op) : screening.Screens (fun op => kind op ∨ later op) (call >>= next) := by
  have apart : ∀ value, (next value).run.Asks fun op => ¬ kind op := fun value =>
    (second value).asks.imp fun op asked inFirst => disjoint op inFirst (asked (own op inFirst))
  constructor
  · exact asks_bindExcept (first.asks.imp fun op asked screened => .inl (asked screened)) fun value =>
      (second value).asks.imp fun op asked screened => .inr (asked screened)
  · intro transcript outcome ran settled sound
    rcases ran_bindExcept_iff.mp ran with ⟨begun, ended, value, rfl, firstRan, nextRan⟩ | ⟨error, rfl, firstRan⟩
    · obtain ⟨firstSound, nextSound⟩ := sound_append.mp sound
      rw [List.filter_append]
      exact ran_bindExcept_iff.mpr (.inl ⟨_, _, value, rfl,
        first.keeps begun (.ok value) firstRan (settled_ok value) firstSound,
        (second value).keeps ended outcome nextRan settled nextSound⟩)
    · have accepted : screening.Settled (.error error : Except Error First) := settled_error.mpr (settled_error.mp settled)
      exact ran_bindExcept_iff.mpr (.inr ⟨error, rfl, first.keeps transcript (.error error) firstRan accepted sound⟩)
  · intro transcript other outcome different rest others ran again settled settledToo equal outside
    rcases ran_bindExcept_iff.mp ran with ⟨begun, ended, value, rfl, firstRan, nextRan⟩ | ⟨error, rfl, firstRan⟩
    · rw [List.filter_append, List.append_assoc] at equal
      have beyond : ∀ exchange ∈ ended.filter screening.ready ++ rest, ¬ kind exchange.1 := by
        intro exchange member
        rcases List.mem_append.mp member with inEnded | inRest
        · exact (apart value).mem nextRan exchange (List.mem_filter.mp inEnded).1
        · exact fun asked => outside exchange inRest (.inl asked)
      rcases ran_bindExcept_iff.mp again with ⟨begunToo, endedToo, valueToo, rfl, firstAgain, nextAgain⟩ |
        ⟨error, rfl, firstAgain⟩
      · rw [List.append_assoc] at equal
        obtain ⟨firstSound, rfl, same⟩ := first.forces begun begunToo (.ok value) (.ok valueToo) _ _ firstRan firstAgain
          (settled_ok value) (settled_ok valueToo) equal beyond
        cases same
        obtain ⟨nextSound, rfl, same⟩ := (second value).forces ended endedToo outcome different rest others nextRan nextAgain
          settled settledToo (List.append_cancel_left equal) fun exchange member asked =>
            outside exchange member (.inr asked)
        exact ⟨sound_append.mpr ⟨firstSound, nextSound⟩, List.filter_append .., same⟩
      · have accepted : screening.Settled (.error error : Except Error First) :=
          settled_error.mpr (settled_error.mp settledToo)
        obtain ⟨_, _, same⟩ := first.forces begun other (.ok value) (.error error) _ _ firstRan firstAgain (settled_ok value)
          accepted equal beyond
        cases same
    · have accepted : screening.Settled (.error error : Except Error First) := settled_error.mpr (settled_error.mp settled)
      have beyond : ∀ exchange ∈ rest, ¬ kind exchange.1 := fun exchange member asked =>
        outside exchange member (.inl asked)
      rcases ran_bindExcept_iff.mp again with ⟨begunToo, endedToo, valueToo, rfl, firstAgain, _⟩ |
        ⟨errorToo, rfl, firstAgain⟩
      · rw [List.append_assoc] at equal
        obtain ⟨_, _, same⟩ := first.forces transcript begunToo (.error error) (.ok valueToo) _ _ firstRan firstAgain
          accepted (settled_ok valueToo) equal beyond
        cases same
      · have acceptedToo : screening.Settled (.error errorToo : Except Error First) :=
          settled_error.mpr (settled_error.mp settledToo)
        obtain ⟨sound, sameTranscript, same⟩ := first.forces transcript other (.error error) (.error errorToo) _ _ firstRan
          firstAgain accepted acceptedToo equal beyond
        cases same
        exact ⟨sound, sameTranscript, rfl⟩

section Rules
variable {kind : Op → Prop} {call : ExceptT Error (Prog Op Answer) First}
  {next : First → ExceptT Error (Prog Op Answer) Second}

/-- The rule for a first program that asks for none of these answers. -/
theorem Screens.after (first : call.run.Asks fun op => ¬ screening.screened op)
    (second : ∀ value, screening.Screens kind (next value)) : screening.Screens kind (call >>= next) := by
  have none : screening.Screens (fun _ => False) call := screens_of_asks first
  exact (none.bind kind second (fun _ => False.elim) fun _ => False.elim).imp fun op asked => asked.resolve_left id

/-- The rule for a second program that asks for none of these answers. -/
theorem Screens.before (first : screening.Screens kind call) (own : ∀ op, kind op → screening.screened op)
    (second : ∀ value, (next value).run.Asks fun op => ¬ screening.screened op) :
    screening.Screens kind (call >>= next) := by
  have none : ∀ value, screening.Screens (fun _ => False) (next value) := fun value => screens_of_asks (second value)
  exact (first.bind (fun _ => False) none own fun _ _ => id).imp fun op asked => asked.resolve_right id

/-- The ready answers lead to the outcome exactly if the program went on with them only. -/
theorem Screens.ran_ready_iff (screens : screening.Screens kind call) {transcript : List (Exchange Op Answer)}
    {outcome : Except Error First} (ran : Ran call.run transcript outcome) (settled : screening.Settled outcome) :
    Ran call.run (transcript.filter screening.ready) outcome ↔ screening.Sound transcript := by
  constructor
  · intro again
    exact (screens.forces transcript (transcript.filter screening.ready) outcome outcome [] [] ran again settled settled rfl
      (List.forall_mem_nil _)).1
  · exact screens.keeps transcript outcome ran settled

end Rules

end Screening

end HieroRelay.Lib
