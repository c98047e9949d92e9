import HieroRelay.Lib.Prog
import HieroRelay.Lib.TtlStore

/-! A cache in front of a source whose answers change. Any number of parties read and write
the cache and ask the source, in any interleaving, while time passes and entries are lost.
What an entry says of the questions that were asked is never taken back. -/

namespace HieroRelay.Lib

inductive MemoOp (Key Value Query Raw : Type) where
  | read (key : Key)
  | write (key : Key) (value : Value) (ttl : Nat)
  | ask (query : Query)
  | advance (duration : Nat)
  | evict (key : Key)
  | change (query : Query) (raw : Raw)

abbrev MemoOp.Answer {Key Value Query Raw : Type} : MemoOp Key Value Query Raw → Type
  | .read _ => Option Value
  | .ask _ => Raw
  | _ => Unit

def MemoOp.isWrite {Key Value Query Raw : Type} : MemoOp Key Value Query Raw → Bool
  | .write _ _ _ => true
  | _ => false

/-- A question with its answer, and who asked it when. -/
structure Asked (Party Query Raw : Type) where
  party : Party
  time : Nat
  query : Query
  raw : Raw
  deriving Repr, DecidableEq

structure Memo (Party Key Value Query Raw : Type) where
  now : Nat
  cache : TtlStore Key Value
  source : Query → Raw
  asked : List (Asked Party Query Raw)

/-- What an entry of the cache says of the questions before it. -/
structure Meaning (Party Key Value Query Raw : Type) where
  Stands : List (Asked Party Query Raw) → Key → LruEntry Value → Prop
  kept : ∀ asked more key entry, Stands asked key entry → Stands (asked ++ more) key entry

variable {Party Key Value Query Raw Result : Type}

theorem Meaning.kept_prefix (meaning : Meaning Party Key Value Query Raw) {asked more : List (Asked Party Query Raw)}
    {key : Key} {entry : LruEntry Value} (extended : asked <+: more) (stands : meaning.Stands asked key entry) :
    meaning.Stands more key entry := by
  obtain ⟨added, rfl⟩ := extended
  exact meaning.kept asked added key entry stands

namespace Memo

/-- Time has passed and questions were asked. -/
structure Before (first second : Memo Party Key Value Query Raw) : Prop where
  time : first.now ≤ second.now
  asked : first.asked <+: second.asked

def initial (source : Query → Raw) : Memo Party Key Value Query Raw where
  now := 0
  cache := .empty
  source
  asked := []

def ask (party : Party) (query : Query) (memo : Memo Party Key Value Query Raw) : Memo Party Key Value Query Raw :=
  { memo with asked := memo.asked ++ [{ party, time := memo.now, query, raw := memo.source query }] }

theorem before_refl {memo : Memo Party Key Value Query Raw} : memo.Before memo :=
  ⟨Nat.le_refl _, List.prefix_refl _⟩

theorem before_ask {memo : Memo Party Key Value Query Raw} {party : Party} {query : Query} :
    memo.Before (memo.ask party query) := ⟨Nat.le_refl _, List.prefix_append _ _⟩

variable [DecidableEq Key]

def write (key : Key) (value : Value) (ttl : Nat) (memo : Memo Party Key Value Query Raw) :
    Memo Party Key Value Query Raw :=
  { memo with cache := memo.cache.set memo.now key value ttl }

variable (meaning : Meaning Party Key Value Query Raw)

/-- Every entry stands, and was stored before. -/
def Sound (memo : Memo Party Key Value Query Raw) : Prop :=
  ∀ key entry, memo.cache.find key = some entry → entry.start ≤ memo.now ∧ meaning.Stands memo.asked key entry

variable {meaning} {memo later : Memo Party Key Value Query Raw} {party : Party} {Other : Party → Prop} {key : Key}
  {value : Value} {ttl : Nat} {query : Query}

theorem before_write : memo.Before (memo.write key value ttl) := ⟨Nat.le_refl _, List.prefix_refl _⟩

theorem Sound.ask (sound : memo.Sound meaning) : (memo.ask party query).Sound meaning := by
  intro key entry found
  obtain ⟨stored, stands⟩ := sound key entry found
  exact ⟨stored, meaning.kept_prefix before_ask.asked stands⟩

theorem Sound.write (sound : memo.Sound meaning)
    (stands : meaning.Stands memo.asked key { value, start := memo.now, ttl }) :
    (memo.write key value ttl).Sound meaning := by
  intro other entry found
  by_cases same : other = key
  · subst same
    obtain rfl := Option.some.inj ((TtlStore.find_set_self _ _ _ _ _).symm.trans found)
    exact ⟨Nat.le_refl _, stands⟩
  · exact sound other entry ((TtlStore.find_set_other same _ _ _ _).symm.trans found)

theorem Sound.evict (sound : memo.Sound meaning) :
    ({ memo with cache := memo.cache.delete key } : Memo Party Key Value Query Raw).Sound meaning := by
  intro other entry found
  by_cases same : other = key
  · subst same
    cases (TtlStore.find_delete_self _ _).symm.trans found
  · exact sound other entry ((TtlStore.find_delete_other same _).symm.trans found)

theorem Sound.advance (sound : memo.Sound meaning) (duration : Nat) :
    ({ memo with now := memo.now + duration } : Memo Party Key Value Query Raw).Sound meaning := by
  intro key entry found
  obtain ⟨stored, stands⟩ := sound key entry found
  exact ⟨Nat.le_add_right_of_le stored, stands⟩

/-- What is read stands, and its time is not over. -/
theorem Sound.read (sound : memo.Sound meaning) (found : memo.cache.get memo.now key = some value) :
    ∃ start ttl, start ≤ memo.now ∧ (ttl = 0 ∨ memo.now ≤ start + ttl) ∧
      meaning.Stands memo.asked key { value, start, ttl } := by
  obtain ⟨⟨held, start, ttl⟩, there, fresh, rfl⟩ := TtlStore.get_eq_some_iff.mp found
  obtain ⟨stored, stands⟩ := sound key _ there
  refine ⟨start, ttl, stored, ?_, stands⟩
  simp only [LruEntry.isStale, Bool.and_eq_false_iff, bne_eq_false_iff_eq, decide_eq_false_iff_not] at fresh
  dsimp only at stored
  omega

section Run
variable [DecidableEq Query]

def perform (party : Party) : (op : MemoOp Key Value Query Raw) → Memo Party Key Value Query Raw →
    op.Answer × Memo Party Key Value Query Raw
  | .read key, memo => (memo.cache.get memo.now key, memo)
  | .write key value ttl, memo => ((), memo.write key value ttl)
  | .ask query, memo => (memo.source query, memo.ask party query)
  | .advance duration, memo => ((), { memo with now := memo.now + duration })
  | .evict key, memo => ((), { memo with cache := memo.cache.delete key })
  | .change query raw, memo => ((), { memo with source := Function.update memo.source query raw })

/-- Parties that are others may do anything, but that they write only what stands. -/
def protocol (meaning : Meaning Party Key Value Query Raw) (Other : Party → Prop) :
    Protocol Party (MemoOp Key Value Query Raw) MemoOp.Answer (Memo Party Key Value Query Raw) where
  perform := perform
  permit party op memo := Other party → match op with
    | .write key value ttl => meaning.Stands memo.asked key { value, start := memo.now, ttl }
    | _ => True
  invariant := Sound meaning
  rely _ := Before
  guarantee _ := Before
  rely_refl _ _ := ⟨Nat.le_refl _, List.prefix_refl _⟩
  rely_trans _ _ _ _ first second := ⟨Nat.le_trans first.time second.time, first.asked.trans second.asked⟩
  compatible _ _ _ _ _ guaranteed := guaranteed

/-- The other parties keep the entries sound. -/
theorem keeps_other (other : Other party) (program : Prog (MemoOp Key Value Query Raw) MemoOp.Answer Result) :
    (protocol meaning Other).Keeps party (fun _ _ => True) program memo := by
  induction program generalizing memo with
  | done result => exact fun _ _ => trivial
  | call op next ih =>
    intro later _ sound permitted
    have allowed := permitted other
    cases op with
    | read key => exact ⟨before_refl, sound, ih _⟩
    | write key value ttl => exact ⟨before_write, sound.write allowed, ih _⟩
    | ask query => exact ⟨before_ask, sound.ask, ih _⟩
    | advance duration => exact ⟨⟨Nat.le_add_right _ _, List.prefix_refl _⟩, sound.advance duration, ih _⟩
    | evict key => exact ⟨⟨Nat.le_refl _, List.prefix_refl _⟩, sound.evict, ih _⟩
    | change query raw => exact ⟨⟨Nat.le_refl _, List.prefix_refl _⟩, sound, ih _⟩

theorem reaches_read {post : Option Value → Memo Party Key Value Query Raw → Prop}
    (holds : ∀ later : Memo Party Key Value Query Raw, memo.Before later → later.Sound meaning →
      post (later.cache.get later.now key) later) :
    (protocol meaning Other).Reaches party post (Prog.op (MemoOp.read key)) memo :=
  Protocol.reaches_op fun later relied sound _ => ⟨before_refl, sound, holds later relied sound⟩

theorem reaches_ask {post : Raw → Memo Party Key Value Query Raw → Prop}
    (holds : ∀ later : Memo Party Key Value Query Raw, memo.Before later →
      post (later.source query) (later.ask party query)) :
    (protocol meaning Other).Reaches party post (Prog.op (MemoOp.ask query)) memo :=
  Protocol.reaches_op fun later relied sound _ => ⟨before_ask, sound.ask, holds later relied⟩

/-- An entry that stands may be written. -/
theorem reaches_write {post : Unit → Memo Party Key Value Query Raw → Prop}
    (holds : ∀ later : Memo Party Key Value Query Raw, memo.Before later →
      meaning.Stands later.asked key { value, start := later.now, ttl } ∧ post () (later.write key value ttl)) :
    (protocol meaning Other).Reaches party post (Prog.op (MemoOp.write key value ttl)) memo :=
  Protocol.reaches_op fun later relied sound _ =>
    ⟨before_write, sound.write (holds later relied).1, (holds later relied).2⟩

/-- In every run, a party that is done had the postcondition where its last operation left the
cache and the source. -/
theorem reaches_run [DecidableEq Party] {post : Party → Result → Memo Party Key Value Query Raw → Prop}
    {config final : Protocol.Config (protocol meaning Other) Result} {schedule : List Party} (source : Query → Raw)
    (fresh : config.shared = .initial source)
    (reaches : ∀ party, ¬ Other party → ∀ memo : Memo Party Key Value Query Raw,
      (protocol meaning Other).Reaches party (post party) (config.programs party) memo)
    (permitted : (protocol meaning Other).Permitted config schedule)
    (reached : run (protocol meaning Other).step config schedule = some final) (party : Party) (own : ¬ Other party)
    (result : Result) (ended : final.programs party = .done result) :
    ∃ memo, post party result memo ∧ memo.Before final.shared := by
  have keeps : ∀ party, (protocol meaning Other).Reaches party
      (fun result memo => ¬ Other party → post party result memo) (config.programs party) config.shared := by
    intro party
    by_cases other : Other party
    · apply (keeps_other other (config.programs party)).weaken
      intro result memo _
      exact ⟨memo, fun own => absurd other own, before_refl⟩
    · apply (reaches party other config.shared).weaken
      intro result memo holds _
      exact holds
  have sound : config.shared.Sound meaning := by
    rw [fresh]
    nofun
  obtain ⟨memo, holds, later⟩ := (Protocol.reaches_run permitted reached sound keeps).2 party result ended
  exact ⟨memo, holds own, later⟩

/-- A schedule where the other parties do not write is permitted. -/
theorem permitted_of_checks [DecidableEq Party] {config : Protocol.Config (protocol meaning Other) Result}
    {schedule : List Party} {own : Party → Bool} (owned : ∀ party, own party = true → ¬ Other party)
    (passed : (protocol meaning Other).checks (fun party op _ => own party || !op.isWrite) config schedule = true) :
    (protocol meaning Other).Permitted config schedule := by
  refine Protocol.permitted_of_checks ?_ passed
  intro party op memo allowed other
  rcases Bool.or_eq_true_iff.mp allowed with mine | noWrite
  · exact absurd other (owned party mine)
  · cases op with
    | write key value ttl => cases noWrite
    | _ => trivial

end Run

end Memo

end HieroRelay.Lib
