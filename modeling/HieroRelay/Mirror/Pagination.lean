import HieroRelay.Lib.Answers
import HieroRelay.Relay.Types

/-! The pages of the mirror node, and the client that walks along their next links. The
request for one page is a parameter of the walk. -/

namespace HieroRelay.Mirror

open HieroRelay.Lib HieroRelay.Relay

/-- What is read of a page: the list under the result property, and `links.next`. -/
structure Page (Item : Type) where
  items : Option (List Item)
  next : Option String
  deriving Repr, DecidableEq

/-- An error of the mirror node that is not accepted, or one of the relay. -/
inductive MirrorError where
  | mirrorNode (statusCode : Nat)
  | rpc (error : JsonRpcError)
  deriving Repr, DecidableEq

def PAGINATION_MAX (count : Nat) : JsonRpcError :=
  { code := -32011, message := s!"Exceeded maximum mirror node pagination count: {count}" }

def NEXT_LINK_PREFIX : String := "/api/v1/"

def MAX_MIRROR_NODE_PAGINATION : Nat := 20

/-- `text.replace(pattern, '')`, which replaces the first match only. -/
def withoutFirst (pattern : List Char) : List Char → List Char
  | [] => []
  | char :: rest =>
      if pattern.isPrefixOf (char :: rest) then (char :: rest).drop pattern.length
      else char :: withoutFirst pattern rest

def pathOf (link : String) : String :=
  String.ofList (withoutFirst NEXT_LINK_PREFIX.toList link.toList)

variable {Item : Type}

/-- A response that is null or lacks the property adds nothing. -/
def itemsOf (result : Option (Page Item)) : List Item := (result.bind Page.items).getD []

/-- `result?.links?.next`, where it is truthy. -/
def nextLink (result : Option (Page Item)) : Option String := (result.bind Page.next).filter (· ≠ "")

namespace MirrorNodeClient

/-- The test for the last page that may be fetched comes before the one for a next link. -/
def getPaginatedResults {Fetch : Type → Type} [Monad Fetch]
    (get : String → ExceptT MirrorError Fetch (Option (Page Item))) (url : String) (results : List Item)
    (page pageMax : Nat) : ExceptT MirrorError Fetch (List Item) := do
  let result ← get url
  let results := results ++ itemsOf result
  if page = pageMax then throw (.rpc (PAGINATION_MAX pageMax))
  match nextLink result with
  | some link =>
      if page < pageMax then getPaginatedResults get (pathOf link) results (page + 1) pageMax
      else return results
  | none => return results
termination_by pageMax - page

end MirrorNodeClient

/-- The requests of a walk that stands alone. -/
inductive PageOp where
  | get (url : String)
  deriving Repr, DecidableEq

/-- A page or null, or an error that is not accepted. -/
abbrev PageOp.Answer (Item : Type) : PageOp → Type
  | .get _ => Except MirrorError (Option (Page Item))

def getPage (url : String) : ExceptT MirrorError (Prog PageOp (PageOp.Answer Item)) (Option (Page Item)) :=
  ExceptT.mk (Prog.op (.get url))

/-- The mirror node has these lists on the pages from a path on. -/
inductive Chain (mirror : String → Option (Page Item)) : String → List (List Item) → Prop where
  | last {url : String} (ends : nextLink (mirror url) = none) : Chain mirror url [itemsOf (mirror url)]
  | next {url link : String} {rest : List (List Item)} (linked : nextLink (mirror url) = some link)
      (chain : Chain mirror (pathOf link) rest) : Chain mirror url (itemsOf (mirror url) :: rest)

namespace MirrorNodeClient

section Served
variable {Op : Type} {Answer : Op → Type} {told : (op : Op) → Answer op → Prop} {mirror : String → Option (Page Item)}
  {get : String → ExceptT MirrorError (Prog Op Answer) (Option (Page Item))} {url : String} {pages : List (List Item)}

/-- One page of the walk. -/
theorem gives_page (served : ∀ url, (get url).run.Gives told (· = .ok (mirror url))) (results : List Item)
    {page pageMax : Nat} {post : Except MirrorError (List Item) → Prop} (within : page ≤ pageMax)
    (next : if page = pageMax then post (.error (.rpc (PAGINATION_MAX pageMax)))
      else
        (nextLink (mirror url)).elim (post (.ok (results ++ itemsOf (mirror url)))) fun link =>
          (getPaginatedResults get (pathOf link) (results ++ itemsOf (mirror url)) (page + 1) pageMax).run.Gives told post) :
    (getPaginatedResults get url results page pageMax).run.Gives told post := by
  rw [getPaginatedResults]
  apply Prog.Gives.bind_eq (served url)
  by_cases limit : page = pageMax
  · simp only [limit, if_true] at next ⊢
    exact next
  · have below : page < pageMax := Nat.lt_of_le_of_ne within limit
    simp only [limit, below, if_true, if_false] at next ⊢
    cases linked : nextLink (mirror url) with
    | none =>
      rw [linked] at next
      exact next
    | some link =>
      rw [linked] at next
      exact next

/-- The pages that are there are walked to the end where that is below the limit. -/
theorem gives_chain (served : ∀ url, (get url).run.Gives told (· = .ok (mirror url))) (chain : Chain mirror url pages)
    (results : List Item) {page pageMax : Nat} (within : page ≤ pageMax) :
    (getPaginatedResults get url results page pageMax).run.Gives told
      (· = if page + pages.length ≤ pageMax then .ok (results ++ pages.flatten)
        else .error (.rpc (PAGINATION_MAX pageMax))) := by
  induction chain generalizing results page with
  | last ends =>
    apply gives_page served results within
    rw [ends, Option.elim_none, List.length_singleton, List.flatten_singleton]
    by_cases limit : page = pageMax
    · rw [if_pos limit, if_neg (by omega)]
    · rw [if_neg limit, if_pos (by omega)]
  | next linked chain ih =>
    apply gives_page served results within
    rw [linked, Option.elim_some, List.length_cons, List.flatten_cons, ← List.append_assoc]
    by_cases limit : page = pageMax
    · rw [if_pos limit, if_neg (by omega)]
    · rw [if_neg limit, ← Nat.add_assoc, Nat.add_right_comm]
      exact ih _ (by omega)

/-- The walk where every request has its one answer. -/
theorem answeredBy_chain {answer : (op : Op) → Answer op}
    (served : ∀ url, (get url).run.answeredBy answer = .ok (mirror url)) (chain : Chain mirror url pages)
    (results : List Item) {page pageMax : Nat} (within : page ≤ pageMax) :
    (getPaginatedResults get url results page pageMax).run.answeredBy answer =
      if page + pages.length ≤ pageMax then .ok (results ++ pages.flatten)
      else .error (.rpc (PAGINATION_MAX pageMax)) := by
  have given : ∀ url, (get url).run.Gives (fun op given => given = answer op) (· = .ok (mirror url)) := fun url =>
    Prog.gives_iff_answeredBy.mpr (served url)
  exact Prog.gives_iff_answeredBy.mp (gives_chain given chain results within)

end Served

theorem length_getPage {url : String} {transcript : List (Exchange PageOp (PageOp.Answer Item))}
    {outcome : Except MirrorError (Option (Page Item))} (ran : Ran (getPage url).run transcript outcome) :
    transcript.length = 1 := by
  obtain ⟨answer, others, rfl, ended⟩ := ran_call_iff.mp ran
  obtain ⟨rfl, -⟩ := ran_done_iff.mp ended
  rfl

/-- A walk ends with one request, or goes on below the limit. -/
theorem ran_page {url : String} {results : List Item} {page pageMax : Nat}
    {transcript : List (Exchange PageOp (PageOp.Answer Item))} {outcome : Except MirrorError (List Item)}
    (ran : Ran (getPaginatedResults getPage url results page pageMax).run transcript outcome) :
    transcript.length = 1 ∨
      ∃ next found rest, page < pageMax ∧ transcript.length = rest.length + 1 ∧
        Ran (getPaginatedResults getPage next found (page + 1) pageMax).run rest outcome := by
  rw [getPaginatedResults] at ran
  rcases ran_bindExcept_iff.mp ran with ⟨first, second, result, rfl, asked, followed⟩ | ⟨error, rfl, asked⟩
  · have one := length_getPage asked
    by_cases limit : page = pageMax
    · simp only [limit, if_true] at followed
      obtain ⟨rfl, -⟩ := ran_done_iff.mp followed
      exact .inl (by simpa using one)
    · simp only [limit, if_false] at followed
      cases linked : nextLink result with
      | none =>
        rw [linked] at followed
        obtain ⟨rfl, -⟩ := ran_done_iff.mp followed
        exact .inl (by simpa using one)
      | some link =>
        rw [linked] at followed
        by_cases below : page < pageMax
        · simp only [below, if_true] at followed
          refine .inr ⟨pathOf link, results ++ itemsOf result, second, below, ?_, followed⟩
          rw [List.length_append, one, Nat.add_comm]
        · simp only [below, if_false] at followed
          obtain ⟨rfl, -⟩ := ran_done_iff.mp followed
          exact .inl (by simpa using one)
  · exact .inl (length_getPage asked)

/-- Whatever the answers are, the walk ends within the limit. -/
theorem length_le_of_ran {url : String} {results : List Item} {page pageMax : Nat} (within : page ≤ pageMax)
    {transcript : List (Exchange PageOp (PageOp.Answer Item))} {outcome : Except MirrorError (List Item)}
    (ran : Ran (getPaginatedResults getPage url results page pageMax).run transcript outcome) :
    page + transcript.length ≤ pageMax + 1 := by
  obtain ⟨left, measured⟩ : ∃ left, pageMax - page = left := ⟨_, rfl⟩
  induction left generalizing url results page transcript with
  | zero =>
    rcases ran_page ran with one | ⟨next, found, rest, below, longer, followed⟩
    · omega
    · omega
  | succ left ih =>
    rcases ran_page ran with one | ⟨next, found, rest, below, longer, followed⟩
    · omega
    · have bounded := ih below followed (by omega)
      omega

/-- The mirror node answers every request with the page that it has. -/
def serving (mirror : String → Option (Page Item)) : (op : PageOp) → op.Answer Item
  | .get url => .ok (mirror url)

/-- What is asked of a walk along a chain of pages from its first page on. -/
structure Complete (mirror : String → Option (Page Item)) (url : String) (pages : List (List Item)) (pageMax : Nat) :
    Prop where
  whole : pages.length ≤ pageMax →
    (getPaginatedResults getPage url [] 1 pageMax).run.answeredBy (serving mirror) = .ok pages.flatten
  refused : (getPaginatedResults getPage url [] 1 pageMax).run.answeredBy (serving mirror) =
    .error (.rpc (PAGINATION_MAX pageMax)) ↔ pageMax < pages.length
  bounded : ∀ (transcript : List (Exchange PageOp (PageOp.Answer Item))) (outcome : Except MirrorError (List Item)),
    Ran (getPaginatedResults getPage url [] 1 pageMax).run transcript outcome → transcript.length ≤ pageMax

/-- The walk is complete unless the chain ends just at the limit. -/
theorem complete_iff (chain : Chain mirror url pages) {pageMax : Nat} (positive : 1 ≤ pageMax) :
    Complete mirror url pages pageMax ↔ pages.length ≠ pageMax := by
  have served : ∀ url, (getPage url).run.answeredBy (serving mirror) = .ok (mirror url) := fun _ => rfl
  have walked := answeredBy_chain served chain [] positive
  constructor
  · rintro complete rfl
    have whole := complete.whole (Nat.le_refl _)
    rw [walked, if_neg (by omega)] at whole
    cases whole
  · intro apart
    refine ⟨?_, ?_, ?_⟩
    · intro within
      rw [walked, if_pos (by omega), List.nil_append]
    · rw [walked]
      by_cases longer : pageMax < pages.length
      · rw [if_neg (by omega)]
        exact iff_of_true rfl longer
      · rw [if_pos (by omega)]
        exact iff_of_false (fun raised => by cases raised) longer
    · intro transcript outcome ran
      have bounded := length_le_of_ran positive ran
      omega

/-- Two pages with one number each. -/
def twoPages (url : String) : Option (Page Nat) :=
  if url = "results?page=0" then some { items := some [0], next := some "/api/v1/results?page=1" }
  else some { items := some [1], next := none }

theorem chain_twoPages : Chain twoPages "results?page=0" [[0], [1]] := by
  have linked : nextLink (twoPages "results?page=0") = some "/api/v1/results?page=1" := by decide
  have path : pathOf "/api/v1/results?page=1" = "results?page=1" := by decide
  refine .next linked ?_
  rw [path]
  exact .last (by decide)

theorem complete_belowLimit : Complete twoPages "results?page=0" [[0], [1]] 3 :=
  (complete_iff chain_twoPages (by decide)).mpr (by decide)

/-- Both pages are fetched, and then thrown away. -/
theorem incomplete_atLimit : Chain twoPages "results?page=0" [[0], [1]] ∧
    ¬ Complete twoPages "results?page=0" [[0], [1]] 2 := by
  refine ⟨chain_twoPages, ?_⟩
  intro complete
  have whole := complete.whole (by decide)
  rw [answeredBy_chain (fun _ => rfl) chain_twoPages [] (by decide)] at whole
  cases whole

end MirrorNodeClient

end HieroRelay.Mirror
