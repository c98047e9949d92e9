import HieroRelay.Hbar.LimiterCache
import HieroRelay.Js.Value

/-! The listing of the active plans of some tiers, key by key: what is in the cache may change
between the listing of the keys and each read. It succeeds with the plans that are still there
exactly if nothing that it reads is gone. -/

namespace HieroRelay.Hbar.PlanListing

open HieroRelay.Lib
open HieroRelay.Js (includesText)

structure IHbarSpendingRecord where
  amount : Int
  timestamp : Nat
  deriving Repr, DecidableEq

/-- A plan under the text of its identifier. -/
structure IHbarSpendingPlan where
  id : String
  subscriptionTier : SubscriptionTier
  createdAt : Nat
  active : Bool
  deriving Repr, DecidableEq

/-- The amount is nothing where it is `NaN`. -/
structure IDetailedHbarSpendingPlan extends IHbarSpendingPlan where
  spendingHistory : List IHbarSpendingRecord
  amountSpent : Option Int
  deriving Repr, DecidableEq

/-- What is stored under the keys of the collection. -/
inductive CacheValue where
  | plan (plan : IHbarSpendingPlan)
  | amountSpent (amount : Int)
  | spendingHistory (records : List IHbarSpendingRecord)
  deriving Repr, DecidableEq

inductive PlanError where
  | TypeError
  | HbarSpendingPlanNotFoundError (id : String)
  | HbarSpendingPlanNotActiveError (id : String)
  deriving Repr, DecidableEq

inductive CacheOp where
  | keys (pattern : String)
  | getAsync (key : String)
  deriving Repr, DecidableEq

abbrev CacheOp.Answer : CacheOp → Type
  | .keys _ => List String
  | .getAsync _ => Option CacheValue

abbrev Program (Result : Type) := ExceptT PlanError (Prog CacheOp CacheOp.Answer) Result

def ask (op : CacheOp) : Program op.Answer := ExceptT.lift (Prog.op op)

namespace HbarSpendingPlanRepository

def collectionKey : String := "hbarSpendingPlan"

def getKey (id : String) : String := s!"{collectionKey}:{id}"

def getAmountSpentKey (id : String) : String := s!"{collectionKey}:{id}:amountSpent"

/-- Zero is no plan, and what has no `active` is not active. -/
def checkExistsAndActive (id : String) : Program Unit := do
  match ← ask (.getAsync (getKey id)) with
  | none => throw (.HbarSpendingPlanNotFoundError id)
  | some (.plan plan) => if plan.active then return () else throw (.HbarSpendingPlanNotActiveError id)
  | some (.amountSpent amount) =>
      if amount = 0 then throw (.HbarSpendingPlanNotFoundError id) else throw (.HbarSpendingPlanNotActiveError id)
  | some (.spendingHistory _) => throw (.HbarSpendingPlanNotActiveError id)

/-- `parseInt(amountSpent ?? '0')` -/
def parseAmount : Option CacheValue → Option Int
  | none => some 0
  | some (.amountSpent amount) => some amount
  | some _ => none

def getAmountSpent (id : String) : Program (Option Int) := do
  checkExistsAndActive id
  return parseAmount (← ask (.getAsync (getAmountSpentKey id)))

def ofTiers (tiers : List SubscriptionTier) (plan : IHbarSpendingPlan) : Bool :=
  tiers.contains plan.subscriptionTier && plan.active

/-- The filter reads the tier of each value, and null has none to read. -/
def filterPlans (tiers : List SubscriptionTier) : List (Option CacheValue) → Except PlanError (List IHbarSpendingPlan)
  | [] => return []
  | none :: _ => throw .TypeError
  | some (.plan plan) :: rest => do
      let plans ← filterPlans tiers rest
      return if ofTiers tiers plan then plan :: plans else plans
  | some _ :: rest => filterPlans tiers rest

def detailed (plan : IHbarSpendingPlan) : Program IDetailedHbarSpendingPlan := do
  return { plan with spendingHistory := [], amountSpent := ← getAmountSpent plan.id }

def findAllActiveBySubscriptionTier (tiers : List SubscriptionTier) : Program (List IDetailedHbarSpendingPlan) := do
  let keys ← ask (.keys (getKey "*"))
  let plans ← keys.mapM fun key => ask (.getAsync key)
  (← ExceptT.mk (pure (filterPlans tiers plans))).mapM detailed

end HbarSpendingPlanRepository

open HbarSpendingPlanRepository

/-! What the cache answers at each moment. -/

/-- The answers of the cache service; a key may be listed and yet have no value to read. -/
structure CacheView where
  keys : String → List String
  get : String → Option CacheValue

/-- What stands before the star at the end of a pattern. -/
def patternText (pattern : String) : String := String.ofList pattern.toList.dropLast

/-- The internal cache, where a pattern is found anywhere in a key. Its keys are listed with `rkeys`,
the oldest first. -/
def internalView (cache : TtlStore String CacheValue) (now : Nat) : CacheView where
  keys pattern := cache.keys.reverse.filter fun key =>
    (cache.get now key).isSome && includesText key (patternText pattern)
  get key := cache.get now key

/-- A text that was serialized, or a list of records. -/
inductive RedisEntry where
  | text (value : CacheValue)
  | list (records : List IHbarSpendingRecord)
  deriving Repr, DecidableEq

/-- The shared cache, whose client fails to get a list as a text; then the internal cache is read. -/
def sharedView (redis : TtlStore String RedisEntry) (internal : TtlStore String CacheValue) (now : Nat) :
    CacheView where
  keys pattern := redis.keys.filter fun key =>
    (redis.get now key).isSome && (patternText pattern).toList.isPrefixOf key.toList
  get key :=
    match redis.get now key with
    | some (.text value) => some value
    | some (.list _) => internal.get now key
    | none => none

/-- Each operation is answered at its own moment. -/
def perform (moments : Nat → CacheView) : (op : CacheOp) → Nat → op.Answer × Nat
  | .keys pattern, moment => ((moments moment).keys pattern, moment + 1)
  | .getAsync key, moment => ((moments moment).get key, moment + 1)

variable {moments : Nat → CacheView} {tiers : List SubscriptionTier}

def listing (moments : Nat → CacheView) (tiers : List SubscriptionTier) :
    Except PlanError (List IDetailedHbarSpendingPlan) :=
  ((findAllActiveBySubscriptionTier tiers).run.eval (perform moments) 0).1

/-! The plans that are still present. -/

def listedKeys (moments : Nat → CacheView) : List String := (moments 0).keys (getKey "*")

/-- The values of the keys, each read one moment after the one before. -/
def readFrom (moments : Nat → CacheView) (moment : Nat) : List String → List (Option CacheValue)
  | [] => []
  | key :: rest => (moments moment).get key :: readFrom moments (moment + 1) rest

def listedValues (moments : Nat → CacheView) : List (Option CacheValue) := readFrom moments 1 (listedKeys moments)

def planOf (tiers : List SubscriptionTier) : Option CacheValue → Option IHbarSpendingPlan
  | some (.plan plan) => if ofTiers tiers plan then some plan else none
  | _ => none

/-- The active plans of the tiers, as they were read. -/
def listedPlans (moments : Nat → CacheView) (tiers : List SubscriptionTier) : List IHbarSpendingPlan :=
  (listedValues moments).filterMap (planOf tiers)

/-- The plan is there, and active. -/
def isPresent (view : CacheView) (id : String) : Bool :=
  match view.get (getKey id) with
  | some (.plan plan) => plan.active
  | _ => false

/-- The plans that are present when their amounts are read, with their amounts. -/
def presentFrom (moments : Nat → CacheView) (moment : Nat) : List IHbarSpendingPlan → List IDetailedHbarSpendingPlan
  | [] => []
  | plan :: rest =>
      let others := presentFrom moments (moment + 2) rest
      if isPresent (moments moment) plan.id then
        { plan with
          spendingHistory := []
          amountSpent := parseAmount ((moments (moment + 1)).get (getAmountSpentKey plan.id)) } :: others
      else others

def presentPlans (moments : Nat → CacheView) (tiers : List SubscriptionTier) : List IDetailedHbarSpendingPlan :=
  presentFrom moments (1 + (listedKeys moments).length) (listedPlans moments tiers)

/-- Every key that was listed has a value when it is read. -/
def AllReadable (moments : Nat → CacheView) : Prop := none ∉ listedValues moments

/-- Every plan is present when its amount is read. -/
def AllPresent (moments : Nat → CacheView) (moment : Nat) : List IHbarSpendingPlan → Prop
  | [] => True
  | plan :: rest => isPresent (moments moment) plan.id = true ∧ AllPresent moments (moment + 2) rest

private theorem eval_keys (keys : List String) (moment : Nat) :
    (keys.mapM fun key => ask (.getAsync key)).run.eval (perform moments) moment =
      (.ok (readFrom moments moment keys), moment + keys.length) := by
  induction keys generalizing moment with
  | nil => rfl
  | cons key rest ih =>
    have read : (ask (.getAsync key)).run.eval (perform moments) moment =
        (.ok ((moments moment).get key), moment + 1) := rfl
    rw [List.mapM_cons, Prog.eval_bind_ok _ read, Prog.eval_bind_ok _ (ih (moment + 1)), List.length_cons,
      Nat.add_right_comm]
    rfl

/-- The filter fails at a value that is gone. -/
theorem filterPlans_eq (tiers : List SubscriptionTier) (values : List (Option CacheValue)) :
    filterPlans tiers values = if none ∈ values then .error .TypeError else .ok (values.filterMap (planOf tiers)) := by
  induction values with
  | nil => rfl
  | cons value rest ih =>
    cases value with
    | none =>
      rw [if_pos List.mem_cons_self]
      rfl
    | some value =>
      have member : none ∈ some value :: rest ↔ none ∈ rest := by simp
      rw [ite_congr (propext member) (fun _ => rfl) fun _ => rfl]
      cases value with
      | plan plan =>
        rw [filterPlans, ih]
        by_cases gone : none ∈ rest
        · rw [if_pos gone, if_pos gone]
          rfl
        · rw [if_neg gone, if_neg gone]
          by_cases chosen : ofTiers tiers plan
          · have taken : planOf tiers (some (.plan plan)) = some plan := if_pos chosen
            rw [List.filterMap_cons_some taken]
            exact congrArg Except.ok (if_pos chosen)
          · have left : planOf tiers (some (.plan plan)) = none := if_neg chosen
            rw [List.filterMap_cons_none left]
            exact congrArg Except.ok (if_neg chosen)
      | amountSpent amount => exact ih
      | spendingHistory records => exact ih

private theorem eval_getAmountSpent (id : String) (moment : Nat) (present : isPresent (moments moment) id = true) :
    (getAmountSpent id).run.eval (perform moments) moment =
      (.ok (parseAmount ((moments (moment + 1)).get (getAmountSpentKey id))), moment + 2) := by
  have checked : (checkExistsAndActive id).run.eval (perform moments) moment = (.ok (), moment + 1) := by
    unfold isPresent at present
    split at present
    · next plan found =>
        have read : (ask (.getAsync (getKey id))).run.eval (perform moments) moment =
            (.ok (some (.plan plan)), moment + 1) := congrArg (fun value => (Except.ok value, moment + 1)) found
        rw [checkExistsAndActive, Prog.eval_bind_ok _ read]
        dsimp only
        rw [if_pos present]
        rfl
    · cases present
  rw [getAmountSpent, Prog.eval_bind_ok _ checked]
  rfl

private theorem eval_getAmountSpent_gone (id : String) (moment : Nat) (gone : isPresent (moments moment) id = false) :
    ∃ error, (getAmountSpent id).run.eval (perform moments) moment = (.error error, moment + 1) := by
  have checked : ∃ error, (checkExistsAndActive id).run.eval (perform moments) moment = (.error error, moment + 1) := by
    have read : (ask (.getAsync (getKey id))).run.eval (perform moments) moment =
        (.ok ((moments moment).get (getKey id)), moment + 1) := rfl
    rw [checkExistsAndActive, Prog.eval_bind_ok _ read]
    unfold isPresent at gone
    cases found : (moments moment).get (getKey id) with
    | none => exact ⟨_, rfl⟩
    | some value =>
      rw [found] at gone
      cases value with
      | plan plan =>
        dsimp only at gone ⊢
        rw [gone]
        exact ⟨_, rfl⟩
      | amountSpent amount =>
        dsimp only
        split
        · exact ⟨_, rfl⟩
        · exact ⟨_, rfl⟩
      | spendingHistory records => exact ⟨_, rfl⟩
  obtain ⟨error, thrown⟩ := checked
  exact ⟨error, by rw [getAmountSpent, Prog.eval_bind_error _ thrown]⟩

/-- The amounts of plans are read exactly if each plan is present then. -/
theorem eval_detailed_iff (plans : List IHbarSpendingPlan) (moment : Nat) :
    ((plans.mapM detailed).run.eval (perform moments) moment).1 = .ok (presentFrom moments moment plans) ↔
      AllPresent moments moment plans := by
  induction plans generalizing moment with
  | nil => exact iff_of_true rfl trivial
  | cons plan rest ih =>
    rw [List.mapM_cons, AllPresent, presentFrom]
    cases present : isPresent (moments moment) plan.id with
    | true =>
      have first : (detailed plan).run.eval (perform moments) moment =
          (.ok { plan with
            spendingHistory := []
            amountSpent := parseAmount ((moments (moment + 1)).get (getAmountSpentKey plan.id)) }, moment + 2) := by
        rw [detailed, Prog.eval_bind_ok _ (eval_getAmountSpent plan.id moment present)]
        rfl
      rw [Prog.eval_bind_ok _ first, and_iff_right rfl, if_pos rfl, ← ih (moment + 2)]
      cases others : (rest.mapM detailed).run.eval (perform moments) (moment + 2) with
      | mk outcome later =>
        cases outcome with
        | error error =>
          rw [Prog.eval_bind_error _ others]
          exact iff_of_false nofun nofun
        | ok plans =>
          rw [Prog.eval_bind_ok _ others]
          constructor
          · intro same
            exact congrArg Except.ok (List.cons.inj (Except.ok.inj same)).2
          · intro same
            exact congrArg (fun plans => Except.ok (_ :: plans)) (Except.ok.inj same)
    | false =>
      obtain ⟨error, thrown⟩ := eval_getAmountSpent_gone plan.id moment present
      have first : (detailed plan).run.eval (perform moments) moment = (.error error, moment + 1) := by
        rw [detailed, Prog.eval_bind_error _ thrown]
      rw [Prog.eval_bind_error _ first]
      exact iff_of_false nofun fun all => Bool.false_ne_true all.1

theorem eval_listedKeys : (ask (.keys (getKey "*"))).run.eval (perform moments) 0 = (.ok (listedKeys moments), 1) := rfl

theorem eval_listedValues : ((listedKeys moments).mapM fun key => ask (.getAsync key)).run.eval (perform moments) 1 =
    (.ok (listedValues moments), 1 + (listedKeys moments).length) := eval_keys _ 1

theorem eval_filterPlans (moments : Nat → CacheView) (outcome : Except PlanError (List IHbarSpendingPlan))
    (moment : Nat) :
    (ExceptT.mk (pure outcome) : Program (List IHbarSpendingPlan)).run.eval (perform moments) moment =
      (outcome, moment) :=
  rfl

private theorem listing_of_gone (gone : none ∈ listedValues moments) : listing moments tiers = .error .TypeError := by
  have filtered := eval_filterPlans moments (filterPlans tiers (listedValues moments))
    (1 + (listedKeys moments).length)
  rw [filterPlans_eq, if_pos gone] at filtered
  rw [listing, findAllActiveBySubscriptionTier, Prog.eval_bind_ok _ eval_listedKeys,
    Prog.eval_bind_ok _ eval_listedValues, filterPlans_eq, if_pos gone, Prog.eval_bind_error _ filtered]

theorem listing_of_readable (readable : AllReadable moments) :
    listing moments tiers =
      (((listedPlans moments tiers).mapM detailed).run.eval (perform moments) (1 + (listedKeys moments).length)).1 := by
  have filtered := eval_filterPlans moments (filterPlans tiers (listedValues moments))
    (1 + (listedKeys moments).length)
  rw [filterPlans_eq, if_neg readable] at filtered
  rw [listing, findAllActiveBySubscriptionTier, Prog.eval_bind_ok _ eval_listedKeys,
    Prog.eval_bind_ok _ eval_listedValues, filterPlans_eq, if_neg readable, Prog.eval_bind_ok _ filtered, listedPlans]

private theorem listing_of_present (readable : AllReadable moments)
    (present : AllPresent moments (1 + (listedKeys moments).length) (listedPlans moments tiers)) :
    listing moments tiers = .ok (presentPlans moments tiers) := by
  rw [listing_of_readable readable]
  exact (eval_detailed_iff _ _).mpr present

/-- The listing gives the active plans of the tiers that are still present exactly if no key that
it listed, and no plan that it found, is gone when it is read. -/
theorem listing_iff (moments : Nat → CacheView) (tiers : List SubscriptionTier) :
    listing moments tiers = .ok (presentPlans moments tiers) ↔
      AllReadable moments ∧
        AllPresent moments (1 + (listedKeys moments).length) (listedPlans moments tiers) := by
  by_cases readable : AllReadable moments
  · rw [listing_of_readable readable, and_iff_right readable]
    exact eval_detailed_iff _ _
  · rw [listing_of_gone (Classical.not_not.mp readable)]
    exact iff_of_false nofun fun both => readable both.1

section AtOnce
variable {view : CacheView} {cache : TtlStore String CacheValue} {now : Nat}

theorem readFrom_at_once (view : CacheView) (moment : Nat) (keys : List String) :
    readFrom (fun _ => view) moment keys = keys.map view.get := by
  induction keys generalizing moment with
  | nil => rfl
  | cons key rest ih => rw [readFrom, ih, List.map_cons]

private theorem isPresent_of_stored {id : String} {plan : IHbarSpendingPlan}
    (stored : view.get (getKey id) = some (.plan plan))
    (active : plan.active = true) : isPresent view id = true := by
  unfold isPresent
  rw [stored]
  exact active

private theorem allPresent_at_once {plans : List IHbarSpendingPlan} (moment : Nat)
    (present : ∀ plan ∈ plans, isPresent view plan.id = true) : AllPresent (fun _ => view) moment plans := by
  induction plans generalizing moment with
  | nil => trivial
  | cons plan rest ih =>
    rw [List.forall_mem_cons] at present
    exact ⟨present.1, ih _ present.2⟩

/-- A plan is stored under the key of its identifier. -/
def Keyed (cache : TtlStore String CacheValue) (now : Nat) : Prop :=
  ∀ key plan, cache.get now key = some (.plan plan) → key = getKey plan.id

/-- While no time passes, nothing is gone. -/
theorem listing_at_once (keyed : Keyed cache now) (tiers : List SubscriptionTier) :
    listing (fun _ => internalView cache now) tiers = .ok (presentPlans (fun _ => internalView cache now) tiers) := by
  apply listing_of_present
  · unfold AllReadable listedValues
    rw [readFrom_at_once]
    intro gone
    obtain ⟨key, listed, missing⟩ := List.mem_map.mp gone
    have found := (List.mem_filter.mp listed).2
    rw [Bool.and_eq_true] at found
    exact Option.isSome_iff_ne_none.mp found.1 missing
  · apply allPresent_at_once
    intro plan member
    obtain ⟨value, read, chosen⟩ := List.mem_filterMap.mp member
    rw [listedValues, readFrom_at_once] at read
    obtain ⟨key, -, rfl⟩ := List.mem_map.mp read
    unfold planOf at chosen
    split at chosen
    · next other found =>
        split at chosen
        · next active =>
            cases chosen
            have stored : cache.get now (getKey plan.id) = some (.plan plan) := keyed key plan found ▸ found
            rw [ofTiers, Bool.and_eq_true] at active
            exact isPresent_of_stored stored active.2
        · cases chosen
    · cases chosen

end AtOnce

/-! Plans that expire, and histories that are lists of the shared cache. -/

/-- The clock does not go back. -/
def Forward (times : Nat → Nat) : Prop := ∀ moment, times moment ≤ times (moment + 1)

/-- The views of a cache at the times of the operations. -/
def internalMoments (cache : TtlStore String CacheValue) (times : Nat → Nat) (moment : Nat) : CacheView :=
  internalView cache (times moment)

def sharedMoments (redis : TtlStore String RedisEntry) (times : Nat → Nat) (moment : Nat) : CacheView :=
  sharedView redis .empty (times moment)

def basicPlan (id : String) : IHbarSpendingPlan where
  id
  subscriptionTier := .BASIC
  createdAt := 0
  active := true

/-- Two plans with an amount, where the second plan is kept for a second. -/
def twoPlans : TtlStore String CacheValue :=
  ((TtlStore.empty.set 0 (getKey "first") (.plan (basicPlan "first")) 86400000).set 0
    (getAmountSpentKey "first") (.amountSpent 7) 86400000).set 0
    (getKey "second") (.plan (basicPlan "second")) 1000

def planWithHistory : TtlStore String RedisEntry :=
  (TtlStore.empty.set 0 (getKey "first") (.text (.plan (basicPlan "first"))) 86400000).set 0
    "hbarSpendingPlan:first:spendingHistory" (.list [{ amount := 7, timestamp := 0 }]) 0

example : listing (internalMoments twoPlans fun _ => 0) [.BASIC] =
    .ok [{ basicPlan "first" with spendingHistory := [], amountSpent := some 7 },
      { basicPlan "second" with spendingHistory := [], amountSpent := some 0 }] := by
  decide

/-- The second plan is over at the second read; and a history cannot be read as a text. -/
theorem listings_failed :
    ¬ (∀ (cache : TtlStore String CacheValue) (times : Nat → Nat) (tiers : List SubscriptionTier), Forward times →
      listing (internalMoments cache times) tiers = .ok (presentPlans (internalMoments cache times) tiers)) ∧
    ¬ (∀ (redis : TtlStore String RedisEntry) (times : Nat → Nat) (tiers : List SubscriptionTier), Forward times →
      listing (sharedMoments redis times) tiers = .ok (presentPlans (sharedMoments redis times) tiers)) := by
  constructor
  · intro total
    have listed := total twoPlans (fun moment => 1000 * moment) [.BASIC]
      (fun moment => Nat.mul_le_mul_left 1000 (Nat.le_succ moment))
    exact absurd listed (by decide)
  · intro total
    have listed := total planWithHistory (fun _ => 0) [.BASIC] (fun _ => Nat.le_refl 0)
    exact absurd listed (by decide)

end HieroRelay.Hbar.PlanListing
