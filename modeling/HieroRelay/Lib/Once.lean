import HieroRelay.Lib.Lru

/-! A filter that lets a key pass unless it remembers it. Its memory is a bounded cache, so a key
passes again after its time to live, or after as many other keys as fit into the cache. -/

namespace HieroRelay.Lib

/-- A key that was offered at some time, and whether it passed. -/
structure Offer (Key : Type) where
  key : Key
  time : Nat
  passed : Bool
  deriving Repr, DecidableEq

/-- The time to live is over; zero stands for an unlimited one. -/
def Expired (ttl start now : Nat) : Prop := ttl ≠ 0 ∧ ttl < now - start

theorem Expired.mono {ttl start earlier now later : Nat} (expired : Expired ttl start now) (before : earlier ≤ start)
    (after : now ≤ later) : Expired ttl earlier later := by
  obtain ⟨limited, passed⟩ := expired
  exact ⟨limited, by omega⟩

theorem LruEntry.isStale_iff {Value : Type} {entry : LruEntry Value} {now : Nat} :
    entry.isStale now = true ↔ Expired entry.ttl entry.start now := by
  simp [LruEntry.isStale, Expired]

variable {Key : Type} {max ttl now later : Nat} {key : Key} {offers more : List (Offer Key)}

/-- As many different keys as fit into the memory are among the offers, without this one. -/
def Crowds (max : Nat) (key : Key) (offers : List (Offer Key)) : Prop :=
  max ≠ 0 ∧ ∃ others : List Key,
    others.Nodup ∧ key ∉ others ∧ others ⊆ offers.map Offer.key ∧ max ≤ others.length

theorem Crowds.mono (crowds : Crowds max key offers) (kept : offers ⊆ more) : Crowds max key more := by
  obtain ⟨limited, others, distinct, absent, offered, enough⟩ := crowds
  exact ⟨limited, others, distinct, absent, fun _ member => List.map_subset _ kept (offered member), enough⟩

/-- The last element of a list that is chosen. -/
theorem none_or_last {Element : Type} (chosen : Element → Prop) (elements : List Element) :
    (∀ element ∈ elements, ¬ chosen element) ∨
      ∃ before last after, elements = before ++ last :: after ∧ chosen last ∧ ∀ element ∈ after, ¬ chosen element := by
  induction elements using List.reverseRecOn with
  | nil => exact .inl (List.forall_mem_nil _)
  | append_singleton elements last ih =>
    by_cases own : chosen last
    · exact .inr ⟨elements, last, [], rfl, own, List.forall_mem_nil _⟩
    · rcases ih with none | ⟨before, found, after, rfl, isChosen, none⟩
      · refine .inl ?_
        intro element member
        rcases List.mem_append.mp member with inside | isLast
        · exact none element inside
        · exact List.mem_singleton.mp isLast ▸ own
      · refine .inr ⟨before, found, after ++ [last], by simp, isChosen, ?_⟩
        intro element member
        rcases List.mem_append.mp member with inside | isLast
        · exact none element inside
        · exact List.mem_singleton.mp isLast ▸ own

namespace LruOrder

variable {order : LruOrder Key Bool max}

/-- What the memory holds of the offers so far, and what is true of them. -/
structure Remembers (ttl : Nat) (order : LruOrder Key Bool max) (offers : List (Offer Key)) (now : Nat) : Prop where
  sorted : offers.Pairwise fun first second => first.time ≤ second.time
  past : ∀ offer ∈ offers, offer.time ≤ now
  stored : ∀ key entry, (key, entry) ∈ order.entries → entry.value = true ∧ entry.ttl = ttl ∧
    ∃ first ∈ offers, first.passed = true ∧ first.key = key ∧ first.time = entry.start
  kept : ∀ before first after, offers = before ++ first :: after → first.passed = true →
    (∀ other ∈ after, other.key = first.key → other.passed = false) →
      Crowds max first.key after ∨ Expired ttl first.time now ∨
        ∃ newer, order.Behind first.key { value := true, start := first.time, ttl } newer ∧
          newer ⊆ after.map Offer.key
  answered : ∀ before repeated after, offers = before ++ repeated :: after → repeated.passed = false →
    ∃ first ∈ before, first.passed = true ∧ first.key = repeated.key ∧ ¬ Expired ttl first.time repeated.time
  apart : ∀ before first between second after, offers = before ++ first :: (between ++ second :: after) →
    first.passed = true → second.passed = true → first.key = second.key →
      Crowds max first.key between ∨ Expired ttl first.time second.time

namespace Remembers

theorem empty (ttl now : Nat) : Remembers ttl (.empty : LruOrder Key Bool max) [] now where
  sorted := .nil
  past := List.forall_mem_nil _
  stored := fun _ _ member => absurd member List.not_mem_nil
  kept := fun before _ _ split => absurd split (by simp)
  answered := fun before _ _ split => absurd split (by simp)
  apart := fun before _ _ _ _ split => absurd split (by simp)

theorem valid (remembers : Remembers ttl order offers now) :
    ∀ key entry, (key, entry) ∈ order.entries → entry.value = true :=
  fun key entry member => (remembers.stored key entry member).1

theorem wait (remembers : Remembers ttl order offers now) (passes : now ≤ later) :
    Remembers ttl order offers later where
  sorted := remembers.sorted
  past := fun offer member => Nat.le_trans (remembers.past offer member) passes
  stored := remembers.stored
  kept := by
    intro before first after split passed unrepeated
    rcases remembers.kept before first after split passed unrepeated with crowds | expired | behind
    · exact .inl crowds
    · exact .inr (.inl (expired.mono (Nat.le_refl _) passes))
    · exact .inr (.inr behind)
  answered := remembers.answered
  apart := remembers.apart

end Remembers

theorem Behind.nodup {Value : Type} {order : LruOrder Key Value max} {entry : LruEntry Value} {newer : List Key}
    (behind : order.Behind key entry newer) : newer.Nodup ∧ key ∉ newer := by
  obtain ⟨front, back, entries, rfl⟩ := behind
  have unique := order.nodup
  simp only [entries, List.map_append, List.map_cons] at unique
  refine ⟨(List.nodup_append.mp unique).1, ?_⟩
  exact fun member => (List.disjoint_of_nodup_append unique) member List.mem_cons_self

variable [DecidableEq Key]

/-- A key that is found does not pass, another one is remembered. -/
def offer (ttl : Nat) (order : LruOrder Key Bool max) (now : Nat) (key : Key) : Bool × LruOrder Key Bool max :=
  match order.get now key with
  | (some true, kept) => (false, kept)
  | (_, kept) => (true, kept.set now key true ttl)

private theorem lookup_of_mem {Value : Type} {order : LruOrder Key Value max} {entry : LruEntry Value}
    (member : (key, entry) ∈ order.entries) : order.entries.lookup key = some entry := by
  obtain ⟨front, back, entries⟩ := List.append_of_mem member
  exact lookup_of_entries entries

/-- Whether an entry is found, is stale or is not there. -/
theorem get_eq {Value : Type} (order : LruOrder Key Value max) (now : Nat) (key : Key) :
    (order.entries.lookup key = none ∧ order.get now key = (none, order)) ∨
      ∃ entry present, order.entries.lookup key = some entry ∧
        ((entry.isStale now = true ∧ order.get now key = (none, order.delete key)) ∨
          entry.isStale now = false ∧ order.get now key = (some entry.value, order.renew key entry present)) := by
  unfold LruOrder.get
  split
  · rename_i missing
    exact .inl ⟨missing, rfl⟩
  · rename_i entry found
    refine .inr ⟨entry, (lookup_isSome_iff key _).mp (by rw [found]; rfl), found, ?_⟩
    cases stale : entry.isStale now with
    | true => exact .inl ⟨rfl, rfl⟩
    | false => exact .inr ⟨rfl, rfl⟩

private theorem behind_set_self {Value : Type} (order : LruOrder Key Value max) (now : Nat) (key : Key) (value : Value)
    (ttl : Nat) : (order.set now key value ttl).Behind key { value, start := now, ttl } [] := by
  unfold LruOrder.set
  split
  · exact ⟨[], _, rfl, rfl⟩
  · split
    · exact ⟨[], _, rfl, rfl⟩
    · exact ⟨[], _, rfl, rfl⟩

theorem Behind.lookup {Value : Type} {order : LruOrder Key Value max} {entry : LruEntry Value} {newer : List Key}
    (behind : order.Behind key entry newer) : order.entries.lookup key = some entry := by
  obtain ⟨front, back, entries, -⟩ := behind
  exact lookup_of_entries entries

/-- A key is found, or it is not there any more and passes. -/
theorem offer_cases (valid : ∀ key entry, (key, entry) ∈ order.entries → entry.value = true) (ttl now : Nat)
    (key : Key) :
    (∃ entry present, order.entries.lookup key = some entry ∧ entry.isStale now = false ∧
      order.offer ttl now key = (false, order.renew key entry present)) ∨
    ∃ kept, (kept = order ∨ kept = order.delete key) ∧
      (∀ entry, order.entries.lookup key = some entry → entry.isStale now = true) ∧
      order.offer ttl now key = (true, kept.set now key true ttl) := by
  unfold LruOrder.offer
  rcases order.get_eq now key with ⟨missing, missed⟩ | ⟨entry, present, found, ⟨stale, dropped⟩ | ⟨readable, hit⟩⟩
  · rw [missed]
    refine .inr ⟨order, .inl rfl, ?_, rfl⟩
    intro entry found
    rw [missing] at found
    cases found
  · rw [dropped]
    refine .inr ⟨order.delete key, .inr rfl, ?_, rfl⟩
    intro other same
    obtain rfl := Option.some.inj (found.symm.trans same)
    exact stale
  · rw [hit, valid key entry (mem_of_lookup found)]
    exact .inl ⟨entry, present, found, readable, rfl⟩

/-- An offer of another key moves the entry back, or crowds it out. -/
theorem Behind.offer {other : Key} {entry : LruEntry Bool} {newer : List Key} (behind : order.Behind key entry newer)
    (valid : ∀ key entry, (key, entry) ∈ order.entries → entry.value = true) (different : key ≠ other) (ttl now : Nat) :
    (∃ nowNewer, (order.offer ttl now other).2.Behind key entry nowNewer ∧ nowNewer ⊆ other :: newer) ∨
      (max ≠ 0 ∧ ∃ others : List Key,
        others.Nodup ∧ key ∉ others ∧ others ⊆ other :: newer ∧ max ≤ others.length) := by
  have fewer : other :: newer.filter (· != other) ⊆ other :: newer :=
    List.cons_subset_cons other (List.filter_subset_self _)
  rcases offer_cases valid ttl now other with ⟨held, present, -, -, renewed⟩ | ⟨kept, left, -, passed⟩
  · rw [renewed]
    exact .inl ⟨_, behind.renew different present, fewer⟩
  · rw [passed]
    have still : ∃ among, kept.Behind key entry among ∧ other :: among.filter (· != other) ⊆ other :: newer := by
      rcases left with rfl | rfl
      · exact ⟨newer, behind, fewer⟩
      · refine ⟨_, behind.delete different, ?_⟩
        rw [List.filter_filter]
        simp
    obtain ⟨among, behindKept, within⟩ := still
    rcases behindKept.set different now true ttl with pushed | ⟨-, limited, enough⟩
    · exact .inl ⟨_, pushed, within⟩
    · refine .inr ⟨limited, _, ?_, ?_, within, enough⟩
      · have distinct := behindKept.nodup.1
        exact List.nodup_cons.mpr ⟨by simp, distinct.filter _⟩
      · have absent := behindKept.nodup.2
        simp [different, absent]

/-- The offer of a key as it is noted down. -/
def offered (ttl : Nat) (order : LruOrder Key Bool max) (now : Nat) (key : Key) : Offer Key where
  key
  time := now
  passed := (order.offer ttl now key).1

namespace Remembers

/-- The last time that a key passed is remembered, unless it was crowded out or has expired. -/
theorem kept_offer (remembers : Remembers ttl order offers now) (key : Key) {before after : List (Offer Key)}
    {first : Offer Key} (split : offers ++ [order.offered ttl now key] = before ++ first :: after)
    (passed : first.passed = true) (unrepeated : ∀ other ∈ after, other.key = first.key → other.passed = false) :
    Crowds max first.key after ∨ Expired ttl first.time now ∨
      ∃ newer, (order.offer ttl now key).2.Behind first.key { value := true, start := first.time, ttl } newer ∧
        newer ⊆ after.map Offer.key := by
  cases after using List.reverseRecOn with
  | nil =>
    obtain ⟨rfl, same⟩ := List.append_inj' split rfl
    obtain rfl := (List.cons.inj same).1
    rcases offer_cases remembers.valid ttl now key with ⟨entry, present, -, -, found⟩ | ⟨kept, -, -, passes⟩
    · rw [offered, found] at passed
      cases passed
    · rw [passes]
      exact .inr (.inr ⟨[], behind_set_self kept now key true ttl, List.nil_subset _⟩)
  | append_singleton after last =>
    rw [← List.cons_append, ← List.append_assoc] at split
    obtain ⟨rfl, same⟩ := List.append_inj' split rfl
    obtain rfl := (List.cons.inj same).1
    have fewer : after ⊆ after ++ [order.offered ttl now key] := List.subset_append_left _ _
    rcases remembers.kept before first after rfl passed fun other member => unrepeated other (fewer member) with
      crowds | expired | ⟨newer, behind, within⟩
    · exact .inl (crowds.mono fewer)
    · exact .inr (.inl expired)
    · by_cases same : key = first.key
      · have repeated := unrepeated _ (List.mem_append_right _ List.mem_cons_self) same
        subst same
        rcases offer_cases remembers.valid ttl now first.key with ⟨entry, present, found, -, hit⟩ | ⟨kept, -, -, passes⟩
        · obtain rfl := Option.some.inj (found.symm.trans behind.lookup)
          rw [hit]
          exact .inr (.inr ⟨[], ⟨[], _, rfl, rfl⟩, List.nil_subset _⟩)
        · rw [offered, passes] at repeated
          cases repeated
      · have widened : key :: newer ⊆ (after ++ [order.offered ttl now key]).map Offer.key := by
          intro other member
          rw [List.map_append, List.mem_append]
          rcases List.mem_cons.mp member with rfl | inside
          · exact .inr List.mem_cons_self
          · exact .inl (within inside)
        rcases behind.offer remembers.valid (Ne.symm same) ttl now with ⟨nowNewer, still, fromNewer⟩ |
          ⟨limited, others, distinct, absent, fromNewer, enough⟩
        · exact .inr (.inr ⟨nowNewer, still, fun _ member => widened (fromNewer member)⟩)
        · exact .inl ⟨limited, others, distinct, absent, fun _ member => widened (fromNewer member), enough⟩

/-- Every entry is of an offer that passed. -/
theorem stored_offer (remembers : Remembers ttl order offers now) (key : Key) {other : Key} {entry : LruEntry Bool}
    (member : (other, entry) ∈ (order.offer ttl now key).2.entries) : entry.value = true ∧ entry.ttl = ttl ∧
      ∃ first ∈ offers ++ [order.offered ttl now key],
        first.passed = true ∧ first.key = other ∧ first.time = entry.start := by
  have old : (other, entry) ∈ order.entries → entry.value = true ∧ entry.ttl = ttl ∧
      ∃ first ∈ offers ++ [order.offered ttl now key],
        first.passed = true ∧ first.key = other ∧ first.time = entry.start := by
    intro held
    obtain ⟨value, lasting, first, offered, facts⟩ := remembers.stored other entry held
    exact ⟨value, lasting, first, List.mem_append_left _ offered, facts⟩
  rcases offer_cases remembers.valid ttl now key with ⟨held, present, found, -, hit⟩ | ⟨kept, left, -, passes⟩
  · rw [hit, renew_entries] at member
    rcases List.mem_cons.mp member with same | rest
    · cases same
      exact old (mem_of_lookup found)
    · exact old (mem_without.mp rest).1
  · rw [passes] at member
    by_cases same : other = key
    · subst same
      obtain rfl := Option.some.inj ((lookup_of_mem member).symm.trans (lookup_set kept now other true ttl))
      refine ⟨rfl, rfl, order.offered ttl now other, List.mem_append_right _ List.mem_cons_self, ?_, rfl, rfl⟩
      rw [offered, passes]
    · rcases mem_of_mem_set member with ⟨own, -⟩ | ⟨-, rest⟩
      · exact absurd own same
      · rcases left with rfl | rfl
        · exact old rest
        · exact old (mem_without.mp rest).1

/-- A key that does not pass did so within its time to live. -/
theorem answered_offer (remembers : Remembers ttl order offers now) {key : Key}
    (refused : (order.offered ttl now key).passed = false) :
    ∃ first ∈ offers, first.passed = true ∧ first.key = key ∧ ¬ Expired ttl first.time now := by
  rcases offer_cases remembers.valid ttl now key with ⟨entry, present, found, readable, hit⟩ | ⟨kept, -, -, passes⟩
  · obtain ⟨-, rfl, first, offered, passed, own, start⟩ := remembers.stored key entry (mem_of_lookup found)
    refine ⟨first, offered, passed, own, ?_⟩
    rw [start, ← LruEntry.isStale_iff, readable]
    exact Bool.false_ne_true
  · rw [offered, passes] at refused
    cases refused

/-- Between the last time that a key passed and the next one it was crowded out, or it expired. -/
theorem apart_offer_last (remembers : Remembers ttl order offers now) {key : Key}
    (passes : (order.offered ttl now key).passed = true) {before after : List (Offer Key)} {first : Offer Key}
    (split : offers = before ++ first :: after) (passed : first.passed = true) (own : first.key = key)
    (unrepeated : ∀ other ∈ after, other.key = first.key → other.passed = false) :
    Crowds max first.key after ∨ Expired ttl first.time now := by
  subst own
  rcases remembers.kept before first after split passed unrepeated with crowds | expired | ⟨newer, behind, -⟩
  · exact .inl crowds
  · exact .inr expired
  · rcases offer_cases remembers.valid ttl now first.key with ⟨entry, present, -, -, hit⟩ | ⟨kept, -, stale, -⟩
    · rw [offered, hit] at passes
      cases passes
    · exact .inr (LruEntry.isStale_iff.mp (stale _ behind.lookup))

/-- Between any two times that a key passed it was crowded out, or it expired. -/
theorem apart_offer (remembers : Remembers ttl order offers now) {key : Key}
    (passes : (order.offered ttl now key).passed = true) {before after : List (Offer Key)} {first : Offer Key}
    (split : offers = before ++ first :: after) (passed : first.passed = true) (own : first.key = key) :
    Crowds max first.key after ∨ Expired ttl first.time now := by
  rcases none_or_last (fun other : Offer Key => other.key = first.key ∧ other.passed = true) after with
    none | ⟨between, last, rest, rfl, ⟨same, alsoPassed⟩, none⟩
  · refine remembers.apart_offer_last passes split passed own ?_
    intro other member same
    exact Bool.eq_false_iff.mpr fun alsoPassed => none other member ⟨same, alsoPassed⟩
  · have laterSplit : offers = (before ++ first :: between) ++ last :: rest := by
      rw [split, List.append_assoc, List.cons_append]
    have unrepeated : ∀ other ∈ rest, other.key = last.key → other.passed = false := by
      intro other member sameLast
      exact Bool.eq_false_iff.mpr fun passed => none other member ⟨sameLast.trans same, passed⟩
    rcases remembers.apart_offer_last passes laterSplit alsoPassed (same.trans own) unrepeated with crowds | expired
    · rw [same] at crowds
      exact .inl (crowds.mono fun _ member => List.mem_append_right _ (List.mem_cons_of_mem _ member))
    · have sorted := remembers.sorted
      rw [split] at sorted
      have inOrder := (List.pairwise_append.mp sorted).2.1
      have ahead := List.rel_of_pairwise_cons inOrder (List.mem_append_right between List.mem_cons_self)
      exact .inr (expired.mono ahead (Nat.le_refl _))

/-- An offer keeps what is remembered, with the offer itself. -/
theorem offer (remembers : Remembers ttl order offers now) (key : Key) :
    Remembers ttl (order.offer ttl now key).2 (offers ++ [order.offered ttl now key]) now where
  sorted := by
    rw [List.pairwise_append]
    refine ⟨remembers.sorted, List.pairwise_singleton _ _, ?_⟩
    intro first member second isLast
    obtain rfl := List.mem_singleton.mp isLast
    exact remembers.past first member
  past := by
    intro offer member
    rcases List.mem_append.mp member with old | new
    · exact remembers.past offer old
    · obtain rfl := List.mem_singleton.mp new
      exact Nat.le_refl _
  stored := fun _ _ member => remembers.stored_offer key member
  kept := fun _ _ _ split passed unrepeated => remembers.kept_offer key split passed unrepeated
  answered := by
    intro before repeated after split refused
    cases after using List.reverseRecOn with
    | nil =>
      obtain ⟨rfl, same⟩ := List.append_inj' split rfl
      obtain rfl := (List.cons.inj same).1
      exact remembers.answered_offer refused
    | append_singleton after last =>
      rw [← List.cons_append, ← List.append_assoc] at split
      exact remembers.answered before repeated after (List.append_inj' split rfl).1 refused
  apart := by
    intro before first between second after split passed alsoPassed same
    cases after using List.reverseRecOn with
    | nil =>
      rw [← List.cons_append, ← List.append_assoc] at split
      obtain ⟨rfl, last⟩ := List.append_inj' split rfl
      obtain rfl := (List.cons.inj last).1
      exact remembers.apart_offer alsoPassed rfl passed same
    | append_singleton after last =>
      rw [← List.cons_append, ← List.append_assoc, ← List.cons_append, ← List.append_assoc] at split
      have within := (List.append_inj' split rfl).1
      rw [List.append_assoc, List.cons_append] at within
      exact remembers.apart before first between second after within passed alsoPassed same

end Remembers

end LruOrder

/-! ### The filter over any implementation of the cache -/

namespace LruCache

variable [DecidableEq Key] (lru : LruCache Key Bool max)

/-- A key that is found does not pass, another one is remembered. -/
def offer (ttl : Nat) (state : lru.State) (now : Nat) (key : Key) : Bool × lru.State :=
  match lru.get state now key with
  | (some true, kept) => (false, kept)
  | (_, kept) => (true, lru.set kept now key true ttl)

private theorem offer_follows (ttl : Nat) (state : lru.State) (now : Nat) (key : Key) :
    (lru.offer ttl state now key).1 = ((lru.order state).offer ttl now key).1 ∧
      lru.order (lru.offer ttl state now key).2 = ((lru.order state).offer ttl now key).2 := by
  have value := lru.get_value state now key
  have order := lru.order_get state now key
  unfold offer LruOrder.offer
  rcases answer : lru.get state now key with ⟨_ | _ | _, kept⟩ <;>
    rcases spec : (lru.order state).get now key with ⟨_ | _ | _, left⟩ <;>
    simp_all [lru.order_set]

/-- What an implementation remembers of the offers is what its order of use does. -/
theorem remembers_offer {state : lru.State} (remembers : (lru.order state).Remembers ttl offers now) (key : Key) :
    (lru.order (lru.offer ttl state now key).2).Remembers ttl
      (offers ++ [{ key, time := now, passed := (lru.offer ttl state now key).1 }]) now := by
  obtain ⟨passes, order⟩ := lru.offer_follows ttl state now key
  rw [passes, order]
  exact remembers.offer key

end LruCache

end HieroRelay.Lib
