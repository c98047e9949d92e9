import HieroRelay.Lib.Run
import Mathlib.Data.List.Nodup

/-! A bounded cache that evicts its least recently used entry, with a time to live
for each entry. `LruOrder` is what such a cache is for: its entries in order of use.
`LruCache` is any implementation whose operations follow it. -/

namespace HieroRelay.Lib

variable {Key Value : Type}

/-- A value, when it was stored and for how long; zero stands for an unlimited time. -/
structure LruEntry (Value : Type) where
  value : Value
  start : Nat
  ttl : Nat
  deriving Repr, DecidableEq

def LruEntry.isStale (entry : LruEntry Value) (now : Nat) : Bool :=
  entry.ttl != 0 && now - entry.start > entry.ttl

theorem LruEntry.isStale_unlimited {entry : LruEntry Value} (unlimited : entry.ttl = 0) (now : Nat) :
    entry.isStale now = false := by
  simp [isStale, unlimited]

/-- The entries from the most to the least recently used: one for each key, and at
most `max` of them unless `max` is zero. -/
structure LruOrder (Key Value : Type) (max : Nat) where
  entries : List (Key × LruEntry Value)
  nodup : (entries.map Prod.fst).Nodup
  bounded : max ≠ 0 → entries.length ≤ max

namespace LruOrder

variable [DecidableEq Key] {max : Nat}

/-- The entries of the other keys. -/
def without (key : Key) (entries : List (Key × LruEntry Value)) : List (Key × LruEntry Value) :=
  entries.filter fun entry => entry.1 != key

theorem keys_without (key : Key) (entries : List (Key × LruEntry Value)) :
    (without key entries).map Prod.fst = (entries.map Prod.fst).filter (· != key) := by
  simp [without, List.filter_map, Function.comp_def]

theorem not_mem_keys_without (key : Key) (entries : List (Key × LruEntry Value)) :
    key ∉ (without key entries).map Prod.fst := by
  simp [keys_without]

theorem nodup_without {key : Key} {entries : List (Key × LruEntry Value)}
    (nodup : (entries.map Prod.fst).Nodup) : ((without key entries).map Prod.fst).Nodup := by
  rw [keys_without]
  exact nodup.filter _

theorem lookup_isSome_iff (key : Key) (entries : List (Key × LruEntry Value)) :
    (entries.lookup key).isSome = true ↔ key ∈ entries.map Prod.fst := by
  induction entries with
  | nil => simp
  | cons entry rest ih =>
    rcases entry with ⟨other, value⟩
    by_cases same : key = other
    · simp [same]
    · have different : (key == other) = false := by simpa using same
      simp [List.lookup_cons, different, same, ih]

private theorem length_without_lt {key : Key} {entries : List (Key × LruEntry Value)}
    (present : key ∈ entries.map Prod.fst) : (without key entries).length < entries.length := by
  obtain ⟨entry, member, rfl⟩ := List.mem_map.mp present
  exact List.length_filter_lt_length_iff_exists.mpr ⟨entry, member, by simp⟩

def empty : LruOrder Key Value max where
  entries := []
  nodup := List.nodup_nil
  bounded := fun _ => Nat.zero_le _

/-- Put an entry in front of the others, in place of an earlier one of its key. -/
def renew (order : LruOrder Key Value max) (key : Key) (entry : LruEntry Value)
    (present : key ∈ order.entries.map Prod.fst) : LruOrder Key Value max where
  entries := (key, entry) :: without key order.entries
  nodup := List.nodup_cons.mpr ⟨not_mem_keys_without key _, nodup_without order.nodup⟩
  bounded := fun limited => Nat.le_trans (length_without_lt present) (order.bounded limited)

def delete (order : LruOrder Key Value max) (key : Key) : LruOrder Key Value max where
  entries := without key order.entries
  nodup := nodup_without order.nodup
  bounded := fun limited => Nat.le_trans (List.length_filter_le _ _) (order.bounded limited)

@[simp] theorem renew_entries (order : LruOrder Key Value max) (key : Key) (entry : LruEntry Value)
    (present : key ∈ order.entries.map Prod.fst) :
    (order.renew key entry present).entries = (key, entry) :: without key order.entries := rfl

@[simp] theorem delete_entries (order : LruOrder Key Value max) (key : Key) :
    (order.delete key).entries = without key order.entries := rfl

/-- A hit makes its entry the most recently used one; a stale entry is dropped. -/
def get (order : LruOrder Key Value max) (now : Nat) (key : Key) : Option Value × LruOrder Key Value max :=
  match found : order.entries.lookup key with
  | none => (none, order)
  | some entry =>
      if entry.isStale now then (none, order.delete key)
      else (some entry.value,
        order.renew key entry ((lookup_isSome_iff key _).mp (by rw [found]; rfl)))

/-- A new key takes the place of the least recently used entry when the cache is full. -/
def set (order : LruOrder Key Value max) (now : Nat) (key : Key) (value : Value) (ttl : Nat) :
    LruOrder Key Value max :=
  if present : key ∈ order.entries.map Prod.fst then
    order.renew key { value, start := now, ttl } present
  else if full : max ≠ 0 ∧ order.entries.length = max then
    { entries := (key, { value, start := now, ttl }) :: order.entries.dropLast
      nodup := by
        rw [List.map_cons, List.nodup_cons]
        refine ⟨fun member => present ?_, ?_⟩
        · exact ((List.dropLast_sublist _).map Prod.fst).subset member
        · exact order.nodup.sublist ((List.dropLast_sublist _).map Prod.fst)
      bounded := fun _ => by
        simp only [List.length_cons, List.length_dropLast]
        omega }
  else
    { entries := (key, { value, start := now, ttl }) :: order.entries
      nodup := List.nodup_cons.mpr ⟨present, order.nodup⟩
      bounded := fun limited => by
        have fits := order.bounded limited
        simp only [List.length_cons]
        omega }

theorem mem_without {key other : Key} {entry : LruEntry Value} {entries : List (Key × LruEntry Value)} :
    (other, entry) ∈ without key entries ↔ (other, entry) ∈ entries ∧ other ≠ key := by
  simp [without]

theorem mem_of_lookup {key : Key} {entry : LruEntry Value} {entries : List (Key × LruEntry Value)}
    (found : entries.lookup key = some entry) : (key, entry) ∈ entries := by
  obtain ⟨front, back, rfl, _⟩ := List.lookup_eq_some_iff.mp found
  exact List.mem_append_right _ List.mem_cons_self

/-- A value that is found belongs to an entry of its key. -/
theorem mem_of_get {order : LruOrder Key Value max} {now : Nat} {key : Key} {value : Value}
    (found : (order.get now key).1 = some value) : ∃ entry, (key, entry) ∈ order.entries ∧ entry.value = value := by
  unfold LruOrder.get at found
  split at found
  · cases found
  · rename_i entry present
    split at found
    · cases found
    · exact ⟨entry, mem_of_lookup present, Option.some.inj found⟩

/-- A lookup adds no entry. -/
theorem mem_of_mem_get {order : LruOrder Key Value max} {now : Nat} {key other : Key} {entry : LruEntry Value}
    (member : (other, entry) ∈ (order.get now key).2.entries) : (other, entry) ∈ order.entries := by
  unfold LruOrder.get at member
  split at member
  · exact member
  · rename_i held present
    split at member
    · exact (mem_without.mp member).1
    · rcases List.mem_cons.mp member with same | kept
      · cases same
        exact mem_of_lookup present
      · exact (mem_without.mp kept).1

/-- After a value is stored, its key has no other one. -/
theorem mem_of_mem_set {order : LruOrder Key Value max} {now ttl : Nat} {key other : Key} {value : Value}
    {entry : LruEntry Value} (member : (other, entry) ∈ (order.set now key value ttl).entries) :
    (other = key ∧ entry.value = value) ∨ (other ≠ key ∧ (other, entry) ∈ order.entries) := by
  unfold LruOrder.set at member
  split at member
  · rcases List.mem_cons.mp member with same | kept
    · cases same
      exact .inl ⟨rfl, rfl⟩
    · exact .inr (mem_without.mp kept).symm
  · rename_i absent
    have apart : ∀ {held : LruEntry Value}, (other, held) ∈ order.entries → other ≠ key := by
      rintro held present rfl
      exact absent (List.mem_map.mpr ⟨_, present, rfl⟩)
    split at member
    · rcases List.mem_cons.mp member with same | kept
      · cases same
        exact .inl ⟨rfl, rfl⟩
      · have present := (List.dropLast_subset _ kept)
        exact .inr ⟨apart present, present⟩
    · rcases List.mem_cons.mp member with same | present
      · cases same
        exact .inl ⟨rfl, rfl⟩
      · exact .inr ⟨apart present, present⟩

end LruOrder

/-- An implementation of the cache, read as the order of use of its entries. -/
structure LruCache (Key Value : Type) [DecidableEq Key] (max : Nat) where
  State : Type
  order : State → LruOrder Key Value max
  empty : State
  get : State → (now : Nat) → Key → Option Value × State
  set : State → (now : Nat) → Key → Value → (ttl : Nat) → State
  delete : State → Key → State
  order_empty : order empty = .empty
  get_value : ∀ state now key, (get state now key).1 = ((order state).get now key).1
  order_get : ∀ state now key, order (get state now key).2 = ((order state).get now key).2
  order_set : ∀ state now key value ttl, order (set state now key value ttl) = (order state).set now key value ttl
  order_delete : ∀ state key, order (delete state key) = (order state).delete key

/-- The order of use is an implementation of itself. -/
def LruCache.ofOrder (Key Value : Type) [DecidableEq Key] (max : Nat) : LruCache Key Value max where
  State := LruOrder Key Value max
  order := id
  empty := .empty
  get := LruOrder.get
  set := LruOrder.set
  delete := LruOrder.delete
  order_empty := rfl
  get_value := fun _ _ _ => rfl
  order_get := fun _ _ _ => rfl
  order_set := fun _ _ _ _ _ => rfl
  order_delete := fun _ _ => rfl

/-! ### The keys in front of a key -/

/-- One use of the cache; of a lookup it tells whether the key was found. -/
inductive LruUse (Key Value : Type) where
  | set (now : Nat) (key : Key) (value : Value) (ttl : Nat)
  | get (now : Nat) (key : Key) (found : Bool)
  | delete (key : Key)
  deriving Repr

def LruUse.key : LruUse Key Value → Key
  | .set _ key _ _ => key
  | .get _ key _ => key
  | .delete key => key

namespace LruOrder

variable [DecidableEq Key] {max : Nat}

def use (order : LruOrder Key Value max) : LruUse Key Value → Option (LruOrder Key Value max)
  | .set now key value ttl => some (order.set now key value ttl)
  | .get now key found =>
      if (order.get now key).1.isSome = found then some (order.get now key).2 else none
  | .delete key => some (order.delete key)

/-- What a use does to the keys that have been used more recently than a given one. -/
def newerAfter (newer : List Key) : LruUse Key Value → List Key
  | .set _ key _ _ => key :: newer.filter (· != key)
  | .get _ key true => key :: newer.filter (· != key)
  | .get _ key false => newer.filter (· != key)
  | .delete key => newer.filter (· != key)

/-- The keys used more recently than a key that was itself used just before. -/
def newerKeys (uses : List (LruUse Key Value)) : List Key :=
  uses.foldl newerAfter []

/-- At some moment as many keys as fit into the cache were the more recent ones. -/
def Crowded (max : Nat) (uses : List (LruUse Key Value)) : Prop :=
  ∃ earlier, earlier <+: uses ∧ max ≠ 0 ∧ max ≤ (newerKeys earlier).length

/-- The entry is there, behind exactly the given keys. -/
def Behind (order : LruOrder Key Value max) (key : Key) (entry : LruEntry Value) (newer : List Key) : Prop :=
  ∃ front back, order.entries = front ++ (key, entry) :: back ∧ front.map Prod.fst = newer

omit [DecidableEq Key] in
theorem Behind.length_lt {order : LruOrder Key Value max} {key : Key} {entry : LruEntry Value}
    {newer : List Key} (behind : order.Behind key entry newer) (limited : max ≠ 0) : newer.length < max := by
  obtain ⟨front, back, entries, rfl⟩ := behind
  have fits := order.bounded limited
  simp only [entries, List.length_append, List.length_cons] at fits
  simp only [List.length_map]
  omega

theorem without_append {key other : Key} {entry : LruEntry Value} {front back : List (Key × LruEntry Value)}
    (different : key ≠ other) :
    without other (front ++ (key, entry) :: back) =
      without other front ++ (key, entry) :: without other back := by
  simp [without, different]

theorem Behind.delete {order : LruOrder Key Value max} {key other : Key} {entry : LruEntry Value}
    {newer : List Key} (behind : order.Behind key entry newer) (different : key ≠ other) :
    (order.delete other).Behind key entry (newer.filter (· != other)) := by
  obtain ⟨front, back, entries, rfl⟩ := behind
  refine ⟨without other front, without other back, ?_, keys_without other front⟩
  rw [delete_entries, entries, without_append different]

theorem Behind.renew {order : LruOrder Key Value max} {key other : Key} {entry stored : LruEntry Value}
    {newer : List Key} (behind : order.Behind key entry newer) (different : key ≠ other)
    (present : other ∈ order.entries.map Prod.fst) :
    (order.renew other stored present).Behind key entry (other :: newer.filter (· != other)) := by
  obtain ⟨front, back, entries, rfl⟩ := behind
  refine ⟨(other, stored) :: without other front, without other back, ?_, ?_⟩
  · rw [renew_entries, entries, without_append different, List.cons_append]
  · rw [List.map_cons, keys_without]

/-- Keys that are not in the cache are not in front of anything. -/
theorem Behind.filter_absent {order : LruOrder Key Value max} {key other : Key} {entry : LruEntry Value}
    {newer : List Key} (behind : order.Behind key entry newer)
    (absent : other ∉ order.entries.map Prod.fst) : newer.filter (· != other) = newer := by
  obtain ⟨front, back, entries, rfl⟩ := behind
  refine List.filter_eq_self.mpr fun newKey member => ?_
  have different : newKey ≠ other := by
    intro same
    refine absent ?_
    rw [entries, List.map_append, List.mem_append]
    exact Or.inl (same ▸ member)
  simpa using different

/-- Storing another key keeps the entry, one place further back, unless the cache was
full and the entry was the last one. -/
theorem Behind.set {order : LruOrder Key Value max} {key other : Key} {entry : LruEntry Value}
    {newer : List Key} (behind : order.Behind key entry newer) (different : key ≠ other)
    (now : Nat) (value : Value) (ttl : Nat) :
    (order.set now other value ttl).Behind key entry (other :: newer.filter (· != other)) ∨
      (key ∉ (order.set now other value ttl).entries.map Prod.fst ∧ max ≠ 0 ∧
        max ≤ (other :: newer.filter (· != other)).length) := by
  unfold LruOrder.set
  split
  · rename_i present
    exact Or.inl (behind.renew different present)
  · rename_i absent
    rw [behind.filter_absent absent]
    obtain ⟨front, back, entries, rfl⟩ := behind
    split
    · rename_i full
      cases back using List.reverseRecOn with
      | nil =>
        have unique := order.nodup
        simp only [entries, List.map_append, List.map_cons, List.map_nil] at unique
        have notInFront : key ∉ front.map Prod.fst := fun member =>
          (List.disjoint_of_nodup_append unique) member (List.mem_singleton_self key)
        refine Or.inr ⟨?_, full.1, ?_⟩
        · simp only [entries, List.dropLast_concat, List.map_cons, List.mem_cons, not_or]
          exact ⟨different, notInFront⟩
        · have size := full.2
          simp only [entries, List.length_append, List.length_cons, List.length_nil] at size
          simp only [List.length_cons, List.length_map]
          omega
      | append_singleton back last =>
        refine Or.inl ⟨(other, { value, start := now, ttl }) :: front, back, ?_, rfl⟩
        have same : order.entries.dropLast = front ++ (key, entry) :: back := by
          rw [entries, ← List.cons_append, ← List.append_assoc, List.dropLast_concat]
        simp [same]
    · exact Or.inl ⟨(other, { value, start := now, ttl }) :: front, back, by simp [entries], rfl⟩

theorem lookup_of_entries {order : LruOrder Key Value max} {key : Key} {entry : LruEntry Value}
    {front back : List (Key × LruEntry Value)} (entries : order.entries = front ++ (key, entry) :: back) :
    order.entries.lookup key = some entry := by
  have unique := order.nodup
  simp only [entries, List.map_append, List.map_cons] at unique
  have notInFront : key ∉ front.map Prod.fst := fun member =>
    (List.disjoint_of_nodup_append unique) member (List.mem_cons_self ..)
  have missing : front.lookup key = none := by
    cases found : front.lookup key with
    | none => rfl
    | some other => exact absurd ((lookup_isSome_iff key front).mp (by rw [found]; rfl)) notInFront
  rw [entries, List.lookup_append, missing]
  simp

/-- A readable entry is found, and stays as it is. -/
theorem get_of_lookup {order : LruOrder Key Value max} {now : Nat} {key : Key} {entry : LruEntry Value}
    (found : order.entries.lookup key = some entry) (readable : entry.isStale now = false) :
    (order.get now key).1 = some entry.value ∧ (order.get now key).2.entries.lookup key = some entry := by
  unfold LruOrder.get
  split
  · rename_i missing
    rw [found] at missing
    cases missing
  · rename_i stored same
    obtain rfl : entry = stored := Option.some.inj (found.symm.trans same)
    rw [if_neg (by simp [readable])]
    exact ⟨rfl, by simp⟩

theorem lookup_set (order : LruOrder Key Value max) (now : Nat) (key : Key) (value : Value) (ttl : Nat) :
    (order.set now key value ttl).entries.lookup key = some { value, start := now, ttl } := by
  unfold LruOrder.set
  split
  · simp
  · split <;> simp

/-- A lookup misses, drops a stale entry or hits. -/
theorem get_cases (order : LruOrder Key Value max) (now : Nat) (key : Key) :
    (key ∉ order.entries.map Prod.fst ∧ order.get now key = (none, order)) ∨
      order.get now key = (none, order.delete key) ∨
      ∃ entry present, order.get now key = (some entry.value, order.renew key entry present) := by
  unfold LruOrder.get
  split
  · rename_i missing
    refine Or.inl ⟨?_, rfl⟩
    rw [← lookup_isSome_iff, missing]
    simp
  · rename_i entry found
    split
    · exact Or.inr (Or.inl rfl)
    · exact Or.inr (Or.inr ⟨entry, (lookup_isSome_iff key _).mp (by rw [found]; rfl), rfl⟩)

private theorem get_of_absent {order : LruOrder Key Value max} {key : Key}
    (absent : key ∉ order.entries.map Prod.fst) (now : Nat) : (order.get now key).1 = none := by
  rcases order.get_cases now key with ⟨-, missed⟩ | dropped | ⟨entry, present, -⟩
  · rw [missed]
  · rw [dropped]
  · exact absurd present absent

/-- The entry behind any keys is still returned, unless its time is over. -/
theorem Behind.get_value {order : LruOrder Key Value max} {key : Key} {entry : LruEntry Value}
    {newer : List Key} (behind : order.Behind key entry newer) (unlimited : entry.ttl = 0) (now : Nat) :
    (order.get now key).1 = some entry.value := by
  obtain ⟨front, back, entries, -⟩ := behind
  have here := lookup_of_entries entries
  unfold LruOrder.get
  split
  · rename_i missing
    rw [here] at missing
    cases missing
  · rename_i stored found
    obtain rfl : entry = stored := Option.some.inj (here.symm.trans found)
    simp [LruEntry.isStale_unlimited unlimited now]

/-- One use of another key. -/
theorem Behind.use {order next : LruOrder Key Value max} {key : Key} {entry : LruEntry Value}
    {newer : List Key} {step : LruUse Key Value} (behind : order.Behind key entry newer)
    (different : key ≠ step.key) (taken : order.use step = some next) :
    next.Behind key entry (newerAfter newer step) ∨
      (key ∉ next.entries.map Prod.fst ∧ max ≠ 0 ∧ max ≤ (newerAfter newer step).length) := by
  cases step with
  | set now other value ttl =>
    cases taken
    exact behind.set different now value ttl
  | delete other =>
    cases taken
    exact Or.inl (behind.delete different)
  | get now other found =>
    refine Or.inl ?_
    simp only [LruOrder.use, Option.ite_none_right_eq_some, Option.some.injEq] at taken
    obtain ⟨same, rfl⟩ := taken
    rcases order.get_cases now other with ⟨absent, missed⟩ | dropped | ⟨stored, present, hit⟩
    · obtain rfl : found = false := by simpa [missed] using same.symm
      rw [missed, newerAfter, behind.filter_absent absent]
      exact behind
    · obtain rfl : found = false := by simpa [dropped] using same.symm
      rw [dropped]
      exact behind.delete different
    · obtain rfl : found = true := by simpa [hit] using same.symm
      rw [hit]
      exact behind.renew different present

/-- A key that is gone does not come back by uses of other keys. -/
theorem absent_use {order next : LruOrder Key Value max} {key : Key} {step : LruUse Key Value}
    (absent : key ∉ order.entries.map Prod.fst) (different : key ≠ step.key)
    (taken : order.use step = some next) : key ∉ next.entries.map Prod.fst := by
  have stays : ∀ entries : List (Key × LruEntry Value), entries.map Prod.fst ⊆ order.entries.map Prod.fst →
      key ∉ entries.map Prod.fst := fun entries included member => absent (included member)
  have without : ∀ other, key ∉ (without other order.entries).map Prod.fst := by
    intro other
    refine stays _ ?_
    rw [keys_without]
    exact List.filter_sublist.subset
  cases step with
  | set now other value ttl =>
    cases taken
    unfold LruOrder.set
    split
    · simp only [renew_entries, List.map_cons, List.mem_cons, not_or]
      exact ⟨different, without other⟩
    · split
      · simp only [List.map_cons, List.mem_cons, not_or]
        exact ⟨different, stays _ ((List.dropLast_sublist _).map Prod.fst).subset⟩
      · simp only [List.map_cons, List.mem_cons, not_or]
        exact ⟨different, absent⟩
  | delete other =>
    cases taken
    exact without other
  | get now other found =>
    simp only [LruOrder.use, Option.ite_none_right_eq_some, Option.some.injEq] at taken
    obtain ⟨-, rfl⟩ := taken
    rcases order.get_cases now other with ⟨-, missed⟩ | dropped | ⟨stored, present, hit⟩
    · rw [missed]
      exact absent
    · rw [dropped]
      exact without other
    · rw [hit, renew_entries, List.map_cons, List.mem_cons, not_or]
      exact ⟨different, without other⟩

private theorem crowded_snoc (max : Nat) (uses : List (LruUse Key Value)) (step : LruUse Key Value) :
    Crowded max (uses ++ [step]) ↔
      Crowded max uses ∨ (max ≠ 0 ∧ max ≤ (newerAfter (newerKeys uses) step).length) := by
  have last : newerKeys (uses ++ [step]) = newerAfter (newerKeys uses) step := by
    simp [newerKeys, List.foldl_append]
  constructor
  · rintro ⟨earlier, inside, crowded⟩
    rcases List.prefix_concat_iff.mp inside with rfl | inside
    · exact Or.inr (last ▸ crowded)
    · exact Or.inl ⟨earlier, inside, crowded⟩
  · rintro (⟨earlier, inside, crowded⟩ | crowded)
    · exact ⟨earlier, inside.trans (List.prefix_append ..), crowded⟩
    · exact ⟨uses ++ [step], List.prefix_refl _, last ▸ crowded⟩

/-- From a state with the entry in front, along uses of other keys: the entry is
still there as long as it was never crowded out, and gone for good afterwards. -/
theorem behind_or_crowded {order final : LruOrder Key Value max} {key : Key} {entry : LruEntry Value}
    (stored : order.Behind key entry []) {uses : List (LruUse Key Value)}
    (others : ∀ step ∈ uses, key ≠ step.key) (reached : run LruOrder.use order uses = some final) :
    (final.Behind key entry (newerKeys uses) ∧ ¬ Crowded max uses) ∨
      (key ∉ final.entries.map Prod.fst ∧ Crowded max uses) := by
  refine run_trace_induction (motive := fun uses final => (∀ step ∈ uses, key ≠ step.key) →
    (final.Behind key entry (newerKeys uses) ∧ ¬ Crowded max uses) ∨
      (key ∉ final.entries.map Prod.fst ∧ Crowded max uses)) ?_ ?_ reached others
  · intro _
    refine Or.inl ⟨stored, ?_⟩
    rintro ⟨earlier, inside, limited, crowded⟩
    obtain rfl := List.prefix_nil.mp inside
    exact limited (Nat.le_zero.mp crowded)
  · intro uses before step after _ held taken others
    have different : key ≠ step.key := others step (by simp)
    have last : newerKeys (uses ++ [step]) = newerAfter (newerKeys uses) step := by
      simp [newerKeys, List.foldl_append]
    rw [crowded_snoc, last]
    rcases held fun earlier member => others earlier (by simp [member]) with
      ⟨behind, free⟩ | ⟨absent, crowded⟩
    · rcases behind.use different taken with behind | ⟨absent, crowded⟩
      · refine Or.inl ⟨behind, ?_⟩
        rintro (crowded | ⟨limited, crowded⟩)
        · exact free crowded
        · have fits := behind.length_lt limited
          omega
      · exact Or.inr ⟨absent, Or.inr crowded⟩
    · exact Or.inr ⟨absent_use absent different taken, Or.inl crowded⟩

/-- An entry without time limit is returned after uses of other keys exactly when
these never filled the cache with more recent keys. -/
theorem get_value_iff_not_crowded {order final : LruOrder Key Value max} {key : Key}
    {entry : LruEntry Value} (stored : order.Behind key entry []) (unlimited : entry.ttl = 0)
    {uses : List (LruUse Key Value)} (others : ∀ step ∈ uses, key ≠ step.key)
    (reached : run LruOrder.use order uses = some final) (now : Nat) :
    (final.get now key).1 = some entry.value ↔ ¬ Crowded max uses := by
  rcases behind_or_crowded stored others reached with ⟨behind, free⟩ | ⟨absent, crowded⟩
  · simp [behind.get_value unlimited, free]
  · simp [get_of_absent absent, crowded]

/-- Storing a key puts its entry in front. -/
theorem set_behind (order : LruOrder Key Value max) (now : Nat) (key : Key) (value : Value) (ttl : Nat) :
    (order.set now key value ttl).Behind key { value, start := now, ttl } [] := by
  unfold LruOrder.set
  split
  · exact ⟨[], _, rfl, rfl⟩
  · split
    · exact ⟨[], _, rfl, rfl⟩
    · exact ⟨[], _, rfl, rfl⟩

end LruOrder

end HieroRelay.Lib
