import Mathlib.Algebra.GroupWithZero.Nat
import Mathlib.Data.List.Nodup

/-! Tables that keep their keys in the order of insertion, with one entry for each key. -/

namespace HieroRelay.Lib

structure Table (Key Value : Type) where
  entries : List (Key × Value)
  distinct : (entries.map Prod.fst).Nodup

namespace Table

variable {Key Value : Type} [DecidableEq Key]

theorem lookup_cons_eq_ite (key first : Key) (held : Value) (rest : List (Key × Value)) :
    ((first, held) :: rest).lookup key = if key = first then some held else rest.lookup key := by
  by_cases same : key = first
  · rw [if_pos same, same]
    exact List.lookup_cons_self
  · rw [if_neg same, List.lookup_cons, beq_false_of_ne same]

/-- An entry is replaced in its place, or comes last. -/
def assignEntry (key : Key) (value : Value) : List (Key × Value) → List (Key × Value)
  | [] => [(key, value)]
  | (other, held) :: rest =>
      if other = key then (key, value) :: rest else (other, held) :: assignEntry key value rest

theorem mem_keys_assignEntry {key other : Key} {value : Value} {entries : List (Key × Value)} :
    other ∈ (assignEntry key value entries).map Prod.fst ↔ other = key ∨ other ∈ entries.map Prod.fst := by
  induction entries with
  | nil => simp [assignEntry]
  | cons entry rest ih =>
      obtain ⟨first, held⟩ := entry
      by_cases same : first = key
      · subst same
        simp [assignEntry]
      · rw [assignEntry, if_neg same, List.map_cons, List.mem_cons, ih, List.map_cons, List.mem_cons]
        exact or_left_comm

private theorem nodup_assignEntry {entries : List (Key × Value)} (distinct : (entries.map Prod.fst).Nodup) (key : Key)
    (value : Value) : ((assignEntry key value entries).map Prod.fst).Nodup := by
  induction entries with
  | nil => simp [assignEntry]
  | cons entry rest ih =>
      obtain ⟨first, held⟩ := entry
      rw [List.map_cons, List.nodup_cons] at distinct
      by_cases same : first = key
      · subst same
        simpa [assignEntry] using distinct
      · rw [assignEntry, if_neg same, List.map_cons, List.nodup_cons, mem_keys_assignEntry]
        exact ⟨fun either => either.elim same distinct.1, ih distinct.2⟩

def empty : Table Key Value := { entries := [], distinct := List.nodup_nil }

def get (table : Table Key Value) (key : Key) : Option Value := table.entries.lookup key

def assign (table : Table Key Value) (key : Key) (value : Value) : Table Key Value where
  entries := assignEntry key value table.entries
  distinct := nodup_assignEntry table.distinct key value

def erase (table : Table Key Value) (key : Key) : Table Key Value where
  entries := table.entries.filter fun entry => entry.1 ≠ key
  distinct := table.distinct.sublist (List.filter_sublist.map Prod.fst)

@[simp] theorem get_empty (key : Key) : (empty : Table Key Value).get key = none := rfl

private theorem lookup_assignEntry (key other : Key) (value : Value) (entries : List (Key × Value)) :
    (assignEntry key value entries).lookup other = if other = key then some value else entries.lookup other := by
  induction entries with
  | nil => rw [assignEntry, lookup_cons_eq_ite]
  | cons entry rest ih =>
      obtain ⟨first, held⟩ := entry
      by_cases same : first = key
      · subst same
        rw [assignEntry, if_pos rfl, lookup_cons_eq_ite, lookup_cons_eq_ite]
        by_cases asked : other = first
        · rw [if_pos asked, if_pos asked]
        · rw [if_neg asked, if_neg asked, if_neg asked]
      · rw [assignEntry, if_neg same, lookup_cons_eq_ite, lookup_cons_eq_ite, ih]
        by_cases asked : other = first
        · subst asked
          rw [if_pos rfl, if_neg same, if_pos rfl]
        · rw [if_neg asked, if_neg asked]

@[simp] theorem get_assign (table : Table Key Value) (key other : Key) (value : Value) :
    (table.assign key value).get other = if other = key then some value else table.get other :=
  lookup_assignEntry key other value table.entries

/-- The keys after a number of assignments. -/
theorem isSome_get_foldl_assign {Element : Type} (keyOf : Element → Key) (valueOf : Element → Value)
    (elements : List Element) (table : Table Key Value) (key : Key) :
    ((elements.foldl (fun held element => held.assign (keyOf element) (valueOf element)) table).get key).isSome = true ↔
      (table.get key).isSome = true ∨ ∃ element ∈ elements, keyOf element = key := by
  induction elements generalizing table with
  | nil => simp
  | cons element rest ih =>
      rw [List.foldl_cons, ih, get_assign, List.exists_mem_cons_iff, ← or_assoc]
      by_cases same : key = keyOf element
      · simp [same]
      · simp [same, Ne.symm same]

theorem mem_entries_iff {table : Table Key Value} {key : Key} {value : Value} :
    (key, value) ∈ table.entries ↔ table.get key = some value := by
  obtain ⟨entries, distinct⟩ := table
  induction entries with
  | nil => simp [get]
  | cons entry rest ih =>
      obtain ⟨first, held⟩ := entry
      rw [List.map_cons, List.nodup_cons] at distinct
      have inRest : (key, value) ∈ rest ↔ rest.lookup key = some value := ih distinct.2
      rw [List.mem_cons, inRest, get, lookup_cons_eq_ite]
      by_cases same : key = first
      · subst same
        have absent : rest.lookup key ≠ some value := by
          intro found
          exact distinct.1 (List.mem_map.mpr ⟨_, inRest.mpr found, rfl⟩)
        rw [if_pos rfl]
        simp [absent, eq_comm]
      · rw [if_neg same]
        simp [same]

@[simp] theorem get_erase (table : Table Key Value) (key other : Key) :
    (table.erase key).get other = if other = key then none else table.get other := by
  apply Option.ext
  intro value
  rw [← mem_entries_iff, erase, List.mem_filter, mem_entries_iff]
  by_cases same : other = key <;> simp [same]

theorem mem_keys_iff {table : Table Key Value} {key : Key} :
    key ∈ table.entries.map Prod.fst ↔ (table.get key).isSome := by
  rw [Option.isSome_iff_exists, List.mem_map]
  constructor
  · rintro ⟨⟨_, value⟩, member, rfl⟩
    exact ⟨value, mem_entries_iff.mp member⟩
  · rintro ⟨value, found⟩
    exact ⟨(key, value), mem_entries_iff.mpr found, rfl⟩

/-- Every value is changed in its place. -/
def mapValues (change : Value → Value) (table : Table Key Value) : Table Key Value where
  entries := table.entries.map fun entry => (entry.1, change entry.2)
  distinct := by
    rw [List.map_map]
    exact table.distinct

@[simp] theorem get_mapValues (change : Value → Value) (table : Table Key Value) (key : Key) :
    (table.mapValues change).get key = (table.get key).map change := by
  obtain ⟨entries, distinct⟩ := table
  simp only [get, mapValues]
  clear distinct
  induction entries with
  | nil => rfl
  | cons entry rest ih =>
      obtain ⟨first, held⟩ := entry
      rw [List.map_cons, lookup_cons_eq_ite, lookup_cons_eq_ite, ih]
      split_ifs <;> rfl

section Total
variable (weight : Value → Nat)

/-- The sum of the weights of all values. -/
def total (table : Table Key Value) : Nat := (table.entries.map fun entry => weight entry.2).sum

def weightAt (table : Table Key Value) (key : Key) : Nat := ((table.get key).map weight).getD 0

theorem total_assign (table : Table Key Value) (key : Key) (value : Value) :
    (table.assign key value).total weight + table.weightAt weight key = table.total weight + weight value := by
  obtain ⟨entries, distinct⟩ := table
  simp only [total, weightAt, get, assign]
  clear distinct
  induction entries with
  | nil => simp [assignEntry]
  | cons entry rest ih =>
      obtain ⟨first, held⟩ := entry
      rw [lookup_cons_eq_ite, assignEntry]
      by_cases same : first = key
      · subst same
        simp [Nat.add_comm, Nat.add_left_comm]
      · rw [if_neg same, if_neg (Ne.symm same), List.map_cons, List.sum_cons, List.map_cons, List.sum_cons]
        omega

theorem total_erase (table : Table Key Value) (key : Key) :
    (table.erase key).total weight + table.weightAt weight key = table.total weight := by
  obtain ⟨entries, distinct⟩ := table
  simp only [total, weightAt, get, erase]
  induction entries with
  | nil => rfl
  | cons entry rest ih =>
      obtain ⟨first, held⟩ := entry
      rw [List.map_cons, List.nodup_cons] at distinct
      rw [lookup_cons_eq_ite, List.map_cons, List.sum_cons]
      by_cases same : first = key
      · subst same
        have kept : (rest.filter fun entry => entry.1 ≠ first) = rest := by
          apply List.filter_eq_self.mpr
          intro entry member
          have different : entry.1 ≠ first := fun same => distinct.1 (List.mem_map.mpr ⟨entry, member, same⟩)
          exact decide_eq_true different
        rw [List.filter_cons_of_neg (by simp), kept]
        simp [Nat.add_comm]
      · rw [List.filter_cons_of_pos (by simpa using same), if_neg (Ne.symm same), List.map_cons, List.sum_cons]
        have ih := ih distinct.2
        omega

end Total

end Table

end HieroRelay.Lib
