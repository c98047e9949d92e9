import HieroRelay.Cache.CacheService
import HieroRelay.Js.Value

/-! The range of a list, in the internal cache and in Redis: an index below zero is counted from the
end of the list, and the last one, which is also counted so here, may be counted once more. -/

namespace HieroRelay.Cache

open HieroRelay.Js
open HieroRelay.Lib

section Ranges

variable {Element : Type} (items : List Element) (start stop : Int)

/-- An index below zero is counted from the end. -/
def fromEnd (length : Nat) (index : Int) : Int := if index < 0 then length + index else index

/-- `items.slice(start, stop)` -/
def slice : List Element :=
  let first := min (fromEnd items.length start).toNat items.length
  let last := min (fromEnd items.length stop).toNat items.length
  (items.drop first).take (last - first)

/-- The range of the internal cache. -/
def localRange : List Element :=
  let stop := if stop < 0 then items.length + stop else stop
  slice items start (stop + 1)

/-- `LRANGE key start stop` -/
def lrange : List Element :=
  let first := max (fromEnd items.length start) 0
  let last := fromEnd items.length stop
  if first > last ∨ first ≥ items.length then []
  else (items.drop first.toNat).take (min last (items.length - 1) - first + 1).toNat

example : lrange ["a", "b", "c"] (-2) 5 = ["b", "c"] := by decide

/-- Of a list of the length the range does not end further in front than the list is long, or it still
begins behind the end that is counted once more. -/
def CountedOnce (length : Nat) (start stop : Int) : Prop :=
  -(length + 1 : Int) ≤ stop ∨ 2 * length + stop + 1 ≤ max (fromEnd length start) 0

variable {items start stop}

theorem take_drop_eq_nil_iff {first last : Nat} :
    (items.drop first).take (last - first) = [] ↔ last ≤ first ∨ items.length ≤ first := by
  rw [List.take_eq_nil_iff, List.drop_eq_nil_iff]
  omega

theorem lrange_eq_nil_iff : lrange items start stop = [] ↔
    fromEnd items.length stop < max (fromEnd items.length start) 0 ∨
      items.length ≤ max (fromEnd items.length start) 0 := by
  rw [lrange]
  split
  · next empty => exact iff_of_true rfl empty
  · next found =>
    refine iff_of_false ?_ found
    rw [List.take_eq_nil_iff, List.drop_eq_nil_iff]
    omega

/-- The end of a range that is not counted twice. -/
theorem localRange_eq_lrange (inside : -(items.length + 1 : Int) ≤ stop) :
    localRange items start stop = lrange items start stop := by
  have last : fromEnd items.length (fromEnd items.length stop + 1) = fromEnd items.length stop + 1 := by
    have positive : ¬ fromEnd items.length stop + 1 < 0 := by
      rw [fromEnd]
      split <;> omega
    rw [fromEnd, if_neg positive]
  have local_ : localRange items start stop = slice items start (fromEnd items.length stop + 1) := rfl
  rw [local_, slice, last]
  by_cases empty : lrange items start stop = []
  · rw [empty, take_drop_eq_nil_iff]
    rw [lrange_eq_nil_iff] at empty
    omega
  · have found := mt lrange_eq_nil_iff.mpr empty
    rw [lrange, if_neg found]
    have begins : min (fromEnd items.length start).toNat items.length = (max (fromEnd items.length start) 0).toNat := by
      omega
    rw [begins]
    congr 1
    omega

private theorem localRange_eq_iff : localRange items start stop = lrange items start stop ↔
    CountedOnce items.length start stop := by
  by_cases inside : -(items.length + 1 : Int) ≤ stop
  · exact iff_of_true (localRange_eq_lrange inside) (.inl inside)
  · have negative : stop < 0 := by omega
    have before : fromEnd items.length stop = items.length + stop := if_pos negative
    have again : fromEnd items.length (items.length + stop + 1) = 2 * items.length + stop + 1 := by
      rw [fromEnd, if_pos (by omega)]
      omega
    have none : lrange items start stop = [] := lrange_eq_nil_iff.mpr (.inl (by omega))
    have local_ : localRange items start stop = slice items start (fromEnd items.length stop + 1) := rfl
    rw [none, local_, before, slice, again, CountedOnce, or_iff_right inside]
    rw [take_drop_eq_nil_iff]
    omega

end Ranges

namespace CacheService

variable {lru : (max : Nat) → LruCache String Json max} {options : LruOptions}

/-- The list under a key, which is empty where there is nothing; nothing else is a list. -/
def listOf (values : Option Json) : Option (List Json) :=
  match values.getD .null with
  | .null => some []
  | .arr items => some items
  | _ => none

def lRange (service : CacheService lru options) (now : Nat) (key : String) (start stop : Int) :
    Except JsError (List Json) × CacheService lru options :=
  let (values, service) := service.getAsync now key
  match listOf values with
  | some items => (.ok (localRange items start stop), service)
  | none => (.error (.error s!"Value at key {key} is not an array"), service)

/-- The internal cache finds what Redis does, unless the end is so far in front of the list that it is
counted from the end of the list twice. -/
theorem lRange_eq_iff (service : CacheService lru options) (now : Nat) (key : String) (items : List Json)
    (start stop : Int) (stored : listOf (service.getAsync now key).1 = some items) :
    (service.lRange now key start stop).1 = .ok (lrange items start stop) ↔ CountedOnce items.length start stop := by
  rw [lRange, ← localRange_eq_iff]
  dsimp only
  rw [stored]
  exact ⟨Except.ok.inj, congrArg _⟩

/-- A list of three texts. -/
def exampleList : CacheService (LruCache.ofOrder String Json) { max := 1000, ttl := 3600000 } :=
  (CacheService.new ∅).set 0 "list" (.arr [.str "a", .str "b", .str "c"]) none

theorem exampleList_range : (exampleList.lRange 1 "list" (-2) 7).1 = .ok [.str "b", .str "c"] :=
  (lRange_eq_iff exampleList 1 "list" [.str "a", .str "b", .str "c"] (-2) 7 rfl).mpr (.inl (by decide))

theorem exampleList_counted_twice :
    ¬ ∀ (service : CacheService (LruCache.ofOrder String Json) { max := 1000, ttl := 3600000 }) (now : Nat)
      (key : String) (items : List Json) (start stop : Int), listOf (service.getAsync now key).1 = some items →
        (service.lRange now key start stop).1 = .ok (lrange items start stop) := by
  intro same
  have ranges := same exampleList 1 "list" [.str "a", .str "b", .str "c"] 0 (-5) rfl
  have found : (exampleList.lRange 1 "list" 0 (-5)).1 = .ok [.str "a", .str "b"] := rfl
  rw [found] at ranges
  exact absurd (Except.ok.inj ranges) (by decide)

end CacheService

end HieroRelay.Cache
