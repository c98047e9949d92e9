import Mathlib.Data.List.Basic

/-! JSON values as JavaScript reads them: property access, truthiness, string
conversion and the exceptions the language itself raises. A property that may be
missing is an `Option Json`, where `none` stands for `undefined`. -/

namespace HieroRelay.Js

/-- A parsed JSON value. Numbers are exact; a field list keeps insertion order. -/
inductive Json where
  | null
  | bool (value : Bool)
  | num (value : Rat)
  | str (value : String)
  | arr (items : List Json)
  | obj (fields : List (String × Json))
  deriving Repr, Inhabited

mutual

def Json.decEq : (left right : Json) → Decidable (left = right)
  | .null, .null => isTrue rfl
  | .bool left, .bool right => decidable_of_iff (left = right) (by simp)
  | .num left, .num right => decidable_of_iff (left = right) (by simp)
  | .str left, .str right => decidable_of_iff (left = right) (by simp)
  | .arr left, .arr right =>
      match decEqItems left right with
      | isTrue same => isTrue (by rw [same])
      | isFalse different => isFalse (by simpa using different)
  | .obj left, .obj right =>
      match decEqFields left right with
      | isTrue same => isTrue (by rw [same])
      | isFalse different => isFalse (by simpa using different)
  | .null, .bool _ | .null, .num _ | .null, .str _ | .null, .arr _ | .null, .obj _
  | .bool _, .null | .bool _, .num _ | .bool _, .str _ | .bool _, .arr _ | .bool _, .obj _
  | .num _, .null | .num _, .bool _ | .num _, .str _ | .num _, .arr _ | .num _, .obj _
  | .str _, .null | .str _, .bool _ | .str _, .num _ | .str _, .arr _ | .str _, .obj _
  | .arr _, .null | .arr _, .bool _ | .arr _, .num _ | .arr _, .str _ | .arr _, .obj _
  | .obj _, .null | .obj _, .bool _ | .obj _, .num _ | .obj _, .str _ | .obj _, .arr _ =>
      isFalse (by simp)

def decEqItems : (left right : List Json) → Decidable (left = right)
  | [], [] => isTrue rfl
  | [], _ :: _ => isFalse (by simp)
  | _ :: _, [] => isFalse (by simp)
  | left :: lefts, right :: rights =>
      match left.decEq right, decEqItems lefts rights with
      | isTrue same, isTrue rest => isTrue (by rw [same, rest])
      | isFalse different, _ => isFalse (by simp [different])
      | _, isFalse different => isFalse (by simp [different])

def decEqFields : (left right : List (String × Json)) → Decidable (left = right)
  | [], [] => isTrue rfl
  | [], _ :: _ => isFalse (by simp)
  | _ :: _, [] => isFalse (by simp)
  | (name, left) :: lefts, (other, right) :: rights =>
      if named : name = other then
        match left.decEq right, decEqFields lefts rights with
        | isTrue same, isTrue rest => isTrue (by rw [named, same, rest])
        | isFalse different, _ => isFalse (by simp [different])
        | _, isFalse different => isFalse (by simp [different])
      else isFalse (by simp [named])

end
instance : DecidableEq Json := Json.decEq

/-- Exceptions thrown by the engine or by `throw new Error(..)`. -/
inductive JsError where
  | typeError (message : String)
  | error (message : String)
  deriving Repr, DecidableEq

def JsError.message : JsError → String
  | .typeError message => message
  | .error message => message

/-- Truthiness in conditions, `||` and `&&`. -/
def truthy : Option Json → Bool
  | none => false
  | some .null => false
  | some (.bool value) => value
  | some (.num value) => value != 0
  | some (.str value) => value != ""
  | some (.arr _) => true
  | some (.obj _) => true

/-- The left operand when truthy, otherwise the right one. -/
def orElse (left right : Option Json) : Option Json :=
  if truthy left then left else right

/-- Own field of an object; nothing else has own fields under a plain name. -/
def ownField (value : Json) (name : String) : Option Json :=
  match value with
  | .obj fields => fields.lookup name
  | _ => none

/-- Property read for names that no built-in prototype defines. -/
def getProperty (value : Json) (name : String) : Except JsError (Option Json) :=
  match value with
  | .null => .error (.typeError s!"Cannot read properties of null (reading '{name}')")
  | value => .ok (ownField value name)

/-- `value[index]`, which an object reads as the name of a field. -/
def elementAt (value : Json) (index : Nat) : Option Json :=
  match value with
  | .arr items => items[index]?
  | .str text => text.toList[index]?.map fun char => .str char.toString
  | value => ownField value (toString index)

/-- `Object.prototype.hasOwnProperty.call(value, name)`. -/
def hasOwnProperty (value : Json) (name : String) : Except JsError Bool :=
  match value with
  | .null => .error (.typeError "Cannot convert undefined or null to object")
  | value => .ok (ownField value name).isSome

/-- Assignment of a field that is not there yet appends it. -/
def setField (value : Json) (name : String) (field : Json) : Json :=
  match value with
  | .obj fields => .obj (fields ++ [(name, field)])
  | value => value

/-- `text.includes(part)` -/
def includesText (text part : String) : Bool :=
  text.toList.tails.any part.toList.isPrefixOf

/-- Strict equality with a string literal. -/
def isString (value : Option Json) (text : String) : Bool :=
  match value with
  | some (.str actual) => actual == text
  | _ => false

/-- `list.includes(value)` for a list of strings: the string that is listed. -/
def includesString (list : List String) (value : Option Json) : Option String :=
  match value with
  | some (.str actual) => if list.contains actual then some actual else none
  | _ => none

mutual

/-- String conversion. A JSON object with an own `toString` field shadows the
built-in one by a value that cannot be called, so its conversion throws. -/
def toText (numberToString : Rat → String) : Json → Except JsError String
  | .null => .ok "null"
  | .bool value => .ok (if value then "true" else "false")
  | .num value => .ok (numberToString value)
  | .str value => .ok value
  | .arr items => joinTexts numberToString items
  | .obj fields =>
      if (fields.lookup "toString").isSome then
        .error (.typeError "Cannot convert object to primitive value")
      else .ok "[object Object]"

/-- `Array.prototype.join(',')`: a `null` item contributes the empty text. -/
def joinTexts (numberToString : Rat → String) : List Json → Except JsError String
  | [] => .ok ""
  | [.null] => .ok ""
  | [item] => toText numberToString item
  | .null :: rest => do return "," ++ (← joinTexts numberToString rest)
  | item :: rest => do
      let head ← toText numberToString item
      return head ++ "," ++ (← joinTexts numberToString rest)

end

/-- `${value}` in a template literal, and the key conversion of `table[value]`. -/
def interpolate (numberToString : Rat → String) (value : Option Json) : Except JsError String :=
  match value with
  | none => .ok "undefined"
  | some value => toText numberToString value

@[simp] theorem ok_bind {Fault Value Next : Type} (value : Value) (next : Value → Except Fault Next) :
    (Except.ok value >>= next) = next value := rfl

@[simp] theorem error_bind {Fault Value Next : Type} (fault : Fault) (next : Value → Except Fault Next) :
    (Except.error fault >>= next) = .error fault := rfl

@[simp] theorem map_ok {Fault Value Next : Type} (value : Value) (next : Value → Next) :
    (next <$> (Except.ok value : Except Fault Value)) = .ok (next value) := rfl

@[simp] theorem map_error {Fault Value Next : Type} (fault : Fault) (next : Value → Next) :
    (next <$> (Except.error fault : Except Fault Value)) = .error fault := rfl

@[simp] theorem pure_eq_ok {Fault Value : Type} (value : Value) :
    (pure value : Except Fault Value) = .ok value := rfl

theorem bind_eq_ok_iff {Fault Value Next : Type} {first : Except Fault Value}
    {next : Value → Except Fault Next} {result : Next} :
    (first >>= next) = .ok result ↔ ∃ value, first = .ok value ∧ next value = .ok result := by
  cases first <;> simp

theorem map_eq_ok_iff {Fault Value Next : Type} {first : Except Fault Value} {next : Value → Next}
    {result : Next} : first.map next = .ok result ↔ ∃ value, first = .ok value ∧ next value = result := by
  cases first <;> simp [Except.map]

@[simp] theorem truthy_none : truthy none = false := rfl

@[simp] theorem ownField_null (name : String) : ownField .null name = none := rfl

theorem isString_iff {value : Option Json} {text : String} : isString value text = true ↔ value = some (.str text) := by
  unfold isString
  split
  · rw [beq_iff_eq, Option.some.injEq, Json.str.injEq]
  · rename_i other
    exact iff_of_false Bool.false_ne_true fun same => other text same

theorem getProperty_ok {value : Json} (present : value ≠ .null) (name : String) :
    getProperty value name = .ok (ownField value name) := by
  cases value <;> first | rfl | exact absurd rfl present

theorem hasOwnProperty_ok {value : Json} (present : value ≠ .null) (name : String) :
    hasOwnProperty value name = .ok (ownField value name).isSome := by
  cases value <;> first | rfl | exact absurd rfl present

theorem ownField_setField_new {value : Json} {name : String} {field : Json}
    (isObject : ∃ fields, value = .obj fields) (missing : ownField value name = none) :
    ownField (setField value name field) name = some field := by
  obtain ⟨fields, rfl⟩ := isObject
  simp only [ownField, setField] at missing ⊢
  simp [List.lookup_append, missing]

end HieroRelay.Js
