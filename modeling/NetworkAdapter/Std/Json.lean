import NetworkAdapter.Std.Dict

/-!
# JSON values as the interpreter holds them

A decoded JSON text is one of these values. Objects are insertion-ordered and
`None` is `null`, so `d.get(key)` cannot tell a missing key from a null one.
`Json.equals` is the language's `==`: numbers and truth values compare as
numbers and objects ignore the order of their keys.
-/

namespace NetworkAdapter

/-- The exception classes raised by the modelled code. -/
inductive PyError where
  | keyError (key : String)
  | typeError
  | attributeError (name : String)
  | indexError
  | valueError
  | unicodeDecodeError
  | jsonDecodeError
  | zeroDivisionError
  | connectionError
  | timeoutError
  | storageError
deriving DecidableEq, Repr

/-- A JSON value. -/
inductive Json where
  | null
  | bool (value : Bool)
  | number (value : Rat)
  | str (value : String)
  | arr (items : List Json)
  | obj (fields : List (String × Json))
deriving Repr

/-- The entries of a JSON object, in order. -/
abbrev JsonObject := List (String × Json)

namespace Json

/-- The number a truth value or a number compares as. -/
def numeric? : Json → Option Rat
  | .bool value => some (if value then 1 else 0)
  | .number value => some value
  | _ => none

mutual

/-- `left == right`. -/
def equals : Json → Json → Bool
  | .null, right =>
      match right with
      | .null => true
      | _ => false
  | .bool left, right => right.numeric? == some (if left then 1 else 0)
  | .number left, right => right.numeric? == some left
  | .str left, right =>
      match right with
      | .str value => left == value
      | _ => false
  | .arr left, right =>
      match right with
      | .arr items => equalItems left items
      | _ => false
  | .obj left, right =>
      match right with
      | .obj fields => left.length == fields.length && equalFields left fields
      | _ => false

def equalItems : List Json → List Json → Bool
  | [], right => right.isEmpty
  | item :: rest, right =>
      match right with
      | [] => false
      | other :: others => equals item other && equalItems rest others

def equalFields : List (String × Json) → List (String × Json) → Bool
  | [], _ => true
  | (key, value) :: rest, right =>
      (match Fields.get? right key with
        | some other => equals value other
        | none => false) && equalFields rest right

end

/-- A text equals nothing but the same text. -/
@[simp] theorem equals_str_right (left : Json) (text : String) :
    left.equals (.str text) = true ↔ left = .str text := by
  cases left with
  | bool value => cases value <;> simp [equals, numeric?]
  | _ => simp [equals, numeric?]

theorem str_equals_self (text : String) : (Json.str text).equals (.str text) = true :=
  (equals_str_right _ text).mpr rfl

/-- Nothing equals `None` but `None`. -/
theorem equals_null (value : Json) : value.equals .null = true ↔ value = .null := by
  cases value with
  | bool value => cases value <;> simp [equals, numeric?]
  | _ => simp [equals, numeric?]

theorem str_equals (text : String) (right : Json) :
    (Json.str text).equals right = true ↔ right = .str text := by
  cases right with
  | str value =>
      simp only [equals, beq_iff_eq, Json.str.injEq]
      exact eq_comm
  | _ => simp [equals]

end Json

namespace JsonObject

/-- `fields.get(key)`. -/
def get (fields : JsonObject) (key : String) : Json := (Fields.get? fields key).getD .null

end JsonObject

namespace Json

/-- `value.get(key)`: only objects have the method, and a missing key is `None`. -/
def get (value : Json) (key : String) : Except PyError Json :=
  match value with
  | .obj fields => .ok (JsonObject.get fields key)
  | _ => .error (.attributeError "get")

/-- `value[key]` for a text key. -/
def subscript (value : Json) (key : String) : Except PyError Json :=
  match value with
  | .obj fields =>
      match Fields.get? fields key with
      | some found => .ok found
      | none => .error (.keyError key)
  | _ => .error .typeError

theorem subscript_eq_ok {value found : Json} {key : String} :
    value.subscript key = .ok found ↔
      ∃ fields, value = .obj fields ∧ Fields.get? fields key = some found := by
  cases value with
  | obj fields => cases stored : Fields.get? fields key <;> simp [subscript, stored]
  | _ => simp [subscript]

theorem subscript_obj_eq_ok {fields : JsonObject} {key : String} {found : Json} :
    (Json.obj fields).subscript key = .ok found ↔ Fields.get? fields key = some found := by
  simp [subscript_eq_ok]

/-- The text by which the exception of a failed lookup names a key. -/
def keyText : Json → String
  | .null => "None"
  | .bool value => if value then "True" else "False"
  | .number value => toString value
  | .str text => text
  | .arr _ => "[]"
  | .obj _ => "\x7b\x7d"

/-- `value[key]` for any key: the keys of an object are texts, and a list or an object cannot
be looked up. -/
def subscriptBy (value key : Json) : Except PyError Json :=
  match key with
  | .str text => value.subscript text
  | .arr _ => .error .typeError
  | .obj _ => .error .typeError
  | other =>
      match value with
      | .obj _ => .error (.keyError other.keyText)
      | _ => .error .typeError

@[simp] theorem get_obj (fields : JsonObject) (key : String) :
    (Json.obj fields).get key = .ok (JsonObject.get fields key) := rfl

end Json
end NetworkAdapter
