-- The values that `JSON.parse` returns, and the fields of an object.
import Mathlib.Tactic

namespace values

inductive Value
  | null
  | boolean (b : Bool)
  /-- A number, or `none` when it is not finite. -/
  | number (n : Option ℚ)
  | text (s : String)
  | array (elements : List Value)
  | object (fields : List (String × Value))

/-- An object of the language. A field that is set again stands behind the old one. -/
abbrev Fields := List (String × Value)

/-- `fields.name`: the last of the fields with the name. -/
def getField (fields : Fields) (name : String) : Option Value :=
  (fields.reverse.find? (fun field => field.1 = name)).map (·.2)

/-- `{ ...fields, name: value }` -/
def setField (fields : Fields) (name : String) (value : Value) : Fields := fields ++ [(name, value)]

theorem getField_setField_of_ne (fields : Fields) {name other : String} (value : Value)
    (h : name ≠ other) : getField (setField fields name value) other = getField fields other := by
  simp [getField, setField, h]

/-- `value.name` for a value that is not `null`: texts, numbers and arrays have no field of their
own that a program of this kind asks for. -/
def Value.field (name : String) : Value → Option Value
  | .object fields => getField fields name
  | _ => none

end values
