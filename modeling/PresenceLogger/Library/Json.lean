import Mathlib.Data.List.Infix
import PresenceLogger.Library.Number
import PresenceLogger.Library.Text

/-!
# Decoded JSON values

What `json.loads` makes of a message, with the operations the handlers use: the
lookup of a key, membership, the truth value, the conversions to `int` and `str`,
and the text SQLite compares a bound parameter by in a `TEXT` column.
-/

namespace PresenceLogger.Library

inductive JsonFloat where
  /-- By the text a `TEXT` column gives it and its integral part. -/
  | finite (text : String) (truncated : Int) (isZero : Bool)
  | infinite (negative : Bool)
  | nan

inductive Json where
  | null
  | bool (value : Bool)
  | int (value : Int)
  | float (value : JsonFloat)
  | str (value : String)
  /-- A string with lone surrogates, which has no UTF-8 form, by the texts between
  them. -/
  | surrogates (pieces : List String)
  | arr (items : List Json)
  | obj (fields : List (String × Json))

/-- How `json.loads` ends. -/
inductive Decoded where
  | value (data : Json)
  /-- A `ValueError`, which a decoding error is too. -/
  | invalid
  /-- A `RecursionError`. -/
  | tooDeep

namespace Json

/-- `bool(data)` -/
def truthy : Json → Bool
  | .null => false
  | .bool value => value
  | .int value => value ≠ 0
  | .float (.finite _ _ isZero) => !isZero
  | .float (.infinite _) | .float .nan => true
  | .str value => value ≠ ""
  | .surrogates _ => true
  | .arr items => !items.isEmpty
  | .obj fields => !fields.isEmpty

/-- `data.get(key)`; the last of several equal keys counts. -/
def get (data : Json) (key : String) : Except PyError Json :=
  match data with
  | .obj fields => .ok ((fields.reverse.lookup key).getD .null)
  | _ => .error .attributeError

/-- The value of a key of an object, as `get` finds it. -/
def field (fields : List (String × Json)) (key : String) : Json :=
  (fields.reverse.lookup key).getD .null

/-- `data.get(key, default)` of an object. -/
def fieldOr (fields : List (String × Json)) (key : String) (default : Json) : Json :=
  (fields.reverse.lookup key).getD default

/-- `iter(data)`; a string yields strings, of which one stands for those of a string
with surrogates. -/
def elements : Json → Except PyError (List Json)
  | .arr items => .ok items
  | .obj fields => .ok (fields.map fun entry => .str entry.1)
  | .str value => .ok (value.toList.map fun char => .str (.ofList [char]))
  | .surrogates pieces => .ok [.surrogates pieces]
  | .null | .bool _ | .int _ | .float _ => .error .typeError

theorem field_mem {fields : List (String × Json)} {key : String}
    (present : key ∈ fields.map Prod.fst) : (key, field fields key) ∈ fields := by
  rcases List.mem_map.mp present with ⟨entry, among, rfl⟩
  have found : (fields.reverse.lookup entry.1).isSome := by
    rw [List.lookup_isSome_iff]
    exact ⟨entry, List.mem_reverse.mpr among, beq_self_eq_true _⟩
  rcases Option.isSome_iff_exists.mp found with ⟨value, isValue⟩
  rcases List.lookup_eq_some_iff.mp isValue with ⟨before, after, split, -⟩
  rw [field, isValue, Option.getD_some, ← List.mem_reverse, split]
  exact List.mem_append_right _ (.head _)

@[simp] theorem get_obj (fields : List (String × Json)) (key : String) :
    (Json.obj fields).get key = .ok (field fields key) := rfl

/-- The value a `TEXT` column compares with, or stores, for a bound parameter. -/
def bindText : Json → Except PyError (Option String)
  | .null => .ok none
  | .bool value => .ok (some (if value then "1" else "0"))
  | .int value =>
      if -2 ^ 63 ≤ value ∧ value < 2 ^ 63 then .ok (some (toString value))
      else .error .overflowError
  | .float (.finite text _ _) => .ok (some text)
  | .float (.infinite negative) => .ok (some (if negative then "-Inf" else "Inf"))
  -- SQLite has no NaN.
  | .float .nan => .ok none
  | .str value => .ok (some value)
  | .surrogates _ => .error .unicodeError
  | .arr _ | .obj _ => .error .interfaceError

/-- `key in data`, for a key without surrogates. -/
def contains (data : Json) (key : String) : Except PyError Bool :=
  match data with
  | .obj fields => .ok (fields.any fun entry => entry.1 = key)
  | .arr items => .ok (items.any fun item => match item with
    | .str value => value = key
    | _ => false)
  | .str value => .ok (key.toList <:+: value.toList)
  | .surrogates pieces => .ok (pieces.any fun piece => key.toList <:+: piece.toList)
  | .null | .bool _ | .int _ | .float _ => .error .typeError

/-- `data[key]`, for a key that is a string. -/
def subscript (data : Json) (key : String) : Except PyError Json :=
  match data with
  | .obj fields => (fields.reverse.lookup key).elim (.error .keyError) .ok
  | _ => .error .typeError

/-- `int(data)` -/
def toInt : Json → Except PyError Int
  | .bool value => .ok (if value then 1 else 0)
  | .int value => .ok value
  | .float (.finite _ truncated _) => .ok truncated
  | .float (.infinite _) => .error .overflowError
  | .float .nan => .error .valueError
  | .str value => (Text.parseInt value.toList).elim (.error .valueError) .ok
  | .surrogates _ => .error .valueError
  | .null | .arr _ | .obj _ => .error .typeError

/-- `str(data)`, or nothing if the text has surrogates; `render` gives the text of
floats and containers. -/
def pyStr (render : Json → Option String) : Json → Option String
  | .null => some "None"
  | .bool value => some (if value then "True" else "False")
  | .int value => some (toString value)
  | .str value => some value
  | .surrogates _ => none
  | data => render data

/-- SQLite takes the value as a parameter. -/
def Bindable (data : Json) : Prop := ∃ text, data.bindText = .ok text

/-- `data == text` for a string without surrogates. -/
def isText (data : Json) (text : String) : Bool :=
  match data with
  | .str value => value = text
  | _ => false

@[simp] theorem isText_eq_true_iff {data : Json} {text : String} :
    data.isText text = true ↔ data = .str text := by
  cases data <;> simp [isText]

end Json

end PresenceLogger.Library
