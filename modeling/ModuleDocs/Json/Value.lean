import ModuleDocs.Decimal.Style
import ModuleDocs.Text.Quoted

/-! # JSON values

    A value keeps the order of its fields, and a number keeps whether it was
    written as an integer.  `shown` is the text of a value inside a message;
    `asText` is the text that a scalar contributes where text is wanted. -/

namespace ModuleDocs

/-- A JSON value.  The fields of an object stand in the order of their first occurrence. -/
inductive Json where
  | null
  | bool (b : Bool)
  | int (i : Int)
  | float (x : Double)
  | str (t : Text)
  | arr (items : List Json)
  | obj (fields : List (Text × Json))

namespace Json

/-- Puts a field: a repeated key keeps its place and takes the new value. -/
def put (key : Text) (value : Json) : List (Text × Json) → List (Text × Json)
  | [] => [(key, value)]
  | (k, v) :: rest => if k = key then (k, value) :: rest else (k, v) :: put key value rest

/-- The fields of an object in which the last of repeated keys wins. -/
def objectOf (fields : List (Text × Json)) : List (Text × Json) :=
  fields.foldl (fun acc (k, v) => put k v acc) []

/-- The value of a field, if the object has it. -/
def field? (key : Text) (fields : List (Text × Json)) : Option Json := fields.lookup key

/-- After a put the key has the new value. -/
@[simp] theorem field?_put_self (key : Text) (v : Json) (fields : List (Text × Json)) :
    field? key (put key v fields) = some v := by
  induction fields with
  | nil => simp [put, field?]
  | cons kv rest ih =>
      obtain ⟨k, w⟩ := kv
      by_cases h : k = key
      · simp [put, field?, h]
      · have hk : (key == k) = false := by simp [Ne.symm h]
        simpa [put, field?, h, List.lookup_cons, hk] using ih

/-- A put leaves the other keys alone. -/
theorem field?_put_of_ne {key other : Text} (h : other ≠ key) (v : Json)
    (fields : List (Text × Json)) : field? other (put key v fields) = field? other fields := by
  induction fields with
  | nil => simp [put, field?, h]
  | cons kv rest ih =>
      obtain ⟨k, w⟩ := kv
      by_cases hk : k = key
      · subst hk
        have ho : (other == k) = false := by simp [h]
        simp [put, field?, List.lookup_cons, ho]
      · simp only [field?] at ih
        simp only [put, hk, if_false, field?, List.lookup_cons, ih]

/-- The word for the kind of a value in messages. -/
def kind : Json → Text
  | null => "NoneType"
  | bool _ => "bool"
  | int _ => "int"
  | float _ => "float"
  | str _ => "str"
  | arr _ => "list"
  | obj _ => "dict"

/-- Whether a value counts as given: not null, false, zero or empty. -/
def isTruthy : Json → Bool
  | null => false
  | bool b => b
  | int i => i ≠ 0
  | float x => !x.isZero
  | str t => !t.isEmpty
  | arr items => !items.isEmpty
  | obj fields => !fields.isEmpty

mutual

/-- The text of a value inside a message. -/
def shown : Json → Text
  | null => "None"
  | bool b => if b then "True".toList else "False".toList
  | int i => Text.ofInt i
  | float x => Double.standard.text x
  | str t => Text.quoted t
  | arr items => '[' :: Text.join ", " (shownItems items) ++ [']']
  | obj fields => '\x7b' :: Text.join ", " (shownFields fields) ++ ['\x7d']

/-- The texts of the items of a list. -/
def shownItems : List Json → List Text
  | [] => []
  | v :: rest => shown v :: shownItems rest

/-- The texts of the fields of an object. -/
def shownFields : List (Text × Json) → List Text
  | [] => []
  | (k, v) :: rest => (Text.quoted k ++ ": " ++ shown v) :: shownFields rest

end

/-- The text of a value where text is wanted: nothing for null, a string as it is. -/
def asText : Json → Text
  | null => []
  | bool b => if b then "true" else "false"
  | str t => t
  | v => shown v

end Json

end ModuleDocs
