import Iq.Library.JsonText

/-!
# Fields of JSON objects

Reading and writing the fields of a JSON object: a name that is absent reads as null, a write
inserts the name in order, and a strict reader refuses a name it does not know.
-/

namespace Iq.Library

namespace JsonText

/-- The text of a string value. -/
def asText : JsonText → Option String
  | text value => some value
  | _ => none

/-- The number of a natural one. -/
def asNumber : JsonText → Option Nat
  | number value => some value
  | _ => none

/-- The items of an array. -/
def asArray : JsonText → Option (List JsonText)
  | array items => some items
  | _ => none

/-- The field of a name; only an object has fields. -/
def get? (name : String) : JsonText → Option JsonText
  | object fields => fields.lookup name
  | _ => none

/-- The field of a name, null when it is absent. -/
def getD (name : String) (value : JsonText) : JsonText := (value.get? name).getD null

/-- The order of two texts by their characters. -/
def isBefore : List Char → List Char → Bool
  | _, [] => false
  | [], _ :: _ => true
  | first :: before, second :: after =>
    decide (first.toNat < second.toNat) || (first == second && isBefore before after)

/-- The fields with one of them replaced, or inserted before the first greater name. -/
def insertField (name : String) (field : JsonText) :
    List (String × JsonText) → List (String × JsonText)
  | [] => [(name, field)]
  | (other, old) :: rest =>
    if name = other then (name, field) :: rest
    else if isBefore name.toList other.toList then (name, field) :: (other, old) :: rest
    else (other, old) :: insertField name field rest

section

variable {name other : String} {field old : JsonText} {rest : List (String × JsonText)}

/-- A field of the name is replaced. -/
theorem insertField_same :
    insertField name field ((name, old) :: rest) = (name, field) :: rest :=
  if_pos rfl

/-- A field before the others comes first. -/
theorem insertField_first (different : name ≠ other)
    (order : isBefore name.toList other.toList = true) :
    insertField name field ((other, old) :: rest) = (name, field) :: (other, old) :: rest := by
  rw [insertField, if_neg different, if_pos order]

/-- A field after another is inserted behind it. -/
theorem insertField_after (different : name ≠ other)
    (order : isBefore name.toList other.toList = false) :
    insertField name field ((other, old) :: rest) =
      (other, old) :: insertField name field rest := by
  rw [insertField, if_neg different, if_neg (by rw [order]; exact Bool.false_ne_true)]

end

/-- An object with one field replaced; null becomes an object, and nothing else has fields. -/
def set? (name : String) (value field : JsonText) : Option JsonText :=
  match value with
  | object fields => some (object (insertField name field fields))
  | null => some (object [(name, field)])
  | _ => none

/-- A field is smaller than its object. -/
theorem sizeOf_lt_of_get? {name : String} {value field : JsonText}
    (found : value.get? name = some field) : sizeOf field < sizeOf value := by
  cases value with
  | object fields =>
    obtain ⟨before, after, split, -⟩ := List.lookup_eq_some_iff.mp found
    have inner : sizeOf (name, field) < sizeOf fields :=
      List.sizeOf_lt_of_mem (by simp [split])
    simp only [Prod.mk.sizeOf_spec, object.sizeOf_spec] at inner ⊢
    omega
  | null | bool | number | integer | text | array => cases found

/-! ## Strict objects -/

/-- The fields of an object without duplicates whose names are all known. -/
def strict? (names : List String) : JsonText → Option (List (String × JsonText))
  | object fields =>
    if (fields.map Prod.fst).Nodup ∧ ∀ field ∈ fields, field.1 ∈ names then some fields else none
  | _ => none

/-- A required field, read by its reader. -/
def field? {α : Type} (fields : List (String × JsonText)) (name : String)
    (read : JsonText → Option α) : Option α := (fields.lookup name).bind read

/-- A field that may be absent or null. -/
def optionalField? {α : Type} (fields : List (String × JsonText)) (name : String)
    (read : JsonText → Option α) : Option (Option α) :=
  match fields.lookup name with
  | none | some null => some none
  | some value => (read value).map some

/-- A list of values, read one by one. -/
def list? {α : Type} (read : JsonText → Option α) (value : JsonText) : Option (List α) :=
  value.asArray.bind (List.mapM read)

/-- A list of written values is read back. -/
theorem list?_array_map {α : Type} {read : JsonText → Option α} {write : α → JsonText}
    (inverse : ∀ value, read (write value) = some value) (values : List α) :
    list? read (array (values.map write)) = some values := by
  simp only [list?, asArray, Option.bind_some]
  induction values with
  | nil => rfl
  | cons value rest hypothesis => simp [List.mapM_cons, inverse, hypothesis]

end JsonText

end Iq.Library
