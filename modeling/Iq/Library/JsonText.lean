import Iq.Library.Hex

/-!
# JSON text

JSON values and the two texts of a value: the compact one and the indented one. A field or an item
never changes what stands around it, so the size of a compact text adds up from its parts. The texts
are lists of characters.
-/

namespace Iq.Library

/-- A JSON value; its numbers are integers, the natural ones with a constructor of their own, and an
object lists its fields in order. -/
inductive JsonText where
  | null
  | bool (value : Bool)
  | number (value : Nat)
  | integer (value : Int)
  | text (value : String)
  | array (items : List JsonText)
  | object (fields : List (String × JsonText))

namespace JsonText

/-- The value of an optional one. -/
def option (value : Option String) : JsonText := value.elim null text

/-! ## Texts -/

/-- A character inside a JSON string. -/
def escapeCharacter (character : Char) : List Char :=
  if character == '"' then ['\\', '"']
  else if character == '\\' then ['\\', '\\']
  else if character == '\x08' then ['\\', 'b']
  else if character == '\x0c' then ['\\', 'f']
  else if character == '\n' then ['\\', 'n']
  else if character == '\r' then ['\\', 'r']
  else if character == '\t' then ['\\', 't']
  else if character.toNat < 32 then
    ['\\', 'u', '0', '0', Hex.digit (character.toNat / 16), Hex.digit (character.toNat % 16)]
  else [character]

/-- A JSON string. -/
def quoted (value : String) : List Char :=
  '"' :: (value.toList.flatMap escapeCharacter ++ ['"'])

/-- A JSON number. -/
def digits (value : Nat) : List Char := value.repr.toList

mutual

/-- The text without white space. -/
def compact : JsonText → List Char
  | null => ['n', 'u', 'l', 'l']
  | bool true => ['t', 'r', 'u', 'e']
  | bool false => ['f', 'a', 'l', 's', 'e']
  | number value => digits value
  | integer value => (toString value).toList
  | text value => quoted value
  | array items => '[' :: (compactItems items ++ [']'])
  | object fields => '\x7b' :: (compactFields fields ++ ['\x7d'])

/-- The items of a compact array. -/
def compactItems : List JsonText → List Char
  | [] => []
  | item :: rest => compact item ++ (if rest.isEmpty then [] else [',']) ++ compactItems rest

/-- The fields of a compact object. -/
def compactFields : List (String × JsonText) → List Char
  | [] => []
  | (name, value) :: rest =>
    quoted name ++ ':' :: compact value ++ (if rest.isEmpty then [] else [',']) ++
      compactFields rest

end

/-- A line break before a line of the given depth. -/
def newline (depth : Nat) : List Char := '\n' :: List.replicate (2 * depth) ' '

mutual

/-- The indented text, from the depth at which it stands. -/
def pretty (depth : Nat) : JsonText → List Char
  | array items =>
    if items.isEmpty then ['[', ']']
    else '[' :: (prettyItems (depth + 1) items ++ newline depth ++ [']'])
  | object fields =>
    if fields.isEmpty then ['\x7b', '\x7d']
    else '\x7b' :: (prettyFields (depth + 1) fields ++ newline depth ++ ['\x7d'])
  | null => ['n', 'u', 'l', 'l']
  | bool true => ['t', 'r', 'u', 'e']
  | bool false => ['f', 'a', 'l', 's', 'e']
  | number value => digits value
  | integer value => (toString value).toList
  | text value => quoted value

/-- The items of an indented array. -/
def prettyItems (depth : Nat) : List JsonText → List Char
  | [] => []
  | item :: rest =>
    newline depth ++ pretty depth item ++ (if rest.isEmpty then [] else [',']) ++
      prettyItems depth rest

/-- The fields of an indented object. -/
def prettyFields (depth : Nat) : List (String × JsonText) → List Char
  | [] => []
  | (name, value) :: rest =>
    newline depth ++ quoted name ++ ':' :: ' ' :: pretty depth value ++
      (if rest.isEmpty then [] else [',']) ++ prettyFields depth rest

end

example : compact (.object [("a", .number 1), ("b", .array [.text "\n", .null])]) =
    "\x7b\"a\":1,\"b\":[\"\\n\",null]\x7d".toList := by decide +kernel

example : pretty 0 (.object [("a", .number 1), ("b", .array [])]) =
    "\x7b\n  \"a\": 1,\n  \"b\": []\n\x7d".toList := by decide +kernel

/-! ## Sizes -/

variable {value name : String} {number bound : Nat} {fields : List (String × JsonText)}

/-- An escaped character is short. -/
theorem length_escapeCharacter_le (character : Char) : (escapeCharacter character).length ≤ 6 := by
  unfold escapeCharacter
  repeat' split
  all_goals simp

/-- A quoted text is at most six times as long, with its quotation marks. -/
theorem length_quoted_le (value : String) : (quoted value).length ≤ 6 * value.length + 2 := by
  have escaped : (value.toList.flatMap escapeCharacter).length ≤ 6 * value.toList.length := by
    induction value.toList with
    | nil => exact Nat.le_refl _
    | cons character rest hypothesis =>
      have here := length_escapeCharacter_le character
      simp only [List.flatMap_cons, List.length_append, List.length_cons]
      omega
  rw [String.length_toList] at escaped
  simp only [quoted, List.length_cons, List.length_append, List.length_nil]
  omega

/-- A number below a power of ten has that many digits. -/
theorem length_digits_le (positive : 0 < bound) (below : number < 10 ^ bound) :
    (digits number).length ≤ bound := by
  rw [digits, String.length_toList]
  exact (Nat.length_repr_le_iff positive).mpr below

/-- Fields of bounded size make an object of bounded size. -/
theorem length_compactFields_le
    (bounded : ∀ field ∈ fields, (quoted field.1).length + (compact field.2).length ≤ bound) :
    (compactFields fields).length ≤ (bound + 2) * fields.length := by
  induction fields with
  | nil => simp [compactFields]
  | cons field rest hypothesis =>
    have here := bounded field List.mem_cons_self
    have after := hypothesis fun other mem => bounded other (List.mem_cons_of_mem _ mem)
    have separator : (if rest.isEmpty then [] else [',']).length ≤ 1 := by split <;> decide
    simp only [compactFields, List.length_append, List.length_cons, Nat.mul_add, Nat.mul_one]
    omega

/-- An object is as long as its fields. -/
theorem length_compact_object_le
    (bounded : ∀ field ∈ fields, (quoted field.1).length + (compact field.2).length ≤ bound) :
    (compact (object fields)).length ≤ (bound + 2) * fields.length + 2 := by
  have inner := length_compactFields_le bounded
  simp only [compact, List.length_cons, List.length_append, List.length_nil]
  omega

end JsonText

end Iq.Library
