import Mathlib.Tactic.Common

/-!
# Expressions of a database

The three-valued logic that the conditions of triggers and checks are written in, and the reading
of a JSON column by path. A truth value is `none` where an operand is `NULL`; a condition holds
when it is true, so neither a false nor an unknown condition makes a trigger fire.
-/

namespace Iq.Library.Sql

universe u

/-! ## Truth values -/

/-- A truth value of SQL; `none` is `NULL`. -/
abbrev Truth := Option Bool

namespace Truth

/-- `NOT`. -/
def not : Truth → Truth := Option.map (!·)

/-- `AND`: false as soon as one side is. -/
def and : Truth → Truth → Truth
  | some false, _ => some false
  | _, some false => some false
  | some true, some true => some true
  | _, _ => none

/-- `OR`: true as soon as one side is. -/
def or : Truth → Truth → Truth
  | some true, _ => some true
  | _, some true => some true
  | some false, some false => some false
  | _, _ => none

/-- Whether a trigger with this condition fires. -/
def holds (condition : Truth) : Bool := condition == some true

variable {left right : Truth}

/-- A condition holds when it is true. -/
@[simp] theorem holds_iff : left.holds = true ↔ left = some true := by
  simp [holds]

/-- A conjunction is true when both conditions are. -/
@[simp] theorem and_eq_true : left.and right = some true ↔ left = some true ∧ right = some true := by
  rcases left with - | _ | _ <;> rcases right with - | _ | _ <;> decide

/-- A disjunction is true when one condition is. -/
@[simp] theorem or_eq_true : left.or right = some true ↔ left = some true ∨ right = some true := by
  rcases left with - | _ | _ <;> rcases right with - | _ | _ <;> decide

/-- A negation is true when the condition is false. -/
@[simp] theorem not_eq_true : left.not = some true ↔ left = some false := by
  rcases left with - | _ | _ <;> decide

/-- A condition that is true keeps its negation from firing. -/
theorem not_holds_of_true (true_of : left = some true) : left.not.holds = false := by
  rw [true_of]
  rfl

end Truth

/-! ## Comparisons and choices -/

section Comparisons

variable {α : Type u} [DecidableEq α]

/-- `=`, which is unknown when an operand is `NULL`. -/
def equals (left right : Option α) : Truth :=
  left.bind fun value => right.map fun other => value == other

/-- `IS`, which compares `NULL` with `NULL` too. -/
def same (left right : Option α) : Truth := some (left == right)

/-- `IN` a list of constants. -/
def oneOf (value : Option α) (constants : List α) : Truth :=
  value.map fun known => constants.contains known

variable {left right : Option α}

/-- Values are equal when both are there and the same. -/
@[simp] theorem equals_eq_true :
    equals left right = some true ↔ ∃ value, left = some value ∧ right = some value := by
  cases left with
  | none => simp [equals]
  | some value =>
    cases right with
    | none => simp [equals]
    | some other =>
      constructor
      · intro equal
        have same : value = other := by simpa [equals] using equal
        exact ⟨value, rfl, congrArg some same.symm⟩
      · rintro ⟨_, ⟨⟩, ⟨⟩⟩
        simp [equals]

/-- Constants are equal when they are the same. -/
theorem equals_some_iff {value other : α} :
    equals (some value) (some other) = some true ↔ value = other := by
  simp [equals]

/-- Values are the same also when both are absent. -/
@[simp] theorem same_eq_true : same left right = some true ↔ left = right := by
  simp [same]

end Comparisons

/-- `IS NULL`. -/
def isNull {α : Type u} (value : Option α) : Truth := some value.isNone

/-- A value is null when it is absent. -/
@[simp] theorem isNull_eq_true {α : Type u} {value : Option α} :
    isNull value = some true ↔ value = none := by
  simp [isNull]

/-- A value is not null when it is there. -/
@[simp] theorem not_isNull_eq_true {α : Type u} {value : Option α} :
    (isNull value).not = some true ↔ value ≠ none := by
  cases value <;> simp [isNull, Truth.not]

/-- `CASE WHEN ... THEN ... ELSE ... END`: the value of the first branch whose condition holds. -/
def case {α : Type u} (branches : List (Truth × Option α)) (otherwise : Option α) : Option α :=
  match branches with
  | [] => otherwise
  | (condition, value) :: rest => if condition.holds then value else case rest otherwise

section Case

variable {α : Type u} {condition : Truth} {value otherwise : Option α}
  {rest : List (Truth × Option α)}

/-- The first branch whose condition is true. -/
theorem case_of_true (holds : condition = some true) :
    case ((condition, value) :: rest) otherwise = value := by
  rw [case, if_pos (Truth.holds_iff.mpr holds)]

/-- A branch whose condition is not true is passed over. -/
theorem case_of_not_true (fails : condition ≠ some true) :
    case ((condition, value) :: rest) otherwise = case rest otherwise := by
  rw [case, if_neg (mt Truth.holds_iff.mp fails)]

end Case

/-! ## JSON columns -/

/-- A JSON value, as far as paths read it. -/
inductive Json where
  | text (value : String)
  | object (members : List (String × Json))

namespace Json

/-- The value of a key. -/
def member? (json : Json) (key : String) : Option Json :=
  match json with
  | .object members => (members.find? fun member => member.1 == key).map Prod.snd
  | .text _ => none

/-- The text of a value. -/
def text? : Json → Option String
  | .text value => some value
  | .object _ => none

/-- `json_extract` of a path that ends in a text; `NULL` where the path leads nowhere. -/
def extract (json : Json) (path : List String) : Option String :=
  (path.foldlM member? json).bind text?

/-- `COUNT(*) FROM json_each`. -/
def count : Json → Nat
  | .object members => members.length
  | .text _ => 1

end Json

/-! ## Texts -/

/-- `length` of a text: its characters before the first null character. -/
def length (value : Option String) : Option Nat :=
  value.map fun text => (text.toList.takeWhile fun character => character != '\x00').length

/-- The class `[0-9A-Fa-f]` of a pattern. -/
def isHexDigit (character : Char) : Bool :=
  ('0' ≤ character && character ≤ '9') || ('A' ≤ character && character ≤ 'F') ||
    ('a' ≤ character && character ≤ 'f')

/-- `GLOB '*[^0-9A-Fa-f]*'`: a character outside the class occurs. -/
def globOutsideHex (value : Option String) : Truth :=
  value.map fun text => text.toList.any fun character => !isHexDigit character

end Iq.Library.Sql
