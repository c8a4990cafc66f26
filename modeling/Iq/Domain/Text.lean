import Mathlib.Tactic.Common

/-!
# Text and object identifiers

The textual checks that the control domain and the store share: exact text, hexadecimal digests,
full Git object identifiers, and the systemd identity grammar of a cycle. A check either passes or
reports the message of the source.
-/

namespace Iq

/-- The outcome of a textual check: nothing, or the message reported. -/
abbrev Check := Except String Unit

/-- Pass when a condition holds and report a message otherwise. -/
def check (condition : Bool) (message : String) : Check :=
  if condition then .ok () else .error message

/-- A check passes when its condition holds. -/
@[simp] theorem check_eq_ok {condition : Bool} {message : String} {passed : Unit} :
    check condition message = .ok passed ↔ condition = true := by
  cases condition <;> simp [check]

/-- The Unicode `White_Space` property, which `str::trim` removes. -/
def isWhiteSpace (character : Char) : Bool :=
  let code := character.toNat
  (9 ≤ code && code ≤ 13) || code == 32 || code == 133 || code == 160 || code == 5760 ||
    (8192 ≤ code && code ≤ 8202) || code == 8232 || code == 8233 || code == 8239 ||
    code == 8287 || code == 12288

/-- `str::trim` on the characters of a text. -/
def trimCharacters (characters : List Char) : List Char :=
  ((characters.dropWhile isWhiteSpace).reverse.dropWhile isWhiteSpace).reverse

/-- Whether `str::trim` leaves nothing of a text. -/
def isBlank (value : String) : Bool := (trimCharacters value.toList).isEmpty

/-- Whether `str::trim` leaves a text as it is. -/
def isTrimmed (value : String) : Bool := trimCharacters value.toList == value.toList

/-- The condition of `require_exact_text`: not empty and without surrounding white space. -/
def isExactText (value : String) : Bool := !value.toList.isEmpty && isTrimmed value

/-- `require_exact_text`. -/
def requireExactText (value label : String) : Check :=
  check (isExactText value) s!"{label} must be non-empty with no surrounding whitespace"

/-- `str::contains` on the characters of a pattern and a text. -/
def containsCharacters (pattern text : List Char) : Bool := text.tails.any pattern.isPrefixOf

/-- `str::bytes`. -/
def bytesOf (value : String) : List UInt8 := value.toByteArray.data.toList

/-- The bytes of a text are those of its characters. -/
theorem bytesOf_eq_flatMap (value : String) :
    bytesOf value = value.toList.flatMap String.utf8EncodeChar := by
  have encoded : value.toByteArray = value.toList.utf8Encode := String.utf8Encode_toList.symm
  unfold bytesOf
  rw [encoded, List.utf8Encode]
  simp

/-- Texts are told apart by their bytes. -/
theorem bytesOf_injective : Function.Injective bytesOf := by
  intro value other same
  have arrays : value.toByteArray = other.toByteArray := ByteArray.ext (Array.toList_inj.mp same)
  exact String.toByteArray_inj.mp arrays

/-- The bytes of texts one after another. -/
theorem bytesOf_append (first second : String) :
    bytesOf (first ++ second) = bytesOf first ++ bytesOf second := by
  rw [bytesOf_eq_flatMap, String.toList_append, List.flatMap_append, ← bytesOf_eq_flatMap,
    ← bytesOf_eq_flatMap]

/-- The bytes of a text are read back as the text. -/
theorem fromUTF8?_bytesOf (text : String) :
    String.fromUTF8? ⟨(bytesOf text).toArray⟩ = some text := by
  have whole : (⟨(bytesOf text).toArray⟩ : ByteArray) = text.toByteArray := rfl
  unfold String.fromUTF8?
  rw [whole, dif_pos text.isValidUTF8]
  rfl

/-- A character has one byte to four. -/
theorem length_bytesOf_bounds (value : String) :
    value.length ≤ (bytesOf value).length ∧ (bytesOf value).length ≤ 4 * value.length := by
  rw [bytesOf_eq_flatMap, ← String.length_toList]
  induction value.toList with
  | nil => exact ⟨Nat.le_refl _, Nat.le_refl _⟩
  | cons character rest hypothesis =>
    have bytes := String.length_utf8EncodeChar character
    have least := character.utf8Size_pos
    have most := character.utf8Size_le_four
    simp only [List.flatMap_cons, List.length_append, List.length_cons]
    omega

/-- `u8::is_ascii_digit`. -/
def isAsciiDigit (byte : UInt8) : Bool := 48 ≤ byte.toNat && byte.toNat ≤ 57

/-- `u8::is_ascii_lowercase`. -/
def isAsciiLowercase (byte : UInt8) : Bool := 97 ≤ byte.toNat && byte.toNat ≤ 122

/-- `u8::is_ascii_alphanumeric`. -/
def isAsciiAlphanumeric (byte : UInt8) : Bool :=
  isAsciiDigit byte || isAsciiLowercase byte || (65 ≤ byte.toNat && byte.toNat ≤ 90)

/-- `u8::is_ascii_hexdigit`. -/
def isAsciiHexDigit (byte : UInt8) : Bool :=
  isAsciiDigit byte || (97 ≤ byte.toNat && byte.toNat ≤ 102) ||
    (65 ≤ byte.toNat && byte.toNat ≤ 70)

/-- The byte of a hyphen. -/
def hyphen : UInt8 := 45

/-- `str::starts_with`. -/
def startsWith (value pattern : String) : Bool := (bytesOf pattern).isPrefixOf (bytesOf value)

/-- `str::ends_with`. -/
def endsWith (value pattern : String) : Bool := (bytesOf pattern).isSuffixOf (bytesOf value)

/-- A text of the given length with hexadecimal digits only. -/
def isHexadecimal (length : Nat) (value : String) : Bool :=
  value.utf8ByteSize == length && (bytesOf value).all isAsciiHexDigit

/-- An exact SHA-256 digest. -/
def isDigest (value : String) : Bool := isHexadecimal 64 value

/-- The Git object formats of `git_object.rs`. -/
inductive GitObjectFormat where
  | sha1
  | sha256
  deriving DecidableEq, Repr

namespace GitObjectFormat

/-- `GitObjectFormat::as_str`. -/
def asStr : GitObjectFormat → String
  | .sha1 => "sha1"
  | .sha256 => "sha256"

/-- `GitObjectFormat::oid_length`. -/
def oidLength : GitObjectFormat → Nat
  | .sha1 => 40
  | .sha256 => 64

/-- The condition of `GitObjectFormat::require_oid`. -/
def isOid (format : GitObjectFormat) (value : String) : Bool :=
  isHexadecimal format.oidLength value

/-- `GitObjectFormat::require_oid`. -/
def requireOid (format : GitObjectFormat) (value label : String) : Check :=
  let name := format.asStr
  check (format.isOid value) s!"{label} must be a full hexadecimal {name} Git object ID"

/-- `GitObjectFormat::require_oid` on every value of a list, under one label. -/
def requireOids (format : GitObjectFormat) (values : List String) (label : String) : Check :=
  let name := format.asStr
  check (values.all format.isOid) s!"{label} must be a full hexadecimal {name} Git object ID"

end GitObjectFormat

/-- The condition of `validate_cycle_id`: lower-case letters, digits and inner hyphens. -/
def isCycleId (cycleId : String) : Bool :=
  let bytes := bytesOf cycleId
  !bytes.isEmpty && cycleId.utf8ByteSize ≤ 128 &&
    bytes.all (fun byte => isAsciiLowercase byte || isAsciiDigit byte || byte == hyphen) &&
    bytes.head?.any isAsciiAlphanumeric && bytes.getLast?.any isAsciiAlphanumeric

/-- `validate_cycle_id`. -/
def validateCycleId (cycleId : String) : Check :=
  check (isCycleId cycleId) "cycle ID has invalid systemd identity grammar"

/-- The unit that `systemd_unit_name` gives a valid cycle. -/
def systemdUnitName (cycleId : String) : String := "iq-agent-" ++ cycleId ++ ".service"

/-- `validate_systemd_unit_name`. -/
def validateSystemdUnitName (cycleId unitName : String) : Check := do
  validateCycleId cycleId
  check (unitName == systemdUnitName cycleId)
    "systemd unit name differs from exact cycle authority"

end Iq
