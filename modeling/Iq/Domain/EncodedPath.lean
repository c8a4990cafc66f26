import Iq.Domain.State
import Iq.Library.Hex
import Iq.Library.Split
import Mathlib.Data.List.Forall2

/-!
# Encoded paths

`EncodedPath` and `EncodedAbsolutePath`: paths of arbitrary bytes as the hexadecimal text of each
component. The texts are read in either case and written in lower case, so a value that was read is
the one that its path is written as exactly when it is in lower case.
-/

namespace Iq

open Library

/-- `b'/'`. -/
def slash : UInt8 := 47

/-- `b'.'`. -/
def dot : UInt8 := 46

/-! ## Components -/

/-- `component.iter().map(|byte| format!("{byte:02x}")).collect()`. -/
def hexComponent (bytes : List UInt8) : String := String.ofList (Hex.encode bytes)

/-- `decode_path_component`. Text of other characters than ASCII digits is refused, so its length in
bytes is the one in characters. -/
def decodePathComponent (hex : String) : Except String (List UInt8) :=
  if hex.toList.isEmpty || hex.toList.length % 2 != 0 || !hex.toList.all Hex.isDigit then
    .error "encoded path component is not canonical hexadecimal"
  else
    match Hex.decode hex.toList with
    | none => .error "invalid digit found in string"
    | some bytes =>
      if bytes.isEmpty || bytes == [dot] || bytes == [dot, dot] || bytes.contains 0 ||
          bytes.contains slash then
        .error "encoded path component is invalid"
      else .ok bytes

/-! ## Relative paths -/

/-- The check that `EncodedPath::from_bytes` makes of a component, with its text. -/
def encodePathComponent (component : List UInt8) : Except String String :=
  if component.isEmpty || component == [dot] || component == [dot, dot] ||
      component.contains 0 then
    .error "protocol path has an invalid component"
  else .ok (hexComponent component)

namespace EncodedPath

/-- `EncodedPath::from_bytes`. -/
def fromBytes (path : List UInt8) : Except String EncodedPath :=
  if path.isEmpty || path.head? == some slash || path.getLast? == some slash then
    .error "protocol path must be a non-empty relative path"
  else do
    let components ← (path.splitOn slash).mapM encodePathComponent
    .ok ⟨components⟩

/-- `EncodedPath::to_bytes`. -/
def toBytes (encoded : EncodedPath) : Except String (List UInt8) :=
  if encoded.components.isEmpty then .error "encoded path has no components"
  else do
    let components ← encoded.components.mapM decodePathComponent
    .ok ([slash].intercalate components)

end EncodedPath

/-! ## Absolute paths -/

/-- `std::path::Component` of a Unix path. -/
inductive PathComponent where
  | rootDir
  | curDir
  | parentDir
  | normal (name : List UInt8)
  deriving DecidableEq, Repr

/-- A name between two separators; empty names and `.` are skipped. -/
def namedComponent (name : List UInt8) : Option PathComponent :=
  if name = [] ∨ name = [dot] then none
  else if name = [dot, dot] then some .parentDir
  else some (.normal name)

/-- `Path::components`. -/
def pathComponents (path : List UInt8) : List PathComponent :=
  let names := (path.splitOn slash).filterMap namedComponent
  if path.head? = some slash then .rootDir :: names
  else if (path.splitOn slash).head? = some [dot] then .curDir :: names
  else names

/-- `PathBuf::push`. -/
def pushPath (path name : List UInt8) : List UInt8 :=
  if name.head? = some slash then name
  else if path.getLast?.any (· != slash) then path ++ slash :: name
  else path ++ name

/-- `EncodedAbsolutePath`: the private field is written by `from_components` alone. -/
structure EncodedAbsolutePath where
  components : List String
  some_component : components.isEmpty = false
  decodes : (components.mapM decodePathComponent).isOk = true
  deriving DecidableEq, Repr

/-- The text of a component that `EncodedAbsolutePath::from_path` collects. -/
def absoluteComponent : PathComponent → Except String (Option String)
  | .rootDir => .ok none
  | .normal name => .ok (some (hexComponent name))
  | .curDir | .parentDir => .error "encoded absolute path is not canonical"

namespace EncodedAbsolutePath

/-- `EncodedAbsolutePath::from_components`, which is also what deserialization does with a list of
components. -/
def fromComponents (components : List String) : Except String EncodedAbsolutePath :=
  if some_component : components.isEmpty = false then
    match read : components.mapM decodePathComponent with
    | .error message => .error message
    | .ok _ => .ok ⟨components, some_component, by rw [read]; rfl⟩
  else .error "encoded absolute path has no components"

/-- `EncodedAbsolutePath::to_path_buf`. -/
def toPathBuf (encoded : EncodedAbsolutePath) : Except String (List UInt8) := do
  let components ← encoded.components.mapM decodePathComponent
  .ok (components.foldl pushPath [slash])

/-- `EncodedAbsolutePath::from_path`. -/
def fromPath (path : List UInt8) : Except String EncodedAbsolutePath :=
  if path.head? ≠ some slash then .error "encoded absolute path requires an absolute path"
  else do
    let components ← (pathComponents path).mapM absoluteComponent
    let encoded ← fromComponents (components.filterMap id)
    let written ← encoded.toPathBuf
    if written ≠ path then .error "encoded absolute path is not canonical"
    else .ok encoded

end EncodedAbsolutePath

/-! ## Lists of texts -/

/-- A list is read when each element is. -/
theorem mapM_eq_ok {α β ε : Type} {read : α → Except ε β} {list : List α} {values : List β} :
    list.mapM read = .ok values ↔
      List.Forall₂ (fun text value => read text = .ok value) list values := by
  induction list generalizing values with
  | nil =>
    rw [List.mapM_nil, List.forall₂_nil_left_iff]
    exact ⟨fun same => (Except.ok.inj same).symm, fun same => congrArg Except.ok same.symm⟩
  | cons text rest mapM_rest =>
    rw [List.mapM_cons, List.forall₂_cons_left_iff]
    cases first : read text with
    | error reason => exact ⟨nofun, fun ⟨_, _, same, _⟩ => nomatch same⟩
    | ok value =>
      cases others : rest.mapM read with
      | error reason =>
        refine ⟨nofun, fun ⟨_, later, _, reads, _⟩ => ?_⟩
        rw [mapM_rest.mpr reads] at others
        cases others
      | ok later =>
        have reads := mapM_rest.mp others
        constructor
        · intro same
          cases same
          exact ⟨value, later, rfl, reads, rfl⟩
        · rintro ⟨other, tail, same, tail_reads, rfl⟩
          cases same
          rw [mapM_rest.mpr tail_reads] at others
          cases others
          rfl

/-- A list whose entries are each read as one of another list. -/
theorem mapM_map_eq_ok {α β ε : Type} {read : α → Except ε β} {write : β → α} {values : List β}
    (reads : ∀ value ∈ values, read (write value) = .ok value) :
    (values.map write).mapM read = .ok values := by
  rw [mapM_eq_ok, List.forall₂_map_left_iff, List.forall₂_same]
  exact reads

/-! ## Components read and written -/

/-- A component that a canonical path may have. -/
structure IsComponent (component : List UInt8) : Prop where
  some_byte : component ≠ []
  current : component ≠ [dot]
  parent : component ≠ [dot, dot]
  no_nul : 0 ∉ component

/-- Hexadecimal text without upper-case digits. -/
def IsLowerCase (hex : String) : Prop := ∀ character ∈ hex.toList, Hex.isLower character = true

variable {hex : String} {component path : List UInt8} {encoded : EncodedPath}

/-- A component is encoded byte by byte. -/
theorem encodePathComponent_eq_ok :
    encodePathComponent component = .ok hex ↔
      IsComponent component ∧ hex = hexComponent component := by
  unfold encodePathComponent
  split
  · rename_i refused
    refine iff_of_false nofun fun accepted => ?_
    obtain ⟨⟨some_byte, current, parent, no_nul⟩, -⟩ := accepted
    simp [some_byte, current, parent, no_nul] at refused
  · rename_i accepted
    simp only [Bool.or_eq_true, List.isEmpty_iff, beq_iff_eq, List.contains_iff_mem,
      not_or] at accepted
    obtain ⟨⟨⟨some_byte, current⟩, parent⟩, no_nul⟩ := accepted
    constructor
    · intro same
      cases same
      exact ⟨⟨some_byte, current, parent, no_nul⟩, rfl⟩
    · rintro ⟨-, rfl⟩
      rfl

/-- What is read of a component is a component of a path, which is written as the same text exactly
when the text is in lower case. -/
theorem decodePathComponent_ok (read : decodePathComponent hex = .ok component) :
    IsComponent component ∧ slash ∉ component ∧
      (hexComponent component = hex ↔ IsLowerCase hex) := by
  unfold decodePathComponent at read
  split at read
  · cases read
  · split at read
    · cases read
    · rename_i bytes decoded
      split at read
      · cases read
      · rename_i accepted
        cases read
        simp only [Bool.or_eq_true, List.isEmpty_iff, beq_iff_eq, List.contains_iff_mem,
          not_or] at accepted
        obtain ⟨⟨⟨⟨some_byte, current⟩, parent⟩, no_nul⟩, no_slash⟩ := accepted
        refine ⟨⟨some_byte, current, parent, no_nul⟩, no_slash, ?_⟩
        rw [IsLowerCase, ← Hex.encode_eq_iff decoded, hexComponent, ← String.toList_inj,
          String.toList_ofList]

/-- A written component is read back. -/
theorem decodePathComponent_hexComponent (valid : IsComponent component)
    (no_slash : slash ∉ component) :
    decodePathComponent (hexComponent component) = .ok component := by
  have some_text : (Hex.encode component).isEmpty = false := by
    rw [List.isEmpty_eq_false_iff, ← List.length_pos_iff, Hex.length_encode]
    have some_byte := List.length_pos_iff.mpr valid.some_byte
    omega
  have even : (Hex.encode component).length % 2 = 0 := by
    rw [Hex.length_encode]
    omega
  have digits : (Hex.encode component).all Hex.isDigit = true :=
    List.all_eq_true.mpr fun _ mem => (Hex.isLower_of_mem_encode mem).2
  unfold decodePathComponent
  rw [hexComponent, String.toList_ofList, some_text, even, digits, Hex.decode_encode]
  simp [valid.some_byte, valid.current, valid.parent, valid.no_nul, no_slash]

/-! ## Canonical paths -/

/-- A non-empty relative path without NUL and without empty, `.` or `..` components. -/
structure IsRelativePath (path : List UInt8) : Prop where
  some_byte : path ≠ []
  relative : path.head? ≠ some slash
  no_nul : 0 ∉ path
  components : ∀ component ∈ path.splitOn slash,
    component ≠ [] ∧ component ≠ [dot] ∧ component ≠ [dot, dot]

/-- A relative path consists of components. -/
theorem isRelativePath_iff :
    IsRelativePath path ↔ ∀ component ∈ path.splitOn slash, IsComponent component := by
  have nul : (0 : UInt8) ∈ path ↔ ∃ component ∈ path.splitOn slash, 0 ∈ component :=
    mem_iff_mem_splitOn (by decide)
  constructor
  · intro relative component mem
    obtain ⟨some_byte, current, parent⟩ := relative.components component mem
    exact ⟨some_byte, current, parent, fun zero => relative.no_nul (nul.mpr ⟨component, mem, zero⟩)⟩
  · intro valid
    obtain ⟨some_piece, joined, free⟩ := splitOn_eq_iff.mp (rfl : path.splitOn slash = _)
    have ends := ends_of_intercalate some_piece fun piece mem => ⟨(valid piece mem).some_byte,
      free piece mem⟩
    rw [← joined] at ends
    refine ⟨ends.1, ends.2.1, fun zero => ?_, fun component mem => ?_⟩
    · obtain ⟨component, mem, inside⟩ := nul.mp zero
      exact (valid component mem).no_nul inside
    · exact ⟨(valid component mem).some_byte, (valid component mem).current,
        (valid component mem).parent⟩

/-- The texts that components are written as, when all of them are valid. -/
theorem mapM_encode_eq_ok {components : List (List UInt8)} {texts : List String} :
    components.mapM encodePathComponent = .ok texts ↔
      (∀ component ∈ components, IsComponent component) ∧ texts = components.map hexComponent := by
  rw [mapM_eq_ok]
  simp only [encodePathComponent_eq_ok]
  rw [List.forall₂_and_left]
  refine and_congr_right fun _ => ?_
  simp only [@eq_comm _ _ (hexComponent _)]
  rw [← List.forall₂_map_left_iff, List.forall₂_eq_eq_eq, eq_comm]

/-- What a path is encoded as. -/
theorem fromBytes_eq_ok :
    EncodedPath.fromBytes path = .ok encoded ↔
      IsRelativePath path ∧ encoded.components = (path.splitOn slash).map hexComponent := by
  have written : (do
      let components ← (path.splitOn slash).mapM encodePathComponent
      .ok (⟨components⟩ : EncodedPath) : Except String EncodedPath) = .ok encoded ↔
      IsRelativePath path ∧ encoded.components = (path.splitOn slash).map hexComponent := by
    rw [isRelativePath_iff, ← mapM_encode_eq_ok]
    cases (path.splitOn slash).mapM encodePathComponent with
    | error reason => exact ⟨nofun, nofun⟩
    | ok texts =>
      cases encoded with
      | mk components =>
        exact ⟨fun same => congrArg (Except.map EncodedPath.components) same,
          fun same => congrArg (Except.map EncodedPath.mk) same⟩
  unfold EncodedPath.fromBytes
  split
  · rename_i refused
    refine iff_of_false nofun fun accepted => ?_
    have valid := isRelativePath_iff.mp accepted.1
    obtain ⟨some_piece, joined, free⟩ := splitOn_eq_iff.mp (rfl : path.splitOn slash = _)
    have ends := ends_of_intercalate some_piece fun piece mem => ⟨(valid piece mem).some_byte,
      free piece mem⟩
    rw [← joined] at ends
    simp [ends.1, ends.2.1, ends.2.2] at refused
  · exact written

/-- What a list of texts denotes. -/
theorem mapM_decode_eq_ok {texts : List String} {components : List (List UInt8)}
    (read : texts.mapM decodePathComponent = .ok components) :
    (∀ component ∈ components, IsComponent component ∧ slash ∉ component) ∧
      (components.map hexComponent = texts ↔ ∀ text ∈ texts, IsLowerCase text) := by
  rw [mapM_eq_ok] at read
  induction read with
  | nil => simp
  | @cons text component texts components first _ read_rest =>
    obtain ⟨valid, no_slash, same⟩ := decodePathComponent_ok first
    constructor
    · rintro other (_ | ⟨_, mem⟩)
      · exact ⟨valid, no_slash⟩
      · exact read_rest.1 other mem
    · rw [List.map_cons, List.cons.injEq, same, read_rest.2, List.forall_mem_cons]

/-- The path that an encoded value denotes, by its components. -/
theorem toBytes_eq_ok (denotes : encoded.toBytes = .ok path) :
    encoded.components.mapM decodePathComponent = .ok (path.splitOn slash) ∧
      IsRelativePath path := by
  unfold EncodedPath.toBytes at denotes
  split at denotes
  · cases denotes
  · rename_i some_text
    cases read : encoded.components.mapM decodePathComponent with
    | error reason =>
      rw [read] at denotes
      cases denotes
    | ok components =>
      rw [read] at denotes
      cases denotes
      have valid := (mapM_decode_eq_ok read).1
      have some_piece : components ≠ [] := by
        rintro rfl
        rw [mapM_eq_ok, List.forall₂_nil_right_iff] at read
        simp [read] at some_text
      have pieces : ([slash].intercalate components).splitOn slash = components :=
        splitOn_eq_iff.mpr ⟨some_piece, rfl, fun piece mem => (valid piece mem).2⟩
      refine ⟨congrArg Except.ok pieces.symm, isRelativePath_iff.mpr ?_⟩
      rw [pieces]
      exact fun component mem => (valid component mem).1

/-- The texts of valid components are read back. -/
theorem mapM_decode_hexComponent (relative : IsRelativePath path) :
    ((path.splitOn slash).map hexComponent).mapM decodePathComponent =
      .ok (path.splitOn slash) := by
  obtain ⟨-, -, free⟩ := splitOn_eq_iff.mp (rfl : path.splitOn slash = _)
  apply mapM_map_eq_ok
  intro component mem
  exact decodePathComponent_hexComponent (isRelativePath_iff.mp relative component mem)
    (free component mem)

/-- A path is read back from its encoding. -/
theorem toBytes_of_fromBytes (written : EncodedPath.fromBytes path = .ok encoded) :
    encoded.toBytes = .ok path := by
  obtain ⟨relative, same⟩ := fromBytes_eq_ok.mp written
  obtain ⟨some_piece, joined, free⟩ := splitOn_eq_iff.mp (rfl : path.splitOn slash = _)
  have some_text : encoded.components.isEmpty = false := by
    rw [same, List.isEmpty_map, List.isEmpty_eq_false_iff]
    exact some_piece
  unfold EncodedPath.toBytes
  rw [some_text, same, mapM_decode_hexComponent relative, if_neg Bool.false_ne_true]
  exact congrArg Except.ok joined.symm

/-- An encoded value that denotes a path is its encoding exactly when it is in lower case. -/
theorem fromBytes_of_toBytes_iff (denotes : encoded.toBytes = .ok path) :
    EncodedPath.fromBytes path = .ok encoded ↔ ∀ hex ∈ encoded.components, IsLowerCase hex := by
  obtain ⟨read, relative⟩ := toBytes_eq_ok denotes
  rw [fromBytes_eq_ok, ← (mapM_decode_eq_ok read).2, and_iff_right relative, eq_comm]

/-! ## Absolute paths -/

variable {absolute : EncodedAbsolutePath}

/-- An encoded absolute path is determined by its texts, and any texts that are read make one. -/
theorem fromComponents_eq_ok {texts : List String} :
    EncodedAbsolutePath.fromComponents texts = .ok absolute ↔ absolute.components = texts := by
  obtain ⟨components, some_component, decodes⟩ := absolute
  unfold EncodedAbsolutePath.fromComponents
  constructor
  · intro made
    split at made
    · split at made
      · cases made
      · cases made
        rfl
    · cases made
  · rintro rfl
    rw [dif_pos some_component]
    split
    · rename_i read
      rw [read] at decodes
      cases decodes
    · rfl

/-- Names without a slash are pushed as they are joined. -/
theorem foldl_pushPath {components : List (List UInt8)} (front : List UInt8)
    (open_end : front.getLast? = some slash) (some_piece : components ≠ [])
    (free : ∀ component ∈ components, component ≠ [] ∧ slash ∉ component) :
    components.foldl pushPath front = front ++ [slash].intercalate components := by
  have first_push : ∀ component, component ≠ [] ∧ slash ∉ component →
      component.head? ≠ some slash := fun _ held starts => held.2 (List.mem_of_head? starts)
  -- Behind the first name every push writes a separator.
  have later : ∀ (rest : List (List UInt8)) (path : List UInt8) (last : UInt8),
      path.getLast? = some last → last ≠ slash →
      (∀ component ∈ rest, component ≠ [] ∧ slash ∉ component) →
      rest.foldl pushPath path = path ++ rest.flatMap (slash :: ·) := by
    intro rest
    induction rest with
    | nil => simp
    | cons component rest push_rest =>
      intro path last ends other free
      have held := free component List.mem_cons_self
      have pushed : pushPath path component = path ++ slash :: component := by
        rw [pushPath, if_neg (first_push component held), ends]
        simp [other]
      obtain ⟨final, final_eq⟩ := Option.ne_none_iff_exists'.mp
        (mt List.getLast?_eq_none_iff.mp held.1)
      have final_other : final ≠ slash := by
        rintro rfl
        exact held.2 (List.mem_of_getLast? final_eq)
      rw [List.foldl_cons, pushed, push_rest _ final ?_ final_other
        (fun other mem => free other (List.mem_cons_of_mem _ mem)), List.flatMap_cons]
      · simp
      · rw [List.getLast?_append, List.getLast?_cons, final_eq]
        rfl
  cases components with
  | nil => exact absurd rfl some_piece
  | cons component rest =>
    have held := free component List.mem_cons_self
    have pushed : pushPath front component = front ++ component := by
      rw [pushPath, if_neg (first_push component held), open_end]
      simp
    obtain ⟨final, final_eq⟩ := Option.ne_none_iff_exists'.mp
      (mt List.getLast?_eq_none_iff.mp held.1)
    have final_other : final ≠ slash := by
      rintro rfl
      exact held.2 (List.mem_of_getLast? final_eq)
    have joined : ∀ (rest : List (List UInt8)) (first : List UInt8),
        [slash].intercalate (first :: rest) = first ++ rest.flatMap (slash :: ·) := by
      intro rest
      induction rest with
      | nil => simp
      | cons second rest joined_rest =>
        intro first
        rw [List.intercalate_cons_cons, joined_rest, List.flatMap_cons]
        simp
    rw [List.foldl_cons, pushed, joined, later rest _ final ?_ final_other
      (fun other mem => free other (List.mem_cons_of_mem _ mem)), List.append_assoc]
    rw [List.getLast?_append, final_eq]
    rfl

/-- The path that an encoded absolute value denotes, by its components. -/
theorem toPathBuf_eq_ok (denotes : absolute.toPathBuf = .ok path) :
    ∃ rest, path = slash :: rest ∧ IsRelativePath rest ∧
      absolute.components.mapM decodePathComponent = .ok (rest.splitOn slash) := by
  unfold EncodedAbsolutePath.toPathBuf at denotes
  cases read : absolute.components.mapM decodePathComponent with
  | error reason =>
    rw [read] at denotes
    cases denotes
  | ok components =>
    rw [read] at denotes
    have written : components.foldl pushPath [slash] = path := Except.ok.inj denotes
    have valid := (mapM_decode_eq_ok read).1
    have some_piece : components ≠ [] := by
      rintro rfl
      rw [mapM_eq_ok, List.forall₂_nil_right_iff] at read
      have some_component := absolute.some_component
      rw [read] at some_component
      cases some_component
    have pieces : ([slash].intercalate components).splitOn slash = components :=
      splitOn_eq_iff.mpr ⟨some_piece, rfl, fun piece mem => (valid piece mem).2⟩
    rw [foldl_pushPath [slash] rfl some_piece fun component mem =>
      ⟨(valid component mem).1.some_byte, (valid component mem).2⟩] at written
    refine ⟨[slash].intercalate components, written.symm, isRelativePath_iff.mpr ?_, ?_⟩
    · rw [pieces]
      exact fun component mem => (valid component mem).1
    · rw [pieces]

/-- The components of an absolute path whose rest is canonical. -/
theorem pathComponents_absolute {rest : List UInt8} (relative : IsRelativePath rest) :
    pathComponents (slash :: rest) =
      .rootDir :: (rest.splitOn slash).map PathComponent.normal := by
  have names : (rest.splitOn slash).filterMap namedComponent =
      (rest.splitOn slash).map PathComponent.normal := by
    rw [← List.filterMap_eq_map]
    refine List.filterMap_congr fun name mem => ?_
    have valid := isRelativePath_iff.mp relative name mem
    rw [namedComponent, if_neg (not_or.mpr ⟨valid.some_byte, valid.current⟩), if_neg valid.parent]
    rfl
  have split : (slash :: rest).splitOn slash = [] :: rest.splitOn slash := by
    rw [List.splitOn_cons_eq_if_modifyHead, if_pos (beq_self_eq_true slash)]
  unfold pathComponents
  rw [split, List.filterMap_cons, names]
  rfl

/-- An absolute path with a canonical rest is encoded by the texts of its components. -/
theorem fromPath_absolute {rest : List UInt8} (relative : IsRelativePath rest) :
    EncodedAbsolutePath.fromPath (slash :: rest) = .ok absolute ↔
      absolute.components = (rest.splitOn slash).map hexComponent := by
  have collected : (pathComponents (slash :: rest)).mapM absoluteComponent =
      .ok (none :: (rest.splitOn slash).map fun name => some (hexComponent name)) := by
    rw [pathComponents_absolute relative, mapM_eq_ok]
    refine .cons rfl ?_
    rw [List.forall₂_map_left_iff, List.forall₂_map_right_iff, List.forall₂_same]
    exact fun _ _ => rfl
  have texts :
      (none :: (rest.splitOn slash).map fun name => some (hexComponent name)).filterMap id =
        (rest.splitOn slash).map hexComponent := by
    rw [List.filterMap_cons, List.filterMap_map, ← List.filterMap_eq_map]
    rfl
  have written : ∀ made : EncodedAbsolutePath,
      made.components = (rest.splitOn slash).map hexComponent →
        made.toPathBuf = .ok (slash :: rest) := by
    intro made same
    obtain ⟨some_piece, joined, free⟩ := splitOn_eq_iff.mp (rfl : rest.splitOn slash = _)
    unfold EncodedAbsolutePath.toPathBuf
    rw [same, mapM_decode_hexComponent relative]
    refine congrArg Except.ok ?_
    rw [foldl_pushPath [slash] rfl some_piece fun component mem =>
      ⟨(isRelativePath_iff.mp relative component mem).some_byte, free component mem⟩, ← joined]
    rfl
  have starts : ¬(slash :: rest).head? ≠ some slash := not_not.mpr rfl
  unfold EncodedAbsolutePath.fromPath
  rw [if_neg starts, collected]
  show (do
    let encoded ← EncodedAbsolutePath.fromComponents (List.filterMap id
      (none :: (rest.splitOn slash).map fun name => some (hexComponent name)))
    let written ← encoded.toPathBuf
    if written ≠ slash :: rest then
      .error "encoded absolute path is not canonical"
    else .ok encoded : Except String EncodedAbsolutePath) = .ok absolute ↔ _
  rw [texts, ← fromComponents_eq_ok]
  cases made : EncodedAbsolutePath.fromComponents ((rest.splitOn slash).map hexComponent) with
  | error reason => exact ⟨nofun, nofun⟩
  | ok encoded =>
    show (do
      let written ← encoded.toPathBuf
      if written ≠ slash :: rest then
        .error "encoded absolute path is not canonical"
      else .ok encoded : Except String EncodedAbsolutePath) = .ok absolute ↔ _
    rw [written encoded (fromComponents_eq_ok.mp made)]
    show (if slash :: rest ≠ slash :: rest then
        .error "encoded absolute path is not canonical"
      else .ok encoded : Except String EncodedAbsolutePath) = .ok absolute ↔ _
    rw [if_neg (not_not.mpr rfl)]

/-- An accepted absolute path is what its encoding denotes. -/
theorem toPathBuf_of_fromPath (written : EncodedAbsolutePath.fromPath path = .ok absolute) :
    absolute.toPathBuf = .ok path := by
  unfold EncodedAbsolutePath.fromPath at written
  split at written
  · cases written
  · cases collected : (pathComponents path).mapM absoluteComponent with
    | error reason =>
      rw [collected] at written
      cases written
    | ok texts =>
      rw [collected] at written
      change (EncodedAbsolutePath.fromComponents (texts.filterMap id) >>= _) = _ at written
      cases made : EncodedAbsolutePath.fromComponents (texts.filterMap id) with
      | error reason =>
        rw [made] at written
        cases written
      | ok encoded =>
        rw [made] at written
        change (encoded.toPathBuf >>= _) = _ at written
        cases read : encoded.toPathBuf with
        | error reason =>
          rw [read] at written
          cases written
        | ok back =>
          rw [read] at written
          change (if back ≠ path then
              .error "encoded absolute path is not canonical"
            else .ok encoded : Except String EncodedAbsolutePath) = .ok absolute at written
          split at written
          · cases written
          · rename_i same
            cases written
            rw [read, not_not.mp same]

/-- The accepted absolute paths are the canonical ones. -/
theorem fromPath_accepts_iff :
    (∃ absolute, EncodedAbsolutePath.fromPath path = .ok absolute) ↔
      ∃ rest, path = slash :: rest ∧ IsRelativePath rest := by
  constructor
  · rintro ⟨absolute, written⟩
    obtain ⟨rest, same, relative, -⟩ := toPathBuf_eq_ok (toPathBuf_of_fromPath written)
    exact ⟨rest, same, relative⟩
  · rintro ⟨rest, rfl, relative⟩
    have texts : ((rest.splitOn slash).map hexComponent).isEmpty = false := by
      rw [List.isEmpty_map, List.isEmpty_eq_false_iff]
      exact List.splitOn_ne_nil slash rest
    have decodes : (((rest.splitOn slash).map hexComponent).mapM decodePathComponent).isOk =
        true := by
      rw [mapM_decode_hexComponent relative]
      rfl
    exact ⟨⟨_, texts, decodes⟩, (fromPath_absolute relative).mpr rfl⟩

/-- An encoded absolute value that denotes a path is its encoding exactly when it is in lower
case. -/
theorem fromPath_of_toPathBuf_iff (denotes : absolute.toPathBuf = .ok path) :
    EncodedAbsolutePath.fromPath path = .ok absolute ↔
      ∀ hex ∈ absolute.components, IsLowerCase hex := by
  obtain ⟨rest, rfl, relative, read⟩ := toPathBuf_eq_ok denotes
  rw [fromPath_absolute relative, ← (mapM_decode_eq_ok read).2, eq_comm]

/-! ## The codecs -/

/-- Both codecs accept exactly the canonical paths and give them back, and an accepted encoding is
the one of its path exactly when its digits are in lower case. -/
theorem encodedPath_canonical_iff (path : List UInt8) (encoded : EncodedPath)
    (absolute : EncodedAbsolutePath) (texts : List String) :
    ((∃ written, EncodedPath.fromBytes path = .ok written) ↔ IsRelativePath path) ∧
    (EncodedPath.fromBytes path = .ok encoded → encoded.toBytes = .ok path) ∧
    (encoded.toBytes = .ok path →
      (EncodedPath.fromBytes path = .ok encoded ↔ ∀ hex ∈ encoded.components, IsLowerCase hex)) ∧
    ((∃ written, EncodedAbsolutePath.fromPath path = .ok written) ↔
      ∃ rest, path = slash :: rest ∧ IsRelativePath rest) ∧
    (EncodedAbsolutePath.fromPath path = .ok absolute → absolute.toPathBuf = .ok path) ∧
    (EncodedAbsolutePath.fromComponents texts = .ok absolute → absolute.toPathBuf = .ok path →
      (EncodedAbsolutePath.fromPath path = .ok absolute ↔ ∀ hex ∈ texts, IsLowerCase hex)) := by
  refine ⟨⟨?_, fun relative => ?_⟩, toBytes_of_fromBytes, fromBytes_of_toBytes_iff,
    fromPath_accepts_iff, toPathBuf_of_fromPath, fun made denotes => ?_⟩
  · rintro ⟨written, written_eq⟩
    exact (fromBytes_eq_ok.mp written_eq).1
  · exact ⟨⟨_⟩, fromBytes_eq_ok.mpr ⟨relative, rfl⟩⟩
  · rw [fromPath_of_toPathBuf_iff denotes, fromComponents_eq_ok.mp made]

/-- An upper-case spelling of a path is accepted beside the lower-case one. -/
theorem encodedPath_not_canonical :
    ¬((∀ path (encoded : EncodedPath), encoded.toBytes = .ok path →
        EncodedPath.fromBytes path = .ok encoded) ∧
      ∀ (encoded other : EncodedPath) path, encoded.toBytes = .ok path → other.toBytes = .ok path →
        encoded = other) := by
  rintro ⟨canonical, -⟩
  have written := canonical [74] ⟨["4A"]⟩ (by decide +kernel)
  have other : EncodedPath.fromBytes [74] = .ok ⟨["4a"]⟩ := by decide +kernel
  rw [other] at written
  have same : EncodedPath.mk ["4a"] = ⟨["4A"]⟩ := Except.ok.inj written
  exact absurd same (by decide)

end Iq
