import Iq.Domain.Lines
import Iq.Library.Decimal
import Iq.Library.Framing
import Iq.Library.JsonFields
import Iq.Library.Split
import Mathlib.Data.List.SplitBy
import Mathlib.Data.Set.Function

/-!
# Schema text

`canonical_schema_sql` writes a schema statement with one space in each gap between its words and
none at its ends, and leaves quoted text alone. A schema is compared through the digest of its
objects, each under its type and its name.
-/

namespace Iq

open Library

/-! ## Statements -/

/-- `Quote`. -/
inductive Quote where
  | single
  | double
  | backtick
  | bracket
  deriving DecidableEq, Repr

/-- The character that ends a quotation. -/
def Quote.closing : Quote → Char
  | .single => '\x27'
  | .double => '\x22'
  | .backtick => '\x60'
  | .bracket => ']'

/-- The quotation that a character begins. -/
def Quote.opened? (character : Char) : Option Quote :=
  if character = '\x27' then some .single
  else if character = '\x22' then some .double
  else if character = '\x60' then some .backtick
  else if character = '[' then some .bracket
  else none

/-- `char::is_ascii_whitespace`. -/
def isAsciiWhitespace (character : Char) : Bool :=
  character == ' ' || character == '\t' || character == '\n' || character == '\x0c' ||
    character == '\r'

/-- The loop of `canonical_schema_sql`: the open quotation, whether white space was passed, what is
written, and what is left to read. -/
def scanSchemaSql : Option Quote → Bool → List Char → List Char → List Char
  | _, _, canonical, [] => canonical
  | some _, _, canonical, [character] => canonical ++ [character]
  | some active, whitespace, canonical, character :: next :: rest =>
    if character = active.closing then
      -- a doubled quotation mark stays inside; brackets have none
      if active ≠ .bracket ∧ next = active.closing then
        scanSchemaSql (some active) whitespace (canonical ++ [character, next]) rest
      else scanSchemaSql none whitespace (canonical ++ [character]) (next :: rest)
    else scanSchemaSql (some active) whitespace (canonical ++ [character]) (next :: rest)
  | none, whitespace, canonical, character :: rest =>
    if isAsciiWhitespace character then scanSchemaSql none (!canonical.isEmpty) canonical rest
    else
      scanSchemaSql (Quote.opened? character) false
        ((if whitespace then canonical ++ [' '] else canonical) ++ [character]) rest

/-- `canonical_schema_sql`. -/
def canonicalSchemaSql (sql : String) : String :=
  .ofList (scanSchemaSql none false [] sql.toList)

/-! ## Segments -/

/-- Where a character of a statement stands. -/
inductive Mark where
  | outside
  | opening (quote : Quote)
  | inside (quote : Quote)
  deriving DecidableEq, Repr

/-- The mark of a character that is read outside quotations. -/
def Mark.start (character : Char) : Mark :=
  match Quote.opened? character with
  | some quote => .opening quote
  | none => .outside

/-- The characters of a statement with their marks; a quotation that nothing ends goes to the end of
the statement. -/
def marks : Option Quote → List Char → List (Char × Mark)
  | _, [] => []
  | some active, [character] => [(character, .inside active)]
  | some active, character :: next :: rest =>
    if character = active.closing then
      if active ≠ .bracket ∧ next = active.closing then
        (character, .inside active) :: (next, .inside active) :: marks (some active) rest
      else (character, .inside active) :: marks none (next :: rest)
    else (character, .inside active) :: marks (some active) (next :: rest)
  | none, character :: rest =>
    (character, .start character) :: marks (Quote.opened? character) rest

/-- White space outside quotations. -/
def isGap (marked : Char × Mark) : Bool := marked.2 == .outside && isAsciiWhitespace marked.1

/-- A character belongs to the segment of the one before it. -/
def continues (before marked : Char × Mark) : Bool :=
  match marked.2 with
  | .outside => before.2 == .outside
  | .opening _ => false
  | .inside _ => true

/-- The segments of a statement, which are its runs without white space and its quotations, in the
words that white space outside quotations tells apart. -/
def segments (sql : String) : List (List (List (Char × Mark))) :=
  (wordsBy isGap (marks none sql.toList)).map (List.splitBy continues)

/-- The characters within quotations, with the quotation marks. -/
def quotedCharacters (sql : String) : List (Char × Mark) :=
  (marks none sql.toList).filter fun marked => marked.2 != .outside

/-- The space that is written into a gap. -/
def gap : Char × Mark := (' ', .outside)

/-- A gap is one. -/
theorem isGap_gap : isGap gap = true := rfl

/-- What is quoted is no gap. -/
theorem not_isGap_inside {quote : Quote} {character : Char} :
    isGap (character, .inside quote) = false := rfl

/-- White space opens no quotation. -/
theorem opened?_of_isAsciiWhitespace {character : Char}
    (white : isAsciiWhitespace character = true) : Quote.opened? character = none := by
  simp only [isAsciiWhitespace, Bool.or_eq_true, beq_iff_eq] at white
  obtain (((rfl | rfl) | rfl) | rfl) | rfl := white <;> rfl

/-- Outside quotations white space is a gap. -/
theorem isGap_start {character : Char} :
    isGap (character, .start character) = isAsciiWhitespace character := by
  unfold isGap Mark.start
  by_cases white : isAsciiWhitespace character = true
  · rw [opened?_of_isAsciiWhitespace white, white]
    rfl
  · rw [Bool.eq_false_iff.mpr white, Bool.and_false]

/-- No quotation closes with a space. -/
theorem closing_ne_space (quote : Quote) : quote.closing ≠ ' ' := by
  cases quote <;> decide

/-- Outside quotations each character is marked and may open one. -/
theorem marks_outside (character : Char) (rest : List Char) :
    marks none (character :: rest) =
      (character, .start character) :: marks (Quote.opened? character) rest := by
  rw [marks]

/-- A space outside quotations is a gap. -/
theorem marks_space (rest : List Char) : marks none (' ' :: rest) = gap :: marks none rest := by
  rw [marks_outside]
  rfl

/-- A character that does not end the quotation stays inside, whatever follows. -/
theorem marks_quoted {active : Quote} {character : Char} (rest : List Char)
    (other : character ≠ active.closing) :
    marks (some active) (character :: rest) =
      (character, .inside active) :: marks (some active) rest := by
  cases rest with
  | nil => rfl
  | cons next later => rw [marks, if_neg other]

/-- The end of a quotation that no second quotation mark follows. -/
theorem marks_closing {active : Quote} (rest : List Char)
    (single : active ≠ .bracket → rest.head? ≠ some active.closing) :
    marks (some active) (active.closing :: rest) =
      (active.closing, .inside active) :: marks none rest := by
  cases rest with
  | nil => rfl
  | cons next later =>
    have alone : ¬(active ≠ .bracket ∧ next = active.closing) := fun both =>
      single both.1 (congrArg some both.2)
    rw [marks, if_pos rfl, if_neg alone]

/-- A gap does not begin with a quotation mark, and neither does what stood there before. -/
theorem head?_text_tidy {quote : Quote} {next : Char} {rest : List Char}
    (other : next ≠ quote.closing) :
    ((tidy isGap gap false true (marks none (next :: rest))).map Prod.fst).head? ≠
      some quote.closing := by
  rw [marks]
  by_cases white : isAsciiWhitespace next = true
  · rw [tidy_separating (isGap_start.trans white), List.head?_map]
    intro first
    obtain ⟨marked, head, same⟩ := Option.map_eq_some_iff.mp first
    rw [mem_head?_tidy_pending marked head] at same
    exact closing_ne_space quote same.symm
  · rw [tidy_kept (isGap_start.trans (Bool.eq_false_iff.mpr white))]
    simpa using other

/-- The marks of what is written are the tidy marks of what is read. -/
theorem marks_tidy (quote : Option Quote) (text : List Char) (pending started : Bool)
    (within : quote.isSome → pending = false) :
    marks quote ((tidy isGap gap pending started (marks quote text)).map Prod.fst) =
      tidy isGap gap pending started (marks quote text) := by
  induction quote, text using marks.induct generalizing pending started with
  | case1 quote => cases quote <;> rfl
  | case2 active character =>
    obtain rfl := within rfl
    rfl
  | case3 active next rest both marks_rest =>
    obtain rfl := within rfl
    obtain ⟨plain, rfl⟩ := both
    rw [marks, if_pos rfl, if_pos ⟨plain, rfl⟩, tidy_kept not_isGap_inside,
      tidy_kept not_isGap_inside, List.map_cons, List.map_cons, marks, if_pos rfl,
      if_pos ⟨plain, rfl⟩, marks_rest _ _ fun _ => rfl]
  | case4 active next rest alone marks_rest =>
    obtain rfl := within rfl
    have single : active ≠ .bracket → ((tidy isGap gap false true
        (marks none (next :: rest))).map Prod.fst).head? ≠ some active.closing := fun plain =>
      head?_text_tidy fun same => alone ⟨plain, same⟩
    rw [marks, if_pos rfl, if_neg alone, tidy_kept not_isGap_inside, List.map_cons,
      marks_closing _ single, marks_rest _ _ nofun]
  | case5 active character next rest other marks_rest =>
    obtain rfl := within rfl
    rw [marks, if_neg other, tidy_kept not_isGap_inside, List.map_cons, marks_quoted _ other,
      marks_rest _ _ fun _ => rfl]
  | case6 character rest marks_rest =>
    rw [marks_outside]
    by_cases white : isAsciiWhitespace character = true
    · have closed := opened?_of_isAsciiWhitespace white
      rw [tidy_separating (isGap_start.trans white)]
      rw [closed] at marks_rest ⊢
      exact marks_rest _ _ nofun
    · have kept := isGap_start.trans (Bool.eq_false_iff.mpr white)
      cases pending with
      | true =>
        rw [tidy_pending kept]
        show marks none (' ' :: character :: _) = _
        rw [marks_space, marks_outside]
        exact congrArg _ (congrArg _ (marks_rest false true fun _ => rfl))
      | false =>
        rw [tidy_kept kept, List.map_cons, marks_outside, marks_rest _ _ fun _ => rfl]

/-- What is written is not empty. -/
theorem isEmpty_written (front rest : List Char) (character : Char) :
    (!(front ++ character :: rest).isEmpty) = true := by cases front <;> rfl

/-- The scanner writes the tidy marks of what it reads. -/
theorem scanSchemaSql_eq (quote : Option Quote) (text : List Char) (pending : Bool)
    (canonical : List Char) (within : quote.isSome → pending = false) :
    scanSchemaSql quote pending canonical text =
      canonical ++ (tidy isGap gap pending (!canonical.isEmpty) (marks quote text)).map Prod.fst := by
  induction quote, text using marks.induct generalizing pending canonical with
  | case1 quote => cases quote <;> simp [scanSchemaSql, marks, tidy]
  | case2 active character =>
    obtain rfl := within rfl
    rfl
  | case3 active next rest both scan_rest =>
    obtain rfl := within rfl
    rw [scanSchemaSql, if_pos rfl, if_pos both, scan_rest _ _ fun _ => rfl, marks, if_pos rfl,
      if_pos both, tidy_kept not_isGap_inside, tidy_kept not_isGap_inside, isEmpty_written]
    simp
  | case4 active next rest alone scan_rest =>
    obtain rfl := within rfl
    rw [scanSchemaSql, if_pos rfl, if_neg alone, scan_rest _ _ (by rintro ⟨⟩), marks, if_pos rfl,
      if_neg alone, tidy_kept not_isGap_inside, isEmpty_written]
    simp
  | case5 active character next rest other scan_rest =>
    obtain rfl := within rfl
    rw [scanSchemaSql, if_neg other, scan_rest _ _ fun _ => rfl, marks, if_neg other,
      tidy_kept not_isGap_inside, isEmpty_written]
    simp
  | case6 character rest scan_rest =>
    rw [scanSchemaSql, marks_outside]
    by_cases white : isAsciiWhitespace character = true
    · have closed := opened?_of_isAsciiWhitespace white
      rw [closed] at scan_rest ⊢
      rw [if_pos white, tidy_separating (isGap_start.trans white), scan_rest _ _ (by rintro ⟨⟩)]
    · have kept := isGap_start.trans (Bool.eq_false_iff.mpr white)
      rw [if_neg white, scan_rest _ _ fun _ => rfl, isEmpty_written]
      cases pending with
      | true =>
        rw [tidy_pending kept]
        simp [gap]
      | false =>
        rw [tidy_kept kept]
        simp

/-- The statement that is written, by its marks. -/
theorem toList_canonicalSchemaSql (sql : String) :
    (canonicalSchemaSql sql).toList =
      (tidy isGap gap false false (marks none sql.toList)).map Prod.fst := by
  rw [canonicalSchemaSql, String.toList_ofList, scanSchemaSql_eq _ _ _ _ fun _ => rfl]
  rfl

/-- The canonical text has the marks of the text, tidied. -/
theorem marks_canonicalSchemaSql (sql : String) :
    marks none (canonicalSchemaSql sql).toList =
      tidy isGap gap false false (marks none sql.toList) := by
  rw [toList_canonicalSchemaSql]
  exact marks_tidy none sql.toList false false nofun

/-- The words of two statements are the same when their segments are. -/
theorem words_eq_of_segments {first second : List (List (Char × Mark))}
    (same : first.map (List.splitBy continues) = second.map (List.splitBy continues)) :
    first = second := by
  have joined : ∀ words : List (List (Char × Mark)),
      (words.map (List.splitBy continues)).map List.flatten = words := fun words => by
    rw [List.map_map]
    simp [Function.comp_def, List.flatten_splitBy]
  rw [← joined first, same, joined]

/-- What is written has the segments of what is read. -/
theorem segments_canonicalSchemaSql (sql : String) :
    segments (canonicalSchemaSql sql) = segments sql := by
  rw [segments, marks_canonicalSchemaSql, wordsBy_tidy isGap_gap]
  rfl

/-- The canonical text has the quoted characters of the text. -/
theorem quotedCharacters_canonicalSchemaSql (sql : String) :
    quotedCharacters (canonicalSchemaSql sql) = quotedCharacters sql := by
  have dropped : ∀ marked, isGap marked = true → (marked.2 != .outside) = false := fun marked gap =>
    by simpa using (Bool.and_eq_true_iff.mp gap).1
  rw [quotedCharacters, marks_canonicalSchemaSql, filter_tidy dropped rfl]
  rfl

/-- Two statements are written alike exactly when they have the same segments in the same words. -/
theorem canonicalSchemaSql_eq_iff {sql other : String} :
    canonicalSchemaSql sql = canonicalSchemaSql other ↔ segments sql = segments other := by
  constructor
  · intro same
    rw [← segments_canonicalSchemaSql sql, same, segments_canonicalSchemaSql]
  · intro same
    apply String.toList_injective
    rw [toList_canonicalSchemaSql, toList_canonicalSchemaSql, tidy_eq_intercalate,
      tidy_eq_intercalate, words_eq_of_segments same]

/-! ## Objects -/

/-- A row of `sqlite_schema`. -/
structure SchemaRow where
  objectType : String
  name : String
  sql : Option String
  deriving DecidableEq, Repr

/-- An entry of the map of schema objects, which is ordered by type and name. -/
structure SchemaObject where
  objectType : String
  name : String
  sql : String
  deriving DecidableEq, Repr

/-- An index that SQLite makes for a constraint, by its name. -/
def isAutomaticIndexName (name : List Char) : Bool :=
  match stripPrefix "sqlite_autoindex_".toList name with
  | none => false
  | some rest =>
    match rsplitOnce '_' rest with
    | none => false
    | some (table, ordinal) => !table.isEmpty && (Decimal.parse (2 ^ 32) ordinal).any (0 < ·)

/-- What a row adds to the map. -/
def SchemaRow.object? (row : SchemaRow) : Option SchemaObject :=
  if row.sql.isNone && row.objectType == "index" && isAutomaticIndexName row.name.toList then none
  else some ⟨row.objectType, row.name, canonicalSchemaSql (row.sql.getD "")⟩

/-- The order of the keys. -/
def SchemaObject.comesFirst (object other : SchemaObject) : Bool :=
  JsonText.isBefore object.objectType.toList other.objectType.toList ||
    object.objectType == other.objectType &&
      JsonText.isBefore object.name.toList other.name.toList

/-- `BTreeMap::insert`. -/
def insertObject (object : SchemaObject) : List SchemaObject → List SchemaObject
  | [] => [object]
  | other :: rest =>
    if object.objectType = other.objectType ∧ object.name = other.name then object :: rest
    else if object.comesFirst other then object :: other :: rest
    else other :: insertObject object rest

/-- `schema_objects`, from the rows that the database returns. -/
def schemaObjects (rows : List SchemaRow) : List SchemaObject :=
  (rows.filterMap SchemaRow.object?).foldl (fun objects object => insertObject object objects) []

/-- The texts of an object. -/
def SchemaObject.values (object : SchemaObject) : List (List UInt8) :=
  [bytesOf object.objectType, bytesOf object.name, bytesOf object.sql]

/-- The bytes that `schema_objects_sha256` passes to the digest. -/
def schemaBytes (objects : List SchemaObject) : List UInt8 :=
  framed 8 (objects.flatMap SchemaObject.values)

/-- `schema_objects_sha256`. -/
def schemaObjectsSha256 (sha256 : List UInt8 → String) (rows : List SchemaRow) : String :=
  sha256 (schemaBytes (schemaObjects rows))

/-- The length of every text fits in a `u64`, as it does for each `String` that a process can
hold. -/
def SchemaObject.Addressable (object : SchemaObject) : Prop :=
  ∀ value ∈ object.values, value.length < 256 ^ 8

/-- Objects are told apart by their values. -/
theorem values_injective : Function.Injective SchemaObject.values := by
  intro object other same
  simp only [SchemaObject.values, List.cons.injEq, and_true] at same
  cases object
  cases other
  simp_all [bytesOf_injective.eq_iff]

/-- Lists of objects are told apart by their values. -/
theorem flatMap_values_injective :
    Function.Injective fun objects : List SchemaObject => objects.flatMap SchemaObject.values := by
  intro objects others same
  induction objects generalizing others with
  | nil =>
    cases others with
    | nil => rfl
    | cons other later => simp [SchemaObject.values] at same
  | cons object rest injective_rest =>
    cases others with
    | nil => simp [SchemaObject.values] at same
    | cons other later =>
      simp only [List.flatMap_cons] at same
      obtain ⟨first, same⟩ := List.append_inj same rfl
      rw [values_injective first, injective_rest same]

/-- No two lists of objects give the digest the same bytes. -/
theorem schemaBytes_injective {objects others : List SchemaObject}
    (addressable : ∀ object ∈ objects, object.Addressable)
    (addressable_others : ∀ object ∈ others, object.Addressable)
    (same : schemaBytes objects = schemaBytes others) : objects = others := by
  have short : ∀ {objects : List SchemaObject}, (∀ object ∈ objects, object.Addressable) →
      ∀ value ∈ objects.flatMap SchemaObject.values, value.length < 256 ^ 8 := by
    intro objects addressable value mem
    obtain ⟨object, listed, mem⟩ := List.mem_flatMap.mp mem
    exact addressable object listed value mem
  exact flatMap_values_injective (framed_injective (short addressable) (short addressable_others) same)

/-- Schema statements are written exactly: writing one again changes nothing, quotations keep every
character, and two statements are written alike exactly when they have the same runs and quotations
with white space in the same gaps. The digest of a schema is taken over bytes that determine its
objects. -/
theorem schemaText_exact :
    (∀ sql, canonicalSchemaSql (canonicalSchemaSql sql) = canonicalSchemaSql sql) ∧
      (∀ sql, quotedCharacters (canonicalSchemaSql sql) = quotedCharacters sql) ∧
      (∀ sql other, canonicalSchemaSql sql = canonicalSchemaSql other ↔
        segments sql = segments other) ∧
      (∀ sha256 rows, schemaObjectsSha256 sha256 rows = sha256 (schemaBytes (schemaObjects rows))) ∧
      Set.InjOn schemaBytes {objects | ∀ object ∈ objects, object.Addressable} := by
  refine ⟨fun sql => ?_, quotedCharacters_canonicalSchemaSql, fun sql other => ?_,
    fun _ _ => rfl, ?_⟩
  · exact canonicalSchemaSql_eq_iff.mpr (segments_canonicalSchemaSql sql)
  · exact canonicalSchemaSql_eq_iff
  · intro objects addressable others addressable_others same
    exact schemaBytes_injective addressable addressable_others same

example : canonicalSchemaSql "  CREATE\n TABLE t ('a  ''b'  , [x  y]) " =
    "CREATE TABLE t ('a  ''b' , [x  y])" := by decide +kernel

end Iq
