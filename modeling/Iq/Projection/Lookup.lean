import Iq.Library.Decimal
import Iq.Library.Trim
import Iq.Lifecycle.Runs
import Iq.Projection.Issue
import Mathlib.Data.List.Dedup
import Mathlib.Data.List.Infix

/-!
# Issues found and synchronized

What a lookup returns and what a synchronization leaves. A rendered body names its item first, so it
has one identity marker; the lookup asks which bodies contain that marker, and a body contains more
than it is marked with: the JSON under the marker carries texts of agents and reviewers.
-/

namespace Iq

open Library

/-! ## Lines that open no tag -/

/-- No line of a text opens with a tag; the first line goes on from white space only, or not. -/
def OpensNoTag : Bool → List Char → Prop
  | _, [] => True
  | blank, character :: rest =>
    (character = '<' → blank = false) ∧
      OpensNoTag (if character = '\n' then true else blank && isWhiteSpace character) rest

/-- A text that opens no tag after a blank opens none otherwise. -/
theorem OpensNoTag.weaken {blank : Bool} {text : List Char} (opens : OpensNoTag true text) :
    OpensNoTag blank text := by
  induction text generalizing blank with
  | nil => trivial
  | cons character rest weaken_rest =>
    refine ⟨fun tag => absurd (opens.1 tag) (by decide), ?_⟩
    have later := opens.2
    split
    · rename_i feed
      rw [if_pos feed] at later
      exact later
    · rename_i other
      rw [if_neg other] at later
      cases white : isWhiteSpace character with
      | true =>
        rw [white] at later
        rw [Bool.and_true]
        exact weaken_rest later
      | false =>
        rw [white] at later
        rw [Bool.and_false]
        exact later

/-- Texts that open no tag open none together. -/
theorem OpensNoTag.append {blank : Bool} {first second : List Char}
    (opens : OpensNoTag blank first) (opens_second : OpensNoTag true second) :
    OpensNoTag blank (first ++ second) := by
  induction first generalizing blank with
  | nil => exact opens_second.weaken
  | cons character rest append_rest => exact ⟨opens.1, append_rest opens.2⟩

/-- Text without tags. -/
theorem opensNoTag_of_not_mem {blank : Bool} {text : List Char} (free : '<' ∉ text) :
    OpensNoTag blank text := by
  induction text generalizing blank with
  | nil => trivial
  | cons character rest opens_rest =>
    rw [List.mem_cons, not_or] at free
    exact ⟨fun tag => absurd tag.symm free.1, opens_rest free.2⟩

/-- Text that goes on with a line. -/
theorem opensNoTag_of_line {text : List Char} (free : '\n' ∉ text) : OpensNoTag false text := by
  induction text with
  | nil => trivial
  | cons character rest opens_rest =>
    rw [List.mem_cons, not_or] at free
    refine ⟨fun _ => rfl, ?_⟩
    rw [if_neg (Ne.symm free.1), Bool.false_and]
    exact opens_rest free.2

/-- A line opens with something else than a tag. -/
def OpensOtherwise (line : List Char) : Prop := (line.dropWhile isWhiteSpace).head? ≠ some '<'

/-- Every line of a text that opens no tag, but for the first one when it goes on with a line. -/
theorem OpensNoTag.lines {blank : Bool} {text : List Char} (opens : OpensNoTag blank text) :
    ∃ first later, text.splitOn '\n' = first :: later ∧
      (blank = true → OpensOtherwise first) ∧ ∀ line ∈ later, OpensOtherwise line := by
  induction text generalizing blank with
  | nil => exact ⟨[], [], rfl, fun _ => nofun, nofun⟩
  | cons character rest lines_rest =>
    obtain ⟨first, later, pieces, opens_first, opens_later⟩ := lines_rest opens.2
    rw [List.splitOn_cons_eq_if_modifyHead, pieces]
    by_cases feed : character = '\n'
    · rw [feed, if_pos (beq_self_eq_true _)]
      refine ⟨[], first :: later, rfl, fun _ => nofun, ?_⟩
      rw [List.forall_mem_cons]
      exact ⟨opens_first (if_pos feed), opens_later⟩
    · rw [if_neg (mt beq_iff_eq.mp feed), List.modifyHead_cons]
      refine ⟨character :: first, later, rfl, fun starts => ?_, opens_later⟩
      rw [if_neg feed, starts, Bool.true_and] at opens_first
      unfold OpensOtherwise
      by_cases white : isWhiteSpace character = true
      · rw [List.dropWhile_cons_of_pos white]
        exact opens_first white
      · rw [List.dropWhile_cons_of_neg white]
        intro tag
        rw [opens.1 (Option.some.inj tag)] at starts
        cases starts

/-! ## JSON opens no tag -/

/-- An escaped character has no line break. -/
theorem not_mem_escapeCharacter (character : Char) :
    '\n' ∉ JsonText.escapeCharacter character := by
  by_cases feed : character = '\n'
  · rw [feed]
    decide
  · have digit : ∀ value < 16, '\n' ≠ Hex.digit value := by decide
    unfold JsonText.escapeCharacter
    split_ifs with _ _ _ _ _ _ _ control
    all_goals try simp [Ne.symm feed]
    exact ⟨digit _ (by omega), digit _ (by omega)⟩

/-- A quoted text opens no tag. -/
theorem opensNoTag_quoted (value : String) : OpensNoTag true (JsonText.quoted value) := by
  have line : '\n' ∉ value.toList.flatMap JsonText.escapeCharacter ++ ['"'] := by
    rw [List.mem_append, List.mem_flatMap, not_or]
    refine ⟨fun ⟨character, _, mem⟩ => not_mem_escapeCharacter character mem, by decide⟩
  exact ⟨nofun, opensNoTag_of_line line⟩

/-- An indented line opens no tag. -/
theorem opensNoTag_newline (depth : Nat) : OpensNoTag true (JsonText.newline depth) := by
  refine opensNoTag_of_not_mem ?_
  simp [JsonText.newline, List.mem_replicate]

/-- A numeral has no angle bracket. -/
theorem not_mem_digits (value : Nat) : '<' ∉ JsonText.digits value := by
  intro tag
  have digits : JsonText.digits value = Decimal.digits value := String.toList_ofList
  rw [digits] at tag
  exact absurd (Decimal.isDigit_of_mem_digits tag) (by decide)

mutual

/-- The text of a value opens no tag, whatever texts the value holds. -/
theorem opensNoTag_pretty (depth : Nat) : ∀ value : JsonText, OpensNoTag true (value.pretty depth)
  | .null => opensNoTag_of_not_mem (by simp [JsonText.pretty])
  | .bool true => opensNoTag_of_not_mem (by simp [JsonText.pretty])
  | .bool false => opensNoTag_of_not_mem (by simp [JsonText.pretty])
  | .number value => opensNoTag_of_not_mem (not_mem_digits value)
  | .integer value => opensNoTag_of_not_mem (by
      cases value with
      | ofNat value => exact not_mem_digits value
      | negSucc value =>
        show '<' ∉ ("-" ++ (value + 1).repr).toList
        rw [String.toList_append, List.mem_append, not_or]
        exact ⟨by decide +kernel, not_mem_digits (value + 1)⟩)
  | .text value => opensNoTag_quoted value
  | .array items => by
    unfold JsonText.pretty
    split
    · exact opensNoTag_of_not_mem (by decide)
    · have inner := ((opensNoTag_prettyItems (depth + 1) items).append
        (opensNoTag_newline depth)).append (@opensNoTag_of_not_mem _ [']'] (by decide))
      exact (@opensNoTag_of_not_mem _ ['['] (by decide)).append inner
  | .object fields => by
    unfold JsonText.pretty
    split
    · exact opensNoTag_of_not_mem (by decide)
    · have inner := ((opensNoTag_prettyFields (depth + 1) fields).append
        (opensNoTag_newline depth)).append (@opensNoTag_of_not_mem _ ['\x7d'] (by decide))
      exact (@opensNoTag_of_not_mem _ ['\x7b'] (by decide)).append inner

/-- The items of an array open no tag. -/
theorem opensNoTag_prettyItems (depth : Nat) :
    ∀ items : List JsonText, OpensNoTag true (JsonText.prettyItems depth items)
  | [] => trivial
  | item :: rest => by
    unfold JsonText.prettyItems
    refine (((opensNoTag_newline depth).append (opensNoTag_pretty depth item)).append
      (opensNoTag_of_not_mem ?_)).append (opensNoTag_prettyItems depth rest)
    split <;> decide

/-- The fields of an object open no tag. -/
theorem opensNoTag_prettyFields (depth : Nat) :
    ∀ fields : List (String × JsonText), OpensNoTag true (JsonText.prettyFields depth fields)
  | [] => trivial
  | (name, value) :: rest => by
    have field := (@opensNoTag_of_not_mem true [':', ' '] (by decide)).append
      (opensNoTag_pretty depth value)
    unfold JsonText.prettyFields
    refine ((((opensNoTag_newline depth).append (opensNoTag_quoted name)).append field).append
      (opensNoTag_of_not_mem ?_)).append (opensNoTag_prettyFields depth rest)
    split <;> decide

end

/-! ## The marker of a body -/

/-- The marker of an item. -/
def itemMarker (itemId : String) : String := "iq:item:" ++ itemId

/-- A terminated line is a piece up to white space. -/
theorem mem_terminatedLines {pieces : List (List Char)} {line : List Char}
    (mem : line ∈ terminatedLines pieces) :
    ∃ piece ∈ pieces, trimCharacters line = trimCharacters piece := by
  have stripped : ∀ piece, trimCharacters (stripCarriageReturn piece) = trimCharacters piece := by
    intro piece
    unfold stripCarriageReturn
    split
    · rename_i ends
      obtain ⟨front, whole⟩ := List.getLast?_eq_some_iff.mp ends
      rw [whole, List.dropLast_concat]
      exact (trim_concat (by decide)).symm
    · rfl
  induction pieces using terminatedLines.induct with
  | case1 => cases mem
  | case2 last empty =>
    rw [terminatedLines, if_pos empty] at mem
    cases mem
  | case3 last some_character =>
    rw [terminatedLines, if_neg some_character] at mem
    exact ⟨line, mem, rfl⟩
  | case4 piece rest other mem_rest =>
    rw [terminatedLines] at mem
    · rcases List.mem_cons.mp mem with rfl | later
      · exact ⟨piece, List.mem_cons_self, stripped piece⟩
      · obtain ⟨source, there, same⟩ := mem_rest later
        exact ⟨source, List.mem_cons_of_mem _ there, same⟩
    · exact other

/-- A line that opens with something else than a tag marks no binding. -/
theorem bindingMarker_of_opensOtherwise {line piece : List Char} (opens : OpensOtherwise piece)
    (same : trimCharacters line = trimCharacters piece) : bindingMarker line = none := by
  have other : "<!-- iq:binding:".toList.isPrefixOf (trimCharacters line) = false := by
    rw [same, ← Bool.not_eq_true, List.isPrefixOf_iff_prefix]
    rintro ⟨rest, whole⟩
    refine opens (head?_of_trim ?_)
    show (trimCharacters piece).head? = some '<'
    rw [← whole]
    rfl
  unfold bindingMarker stripPrefix
  rw [other]
  rfl

section

variable {itemId json : String}

/-- The line that marks the item. -/
def markerLine (itemId : String) : List Char :=
  "<!-- iq:item:".toList ++ itemId.toList ++ " -->".toList

/-- What follows the line that marks the item. -/
def bodyRest (json : List Char) : List Char := "```json\n".toList ++ json ++ "\n```".toList

/-- The body is the marker line and what follows it. -/
theorem toList_issueBody (itemId json : String) :
    (issueBody itemId json).toList = markerLine itemId ++ '\n' :: bodyRest json.toList := by
  have opening : " -->\n```json\n".toList = " -->".toList ++ '\n' :: "```json\n".toList := by
    decide +kernel
  unfold issueBody markerLine bodyRest
  rw [String.toList_append, String.toList_append, String.toList_append, String.toList_append,
    opening]
  simp only [List.append_assoc, List.cons_append]

/-- The marker line is one line. -/
theorem not_mem_markerLine (within : '\n' ∉ itemId.toList) : '\n' ∉ markerLine itemId := by
  have before : '\n' ∉ "<!-- iq:item:".toList := by decide +kernel
  have after : '\n' ∉ " -->".toList := by decide +kernel
  intro mem
  rcases List.mem_append.mp mem with mem | mem
  · rcases List.mem_append.mp mem with mem | mem
    · exact before mem
    · exact within mem
  · exact after mem

/-- The line that marks the item marks no binding. -/
theorem bindingMarker_markerLine {line : List Char}
    (same : trimCharacters line = trimCharacters (markerLine itemId)) :
    bindingMarker line = none := by
  have last : (markerLine itemId).getLast? = some '>' := by
    unfold markerLine
    rw [List.getLast?_append]
    rfl
  have whole : trimCharacters (markerLine itemId) = markerLine itemId := by
    refine trim_eq_self_iff.mpr ⟨fun first starts => ?_, fun final ends => ?_⟩
    · have tag : (markerLine itemId).head? = some '<' := rfl
      rw [tag] at starts
      cases starts
      decide
    · rw [last] at ends
      cases ends
      decide
  have other : stripPrefix "<!-- iq:binding:".toList (markerLine itemId) = none := rfl
  unfold bindingMarker
  rw [same, whole, other]
  rfl

/-- The marker of a text stands between its first opening and the end of that tag. -/
theorem issueMarker_eq_some {text : String} {before rest marker after : List Char}
    (opening : splitOnce "<!-- iq:".toList text.toList = some (before, rest))
    (closing : splitOnce " -->".toList ("iq:".toList ++ rest) = some (marker, after)) :
    issueMarker text = some (.ofList marker) := by
  simp only [issueMarker, opening, closing, Option.bind_eq_bind, Option.bind_some]

/-- A body is marked with the item that it is rendered for, whatever its JSON holds. -/
theorem projectionIdentityMarker_issueBody
    (plain : ∀ character ∈ itemId.toList, isIdCharacter character = true)
    (opens : OpensNoTag true json.toList) :
    projectionIdentityMarker (issueBody itemId json) = some (itemMarker itemId) := by
  have absent : ∀ {character : Char}, isIdCharacter character = false →
      character ∉ itemId.toList := fun other mem => by
    rw [plain _ mem] at other
    cases other
  have opens_rest : OpensNoTag true (bodyRest json.toList) := by
    have fence : '<' ∉ "```json\n".toList := by decide +kernel
    have closing : '<' ∉ "\n```".toList := by decide +kernel
    exact ((opensNoTag_of_not_mem fence).append opens).append (opensNoTag_of_not_mem closing)
  obtain ⟨first, later, rest_lines, opens_first, opens_later⟩ := opens_rest.lines
  have one_line := not_mem_markerLine (absent (by decide +kernel))
  have pieces :
      (issueBody itemId json).toList.splitOn '\n' = markerLine itemId :: first :: later := by
    obtain ⟨-, joined, free⟩ := splitOn_eq_iff.mp rest_lines
    rw [toList_issueBody, joined]
    generalize markerLine itemId = line at one_line
    refine splitOn_eq_iff.mpr
      ⟨List.cons_ne_nil _ _, ?_, List.forall_mem_cons.mpr ⟨one_line, free⟩⟩
    rw [List.intercalate_cons_cons]
    simp
  have no_binding : (linesOf (issueBody itemId json)).findSome? bindingMarker = none := by
    refine List.findSome?_eq_none_iff.mpr fun line mem => ?_
    unfold linesOf at mem
    rw [pieces] at mem
    obtain ⟨piece, there, same⟩ := mem_terminatedLines mem
    rcases List.mem_cons.mp there with rfl | there
    · exact bindingMarker_markerLine same
    · refine bindingMarker_of_opensOtherwise ?_ same
      rcases List.mem_cons.mp there with rfl | there
      · exact opens_first rfl
      · exact opens_later piece there
  have opening : splitOnce "<!-- iq:".toList (issueBody itemId json).toList =
      some ([], "item:".toList ++ itemId.toList ++ " -->".toList ++ '\n' :: bodyRest json.toList) := by
    rw [toList_issueBody]
    exact @splitOnce_cons_append _ _ _ '<' [] _ "!-- iq:".toList List.not_mem_nil
  have closing : splitOnce " -->".toList ("iq:".toList ++
      ("item:".toList ++ itemId.toList ++ " -->".toList ++ '\n' :: bodyRest json.toList)) =
      some ("iq:item:".toList ++ itemId.toList, '\n' :: bodyRest json.toList) := by
    have free : ' ' ∉ "iq:item:".toList ++ itemId.toList := by
      have before : ' ' ∉ "iq:item:".toList := by decide +kernel
      exact List.mem_append.not.mpr (not_or.mpr ⟨before, absent (by decide +kernel)⟩)
    have split := @splitOnce_cons_append _ _ _ ' ' ("iq:item:".toList ++ itemId.toList)
      ('\n' :: bodyRest json.toList) "-->".toList free
    have same : "iq:".toList ++ ("item:".toList ++ itemId.toList ++ " -->".toList ++
        '\n' :: bodyRest json.toList) = ("iq:item:".toList ++ itemId.toList) ++
          ' ' :: ("-->".toList ++ '\n' :: bodyRest json.toList) := by
      have marks : "iq:item:".toList = "iq:".toList ++ "item:".toList := by decide +kernel
      have closes : " -->".toList = ' ' :: "-->".toList := by decide +kernel
      rw [marks, closes]
      simp only [List.append_assoc, List.cons_append]
    rw [same]
    exact split
  unfold projectionIdentityMarker
  rw [no_binding]
  show issueMarker (issueBody itemId json) = some (itemMarker itemId)
  rw [issueMarker_eq_some opening closing]
  rw [itemMarker, String.ofList_append, String.ofList_toList, String.ofList_toList]

end

namespace RenderedProjection

/-- The projection that was rendered. -/
abbrev projection (origin : RenderedProjection) : IssueProjection := origin.source.projection

/-- The marker of the item that it was rendered for. -/
abbrev marker (origin : RenderedProjection) : String := itemMarker origin.source.itemId

/-- The body of a rendered projection holds its rendered JSON. -/
theorem exists_json (origin : RenderedProjection) :
    ∃ json, origin.projection.body = issueBody origin.source.itemId json ∧
      OpensNoTag true json.toList := by
  obtain ⟨source, plain⟩ := origin
  cases source with
  | effort value relevant =>
    refine ⟨_, rfl, ?_⟩
    rw [prettyText, String.toList_ofList]
    exact opensNoTag_pretty 0 value.issueState
  | reservation itemId =>
    refine ⟨_, rfl, ?_⟩
    have before : '<' ∉ "\x7b\"item_id\":\"".toList := by decide +kernel
    have after : '<' ∉ "\",\"state\":\"enqueued\"\x7d".toList := by decide +kernel
    have within : '<' ∉ itemId.toList := fun mem => absurd (plain '<' mem) (by decide)
    rw [String.toList_append, String.toList_append]
    exact ((opensNoTag_of_not_mem before).append (opensNoTag_of_not_mem within)).append
      (opensNoTag_of_not_mem after)

/-- The identity marker of a rendered body is that of its item. -/
theorem identityMarker (origin : RenderedProjection) :
    projectionIdentityMarker origin.projection.body = some origin.marker := by
  obtain ⟨json, body, opens⟩ := origin.exists_json
  rw [body]
  exact projectionIdentityMarker_issueBody origin.plain opens

end RenderedProjection

/-- To contain a text is to have it as an infix. -/
theorem containsCharacters_iff {pattern text : List Char} :
    containsCharacters pattern text = true ↔ pattern <:+: text := by
  unfold containsCharacters
  rw [List.any_eq_true, List.infix_iff_prefix_suffix]
  constructor
  · rintro ⟨tail, mem, starts⟩
    exact ⟨tail, List.isPrefixOf_iff_prefix.mp starts, (List.mem_tails _ _).mp mem⟩
  · rintro ⟨tail, starts, suffix⟩
    exact ⟨tail, (List.mem_tails _ _).mpr suffix, List.isPrefixOf_iff_prefix.mpr starts⟩

/-! ## Lookup -/

/-- The marker of an issue is its own. -/
def Issue.isMarked (issue : Issue) (marker : String) : Bool :=
  projectionIdentityMarker issue.body == some marker

/-- The marker line contains the marker. -/
theorem itemMarker_infix_markerLine (itemId : String) :
    (itemMarker itemId).toList <:+: markerLine itemId := by
  have marks : "<!-- iq:item:".toList = "<!-- ".toList ++ "iq:item:".toList := by decide +kernel
  have whole : (itemMarker itemId).toList = "iq:item:".toList ++ itemId.toList :=
    String.toList_append
  unfold markerLine
  rw [marks, whole, List.append_assoc "<!-- ".toList]
  exact List.infix_append ..

/-- A rendered body contains its own marker. -/
theorem mentions_of_isMarked {tracker : IssueTracker} {issue : Issue} {marker : String}
    (listed : issue ∈ tracker.issues) (own : issue.isMarked marker = true) :
    issue.mentions marker = true := by
  obtain ⟨origin, body⟩ := tracker.rendered issue listed
  have same := beq_iff_eq.mp own
  rw [body, origin.identityMarker, Option.some.injEq] at same
  obtain ⟨json, rendered, -⟩ := origin.exists_json
  have text : issue.body.toList = markerLine origin.source.itemId ++ '\n' :: bodyRest json.toList := by
    rw [body, rendered, toList_issueBody]
  have within : (itemMarker origin.source.itemId).toList <:+: issue.body.toList :=
    text ▸ (itemMarker_infix_markerLine _).trans (List.prefix_append _ _).isInfix
  rw [← same]
  exact containsCharacters_iff.mpr within

/-- The outcome of a lookup by the issues that contain the marker. -/
def outcomeOf (provider : IssueProvider) (marker : String) (containing : List Issue) :
    Except String (Option String) :=
  match containing with
  | [] => .ok none
  | [issue] => .ok (some (toString issue.number))
  | _ :: _ :: _ =>
    let name := provider.name
    .error s!"multiple {name} issues contain IQ marker {marker}"

/-- The lookup answers by the issues that mention the marker. -/
theorem findExactIssueCandidates_listed (provider : IssueProvider) (marker : String)
    (listed : List Issue) :
    findExactIssueCandidates (listed.map (Issue.listed provider)) marker provider.name =
      outcomeOf provider marker (listed.filter (·.mentions marker)) := by
  have numbers : ((listed.map (Issue.listed provider)).filter fun candidate =>
      candidate.body.any fun body => containsCharacters marker.toList body.toList).filterMap
        (fun candidate => (candidate.number.or candidate.iid).map toString) =
      (listed.filter (·.mentions marker)).map fun issue => toString issue.number := by
    rw [List.filter_map, List.filterMap_map, ← List.filterMap_eq_map]
    cases provider <;> rfl
  unfold findExactIssueCandidates
  simp only [numbers]
  cases listed.filter (·.mentions marker) with
  | nil => rfl
  | cons issue rest =>
    cases rest with
    | nil => rfl
    | cons other others => rfl

/-- A lookup depends on the issues of the repository that contain the marker. -/
theorem findIssue_rendered (provider : IssueProvider) (tracker : IssueTracker)
    (origin : RenderedProjection) :
    findIssue provider tracker origin.projection =
      outcomeOf provider origin.marker (tracker.issues.filter (·.mentions origin.marker)) := by
  have search : startsWith origin.marker "iq:binding:" = false := by
    have bytes : bytesOf origin.marker = bytesOf "iq:item:" ++ bytesOf origin.source.itemId := by
      rw [bytesOf_eq_flatMap, RenderedProjection.marker, itemMarker, String.toList_append,
        List.flatMap_append, ← bytesOf_eq_flatMap, ← bytesOf_eq_flatMap]
    have before : bytesOf "iq:item:" = [105, 113, 58, 105, 116, 101, 109, 58] := by decide +kernel
    have other : bytesOf "iq:binding:" = [105, 113, 58, 98, 105, 110, 100, 105, 110, 103, 58] := by
      decide +kernel
    rw [startsWith, bytes, before, other]
    rfl
  unfold findIssue
  rw [origin.identityMarker]
  show findExactIssueCandidates _ _ _ = _
  rw [search, if_neg (by decide), findExactIssueCandidates_listed]
  have perm := tracker.finds origin.marker
  cases found : (tracker.search origin.marker).filter (·.mentions origin.marker) with
  | nil =>
    rw [found] at perm
    rw [perm.nil_eq]
  | cons issue rest =>
    rw [found] at perm
    cases rest with
    | nil => rw [List.perm_singleton.mp perm.symm]
    | cons other others =>
      have length := perm.length_eq
      match issues : tracker.issues.filter (·.mentions origin.marker) with
      | [] => simp [issues] at length
      | [_] => simp [issues] at length
      | _ :: _ :: _ =>
        rw [issues]
        rfl

/-- A lookup returns the one issue of the item, and none when there is none. -/
structure FindsOwn (tracker : IssueTracker) (origin : RenderedProjection)
    (found : Except String (Option String)) : Prop where
  absent : tracker.issues.filter (·.isMarked origin.marker) = [] → found = .ok none
  present : ∀ issue, tracker.issues.filter (·.isMarked origin.marker) = [issue] →
    found = .ok (some (toString issue.number))

/-- Only the issues of the item contain its marker, or it has several of them. -/
def MarksOwn (tracker : IssueTracker) (origin : RenderedProjection) : Prop :=
  (∀ issue ∈ tracker.issues, issue.mentions origin.marker = true →
    issue.isMarked origin.marker = true) ∨
  2 ≤ (tracker.issues.filter (·.isMarked origin.marker)).length

variable {tracker : IssueTracker} {origin : RenderedProjection} {provider : IssueProvider}

/-- The issues of the item are among those that contain its marker. -/
theorem filter_isMarked_sublist (marker : String) :
    (tracker.issues.filter (·.isMarked marker)).Sublist
      (tracker.issues.filter (·.mentions marker)) := by
  have same : tracker.issues.filter (·.isMarked marker) =
      (tracker.issues.filter (·.mentions marker)).filter (·.isMarked marker) := by
    rw [List.filter_filter]
    refine List.filter_congr fun issue listed => ?_
    cases own : issue.isMarked marker with
    | false => rfl
    | true => rw [mentions_of_isMarked listed own, Bool.and_self]
  rw [same]
  exact List.filter_sublist

/-- A lookup that reports no issue, or one, found as many. -/
theorem length_le_of_outcome {own containing : List Issue} {marker : String}
    (single : own.length < 2)
    (absent : own = [] → outcomeOf provider marker containing = .ok none)
    (present : ∀ issue, own = [issue] →
      outcomeOf provider marker containing = .ok (some (toString issue.number))) :
    containing.length ≤ own.length := by
  match own, containing with
  | [], [] => exact Nat.le_refl _
  | [], [_] => cases absent rfl
  | [], _ :: _ :: _ => cases absent rfl
  | [_], [] => exact Nat.zero_le _
  | [_], [_] => exact Nat.le_refl _
  | [issue], _ :: _ :: _ => cases present issue rfl
  | _ :: _ :: rest, _ =>
    simp only [List.length_cons] at single
    omega

/-- The lookup finds the item's own issue if and only if only own issues mention the marker, or
there are several. -/
theorem findsOwn_iff (provider : IssueProvider) (tracker : IssueTracker)
    (origin : RenderedProjection) :
    FindsOwn tracker origin (findIssue provider tracker origin.projection) ↔
      MarksOwn tracker origin := by
  have sublist := @filter_isMarked_sublist tracker origin.marker
  rw [findIssue_rendered]
  constructor
  · intro finds
    by_cases several : 2 ≤ (tracker.issues.filter (·.isMarked origin.marker)).length
    · exact .inr several
    · left
      have same : tracker.issues.filter (·.isMarked origin.marker) =
          tracker.issues.filter (·.mentions origin.marker) :=
        sublist.eq_of_length_le
          (length_le_of_outcome (Nat.not_le.mp several) finds.absent finds.present)
      intro issue listed mentions
      have mem : issue ∈ tracker.issues.filter (·.mentions origin.marker) :=
        List.mem_filter.mpr ⟨listed, mentions⟩
      rw [← same] at mem
      exact (List.mem_filter.mp mem).2
  · rintro (only | several)
    · have same : tracker.issues.filter (·.mentions origin.marker) =
          tracker.issues.filter (·.isMarked origin.marker) :=
        List.filter_congr fun issue listed => Bool.eq_iff_iff.mpr
          ⟨only issue listed, mentions_of_isMarked listed⟩
      rw [same]
      exact ⟨fun none_own => by rw [none_own]; rfl, fun issue own => by rw [own]; rfl⟩
    · refine ⟨fun none_own => ?_, fun issue own => ?_⟩
      · rw [none_own] at several
        cases several
      · rw [own] at several
        exact absurd several (Nat.not_le.mpr (Nat.lt_succ_self 1))

/-! ## Synchronization -/

/-- What one synchronization leaves, and what a second one would change. -/
structure SyncsExactly (issue : Issue) (projection : IssueProjection) : Prop where
  managed : ∀ label, isManaged label = true →
    (label ∈ (issue.synced projection).labels ↔ label ∈ projection.labels)
  others : ∀ label, isManaged label = false →
    (label ∈ (issue.synced projection).labels ↔ label ∈ issue.labels)
  commented : ∀ comment ∈ projection.comments, ∃ marker, issueMarker comment = some marker ∧
    ∃ there ∈ (issue.synced projection).comments, issueMarker there = some marker
  labels_settled : (issue.synced projection).labelUpdate projection = ⟨[], []⟩
  comments_settled : (issue.synced projection).addedComments projection = []

/-- The labels of a difference. -/
theorem mem_sortedDifference {label : String} {labels others : List String} :
    label ∈ sortedDifference labels others ↔ label ∈ labels ∧ label ∉ others := by
  unfold sortedDifference
  rw [List.mem_mergeSort, List.mem_dedup]
  simp

/-- Labels that are all there leave no difference. -/
theorem sortedDifference_eq_nil {labels others : List String}
    (subset : ∀ label ∈ labels, label ∈ others) : sortedDifference labels others = [] := by
  refine List.eq_nil_iff_forall_not_mem.mpr fun label mem => ?_
  have split := mem_sortedDifference.mp mem
  exact split.2 (subset label split.1)

/-- The labels of a synchronized issue. -/
theorem mem_labels_synced {issue : Issue} {projection : IssueProjection} {label : String} :
    label ∈ (issue.synced projection).labels ↔
      label ∈ projection.labels ∨ label ∈ issue.labels ∧ isManaged label = false := by
  have names : issue.viewLabels.filterMap IssueLabel.name = issue.labels := by
    unfold Issue.viewLabels
    rw [List.filterMap_map]
    exact List.filterMap_some
  have removed : label ∈ (issue.labelUpdate projection).remove ↔
      (label ∈ issue.labels ∧ isManaged label = true) ∧ label ∉ projection.labels := by
    unfold Issue.labelUpdate ManagedLabelUpdate.new
    rw [names, mem_sortedDifference, List.mem_filter]
  have added : label ∈ (issue.labelUpdate projection).add ↔
      label ∈ projection.labels ∧ label ∉ issue.labels := by
    unfold Issue.labelUpdate ManagedLabelUpdate.new
    rw [names, mem_sortedDifference]
  unfold Issue.synced
  simp only [List.mem_append, List.mem_filter, Bool.not_eq_true', ← Bool.not_eq_true,
    List.contains_iff_mem, removed, added]
  tauto

/-! ## Rendered projections -/

/-- A label with the prefix is managed. -/
theorem isManaged_append (rest : String) : isManaged ("iq:" ++ rest) = true := by
  have bytes : bytesOf ("iq:" ++ rest) = bytesOf "iq:" ++ bytesOf rest := by
    rw [bytesOf_eq_flatMap, String.toList_append, List.flatMap_append, ← bytesOf_eq_flatMap,
      ← bytesOf_eq_flatMap]
  unfold isManaged startsWith
  rw [bytes, List.isPrefixOf_iff_prefix]
  exact List.prefix_append _ _

/-- The labels of a rendered projection are managed. -/
theorem RenderedProjection.isManaged_of_mem (origin : RenderedProjection) {label : String}
    (mem : label ∈ origin.projection.labels) : isManaged label = true := by
  have status : ∀ name, isManaged ("iq:status:" ++ name) = true := by
    intro name
    have split : "iq:status:" ++ name = "iq:" ++ ("status:" ++ name) := by
      rw [← String.append_assoc]
      rfl
    rw [split]
    exact isManaged_append _
  obtain ⟨source, plain⟩ := origin
  cases source with
  | effort value relevant =>
    rcases List.mem_cons.mp mem with rfl | mem
    · decide +kernel
    · rw [List.mem_singleton.mp mem]
      exact status _
  | reservation itemId =>
    rcases List.mem_cons.mp mem with rfl | mem
    · decide +kernel
    · rw [List.mem_singleton.mp mem]
      exact status "ready"

/-- A text that opens with a tag and closes it is marked. -/
theorem exists_issueMarker {text : String} {rest : List Char}
    (opens : text.toList = "<!-- iq:".toList ++ rest) (closes : " -->".toList <:+: rest) :
    ∃ marker, issueMarker text = some marker := by
  have opening : splitOnce "<!-- iq:".toList text.toList = some ([], rest) := by
    rw [opens]
    exact @splitOnce_cons_append _ _ _ '<' [] _ "!-- iq:".toList List.not_mem_nil
  have closing := isSome_splitOnce (closes.trans (List.suffix_append "iq:".toList rest).isInfix)
  obtain ⟨⟨marker, after⟩, split⟩ := Option.isSome_iff_exists.mp closing
  exact ⟨.ofList marker, issueMarker_eq_some opening split⟩

/-- The comment of an event is marked, whatever its identifier is. -/
theorem exists_eventMarker {text : String} {id rest : List Char}
    (shape : text.toList = "<!-- iq:event:".toList ++ (id ++ (" -->".toList ++ rest))) :
    ∃ marker, issueMarker text = some marker := by
  have marks : "<!-- iq:event:".toList = "<!-- iq:".toList ++ "event:".toList := by decide +kernel
  have opens : text.toList =
      "<!-- iq:".toList ++ ("event:".toList ++ (id ++ (" -->".toList ++ rest))) := by
    rw [shape, marks, List.append_assoc]
  refine exists_issueMarker opens ?_
  have closes : " -->".toList <:+: " -->".toList ++ rest := (List.prefix_append _ _).isInfix
  have after_id := closes.trans (List.suffix_append id (" -->".toList ++ rest)).isInfix
  exact after_id.trans (List.suffix_append "event:".toList _).isInfix

/-- The comments of a rendered projection are marked. -/
theorem RenderedProjection.marked (origin : RenderedProjection) :
    ∀ comment ∈ origin.projection.comments, ∃ marker, issueMarker comment = some marker := by
  intro comment mem
  obtain ⟨source, plain⟩ := origin
  cases source with
  | effort value relevant =>
    obtain ⟨event, -, rfl⟩ := List.mem_map.mp mem
    have closing : " -->\n**".toList = " -->".toList ++ "\n**".toList := by decide +kernel
    have shape : event.comment.toList = "<!-- iq:event:".toList ++ (event.id.toList ++
        (" -->".toList ++ ("\n**".toList ++ (event.eventType.toList ++ ("**\n```json\n".toList ++
          ((prettyText event.payload).toList ++ "\n```".toList)))))) := by
      unfold IssueEvent.comment
      simp only [String.toList_append, List.append_assoc, closing]
    exact exists_eventMarker shape
  | reservation itemId =>
    rw [List.mem_singleton.mp mem]
    have closing : " -->\n**enqueued**".toList = " -->".toList ++ "\n**enqueued**".toList := by
      decide +kernel
    have opening : "<!-- iq:event:enqueued-".toList =
        "<!-- iq:event:".toList ++ "enqueued-".toList := by decide +kernel
    have shape : ("<!-- iq:event:enqueued-" ++ itemId ++ " -->\n**enqueued**").toList =
        "<!-- iq:event:".toList ++ (("enqueued-".toList ++ itemId.toList) ++
          (" -->".toList ++ "\n**enqueued**".toList)) := by
      simp only [String.toList_append, List.append_assoc, closing, opening]
    exact exists_eventMarker shape

/-- Every projected comment stands in the synchronized issue, or one with its marker does. -/
theorem exists_comment_synced (issue : Issue) (origin : RenderedProjection) :
    ∀ comment ∈ origin.projection.comments, ∃ marker, issueMarker comment = some marker ∧
      ∃ there ∈ (issue.synced origin.projection).comments, issueMarker there = some marker := by
  intro comment mem
  obtain ⟨marker, marked⟩ := origin.marked comment mem
  refine ⟨marker, marked, ?_⟩
  by_cases old : marker ∈ issue.comments.filterMap issueMarker
  · obtain ⟨there, listed, same⟩ := List.mem_filterMap.mp old
    exact ⟨there, List.mem_append_left _ listed, same⟩
  · have added : comment ∈ issue.addedComments origin.projection := by
      refine List.mem_filter.mpr ⟨mem, ?_⟩
      rw [marked]
      simpa using old
    exact ⟨comment, List.mem_append_right _ added, marked⟩

/-- One synchronization is enough. -/
theorem syncsExactly_rendered (issue : Issue) (origin : RenderedProjection) :
    SyncsExactly issue origin.projection := by
  have commented := exists_comment_synced issue origin
  have names : ((issue.synced origin.projection).viewLabels.filterMap IssueLabel.name) =
      (issue.synced origin.projection).labels := by
    unfold Issue.viewLabels
    rw [List.filterMap_map]
    exact List.filterMap_some
  refine ⟨fun label managed => ?_, fun label other => ?_, commented, ?_, ?_⟩
  · rw [mem_labels_synced, managed]
    simp
  · rw [mem_labels_synced, other]
    have unprojected : label ∉ origin.projection.labels := fun mem => by
      rw [origin.isManaged_of_mem mem] at other
      cases other
    simp [unprojected]
  · unfold Issue.labelUpdate ManagedLabelUpdate.new
    rw [names]
    refine (ManagedLabelUpdate.mk.injEq ..).mpr ⟨?_, ?_⟩
    · exact sortedDifference_eq_nil fun label mem => mem_labels_synced.mpr (.inl mem)
    · refine sortedDifference_eq_nil fun label mem => ?_
      obtain ⟨there, managed⟩ := List.mem_filter.mp mem
      rcases mem_labels_synced.mp there with projected | ⟨-, other⟩
      · exact projected
      · rw [managed] at other
        cases other
  · refine List.filter_eq_nil_iff.mpr fun comment mem => ?_
    obtain ⟨marker, marked, there, listed, same⟩ := commented comment mem
    have old : marker ∈ (issue.synced origin.projection).comments.filterMap issueMarker :=
      List.mem_filterMap.mpr ⟨there, listed, same⟩
    rw [marked]
    simpa using old

/-- A lookup returns the issue of the item, and a synchronization leaves it exact, exactly when only
the issues of the item contain its marker or it has several of them. -/
theorem issueSync_exact_iff (tracker : IssueTracker) (origin : RenderedProjection) :
    (FindsOwn tracker origin (findGithubIssue tracker origin.projection) ∧
      FindsOwn tracker origin (findGitlabIssue tracker origin.projection) ∧
      ∀ issue, SyncsExactly issue origin.projection) ↔ MarksOwn tracker origin :=
  ⟨fun exact_sync => (findsOwn_iff .github tracker origin).mp exact_sync.1, fun own =>
    ⟨(findsOwn_iff .github tracker origin).mpr own, (findsOwn_iff .gitlab tracker origin).mpr own,
      fun issue => syncsExactly_rendered issue origin⟩⟩

/-- A lookup that returns an issue of another item. -/
theorem not_findsOwn {found : Except String (Option String)} {number : String}
    (unmarked : tracker.issues.filter (·.isMarked origin.marker) = [])
    (wrong : found = .ok (some number)) : ¬FindsOwn tracker origin found := by
  intro finds
  have absent := finds.absent unmarked
  rw [wrong] at absent
  cases absent

namespace Sample

/-- An item without an issue. -/
def awaitedItem : RenderedProjection where
  source := .reservation "3d1f0c52-8a64-4a6e-9c3b-5f3f6a1f2b77"
  plain := List.all_eq_true.mp (by decide +kernel)

/-- The effort of another item, cancelled for a reason that names the first one. -/
def supersededEffort : IntegrationEffort :=
  { (newEffort "attempt" (.clean treeSha) .direct).row "effort" with
    itemId := "b7c0a9e4-1f2d-4c55-8e0a-7d9b3c6e5f10"
    state := .cancelled
      ⟨"cli:operator", "superseded by iq:item:3d1f0c52-8a64-4a6e-9c3b-5f3f6a1f2b77", "now"⟩ }

/-- The cancelled item. -/
def supersededItem : RenderedProjection where
  source := .effort supersededEffort []
  plain := List.all_eq_true.mp (by decide +kernel)

/-- The issue of the cancelled item. -/
def supersededIssue : Issue :=
  ⟨7, supersededItem.projection.body, supersededItem.projection.labels, []⟩

/-- A repository with that issue only. -/
def quotingTracker : IssueTracker where
  issues := [supersededIssue]
  search _ := [supersededIssue]
  rendered issue listed := ⟨supersededItem, by rw [List.mem_singleton.mp listed]; rfl⟩
  finds _ := List.Perm.refl _

/-- The reason stands in the body. -/
theorem supersededIssue_mentions : supersededIssue.mentions awaitedItem.marker = true := by
  have text : supersededIssue.body.toList = markerLine supersededEffort.itemId ++
      '\n' :: bodyRest (supersededEffort.issueState.pretty 0) := by
    refine (toList_issueBody _ _).trans ?_
    rw [prettyText, String.toList_ofList]
  unfold Issue.mentions
  rw [text]
  decide +kernel

/-- The sample's issue is not marked with the item that it quotes. -/
theorem supersededIssue_unmarked : supersededIssue.isMarked awaitedItem.marker = false := by
  have own : projectionIdentityMarker supersededIssue.body = some supersededItem.marker :=
    supersededItem.identityMarker
  unfold Issue.isMarked
  rw [own]
  decide +kernel

end Sample

/-- The issue of the cancelled item is taken for the one of the item that its reason names. -/
theorem quoted_marker_found :
    Sample.quotingTracker.issues.filter (·.isMarked Sample.awaitedItem.marker) = [] ∧
      findGithubIssue Sample.quotingTracker Sample.awaitedItem.projection = .ok (some "7") ∧
      ¬FindsOwn Sample.quotingTracker Sample.awaitedItem
        (findGithubIssue Sample.quotingTracker Sample.awaitedItem.projection) := by
  have unmarked :
      Sample.quotingTracker.issues.filter (·.isMarked Sample.awaitedItem.marker) = [] := by
    refine List.filter_eq_nil_iff.mpr fun issue listed => ?_
    rw [List.mem_singleton.mp listed, Sample.supersededIssue_unmarked]
    decide
  have containing :
      Sample.quotingTracker.issues.filter (·.mentions Sample.awaitedItem.marker) =
        [Sample.supersededIssue] := by
    refine List.filter_eq_self.mpr fun issue listed => ?_
    rw [List.mem_singleton.mp listed, Sample.supersededIssue_mentions]
  have found : findGithubIssue Sample.quotingTracker Sample.awaitedItem.projection =
      .ok (some "7") := by
    refine (findIssue_rendered .github Sample.quotingTracker Sample.awaitedItem).trans ?_
    rw [containing]
    rfl
  exact ⟨unmarked, found, not_findsOwn unmarked found⟩

end Iq
