import Iq.Domain.Lines
import Iq.Library.Decimal
import Iq.Library.Split
import Iq.Library.Trim
import Iq.Lifecycle.Identifiers
import Iq.Store.Candidate

/-!
# Candidates in Git

The commit that the candidate builder asks of Git, the texts that Git prints about a commit, and
what the builder reads out of them. Git itself is a parameter: it names the commit of a request and
prints what it keeps of one. The builder asks for a commit in two places, from its own constants and
from the stored intent, and checks it in three, always against what it reads back.
-/

namespace Iq

open Library

/-! ## Git -/

/-- The arguments and the environment of `git commit-tree`. -/
structure CommitRequest where
  treeSha : String
  parents : List String
  message : String
  authorName : String
  authorEmail : String
  authorDate : String
  committerName : String
  committerEmail : String
  committerDate : String
  deriving DecidableEq, Repr

/-- The commands of Git that make and print a commit. -/
structure Git where
  /-- `git commit-tree`, which prints the name of the commit. -/
  commitTree : CommitRequest → String
  /-- `git show -s --format=%T`. -/
  showTree : String → String
  /-- `git show -s --format=%P`. -/
  showParents : String → String
  /-- `git show -s --format=%an%x00%ae%x00%at%x00%cn%x00%ce%x00%ct%x00%B`. -/
  showMetadata : String → String
  /-- `git rev-list --parents -n 1`. -/
  revList : String → String
  /-- `git rev-parse` of the tree of a commit. -/
  revParseTree : String → String

/-- Texts joined by a separator. -/
def joined (separator : Char) (texts : List String) : String :=
  .ofList ([separator].intercalate (texts.map String.toList))

/-- A number that Git reads as the seconds of a date: of nine digits at least, and a year that the
calendar has. -/
def IsDate (seconds : Nat) : Prop := 100000000 ≤ seconds ∧ seconds < 2 ^ 53

/-- What Git documents of a commit that it made: its full name, and its fields as they were asked
for. A parent that was named before is ignored, a date is seconds and a zone, and a message ends in
a line feed. -/
structure Git.Documented (git : Git) (format : GitObjectFormat) (request : CommitRequest) :
    Prop where
  named : format.isOid (git.commitTree request) = true
  tree : git.showTree (git.commitTree request) = request.treeSha ++ "\n"
  parents : git.showParents (git.commitTree request) = joined ' ' request.parents.eraseDups ++ "\n"
  metadata : ∀ authored committed, IsDate authored → IsDate committed →
    request.authorDate = toString authored ++ " +0000" →
    request.committerDate = toString committed ++ " +0000" →
      git.showMetadata (git.commitTree request) =
        joined '\x00' [request.authorName, request.authorEmail, toString authored,
          request.committerName, request.committerEmail, toString committed,
          request.message ++ "\n\n"]

/-! ## Reading -/

/-- `str::trim`. -/
def trimText (text : String) : String := .ofList (trimCharacters text.toList)

/-- `str::trim_end`. -/
def trimEnd (text : List Char) : List Char := text.rdropWhile isWhiteSpace

/-- The names in a text: `split_whitespace` on the trimmed text. -/
def namesOf (printed : String) : List String := wordsOf (trimText printed)

/-- The fields of the metadata: `splitn(7, '\0')` on the trimmed text. -/
def metadataFields (printed : String) : List String :=
  (splitN '\x00' 7 (trimCharacters printed.toList)).map .ofList

/-- The marker of the builder operation in a message. -/
def operationMarker : List Char := "IQ-Builder-Operation: ".toList

/-- The operation that a message names. -/
def operationOf (body : String) : Option String :=
  ((linesOf body).findSome? (stripPrefix operationMarker)).map .ofList

/-- `CandidateObservation::read`; `reference` is the commit that the operation reference names. -/
def CandidateObservation.read (git : Git) (format : GitObjectFormat) (reference : Option String)
    (candidateSha operationRef : String) : Except String CandidateObservation := do
  format.requireOid candidateSha "candidate SHA"
  requireExactText operationRef "candidate operation ref"
  match reference with
  | none => .error "candidate Git observation failed"
  | some named =>
    check (named == candidateSha)
      "candidate operation ref does not name the observed candidate"
    let treeSha := trimText (git.showTree candidateSha)
    let parentShas := namesOf (git.showParents candidateSha)
    format.requireOid treeSha "candidate tree"
    format.requireOids parentShas "candidate parent"
    match metadataFields (git.showMetadata candidateSha) with
    | [authorName, authorEmail, authorTimestamp, committerName, committerEmail,
        committerTimestamp, body] =>
      match operationOf body with
      | none => .error "candidate message has no builder operation marker"
      | some operationId =>
        .ok {
          operationId
          candidateSha
          treeSha
          parentShas
          authorName
          authorEmail
          authorTimestamp
          committerName
          committerEmail
          committerTimestamp
          message := .ofList (trimEnd body.toList)
          operationRef }
    | _ => .error "candidate metadata observation is incomplete"

/-- The comparison of a commit with the stored intent in `reconcile_candidate_build`. -/
def CandidateBuilding.names (building : CandidateBuilding) (git : Git) (sha256 : String → String)
    (candidateSha : String) : Bool :=
  let treeSha := trimText (git.showTree candidateSha)
  treeSha == building.treeSha && sha256 treeSha == building.stagedTreeSha256 &&
    namesOf (git.showParents candidateSha) == building.parentShas &&
    match metadataFields (git.showMetadata candidateSha) with
    | [authorName, authorEmail, authorTimestamp, committerName, committerEmail,
        committerTimestamp, body] =>
      authorName == building.authorName && authorEmail == building.authorEmail &&
        authorTimestamp == building.authorTimestamp &&
        committerName == building.committerName &&
        committerEmail == building.committerEmail &&
        committerTimestamp == building.committerTimestamp &&
        String.ofList (trimEnd body.toList) == building.message
    | _ => false

/-- `verify_one_parent_candidate`. -/
def verifyOneParentCandidate (git : Git) (candidateSha base : String) : Bool :=
  namesOf (git.revList candidateSha) == [candidateSha, base] &&
    trimText (git.revParseTree candidateSha) != trimText (git.revParseTree base)

/-! ## The plan -/

/-- What `build_candidate` has read when it makes its intent. The identifiers are texts of `Uuid`s,
Git printed the tree and the commits under their full names, the import of the agent's result
compared its digest with the staged tree, and the clock gave a date. -/
structure CandidatePlan (git : Git) (sha256 : String → String) (format : GitObjectFormat) where
  itemId : String
  operationId : String
  landing : LandingVariant
  base : String
  sourceSha : String
  treeSha : String
  cycleId : String
  seconds : Nat
  dated : IsDate seconds
  item_plain : ∀ character ∈ itemId.toList, isIdCharacter character = true
  operation_plain : ∀ character ∈ operationId.toList, isIdCharacter character = true
  operation_some : operationId ≠ ""
  base_oid : format.isOid base = true
  source_oid : format.isOid sourceSha = true
  tree_oid : format.isOid treeSha = true

namespace CandidatePlan

variable {git : Git} {sha256 : String → String} {format : GitObjectFormat}
  (plan : CandidatePlan git sha256 format)

/-- The parents of the candidate. -/
def parents : List String :=
  match plan.landing with
  | .squash => [plan.base]
  | .direct | .provider => [plan.base, plan.sourceSha]

/-- The reference that keeps the commit of the operation. -/
def operationRef : String := "refs/iq/candidate-operations/" ++ plan.operationId

/-- The message of the commit, by how it lands. -/
def message : String :=
  match plan.landing with
  | .squash =>
    "Squash integrate queue item " ++ plan.itemId ++ "\n\nIQ-Builder-Operation: " ++
      plan.operationId
  | .direct | .provider =>
    "Integrate queue item " ++ plan.itemId ++ "\n\nIQ-Builder-Operation: " ++ plan.operationId

/-- The intent that the builder has accepted. -/
def intent : CandidateIntent where
  operationId := plan.operationId
  cycleId := plan.cycleId
  stagedTreeSha256 := sha256 plan.treeSha
  treeSha := plan.treeSha
  parents := plan.parents
  authorName := "IQ Integration Builder"
  authorEmail := "iq@localhost"
  authorTimestamp := toString plan.seconds
  committerName := "IQ Integration Builder"
  committerEmail := "iq@localhost"
  committerTimestamp := toString plan.seconds
  message := plan.message
  operationRef := plan.operationRef

/-- The commit that `build_candidate` asks for. -/
def request : CommitRequest where
  treeSha := plan.treeSha
  parents := plan.parents
  message := plan.message
  authorName := "IQ Integration Builder"
  authorEmail := "iq@localhost"
  authorDate := plan.intent.authorTimestamp ++ " +0000"
  committerName := "IQ Integration Builder"
  committerEmail := "iq@localhost"
  committerDate := plan.intent.committerTimestamp ++ " +0000"

/-- The commit of a plan. -/
def candidateSha : String := git.commitTree plan.request

end CandidatePlan

/-- The commit that `reconcile_candidate_build` asks for. -/
def CandidateBuilding.request (building : CandidateBuilding) : CommitRequest where
  treeSha := building.treeSha
  parents := building.parentShas
  message := building.message
  authorName := building.authorName
  authorEmail := building.authorEmail
  authorDate := building.authorTimestamp ++ " +0000"
  committerName := building.committerName
  committerEmail := building.committerEmail
  committerDate := building.committerTimestamp ++ " +0000"

/-! ## What is read back -/

/-- A text without white space. -/
def Plain (text : List Char) : Prop := ∀ character ∈ text, isWhiteSpace character = false

/-- An object id is plain. -/
theorem plain_of_isOid {format : GitObjectFormat} {value : String}
    (oid : format.isOid value = true) : Plain value.toList := fun character mem =>
  isWhiteSpace_of_isHexDigit ((isHexDigit_of_isHexadecimal oid).1 character mem)

/-- An object id is not empty. -/
theorem ne_nil_of_isOid {format : GitObjectFormat} {value : String}
    (oid : format.isOid value = true) : value.toList ≠ [] := by
  intro empty
  have size := (isHexDigit_of_isHexadecimal oid).2
  rw [empty] at size
  cases format <;> cases size

/-- A plain text has no surrounding white space. -/
theorem keeps_of_plain {text : List Char} (plain : Plain text) :
    Keeps isWhiteSpace text.head? ∧ Keeps isWhiteSpace text.getLast? :=
  ⟨fun _ first => plain _ (List.mem_of_head? first),
    fun _ last => plain _ (List.mem_of_getLast? last)⟩

/-- The line feed after a text is trimmed. -/
theorem trimCharacters_newline {text : List Char} (head : Keeps isWhiteSpace text.head?)
    (last : Keeps isWhiteSpace text.getLast?) : trimCharacters (text ++ ['\n']) = text := by
  show trim isWhiteSpace (text ++ ['\n']) = text
  rw [trim_concat (by decide)]
  exact trim_eq_self_iff.mpr ⟨head, last⟩

/-- A plain line is read back from its output. -/
theorem trimText_newline {text : String} (plain : Plain text.toList) :
    trimText (text ++ "\n") = text := by
  have ends := keeps_of_plain plain
  have whole : (text ++ "\n").toList = text.toList ++ ['\n'] := by rw [String.toList_append]; rfl
  rw [trimText, whole, trimCharacters_newline ends.1 ends.2, String.ofList_toList]

/-- Names are read back from the text that joins them. -/
theorem namesOf_joined {texts : List String} (some_text : texts ≠ [])
    (plain : ∀ text ∈ texts, text.toList ≠ [] ∧ Plain text.toList) :
    namesOf (joined ' ' texts ++ "\n") = texts := by
  have some_list : texts.map String.toList ≠ [] := mt List.map_eq_nil_iff.mp some_text
  have plain_list : ∀ text ∈ texts.map String.toList, text ≠ [] ∧ Plain text := by
    simp only [List.mem_map]
    rintro _ ⟨text, mem, rfl⟩
    exact plain text mem
  have whole : (joined ' ' texts ++ "\n").toList =
      [' '].intercalate (texts.map String.toList) ++ ['\n'] := by
    rw [String.toList_append, joined, String.toList_ofList]
    rfl
  have head : Keeps isWhiteSpace ([' '].intercalate (texts.map String.toList)).head? := by
    obtain ⟨first, rest, split⟩ := List.exists_cons_of_ne_nil some_list
    have ends := plain_list first (split ▸ List.mem_cons_self)
    rw [split, head?_intercalate ends.1]
    exact (keeps_of_plain ends.2).1
  have last : Keeps isWhiteSpace ([' '].intercalate (texts.map String.toList)).getLast? := by
    have ends := plain_list _ (List.getLast_mem some_list)
    rw [← List.dropLast_append_getLast some_list, getLast?_intercalate ends.1]
    exact (keeps_of_plain ends.2).2
  rw [namesOf, trimText, whole, trimCharacters_newline head last, wordsOf,
    String.toList_ofList, wordsBy_intercalate (by decide) plain_list, List.map_map]
  simp [Function.comp_def]

/-- The fields of a text are read back: only the last of them may hold the separator, and the white
space after it is trimmed. -/
theorem metadataFields_joined {first body : String} {rest : List String} (five : rest.length = 5)
    (free : ∀ field ∈ first :: rest, '\x00' ∉ field.toList)
    (first_some : first.toList ≠ []) (first_keeps : Keeps isWhiteSpace first.toList.head?)
    (body_some : body.toList ≠ []) (body_keeps : Keeps isWhiteSpace body.toList.getLast?) :
    metadataFields (joined '\x00' (first :: rest ++ [body ++ "\n\n"])) =
      first :: rest ++ [body] := by
  have mapped : (first :: rest ++ [body]).map String.toList =
      (first :: rest).map String.toList ++ [body.toList] := by rw [List.map_append]; rfl
  have whole : (joined '\x00' (first :: rest ++ [body ++ "\n\n"])).toList =
      ['\x00'].intercalate ((first :: rest).map String.toList ++ [body.toList]) ++ ['\n'] ++
        ['\n'] := by
    have some_field : (first :: rest).map String.toList ≠ [] := List.cons_ne_nil _ _
    rw [joined, String.toList_ofList, List.map_append, List.map_singleton, String.toList_append,
      intercalate_append some_field (List.cons_ne_nil _ _),
      intercalate_append some_field (List.cons_ne_nil _ _), List.intercalate_singleton,
      List.intercalate_singleton]
    simp
  have head : Keeps isWhiteSpace
      (['\x00'].intercalate ((first :: rest).map String.toList ++ [body.toList])).head? := by
    rw [List.map_cons, List.cons_append, head?_intercalate first_some]
    exact first_keeps
  have last : Keeps isWhiteSpace
      (['\x00'].intercalate ((first :: rest).map String.toList ++ [body.toList])).getLast? := by
    rw [getLast?_intercalate body_some]
    exact body_keeps
  have trimmed : trimCharacters (joined '\x00' (first :: rest ++ [body ++ "\n\n"])).toList =
      ['\x00'].intercalate ((first :: rest).map String.toList ++ [body.toList]) := by
    rw [whole]
    show trim isWhiteSpace _ = _
    rw [trim_concat (by decide), trim_concat (by decide)]
    exact trim_eq_self_iff.mpr ⟨head, last⟩
  have pieces_free : ∀ piece ∈ (first :: rest).map String.toList, '\x00' ∉ piece := by
    simp only [List.mem_map]
    rintro _ ⟨field, mem, rfl⟩
    exact free field mem
  have cut := @splitN_intercalate _ _ _ '\x00' ((first :: rest).map String.toList) body.toList
    pieces_free
  rw [List.length_map, List.length_cons, five] at cut
  rw [metadataFields, trimmed, cut, ← mapped, List.map_map]
  simp [Function.comp_def]

/-! ## The text of a plan -/

/-- The first line of a message, up to the item. -/
def LandingVariant.subject : LandingVariant → String
  | .squash => "Squash integrate queue item "
  | .direct | .provider => "Integrate queue item "

namespace CandidatePlan

variable {git : Git} {sha256 : String → String} {format : GitObjectFormat}
  (plan : CandidatePlan git sha256 format)

/-- The lines of a message. -/
def lines : List (List Char) :=
  [plan.landing.subject.toList ++ plan.itemId.toList, [],
    operationMarker ++ plan.operationId.toList]

/-- The message is its lines. -/
theorem toList_message : plan.message.toList = ['\n'].intercalate plan.lines := by
  have marked : "\n\nIQ-Builder-Operation: ".toList = '\n' :: '\n' :: operationMarker := by
    decide +kernel
  have texts : plan.message = plan.landing.subject ++ plan.itemId ++
      "\n\nIQ-Builder-Operation: " ++ plan.operationId := by
    unfold message
    cases plan.landing <;> rfl
  rw [texts, String.toList_append, String.toList_append, String.toList_append, marked]
  simp [lines, List.intercalate]

/-- No identifier holds a control character or white space. -/
theorem plain_of_isIdCharacter {text : List Char}
    (plain : ∀ character ∈ text, isIdCharacter character = true) :
    Plain text ∧ '\n' ∉ text ∧ '\r' ∉ text ∧ '\x00' ∉ text := by
  have white : ∀ character, isIdCharacter character = true →
      isWhiteSpace character = false := by
    intro character id
    have same : character.toNat = character.val.toNat := rfl
    simp only [isIdCharacter, Bool.or_eq_true, beq_iff_eq] at id
    obtain letter | rfl := id
    · change ((decide (character.val ≥ 'A'.val ∧ character.val ≤ 'Z'.val) ||
        (decide (character.val ≥ 'a'.val) && decide (character.val ≤ 'z'.val))) ||
        (decide (character.val ≥ '0'.val) && decide (character.val ≤ '9'.val))) = true at letter
      simp only [Bool.or_eq_true, Bool.and_eq_true, decide_eq_true_eq,
        UInt32.le_iff_toNat_le] at letter
      simp at letter
      simp only [isWhiteSpace, same, Bool.or_eq_false_iff, Bool.and_eq_false_iff,
        decide_eq_false_iff_not, beq_eq_false_iff_ne]
      omega
    · decide
  refine ⟨fun character mem => white character (plain character mem), ?_, ?_, ?_⟩
  all_goals intro mem
  · exact absurd (plain _ mem) (by decide)
  · exact absurd (plain _ mem) (by decide)
  · exact absurd (plain _ mem) (by decide)

/-- The message splits into its lines. -/
theorem splitOn_message : plan.message.toList.splitOn '\n' = plan.lines := by
  have item := plain_of_isIdCharacter plan.item_plain
  have operation := plain_of_isIdCharacter plan.operation_plain
  have subject : '\n' ∉ plan.landing.subject.toList := by
    cases plan.landing <;> decide +kernel
  have marker : '\n' ∉ operationMarker := by decide +kernel
  refine splitOn_eq_iff.mpr ⟨List.cons_ne_nil _ _, plan.toList_message, ?_⟩
  intro line mem
  simp only [lines, List.mem_cons, List.not_mem_nil, or_false] at mem
  obtain rfl | rfl | rfl := mem
  · simp [subject, item.2.1]
  · exact List.not_mem_nil
  · simp [marker, operation.2.1]

/-- The operation of a plan has a name. -/
theorem operation_nonempty : plan.operationId.toList ≠ [] := fun empty =>
  plan.operation_some (String.toList_injective empty)

/-- The marker leads back to the operation. -/
theorem operationOf_message : operationOf plan.message = some plan.operationId := by
  have unmarked : stripPrefix operationMarker
      (stripCarriageReturn (plan.landing.subject.toList ++ plan.itemId.toList)) = none := by
    have uncarried : '\r' ∉ plan.landing.subject.toList ++ plan.itemId.toList := by
      have subject : '\r' ∉ plan.landing.subject.toList := by
        cases plan.landing <;> decide +kernel
      simp [subject, (plain_of_isIdCharacter plan.item_plain).2.2.1]
    have kept : stripCarriageReturn (plan.landing.subject.toList ++ plan.itemId.toList) =
        plan.landing.subject.toList ++ plan.itemId.toList := by
      unfold stripCarriageReturn
      exact if_neg fun last => uncarried (List.mem_of_getLast? last)
    have marker : operationMarker = 'I' :: 'Q' :: operationMarker.drop 2 := by decide +kernel
    have subject : plan.landing.subject.toList = 'S' :: "quash integrate queue item ".toList ∨
        plan.landing.subject.toList = 'I' :: 'n' :: "tegrate queue item ".toList := by
      cases plan.landing <;> decide +kernel
    rw [kept, stripPrefix, if_neg]
    rw [marker]
    obtain subject | subject := subject <;> simp [subject, List.isPrefixOf]
  have empty : stripPrefix operationMarker (stripCarriageReturn []) = none := by decide +kernel
  have marked : stripPrefix operationMarker (operationMarker ++ plan.operationId.toList) =
      some plan.operationId.toList := by
    rw [stripPrefix, if_pos (List.isPrefixOf_iff_prefix.mpr (List.prefix_append _ _)),
      List.drop_left]
  have last : (operationMarker ++ plan.operationId.toList).isEmpty = false := by
    rw [List.isEmpty_eq_false_iff]
    simp [plan.operation_nonempty]
  rw [operationOf, linesOf, splitOn_message, lines, terminatedLines, terminatedLines,
    terminatedLines, last]
  · simp [List.findSome?, unmarked, empty, marked]
  · rintro ⟨⟩
  · rintro ⟨⟩

/-- A message starts and ends without white space. -/
theorem keeps_message : plan.message.toList ≠ [] ∧
    Keeps isWhiteSpace plan.message.toList.getLast? := by
  have last := plan.operation_nonempty
  have ends : ∃ start, plan.message.toList = start ++ plan.operationId.toList := by
    unfold message
    cases plan.landing <;> exact ⟨_, String.toList_append⟩
  obtain ⟨start, split⟩ := ends
  rw [split]
  refine ⟨by simp [last], ?_⟩
  rw [List.getLast?_append_of_ne_nil _ last]
  exact (keeps_of_plain (plain_of_isIdCharacter plan.operation_plain).1).2

/-- What an observation of the candidate reads: its intent, with each parent named once. -/
def observation : CandidateObservation where
  operationId := plan.operationId
  candidateSha := plan.candidateSha
  treeSha := plan.treeSha
  parentShas := plan.parents.eraseDups
  authorName := "IQ Integration Builder"
  authorEmail := "iq@localhost"
  authorTimestamp := toString plan.seconds
  committerName := "IQ Integration Builder"
  committerEmail := "iq@localhost"
  committerTimestamp := toString plan.seconds
  message := plan.message
  operationRef := plan.operationRef

/-- The parents of a plan are object ids. -/
theorem mem_parents {parent : String} (mem : parent ∈ plan.parents) :
    format.isOid parent = true := by
  unfold parents at mem
  split at mem
  · obtain rfl := List.mem_singleton.mp mem
    exact plan.base_oid
  all_goals
    simp only [List.mem_cons, List.not_mem_nil, or_false] at mem
    obtain rfl | rfl := mem
    · exact plan.base_oid
    · exact plan.source_oid

/-- The parents that Git keeps are object ids. -/
theorem mem_eraseDups {parent : String} (mem : parent ∈ plan.parents.eraseDups) :
    format.isOid parent = true :=
  plan.mem_parents (List.mem_eraseDups.mp mem)

/-- Git keeps a parent. -/
theorem eraseDups_ne_nil : plan.parents.eraseDups ≠ [] := by
  have some_parent : plan.base ∈ plan.parents := by
    unfold parents
    split <;> exact List.mem_cons_self
  exact List.ne_nil_of_mem (List.mem_eraseDups.mpr some_parent)

/-- Each parent is named once exactly when Git keeps them all. -/
theorem eraseDups_eq_iff : plan.parents.eraseDups = plan.parents ↔ plan.parents.Nodup := by
  unfold parents
  split
  · simp [List.eraseDups_cons]
  all_goals
    by_cases same : plan.sourceSha = plan.base
    · simp [List.eraseDups_cons, same]
    · simp [List.eraseDups_cons, same, Ne.symm same]

/-- The builder's name has no surrounding white space. -/
theorem keeps_builder : Keeps isWhiteSpace "IQ Integration Builder".toList.head? := by
  have starts : "IQ Integration Builder".toList.head? = some 'I' := by decide +kernel
  rw [starts]
  rintro character ⟨⟩
  decide

/-- The tree that is read is the planned one. -/
theorem treeText (documented : git.Documented format plan.request) :
    trimText (git.showTree plan.candidateSha) = plan.treeSha := by
  rw [candidateSha, documented.tree]
  exact trimText_newline (plain_of_isOid plan.tree_oid)

/-- The parents that are read are those planned, each once. -/
theorem parentNames (documented : git.Documented format plan.request) :
    namesOf (git.showParents plan.candidateSha) = plan.parents.eraseDups := by
  rw [candidateSha, documented.parents]
  exact namesOf_joined plan.eraseDups_ne_nil fun parent mem =>
    ⟨ne_nil_of_isOid (plan.mem_eraseDups mem), plain_of_isOid (plan.mem_eraseDups mem)⟩

/-- The metadata that is read is that planned. -/
theorem metadata (documented : git.Documented format plan.request) :
    metadataFields (git.showMetadata plan.candidateSha) =
      ["IQ Integration Builder", "iq@localhost", toString plan.seconds, "IQ Integration Builder",
        "iq@localhost", toString plan.seconds, plan.message] := by
  have digits : '\x00' ∉ (toString plan.seconds).toList := by
    intro mem
    have printed : (toString plan.seconds).toList = Decimal.digits plan.seconds :=
      String.toList_ofList
    rw [printed] at mem
    exact absurd (Decimal.isDigit_of_mem_digits mem) (by decide)
  have name : '\x00' ∉ "IQ Integration Builder".toList := by decide +kernel
  have name_some : "IQ Integration Builder".toList ≠ [] := by decide +kernel
  have email : '\x00' ∉ "iq@localhost".toList := by decide +kernel
  have shown := documented.metadata plan.seconds plan.seconds plan.dated plan.dated rfl rfl
  rw [candidateSha, shown]
  refine @metadataFields_joined _ _ ["iq@localhost", toString plan.seconds,
    "IQ Integration Builder", "iq@localhost", toString plan.seconds] rfl ?_ ?_ keeps_builder
    plan.keeps_message.1 plan.keeps_message.2
  · intro field mem
    simp only [List.mem_cons, List.not_mem_nil, or_false] at mem
    obtain rfl | rfl | rfl | rfl | rfl | rfl := mem
    exacts [name, email, digits, name, email, digits]
  · exact name_some

/-! ## What the checks say -/

variable {composition : CompositionEvidence}

/-- The reference of a plan is an exact text. -/
theorem isExactText_operationRef : isExactText plan.operationRef = true := by
  have marker : "refs/iq/candidate-operations/".toList.head? = some 'r' := by decide +kernel
  have whole : plan.operationRef.toList =
      "refs/iq/candidate-operations/".toList ++ plan.operationId.toList := String.toList_append
  have last := plan.operation_nonempty
  have trimmed : isTrimmed plan.operationRef = true := by
    rw [isTrimmed, beq_iff_eq]
    refine trim_eq_self_iff.mpr ⟨?_, ?_⟩
    · rw [whole, List.head?_append, marker]
      rintro character ⟨⟩
      decide
    · rw [whole, List.getLast?_append_of_ne_nil _ last]
      exact (keeps_of_plain (plain_of_isIdCharacter plan.operation_plain).1).2
  have some_character : plan.operationRef.toList.isEmpty = false := by
    rw [List.isEmpty_eq_false_iff, whole]
    simp
  rw [isExactText, trimmed, some_character]
  rfl

/-- The message ends without white space. -/
theorem trimEnd_message : trimEnd plan.message.toList = plan.message.toList := by
  refine List.rdropWhile_eq_self_iff.mpr fun some_character dropped => ?_
  have kept := plan.keeps_message.2 _ (List.getLast?_eq_some_getLast some_character)
  rw [kept] at dropped
  cases dropped

/-- The candidate is observed as its intent, with each parent named once, when the operation
reference names it. -/
theorem read_eq_ok {reference : Option String} {observation : CandidateObservation}
    (documented : git.Documented format plan.request) :
    CandidateObservation.read git format reference plan.candidateSha plan.operationRef =
        .ok observation ↔
      reference = some plan.candidateSha ∧ observation = plan.observation := by
  have named : format.isOid plan.candidateSha = true := documented.named
  have oids : (plan.parents.eraseDups.all format.isOid) = true :=
    List.all_eq_true.mpr fun _ => plan.mem_eraseDups
  simp only [CandidateObservation.read, GitObjectFormat.requireOid, GitObjectFormat.requireOids,
    requireExactText, plan.isExactText_operationRef, named, plan.treeText documented,
    plan.parentNames documented, plan.metadata documented, plan.operationOf_message,
    plan.tree_oid, oids, plan.trimEnd_message, String.ofList_toList]
  cases reference with
  | none => exact ⟨by rintro ⟨⟩, by rintro ⟨⟨⟩, -⟩⟩
  | some reference =>
    by_cases same : reference = plan.candidateSha
    · simp only [same, beq_self_eq_true]
      exact ⟨fun read => ⟨trivial, (Except.ok.inj read).symm⟩,
        fun observed => by rw [observed.2]; rfl⟩
    · simp only [beq_eq_false_iff_ne.mpr same]
      exact ⟨by rintro ⟨⟩, fun observed => absurd (Option.some_inj.mp observed.1) same⟩

/-- What is read matches the build if and only if the parents are distinct. -/
theorem matches_iff :
    plan.observation.matches (plan.intent.building composition) = true ↔
      plan.parents.Nodup := by
  rw [← plan.eraseDups_eq_iff]
  simp only [CandidateObservation.matches, observation, CandidateIntent.building, intent,
    beq_self_eq_true, Bool.true_and, Bool.and_true, beq_iff_eq]
  exact eq_comm

/-- The commit of a plan is the one that its intent names when Git keeps all parents. -/
theorem names_iff (documented : git.Documented format plan.request) :
    (plan.intent.building composition).names git sha256 plan.candidateSha = true ↔
      plan.parents.Nodup := by
  rw [← plan.eraseDups_eq_iff]
  simp only [CandidateBuilding.names, plan.treeText documented, plan.parentNames documented,
    plan.metadata documented, plan.trimEnd_message, CandidateIntent.building, intent,
    String.ofList_toList, beq_self_eq_true, Bool.true_and, Bool.and_true, beq_iff_eq]

end CandidatePlan

end Iq
