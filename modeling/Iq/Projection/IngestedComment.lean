import Iq.Projection.Issue
import Iq.Store.ProviderComment

/-!
# Ingested comments

The comments of an issue as `ingest_answers` reads them: the number of the issue is the one that a
provider printed when the issue was created or found, and the identifier of a comment is the one of
the provider behind its label. Comments that are read so have different external ids, as long as
their repositories or the identifiers of the provider hold no colon.
-/

namespace Iq

open Library

/-! ## Issue numbers -/

/-- `Value::get` of a key. -/
def jsonField (value : JsonText) (key : String) : Option JsonText :=
  match value with
  | .object fields => (fields.find? fun field => field.1 == key).map Prod.snd
  | _ => none

/-- `Value::as_i64`. -/
def asI64 : JsonText → Option Int
  | .number value => if value < 2 ^ 63 then some value else none
  | .integer value => if -2 ^ 63 ≤ value ∧ value < 2 ^ 63 then some value else none
  | _ => none

/-- `serde_json::from_str` of a value. A text in an object is shorter than what was read. -/
structure JsonReader where
  fromStr : String → Option JsonText
  shorter : ∀ output value key inner, fromStr output = some value →
    jsonField value key = some (.text inner) → inner.length < output.length

/-- `split(marker).last()` of a text with at most a number of occurrences. -/
def lastPart (marker : List Char) : Nat → List Char → List Char
  | 0, text => text
  | occurrences + 1, text =>
    match splitOnce marker text with
    | some (_, after) => lastPart marker occurrences after
    | none => text

/-- The digits after the last marker of the path of an issue. -/
def issueNumberOfPath (output : String) : Option String :=
  let trimmed := trimCharacters output.toList
  let marker := if containsCharacters "/-/issues/".toList trimmed then "/-/issues/".toList
    else "/issues/".toList
  let number := (lastPart marker trimmed.length trimmed).takeWhile Char.isDigit
  if number.isEmpty then none else some (.ofList number)

/-- `parse_issue_number`. -/
def parseIssueNumber (reader : JsonReader) (output : String) : Option String :=
  match _read : reader.fromStr output with
  | none => issueNumberOfPath output
  | some value =>
    match (jsonField value "number").bind asI64 with
    | some number => some (toString number)
    | none =>
      match _located : jsonField value "url" with
      | some (.text url) => parseIssueNumber reader url
      | _ => issueNumberOfPath output
termination_by output.length
decreasing_by exact reader.shorter output value "url" url ‹_› ‹_›

/-- The numbers under which IQ keeps an issue that it created or found. -/
inductive IssueNumber : String → Prop
  | created (reader : JsonReader) (output number : String) :
    parseIssueNumber reader output = some number → IssueNumber number
  | found (candidates : List ListedIssue) (marker provider number : String) :
    findExactIssueCandidates candidates marker provider = .ok (some number) → IssueNumber number

/-! ## Comments -/

/-- `IssueComment`, with the login of its author. -/
structure IssueComment where
  id : Option JsonText
  body : String
  login : Option String

/-- `IssueAnswerComment`. -/
structure IssueAnswerComment where
  id : String
  actor : Option String
  body : String
  deriving DecidableEq, Repr

/-- The identifier in a provider's comment. -/
def answerCommentId : JsonText → Option String
  | .text value => if value.isEmpty then none else some value
  | .number value => some (toString value)
  | .integer value => some (toString value)
  | _ => none

/-- What `issue_answer_comments` makes of a comment that is not IQ's own. -/
def issueAnswerComment (provider : String) (comment : IssueComment) :
    Except String IssueAnswerComment := do
  let some value := comment.id | .error "provider answer comment has no ID"
  let some id := answerCommentId value | .error "provider answer comment has an invalid ID"
  .ok ⟨provider ++ ":" ++ id, comment.login.filter (!·.isEmpty), comment.body⟩

/-- `issue_answer_comments`. -/
def issueAnswerComments (comments : List IssueComment) (provider : String) :
    Except String (List IssueAnswerComment) :=
  (comments.filter fun comment =>
    !containsCharacters "<!-- iq:".toList comment.body.toList).mapM (issueAnswerComment provider)

/-- The name of a provider in an external id. -/
def IssueProvider.providerName : IssueProvider → String
  | .github => "github"
  | .gitlab => "gitlab"

/-- Whether `ingest_answers` asks for a comment: it belongs to a numbered issue and was read from
its provider. -/
structure Ingested (comment : ProviderComment) : Prop where
  numbered : IssueNumber comment.artifactId
  read : ∃ (provider : IssueProvider) (comments : List IssueComment)
    (answers : List IssueAnswerComment), comment.provider = provider.providerName ∧
      issueAnswerComments comments provider.name = .ok answers ∧
      ∃ answer ∈ answers, comment.commentId = answer.id

/-! ## The colons of an ingested comment -/

/-- No decimal text holds a colon. -/
theorem colon_not_mem_repr (value : Nat) : ':' ∉ (toString value).toList := by
  intro mem
  have digits : (toString value).toList = Nat.toDigits 10 value := Nat.toList_repr
  rw [digits] at mem
  exact absurd (Nat.isDigit_of_mem_toDigits (by decide) (by decide) mem) (by decide)

/-- No text of an integer holds a colon. -/
theorem colon_not_mem_integer (value : Int) : ':' ∉ (toString value).toList := by
  cases value with
  | ofNat magnitude => exact colon_not_mem_repr magnitude
  | negSucc magnitude =>
    have signed : toString (Int.negSucc magnitude) = "-" ++ toString (magnitude + 1) := rfl
    rw [signed, String.toList_append, List.mem_append, not_or]
    exact ⟨by decide, colon_not_mem_repr (magnitude + 1)⟩

/-- The digits of a path hold no colon. -/
theorem colon_not_mem_path {output number : String}
    (parsed : issueNumberOfPath output = some number) : ':' ∉ number.toList := by
  simp only [issueNumberOfPath, Option.ite_none_left_eq_some, Option.some.injEq] at parsed
  obtain ⟨-, rfl⟩ := parsed
  rw [String.toList_ofList]
  intro mem
  exact absurd (List.mem_takeWhile_imp mem) (by decide)

/-- A parsed number holds no colon. -/
theorem colon_not_mem_parsed {reader : JsonReader} {output number : String}
    (parsed : parseIssueNumber reader output = some number) : ':' ∉ number.toList := by
  fun_induction parseIssueNumber reader output with
  | case1 output unread => exact colon_not_mem_path parsed
  | case2 output value read integer number =>
    rw [← Option.some.inj parsed]
    exact colon_not_mem_integer integer
  | case3 output value read other url located parsed_url => exact parsed_url parsed
  | case4 => exact colon_not_mem_path parsed

/-- The number of an issue that was found holds no colon. -/
theorem colon_not_mem_found {candidates : List ListedIssue} {marker provider number : String}
    (found : findExactIssueCandidates candidates marker provider = .ok (some number)) :
    ':' ∉ number.toList := by
  unfold findExactIssueCandidates at found
  dsimp only at found
  split at found
  · cases found
  · rename_i issue only
    rw [← Option.some.inj (Except.ok.inj found)]
    obtain ⟨candidate, -, listed⟩ := List.mem_filterMap.mp (only ▸ List.mem_singleton_self issue)
    obtain ⟨value, -, rfl⟩ := Option.map_eq_some_iff.mp listed
    exact colon_not_mem_repr value
  · cases found

/-- The number of an issue holds no colon. -/
theorem colon_not_mem_number {number : String} (numbered : IssueNumber number) :
    ':' ∉ number.toList := by
  cases numbered with
  | created reader output _ parsed => exact colon_not_mem_parsed parsed
  | found candidates marker provider _ found => exact colon_not_mem_found found

/-! ## External ids of ingested comments -/

variable {comment : ProviderComment}

/-- Ingested comments that are told apart have different external ids, and no receipt of another
one is found for a comment. -/
theorem providerCommentKey_distinct
    (accepted : validateProviderCommentIdentity comment = .ok ()) (ingested : Ingested comment) :
    (∀ other, validateProviderCommentIdentity other = .ok () → Ingested other →
      comment.ToldApart other → providerCommentKey other = providerCommentKey comment →
        other = comment) ∧
    ∀ db recorded externalId,
      ReceiptsOf (fun other => other ≠ comment ∧ Ingested other ∧ comment.ToldApart other) db
        recorded →
      providerCommentKey comment = .ok externalId →
        db.answers.find? externalId = none ∧ db.reviewReceipts.find? externalId = none ∧
          providerCommentSeen db recorded comment = .ok false := by
  have key := providerCommentKey_of_accepted accepted
  have number := colon_not_mem_number ingested.numbered
  have distinct : ∀ other, validateProviderCommentIdentity other = .ok () → Ingested other →
      comment.ToldApart other → providerCommentKey other = providerCommentKey comment →
        other = comment := by
    intro other accepted_other ingested_other apart same
    rw [key, providerCommentKey_of_accepted accepted_other] at same
    exact eq_of_providerCommentText accepted accepted_other number
      (colon_not_mem_number ingested_other.numbered) apart (Except.ok.inj same)
  refine ⟨distinct, fun db recorded externalId receipts written => ?_⟩
  refine unseen_of_receiptsOf receipts written ?_ fun own => own.1 rfl
  rintro other ⟨distinct_other, ingested_other, apart⟩ same
  exact distinct_other (distinct other (accepted_of_key same) ingested_other apart
    (same.trans written.symm))

namespace IngestedSample

/-- A reader of texts that are no JSON. -/
def reader : JsonReader := ⟨fun _ => none, by rintro _ _ _ _ ⟨⟩⟩

/-- A comment of the owner. -/
def ownComment (id : String) : IssueComment := ⟨some (.text id), "approved", some "owner"⟩

/-- The comment of an issue at a path. -/
theorem ingested {repository output number id commentId : String}
    (path : issueNumberOfPath output = some number)
    (read : issueAnswerComments [ownComment id] "GitHub" =
      .ok [⟨commentId, some "owner", "approved"⟩]) :
    Ingested ⟨"github", repository, number, commentId⟩ where
  numbered := by
    refine .created reader output number ?_
    rw [parseIssueNumber]
    exact path
  read := ⟨.github, [ownComment id], _, rfl, read, _, List.mem_singleton_self _, rfl⟩

/-- The comment IC_a of the issue 17. -/
theorem ingested_first : Ingested ⟨"github", "owner/name", "17", "GitHub:IC_a"⟩ :=
  @ingested "owner/name" "https://github.com/owner/name/issues/17\n" "17" "IC_a" "GitHub:IC_a"
    (by decide +kernel) (by decide +kernel)

/-- The comment IC_b of the issue 17. -/
theorem ingested_second : Ingested ⟨"github", "owner/name", "17", "GitHub:IC_b"⟩ :=
  @ingested "owner/name" "https://github.com/owner/name/issues/17\n" "17" "IC_b" "GitHub:IC_b"
    (by decide +kernel) (by decide +kernel)

end IngestedSample

/-- Comments of one issue with different nodes have different keys. -/
theorem providerCommentKey_distinct_nodes :
    providerCommentKey ⟨"github", "owner/name", "17", "GitHub:IC_b"⟩ ≠
        providerCommentKey ⟨"github", "owner/name", "17", "GitHub:IC_a"⟩ ∧
      ∀ db recorded externalId,
        ReceiptsOf (fun other => other ≠ ⟨"github", "owner/name", "17", "GitHub:IC_a"⟩ ∧
          Ingested other ∧
            ProviderComment.ToldApart ⟨"github", "owner/name", "17", "GitHub:IC_a"⟩ other)
          db recorded →
        providerCommentKey ⟨"github", "owner/name", "17", "GitHub:IC_a"⟩ = .ok externalId →
          db.answers.find? externalId = none ∧ db.reviewReceipts.find? externalId = none ∧
            providerCommentSeen db recorded ⟨"github", "owner/name", "17", "GitHub:IC_a"⟩ =
              .ok false := by
  have accepted : validateProviderCommentIdentity
      ⟨"github", "owner/name", "17", "GitHub:IC_a"⟩ = .ok () := by decide +kernel
  have accepted_other : validateProviderCommentIdentity
      ⟨"github", "owner/name", "17", "GitHub:IC_b"⟩ = .ok () := by decide +kernel
  have distinct := providerCommentKey_distinct accepted IngestedSample.ingested_first
  refine ⟨fun same => ?_, distinct.2⟩
  have equal := distinct.1 _ accepted_other IngestedSample.ingested_second
    (.inr (by decide +kernel)) same
  exact absurd equal (by decide)

/-- The artifact 1:2 with the comment 3 has the key of the artifact 1 with the comment 2:3. So has
an ingested comment the key of one in a repository whose name ends with its number and label. -/
theorem providerCommentKey_collides :
    (¬∀ comment other : ProviderComment, validateProviderCommentIdentity comment = .ok () →
      validateProviderCommentIdentity other = .ok () →
      providerCommentKey comment = providerCommentKey other → comment = other) ∧
    ¬∀ comment other : ProviderComment, Ingested comment → Ingested other →
      validateProviderCommentIdentity comment = .ok () →
      validateProviderCommentIdentity other = .ok () →
      providerCommentKey comment = providerCommentKey other → comment = other := by
  constructor
  · intro distinct
    have same := distinct ⟨"github", "owner/name", "1:2", "3"⟩
      ⟨"github", "owner/name", "1", "2:3"⟩ (by decide +kernel) (by decide +kernel)
      (by decide +kernel)
    exact absurd same (by decide)
  · intro distinct
    have first : Ingested ⟨"github", "owner/name", "1", "GitHub:2:GitHub:3"⟩ :=
      @IngestedSample.ingested _ "https://github.com/owner/name/issues/1" _ "2:GitHub:3" _
        (by decide +kernel) (by decide +kernel)
    have second : Ingested ⟨"github", "owner/name:1:GitHub", "2", "GitHub:3"⟩ :=
      @IngestedSample.ingested _ "https://github.com/owner/name:1:GitHub/issues/2" _ "3" _
        (by decide +kernel) (by decide +kernel)
    have same := distinct _ _ first second (by decide +kernel) (by decide +kernel)
      (by decide +kernel)
    exact absurd same (by decide)

end Iq
