import Iq.Store.Schema
import Iq.Library.Split

/-!
# Provider comments

The identity of a comment on GitHub or GitLab and the external id under which an answer or a review
command from it is recorded. The fields of the id are joined by colons, and a field may hold colons
of its own: two comments are told apart by their ids where only a known field does so.
-/

namespace Iq

open Library

/-- The identity of a provider comment. -/
structure ProviderComment where
  provider : String
  repository : String
  artifactId : String
  commentId : String
  deriving DecidableEq, Repr

/-- One turn of the loop of `validate_provider_comment_identity`. -/
def validateCommentField (maximum : Nat) (value label : String) : Check := do
  requireExactText value label
  check (value.utf8ByteSize ≤ maximum) s!"provider comment {label} exceeds its bound"

/-- `validate_provider_comment_identity`. -/
def validateProviderCommentIdentity (comment : ProviderComment) : Check := do
  check (comment.provider == "github" || comment.provider == "gitlab")
    "provider comment has an unknown provider"
  validateCommentField 512 comment.repository "repository"
  validateCommentField 128 comment.artifactId "artifact ID"
  validateCommentField 256 comment.commentId "comment ID"

/-- The text of `provider_comment_key`. -/
def providerCommentText (comment : ProviderComment) : String :=
  s!"provider:{comment.provider}:{comment.repository}:{comment.artifactId}:{comment.commentId}"

/-- `provider_comment_key`, which `provider_comment_external_id` returns. -/
def providerCommentKey (comment : ProviderComment) : Except String String := do
  validateProviderCommentIdentity comment
  .ok (providerCommentText comment)

/-- `provider_comment_seen`; `recorded` are the identities of `provider_comment_receipts`. -/
def providerCommentSeen (db : Database) (recorded : List ProviderComment)
    (comment : ProviderComment) : Except String Bool := do
  let externalId ← providerCommentKey comment
  .ok (db.answers.any (·.externalId == externalId) ||
    db.reviewReceipts.any (·.externalId == externalId) || recorded.contains comment)

variable {comment other : ProviderComment} {db : Database} {recorded : List ProviderComment}

/-! ## The text of a key -/

/-- What follows the provider in a key. -/
def commentFields (comment : ProviderComment) : List (List Char) :=
  [comment.repository.toList, comment.artifactId.toList, comment.commentId.toList]

/-- The characters of a key. -/
theorem toList_providerCommentText :
    (providerCommentText comment).toList = "provider:".toList ++ comment.provider.toList ++
      ':' :: [':'].intercalate (commentFields comment) := by
  show ("provider:" ++ comment.provider ++ ":" ++ comment.repository ++ ":" ++
    comment.artifactId ++ ":" ++ comment.commentId).toList = _
  simp [commentFields, List.intercalate]

/-- The providers that the validation knows. -/
theorem provider_of_accepted (accepted : validateProviderCommentIdentity comment = .ok ()) :
    comment.provider = "github" ∨ comment.provider = "gitlab" := by
  by_cases known : (comment.provider == "github" || comment.provider == "gitlab") = true
  · rw [Bool.or_eq_true, beq_iff_eq, beq_iff_eq] at known
    exact known
  · rw [validateProviderCommentIdentity, check, if_neg known] at accepted
    cases accepted

/-- Accepted comments with the same text of a key are of the same provider and join their fields to
the same text. -/
theorem fields_of_providerCommentText
    (accepted : validateProviderCommentIdentity comment = .ok ())
    (accepted_other : validateProviderCommentIdentity other = .ok ())
    (same : providerCommentText other = providerCommentText comment) :
    other.provider = comment.provider ∧
      [':'].intercalate (commentFields other) = [':'].intercalate (commentFields comment) := by
  rw [← String.toList_inj, toList_providerCommentText, toList_providerCommentText] at same
  generalize [':'].intercalate (commentFields comment) = fields at same ⊢
  generalize [':'].intercalate (commentFields other) = fields_other at same ⊢
  rcases provider_of_accepted accepted with provider | provider <;>
    rcases provider_of_accepted accepted_other with provider_other | provider_other <;>
    simp_all

/-- A comment with a key is accepted. -/
theorem accepted_of_key {key : String} (written : providerCommentKey comment = .ok key) :
    validateProviderCommentIdentity comment = .ok () := by
  cases outcome : validateProviderCommentIdentity comment with
  | ok _ => rfl
  | error message =>
    rw [providerCommentKey, outcome] at written
    cases written

/-- An accepted comment has the key of its text. -/
theorem providerCommentKey_of_accepted
    (accepted : validateProviderCommentIdentity comment = .ok ()) :
    providerCommentKey comment = .ok (providerCommentText comment) := by
  rw [providerCommentKey, accepted]
  rfl

/-! ## Comments that are told apart -/

/-- Two comments of which both repositories, or both identifiers behind their label, hold no
colon. -/
def ProviderComment.ToldApart (comment other : ProviderComment) : Prop :=
  (':' ∉ comment.repository.toList ∧ ':' ∉ other.repository.toList) ∨
    (comment.commentId.toList.count ':' = 1 ∧ other.commentId.toList.count ':' = 1)

/-- Where only the last field may hold colons, the text of a comment gives its fields. -/
theorem fields_of_plain_repository (plain : ':' ∉ comment.repository.toList)
    (number : ':' ∉ comment.artifactId.toList) :
    splitN ':' 3 ([':'].intercalate (commentFields comment)) = commentFields comment := by
  refine @splitN_intercalate Char _ _ ':'
    [comment.repository.toList, comment.artifactId.toList] _ fun piece mem => ?_
  rcases List.mem_cons.mp mem with rfl | mem
  · exact plain
  · rw [List.mem_singleton.mp mem]
    exact number

/-- A text with one separator is what stands before it and after it. -/
theorem exists_halves {text : List Char} (once : text.count ':' = 1) :
    ∃ before after, text = before ++ ':' :: after ∧ ':' ∉ before ∧ ':' ∉ after := by
  have mem : ':' ∈ text := List.count_pos_iff.mp (by omega)
  obtain ⟨before, after, whole, free⟩ := List.eq_append_cons_of_mem mem
  refine ⟨before, after, whole, free, ?_⟩
  rw [whole, List.count_append, List.count_cons_self] at once
  exact List.count_eq_zero.mp (by omega)

/-- Read from its end, the text of a comment whose identifier holds one colon gives its fields. -/
theorem fields_of_plain_identifier (once : comment.commentId.toList.count ':' = 1)
    (number : ':' ∉ comment.artifactId.toList) :
    ∃ before after, comment.commentId.toList = before ++ ':' :: after ∧
      splitN ':' 4 ([':'].intercalate (commentFields comment)).reverse =
        [after.reverse, before.reverse, comment.artifactId.toList.reverse,
          comment.repository.toList.reverse] := by
  obtain ⟨before, after, whole, free, free_after⟩ := exists_halves once
  refine ⟨before, after, whole, ?_⟩
  have reversed : ([':'].intercalate (commentFields comment)).reverse =
      [':'].intercalate ([after.reverse, before.reverse, comment.artifactId.toList.reverse] ++
        [comment.repository.toList.reverse]) := by
    simp [commentFields, whole, List.intercalate]
  rw [reversed]
  refine @splitN_intercalate Char _ _ ':'
    [after.reverse, before.reverse, comment.artifactId.toList.reverse] _ fun piece mem => ?_
  simp only [List.mem_cons, List.not_mem_nil, or_false] at mem
  rcases mem with rfl | rfl | rfl <;> rw [List.mem_reverse] <;> assumption

/-- Accepted comments of numbered issues that are told apart have the same key only if they are the
same. -/
theorem eq_of_providerCommentText (accepted : validateProviderCommentIdentity comment = .ok ())
    (accepted_other : validateProviderCommentIdentity other = .ok ())
    (number : ':' ∉ comment.artifactId.toList) (number_other : ':' ∉ other.artifactId.toList)
    (apart : comment.ToldApart other)
    (same : providerCommentText other = providerCommentText comment) : other = comment := by
  obtain ⟨provider, joined⟩ := fields_of_providerCommentText accepted accepted_other same
  have fields : other.repository.toList = comment.repository.toList ∧
      other.artifactId.toList = comment.artifactId.toList ∧
      other.commentId.toList = comment.commentId.toList := by
    rcases apart with ⟨plain, plain_other⟩ | ⟨once, once_other⟩
    · have read := fields_of_plain_repository plain number
      rw [← joined, fields_of_plain_repository plain_other number_other] at read
      simpa only [commentFields, List.cons.injEq, and_true] using read
    · obtain ⟨before, after, whole, read⟩ := fields_of_plain_identifier once number
      obtain ⟨before_other, after_other, whole_other, read_other⟩ :=
        fields_of_plain_identifier once_other number_other
      rw [← joined, read_other] at read
      simp only [List.cons.injEq, List.reverse_inj, and_true] at read
      obtain ⟨rfl, rfl, artifact, repository⟩ := read
      exact ⟨repository, artifact, whole_other.trans whole.symm⟩
  obtain ⟨_, _, _, _⟩ := other
  obtain ⟨_, _, _, _⟩ := comment
  simp only [String.toList_inj] at fields provider
  obtain ⟨rfl, rfl, rfl⟩ := fields
  rw [provider]

/-! ## Receipts -/

/-- Whether all receipts are of comments of a kind. -/
def ReceiptsOf (kind : ProviderComment → Prop) (db : Database) (recorded : List ProviderComment) :
    Prop :=
  (∀ row ∈ db.answers, ∃ other, kind other ∧ providerCommentKey other = .ok row.externalId) ∧
  (∀ row ∈ db.reviewReceipts, ∃ other, kind other ∧
    providerCommentKey other = .ok row.externalId) ∧
  ∀ other ∈ recorded, kind other

/-- No receipt is found under a key that none of the comments of the receipts has. -/
theorem unseen_of_receiptsOf {kind : ProviderComment → Prop} {externalId : String}
    (receipts : ReceiptsOf kind db recorded) (written : providerCommentKey comment = .ok externalId)
    (foreign : ∀ other, kind other → providerCommentKey other ≠ .ok externalId)
    (fresh : ¬kind comment) :
    db.answers.find? externalId = none ∧ db.reviewReceipts.find? externalId = none ∧
      providerCommentSeen db recorded comment = .ok false := by
  obtain ⟨answers, reviews, comments⟩ := receipts
  have no_answer : ∀ row ∈ db.answers, row.externalId ≠ externalId := by
    rintro row mem rfl
    obtain ⟨other, of_kind, same⟩ := answers row mem
    exact foreign other of_kind same
  have no_review : ∀ row ∈ db.reviewReceipts, row.externalId ≠ externalId := by
    rintro row mem rfl
    obtain ⟨other, of_kind, same⟩ := reviews row mem
    exact foreign other of_kind same
  refine ⟨Table.find?_eq_none.mpr no_answer, Table.find?_eq_none.mpr no_review, ?_⟩
  have unseen_answer : db.answers.any (·.externalId == externalId) = false :=
    Table.any_eq_false.mpr fun row mem => beq_eq_false_iff_ne.mpr (no_answer row mem)
  have unseen_review : db.reviewReceipts.any (·.externalId == externalId) = false :=
    Table.any_eq_false.mpr fun row mem => beq_eq_false_iff_ne.mpr (no_review row mem)
  have unseen : recorded.contains comment = false := by
    rw [← Bool.not_eq_true, List.contains_iff_mem]
    exact fun mem => fresh (comments comment mem)
  rw [providerCommentSeen, written]
  show Except.ok (_ || _ || _) = _
  rw [unseen_answer, unseen_review, unseen]
  rfl

end Iq
