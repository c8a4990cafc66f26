import Iq.Store.Landing

/-!
# Candidate review

The review ledger: one command decides an open review when it names it exactly and its responder
is authorised; every other outcome leaves the effort alone and is kept as a receipt. A command
whose external identity has a receipt is answered from the ledger.
-/

namespace Iq

open Library Library.Transaction

/-- `candidate_review_command_identity_matches`. -/
def candidateReviewCommandIdentityMatches (left right : CandidateReviewCommand) : Bool :=
  left.externalId == right.externalId && left.reviewId == right.reviewId &&
    left.effortId == right.effortId && left.attemptId == right.attemptId &&
    left.cycleId == right.cycleId && left.targetRef == right.targetRef &&
    left.targetSha == right.targetSha && left.sourceSha == right.sourceSha &&
    left.candidateSha == right.candidateSha

/-- `candidate_review_command_is_malformed`. -/
def candidateReviewCommandIsMalformed (command : CandidateReviewCommand)
    (format : GitObjectFormat) : Bool :=
  [command.externalId, command.reviewId, command.effortId, command.attemptId,
    command.cycleId].any (fun value => 1024 < value.utf8ByteSize || !isExactText value) ||
    1024 < command.targetRef.text.utf8ByteSize || !format.isOid command.targetSha ||
    !format.isOid command.sourceSha || !format.isOid command.candidateSha

/-- The text of a decision. -/
def CandidateReviewDecision.text? : CandidateReviewDecision → Option String
  | .approve text => text
  | .requestChanges text => some text

/-- The bound on a review text. -/
def isReviewTextMalformed (text : String) : Bool :=
  isBlank text || !isTrimmed text || 16 * 1024 < text.utf8ByteSize

/-- `candidate_review_receipt`. -/
def candidateReviewReceipt (command : CandidateReviewCommand) (disposition : AnswerDisposition)
    (resultingEffortState : Option String) : CandidateReviewReceipt :=
  ⟨command, disposition, resultingEffortState⟩

/-- The disposition of a command whose external identity has a different receipt. -/
def conflictingDisposition (stored : CandidateReviewReceiptRow) (command : CandidateReviewCommand)
    (responder : ResponderIdentity) : AnswerDisposition :=
  if responder ≠ stored.responder then .unauthorized
  else if candidateReviewCommandIdentityMatches stored.command command then .malformed
  else .stale

/-- Whether a command names exactly the open review of an effort. -/
def CandidateReviewCommand.matchesReview (command : CandidateReviewCommand)
    (effort : IntegrationEffort) (targetRef : TargetRef) (review : CandidateReviewRequired) :
    Bool :=
  effort.id == command.effortId && review.reviewId == command.reviewId &&
    effort.attemptId == command.attemptId && review.cycleId == command.cycleId &&
    targetRef == command.targetRef && effort.targetSha == command.targetSha &&
    effort.sourceSha == command.sourceSha && review.candidateSha == command.candidateSha

/-- The open review of an effort. -/
def IntegrationEffortState.reviewRequired? :
    IntegrationEffortState → Option CandidateReviewRequired
  | .reviewRequired review => some review
  | _ => none

/-- The payload of a candidate under review. -/
@[simp] theorem IntegrationEffortState.reviewRequired?_eq_some {state : IntegrationEffortState}
    {review : CandidateReviewRequired} :
    state.reviewRequired? = some review ↔ state = .reviewRequired review := by
  cases state <;> simp [reviewRequired?]

/-- The disposition of a command without a receipt, before it is applied. -/
def CandidateReviewCommand.disposition (command : CandidateReviewCommand)
    (effort : IntegrationEffort) (targetRef : TargetRef) (format : GitObjectFormat)
    (responder : ResponderIdentity) (daemonUid : Nat) : AnswerDisposition :=
  if isAuthorizedResponder effort responder daemonUid = false then .unauthorized
  else if candidateReviewCommandIsMalformed command format ∨
      command.decision.text?.any isReviewTextMalformed then .malformed
  else if effort.state.reviewRequired?.any (command.matchesReview effort targetRef) then .applied
  else .stale

/-- What an applied decision does to the review and its effort. -/
def applyReview (command : CandidateReviewCommand) (effort : IntegrationEffort)
    (review : CandidateReviewRequired) (responder : ResponderIdentity) (stamp : Stamp) :
    Tx IntegrationEffortState := do
  let next ← match command.decision with
    | .approve _ => pure 0
    | .requestChanges _ => nextCycleNumber effort.id
  let status := match command.decision with
    | .approve _ => ReviewStatus.approved
    | .requestChanges _ => ReviewStatus.changesRequested
  let state : IntegrationEffortState := match command.decision with
    | .approve _ => .candidateReady
      ⟨review.cycleId, review.candidateSha, .approved review.reviewId⟩
    | .requestChanges _ => .agentReady ⟨next⟩
  let eventType := match command.decision with
    | .approve _ => "candidate_review_approved"
    | .requestChanges _ => "candidate_changes_requested"
  let changed ← updateReviews (fun row => row.id == review.reviewId && row.effortId == effort.id &&
    row.status == .required) status (some responder) command.decision.text?
  require (changed = 1) (.refused "required candidate review authority changed")
  if status = .changesRequested then do
    deleteEvidence effort.id
    invalidateValidationInvocations effort.attemptId stamp.now
    let _ ← updateAttempts (fun row => row.id == effort.attemptId && row.itemId == effort.itemId)
      Attempt.withoutCandidate Attempt.id_withoutCandidate
  updateState effort state
  appendEvent effort stamp.eventId eventType (.fields
    [("review_id", .text review.reviewId), ("candidate_sha", .text review.candidateSha),
      ("text", (command.decision.text?.map EventValue.text).getD .absent)]) false
  pure state

/-- Store the receipt of a command and return it. -/
def insertReviewReceipt (command : CandidateReviewCommand) (responder : ResponderIdentity)
    (receipt : CandidateReviewReceipt) : Tx CandidateReviewReceipt := do
  let reviewReceipts ← lookup (fun db => db.reviewReceipts.insert?
      ⟨command.externalId, command.effortId, command, responder, receipt⟩)
    (.constraint (.unique "candidate_review_receipts"))
  write fun db => (receipt, { db with reviewReceipts })

/-- `review_candidate_for_effort`. -/
def reviewCandidateForEffort (command : CandidateReviewCommand) (effortId : String)
    (responder : ResponderIdentity) (daemonUid : Nat) (stamp : Stamp) :
    Tx CandidateReviewReceipt := do
  let existing ← query fun db => db.reviewReceipts.find? command.externalId
  match existing with
  | some stored =>
    if command = stored.command ∧ responder = stored.responder then
      pure stored.receipt
    else
      pure (candidateReviewReceipt command (conflictingDisposition stored command responder) none)
  | none => do
    let effort ← requiredEffort effortId
    let item ← lookup (fun db => db.items.find? effort.itemId) (.refused "Query returned no rows")
    let format ← effortObjectFormat effort
    let disposition := command.disposition effort item.targetRef format responder daemonUid
    if disposition = .applied then do
      let review ← expect effort.state.reviewRequired? (.refused "candidate review is not open")
      let state ← applyReview command effort review responder stamp
      insertReviewReceipt command responder
        (candidateReviewReceipt command .applied (some state.name.text))
    else
      insertReviewReceipt command responder (candidateReviewReceipt command disposition none)

end Iq
