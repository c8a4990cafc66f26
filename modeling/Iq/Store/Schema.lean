import Iq.Domain.Authority
import Iq.Library.Table
import Iq.Library.Transaction

/-!
# The control database

The rows of the queue and control tables and the reasons a transaction can abort. A table carries
its primary key; the other constraints and triggers of the schema are checked by the statements
that can violate them. Columns that no modelled function reads, such as the time stamps of rows
and the compatibility message of a queue item, have no field.
-/

namespace Iq

open Library

/-! ## Refusals -/

/-- The constraints and triggers of the schema that a statement can violate. -/
inductive Constraint where
  /-- A primary key or unique index of the named table. -/
  | unique (table : String)
  /-- A foreign key of the named table. -/
  | foreignKey (table : String)
  /-- The trigger `integration_effort_legal_transition`. -/
  | legalTransition
  /-- `CHECK((state='cycle_limit_blocked')=(failed_cycles=10))`. -/
  | cycleLimit
  /-- `CHECK(failed_cycles BETWEEN 0 AND 10)`. -/
  | failedCyclesRange
  /-- The `CHECK` that ties the blocker kind to the state. -/
  | blockerKind
  /-- The `CHECK` on the payload of a state. -/
  | payload
  /-- The trigger `integration_effort_related_state_update`. -/
  | relatedState
  /-- The trigger `queue_effort_projection_guard`. -/
  | projection
  /-- The triggers on the classification of candidate evidence. -/
  | classification
  /-- The trigger `candidate_evidence_delete_guard`. -/
  | evidenceDelete
  deriving DecidableEq, Repr

/-- Why a transaction aborts: the program's own check, or the database. -/
inductive Refusal where
  /-- An error of the program, with its message. -/
  | refused (message : String)
  /-- A statement that the database aborts. -/
  | constraint (violated : Constraint)
  deriving DecidableEq, Repr

/-! ## Queue tables -/

/-- Whether a branch name passes `validate_git_branch_name`. -/
def isGitBranchName (branch : List Char) : Bool :=
  let forbidden (character : Char) : Bool :=
    character ≤ ' ' || character.toNat == 127 || "~^:?*[\\".toList.contains character
  !branch.isEmpty && branch != ['@'] && branch.head? != some '-' && branch.head? != some '/' &&
    branch.getLast? != some '/' && branch.getLast? != some '.' &&
    !containsCharacters ['.', '.'] branch && !containsCharacters ['@', '\x7b'] branch &&
    !containsCharacters ['/', '/'] branch && !branch.any forbidden &&
    (branch.splitOn '/').all fun component =>
      !component.isEmpty && component.head? != some '.' && !".lock".toList.isSuffixOf component

/-- `TargetRef`: a full branch reference. -/
structure TargetRef where
  text : String
  /-- `TargetRef::from_full` accepts the text. -/
  valid : "refs/heads/".toList.isPrefixOf text.toList = true ∧
    isGitBranchName (text.toList.drop 11) = true
  deriving DecidableEq, Repr

/-- The main branch is a target. -/
theorem TargetRef.valid_main : "refs/heads/".toList.isPrefixOf "refs/heads/main".toList = true ∧
    isGitBranchName ("refs/heads/main".toList.drop 11) = true := by
  decide +kernel

/-- `QueueStatus`. -/
inductive QueueStatus where
  | ready
  | merging
  | merged
  | validating
  | validated
  | integrating
  | integrated
  | blocked
  | cancelled
  deriving DecidableEq, Repr

/-- `status IN ('integrated','cancelled')`. -/
def QueueStatus.isTerminal (status : QueueStatus) : Bool :=
  status == .integrated || status == .cancelled

/-- `BlockedPhase`. -/
inductive BlockedPhase where
  | merging
  | validating
  | integrating
  deriving DecidableEq, Repr

/-- `BlockedReason`. -/
inductive BlockedReason where
  | needsUserInput
  | needsAgentFix
  | infra
  | dependency
  | credentials
  | provider
  deriving DecidableEq, Repr

/-- `LandingState`. -/
inductive LandingState where
  | ready
  | uncertain (candidateSha expectedTargetSha : String)
  | landed (candidateSha commitSha : String)
  deriving DecidableEq, Repr

/-- `LandingState::contains_external_landing_authority`. -/
def LandingState.containsExternalLandingAuthority : LandingState → Bool
  | .uncertain _ _ | .landed _ _ => true
  | .ready => false

/-- `ReplacementState`. -/
inductive ReplacementState where
  | none
  | cleanupPending (oldAttemptId : String) (oldWorkspace : WorkspaceIdentity)
  deriving DecidableEq, Repr

/-- A row of `queue_items`. -/
structure QueueItem where
  id : String
  repoKey : String
  targetRef : TargetRef
  status : QueueStatus
  currentAttemptId : Option String
  blockedPhase : Option BlockedPhase
  blockedReason : Option BlockedReason
  targetSha : Option String
  sourceSha : Option String
  landedCommitSha : Option String
  landing : LandingState
  replacement : ReplacementState
  /-- The local submission that admitted the item, when its admission is of that kind. -/
  submissionId : Option String
  deriving DecidableEq, Repr

/-- The values of the `result` column of `integration_attempts`. -/
inductive AttemptResult where
  | integrated
  | cancelled
  | superseded
  deriving DecidableEq, Repr

/-- `MovedBaseState`. -/
inductive MovedBaseState where
  | none
  | pending (targetSha sourceSha : String)
  | applied (targetSha sourceSha candidateSha : String)
  deriving DecidableEq, Repr

/-- A row of `integration_attempts`. -/
structure Attempt where
  id : String
  itemId : String
  attemptNumber : Nat
  targetBaseSha : Option String
  mergeCommitSha : Option String
  validatedCommitSha : Option String
  validationCommand : Option String
  validationExitCode : Option Int
  validationLogPath : Option String
  /-- Whether the policy snapshot of the attempt requires no validation. -/
  withoutValidation : Bool
  signoffEvidence : Option String
  movedBase : MovedBaseState
  landedCommitSha : Option String
  result : Option AttemptResult
  finishedAt : Option String
  deriving DecidableEq, Repr

/-- A row of `validation_invocations`. -/
structure ValidationInvocation where
  attemptId : String
  invocationNumber : Nat
  targetBaseSha : String
  candidateSha : String
  validatedCommitSha : Option String
  invalidatedAt : Option String
  deriving DecidableEq, Repr

/-- The primary key of `validation_invocations`. -/
def ValidationInvocation.key (row : ValidationInvocation) : String × Nat :=
  (row.attemptId, row.invocationNumber)

/-- `Obligation`. -/
inductive Obligation where
  | workspace (id : String)
  | queueItem (id : String)
  | replication (id : String)
  deriving DecidableEq, Repr

/-- `OperationState`. -/
inductive OperationState where
  | enabled
  | draining (obligations : List Obligation)
  | disabled
  deriving DecidableEq, Repr

/-- `OperationState::require_obligation`. -/
def OperationState.requireObligation (state : OperationState) (obligation : Obligation) : Check :=
  match state with
  | .enabled => .ok ()
  | .draining obligations =>
    check (obligations.contains obligation) "operation is not a captured draining obligation"
  | .disabled => .error "repository is disabled"

/-- A row of `repository_policies`. -/
structure RepositoryPolicy where
  repoKey : String
  operationState : OperationState
  /-- The object format of the canonical repository. -/
  objectFormat : GitObjectFormat
  deriving DecidableEq, Repr

/-- `CheckoutReconciliationState`. -/
inductive CheckoutState where
  | ready (targetRef : TargetRef) (targetSha : String)
  | pending (targetRef : TargetRef) (targetSha : String)
  | failed (targetRef : TargetRef) (targetSha message : String)
  deriving DecidableEq, Repr

/-- A row of `registered_repositories`. -/
structure RegisteredRepository where
  repoKey : String
  checkout : CheckoutState
  deriving DecidableEq, Repr

/-- The values of the `state` column of `local_submissions`. -/
inductive LocalSubmissionState where
  | creating
  | queued
  | integrated
  | cancelled
  | replaced
  deriving DecidableEq, Repr

/-- A row of `local_submissions`. -/
structure LocalSubmission where
  id : String
  queueItemId : String
  repoKey : String
  workspaceId : String
  baseSha : String
  commitSha : String
  replacesItemId : Option String
  state : LocalSubmissionState
  deriving DecidableEq, Repr

/-- The values of the `status` column of `development_workspaces`. -/
inductive DevelopmentWorkspaceStatus where
  | creating
  | active
  | submitted
  | cleanupPending
  | cleanupFailed
  | removed
  deriving DecidableEq, Repr

/-- A row of `development_workspaces`. -/
structure DevelopmentWorkspace where
  id : String
  repoKey : String
  targetRef : TargetRef
  expectedTargetSha : String
  status : DevelopmentWorkspaceStatus
  deriving DecidableEq, Repr

/-- `PrivateRefKind`. -/
inductive PrivateRefKind where
  | repositoryTarget
  | landing
  deriving DecidableEq, Repr

/-- A row of `private_ref_cleanup_debt`. -/
structure PrivateRefCleanupDebt where
  repoKey : String
  kind : PrivateRefKind
  ownerId : String
  refName : String
  expectedSha : String
  deriving DecidableEq, Repr

/-- The primary key of `private_ref_cleanup_debt`. -/
def PrivateRefCleanupDebt.key (row : PrivateRefCleanupDebt) : String × String :=
  (row.repoKey, row.refName)

/-- The private reference that a landing of an attempt is pushed from. -/
def landingRef (attemptId : String) : String := "refs/iq/landings/" ++ attemptId

/-! ## Control tables -/

/-- The values of the `source_variant` column. -/
inductive SourceVariant where
  | remoteBranch
  | localSubmission
  deriving DecidableEq, Repr

/-- The values of the `landing_variant` column. -/
inductive LandingVariant where
  | direct
  | provider
  | squash
  deriving DecidableEq, Repr

/-- `IntegrationEffort`: a row of `integration_efforts`. -/
structure IntegrationEffort where
  id : String
  itemId : String
  attemptId : String
  targetSha : String
  sourceSha : String
  sourceVariant : SourceVariant
  landingVariant : LandingVariant
  composition : CompositionEvidence
  workspace : WorkspaceIdentity
  runner : RunnerSnapshot
  stateRepository : StateRepositorySnapshot
  failedCycles : Nat
  state : IntegrationEffortState
  deriving DecidableEq, Repr

/-- The values of the `status` column of `integration_cycles`. -/
inductive CycleStatus where
  | starting
  | running
  | resolved
  | guidanceRequired
  | failed
  | superseded
  | cancelled
  deriving DecidableEq, Repr

/-- `status IN ('starting','running')`. -/
def CycleStatus.isActive (status : CycleStatus) : Bool := status == .starting || status == .running

/-- A row of `integration_cycles`. -/
structure IntegrationCycle where
  id : String
  effortId : String
  cycleNumber : Nat
  status : CycleStatus
  failure : Option CycleFailure
  deriving DecidableEq, Repr

/-- The values of the `status` column of `guidance_requests`. -/
inductive GuidanceStatus where
  | open
  | answered
  | cancelled
  deriving DecidableEq, Repr

/-- A row of `guidance_requests`. -/
structure GuidanceRequest where
  id : String
  effortId : String
  cycleId : String
  request : SemanticGuidanceBlocker
  status : GuidanceStatus
  deriving DecidableEq, Repr

/-- A row of `candidate_evidence`. -/
structure CandidateEvidence where
  effortId : String
  cycleId : String
  candidateSha : String
  builderOperationId : String
  classification : CandidateClassification
  deriving DecidableEq, Repr

/-- `ResponderIdentity`. -/
inductive ResponderIdentity where
  | localPeer (uid : Nat)
  | provider (actor : String)
  deriving DecidableEq, Repr

/-- The values of the `status` column of `candidate_reviews`. -/
inductive ReviewStatus where
  | required
  | approved
  | changesRequested
  | superseded
  | cancelled
  deriving DecidableEq, Repr

/-- A row of `candidate_reviews`. -/
structure CandidateReviewRow where
  id : String
  effortId : String
  attemptId : String
  cycleId : String
  targetSha : String
  sourceSha : String
  candidateSha : String
  status : ReviewStatus
  responder : Option ResponderIdentity
  reviewText : Option String
  createdAt : String
  deriving DecidableEq, Repr

/-- `CandidateReviewDecision`. -/
inductive CandidateReviewDecision where
  | approve (text : Option String)
  | requestChanges (text : String)
  deriving DecidableEq, Repr

/-- `CandidateReviewCommand`. -/
structure CandidateReviewCommand where
  externalId : String
  reviewId : String
  effortId : String
  attemptId : String
  cycleId : String
  targetRef : TargetRef
  targetSha : String
  sourceSha : String
  candidateSha : String
  decision : CandidateReviewDecision
  deriving DecidableEq, Repr

/-- `AnswerDisposition`. -/
inductive AnswerDisposition where
  | applied
  | duplicate
  | stale
  | malformed
  | unauthorized
  deriving DecidableEq, Repr

/-- `CandidateReviewReceipt`: the command's identity and decision with what became of it. -/
structure CandidateReviewReceipt where
  command : CandidateReviewCommand
  disposition : AnswerDisposition
  resultingEffortState : Option String
  deriving DecidableEq, Repr

/-- A row of `candidate_review_receipts`. The command and the responder stand for their JSON
texts, which determine them. -/
structure CandidateReviewReceiptRow where
  externalId : String
  effortId : String
  command : CandidateReviewCommand
  responder : ResponderIdentity
  receipt : CandidateReviewReceipt
  deriving DecidableEq, Repr

/-- `AnswerCommand`. -/
structure AnswerCommand where
  externalId : String
  requestId : String
  effortId : String
  attemptId : String
  cycleId : String
  targetSha : String
  sourceSha : String
  candidateSha : Option String
  answer : String
  deriving DecidableEq, Repr

/-- A row of `answer_receipts`. -/
structure AnswerReceipt where
  externalId : String
  effortId : String
  requestId : String
  responder : ResponderIdentity
  answer : String
  disposition : AnswerDisposition
  createdAt : String
  deriving DecidableEq, Repr

/-- `LegacyRunnerScopeAuthority`. -/
structure LegacyRunnerScopeAuthority where
  cycleId : String
  unitName : String
  controlGroup : String
  pid : Nat
  processStartTicks : Nat
  deriving DecidableEq, Repr

/-- `RunnerTerminationAuthority`. -/
inductive RunnerTerminationAuthority where
  | launching (launch : AgentLaunching)
  | service (service : RunnerServiceAuthority)
  | legacyScope (scope : LegacyRunnerScopeAuthority)
  deriving DecidableEq, Repr

/-- A row of `runner_termination_debt`. -/
structure RunnerTerminationDebt where
  effortId : String
  authority : RunnerTerminationAuthority
  deriving DecidableEq, Repr

/-- `CandidateIntent`. -/
structure CandidateIntent where
  operationId : String
  cycleId : String
  stagedTreeSha256 : String
  treeSha : String
  parents : List String
  authorName : String
  authorEmail : String
  authorTimestamp : String
  committerName : String
  committerEmail : String
  committerTimestamp : String
  message : String
  operationRef : String
  deriving DecidableEq, Repr

/-- A value of a flat event payload. -/
inductive EventValue where
  | text (value : String)
  | number (value : Nat)
  | absent
  | failure (value : CycleFailure)
  | classification (value : CandidateClassification)
  deriving DecidableEq, Repr

/-- The payload of a durable event. -/
inductive EventPayload where
  | fields (values : List (String × EventValue))
  | state (value : IntegrationEffortState)
  | intent (value : CandidateIntent)
  | failure (value : CycleFailure)
  | responder (value : ResponderIdentity)
  deriving DecidableEq, Repr

/-- A row of `durable_events`; the rows are in sequence order. -/
structure DurableEvent where
  id : String
  itemId : String
  effortId : String
  eventType : String
  payload : EventPayload
  alert : Bool
  deriving DecidableEq, Repr

/-- The database of one installation. -/
structure Database where
  items : Table QueueItem.id
  attempts : Table Attempt.id
  invocations : Table ValidationInvocation.key
  policies : Table RepositoryPolicy.repoKey
  repositories : Table RegisteredRepository.repoKey
  submissions : Table LocalSubmission.id
  workspaces : Table DevelopmentWorkspace.id
  privateRefDebts : Table PrivateRefCleanupDebt.key
  efforts : Table IntegrationEffort.id
  cycles : Table IntegrationCycle.id
  guidance : Table GuidanceRequest.id
  evidence : Table CandidateEvidence.effortId
  reviews : Table CandidateReviewRow.id
  reviewReceipts : Table CandidateReviewReceiptRow.externalId
  answers : Table AnswerReceipt.externalId
  terminationDebts : Table RunnerTerminationDebt.effortId
  events : List DurableEvent

/-- A transaction of the control store. -/
abbrev Tx (α : Type) : Type := Transaction Refusal Database α

/-- What a transaction draws from outside the database: the clock and fresh identifiers for the
event it appends and the row it inserts. -/
structure Stamp where
  now : String
  eventId : String
  rowId : String
  deriving DecidableEq, Repr

/-- The value of a check or a refusal with its message. -/
def ensure {α : Type} (passed : Except String α) : Tx α := fun db =>
  match passed with
  | .ok value => .ok (value, db)
  | .error message => .error (.refused message)

/-- A check commits with the value that passed. -/
@[simp] theorem commits_ensure {α : Type} {passed : Except String α} {db later : Database}
    {value : α} : (ensure passed).Commits db value later ↔ passed = .ok value ∧ db = later := by
  cases passed <;> simp [Transaction.Commits, ensure]

end Iq
