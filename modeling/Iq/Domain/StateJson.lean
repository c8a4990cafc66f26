import Iq.Domain.State
import Iq.Library.JsonText

/-!
# The JSON values of effort states

The value that serialization makes of an effort state. A value lists the fields of an object in the
order of their names, as the map of `serde_json::Value` does.
-/

namespace Iq

open Library

/-- A list of texts. -/
def textsJson (texts : List String) : JsonText := .array (texts.map .text)

/-! ## Cycles and candidates -/

/-- The JSON value of an effort that waits for its next cycle. -/
def AgentReady.toValue (value : AgentReady) : JsonText :=
  .object [("next_cycle", .number value.nextCycle)]

/-- The JSON value of a launcher's process. -/
def LauncherAuthority.toValue (value : LauncherAuthority) : JsonText :=
  .object [
    ("pid", .number value.pid),
    ("process_start_ticks", .number value.processStartTicks),
    ("token", .text value.token)]

/-- The JSON value of the authority to spawn. -/
def SpawnAuthority.toValue : SpawnAuthority → JsonText
  | .open => .text "open"
  | .closeRequested => .text "close_requested"
  | .surrendered => .text "surrendered"
  | .closed => .text "closed"

/-- The JSON value of a launch. -/
def AgentLaunching.toValue (value : AgentLaunching) : JsonText :=
  .object [
    ("authority_lease_id", .text value.authorityLeaseId),
    ("cycle_id", .text value.cycleId),
    ("cycle_number", .number value.cycleNumber),
    ("input_sha256", .text value.inputSha256),
    ("launch_operation_id", .text value.launchOperationId),
    ("launcher", value.launcher.toValue),
    ("prepared_at", .text value.preparedAt),
    ("protocol_directory", .text value.protocolDirectory),
    ("spawn_authority", value.spawnAuthority.toValue),
    ("unit_name", .text value.unitName)]

/-- The JSON value of the publication of a cycle's result. -/
def AtomicResultState.toValue : AtomicResultState → JsonText
  | .absent => .object [("state", .text "absent")]
  | .writing device inode =>
    .object [("device", .number device), ("inode", .number inode), ("state", .text "writing")]
  | .complete device inode sha256 =>
    .object [
      ("device", .number device),
      ("inode", .number inode),
      ("sha256", .text sha256),
      ("state", .text "complete")]

/-- The JSON value of a running cycle. -/
def AgentRunning.toValue (value : AgentRunning) : JsonText :=
  .object [
    ("authority_lease_id", .text value.authorityLeaseId),
    ("control_group", .text value.controlGroup),
    ("cycle_id", .text value.cycleId),
    ("cycle_number", .number value.cycleNumber),
    ("input_sha256", .text value.inputSha256),
    ("launch_operation_id", .text value.launchOperationId),
    ("launcher", value.launcher.toValue),
    ("pid", .number value.pid),
    ("process_start_ticks", .number value.processStartTicks),
    ("result", value.result.toValue),
    ("sandbox_id", .text value.sandboxId),
    ("started_at", .text value.startedAt),
    ("unit_name", .text value.unitName)]

/-- The JSON value of a candidate's classification. -/
def CandidateClassification.toValue : CandidateClassification → JsonText
  | .mechanical => .text "mechanical"
  | .semantic => .text "semantic"

/-- The JSON value of a candidate that is being built. -/
def CandidateBuilding.toValue (value : CandidateBuilding) : JsonText :=
  .object [
    ("author_email", .text value.authorEmail),
    ("author_name", .text value.authorName),
    ("author_timestamp", .text value.authorTimestamp),
    ("classification", value.classification.toValue),
    ("committer_email", .text value.committerEmail),
    ("committer_name", .text value.committerName),
    ("committer_timestamp", .text value.committerTimestamp),
    ("cycle_id", .text value.cycleId),
    ("message", .text value.message),
    ("operation_id", .text value.operationId),
    ("operation_ref", .text value.operationRef),
    ("parent_shas", textsJson value.parentShas),
    ("staged_tree_sha256", .text value.stagedTreeSha256),
    ("tree_sha", .text value.treeSha)]

/-- The JSON value of a candidate that waits for its review. -/
def CandidateReviewRequired.toValue (value : CandidateReviewRequired) : JsonText :=
  .object [
    ("candidate_sha", .text value.candidateSha),
    ("cycle_id", .text value.cycleId),
    ("review_id", .text value.reviewId)]

/-- The JSON value of a candidate's review. -/
def CandidateReview.toValue : CandidateReview → JsonText
  | .mechanical => .object [("kind", .text "mechanical")]
  | .approved reviewId => .object [("kind", .text "approved"), ("review_id", .text reviewId)]

/-- The JSON value of a candidate that is ready. -/
def CandidateReady.toValue (value : CandidateReady) : JsonText :=
  .object [
    ("candidate_sha", .text value.candidateSha),
    ("cycle_id", .text value.cycleId),
    ("review", value.review.toValue)]

/-- The JSON value of the stage of a validation. -/
def ValidationStage.toValue : ValidationStage → JsonText
  | .running => .text "running"
  | .gates => .text "gates"

/-- The JSON value of a candidate in validation. -/
def Validating.toValue (value : Validating) : JsonText :=
  .object [
    ("candidate_sha", .text value.candidateSha),
    ("policy_digest", .text value.policyDigest),
    ("stage", value.stage.toValue)]

/-- The JSON value of a landing's sign-off. -/
def SignoffDisposition.toValue : SignoffDisposition → JsonText
  | .noValidation policyDigest =>
    .object [("kind", .text "no_validation"), ("policy_digest", .text policyDigest)]
  | .validationWithoutSignoff policyDigest =>
    .object [("kind", .text "validation_without_signoff"), ("policy_digest", .text policyDigest)]
  | .evidence evidenceId candidateSha policyDigest =>
    .object [
      ("candidate_sha", .text candidateSha),
      ("evidence_id", .text evidenceId),
      ("kind", .text "evidence"),
      ("policy_digest", .text policyDigest)]

/-- The JSON value of a landing. -/
def Landing.toValue (value : Landing) : JsonText :=
  .object [
    ("candidate_sha", .text value.candidateSha),
    ("expected_target_sha", .text value.expectedTargetSha),
    ("lease_id", .text value.leaseId),
    ("signoff", value.signoff.toValue)]

/-- The JSON value of a landing whose outcome is unknown. -/
def LandingUncertain.toValue (value : LandingUncertain) : JsonText :=
  .object [
    ("candidate_sha", .text value.candidateSha),
    ("command_id", .text value.commandId),
    ("evidence", .text value.evidence),
    ("expected_target_sha", .text value.expectedTargetSha)]

/-- The JSON value of an integration. -/
def Integrated.toValue (value : Integrated) : JsonText :=
  .object [
    ("attempt_id", .text value.attemptId),
    ("candidate_sha", .text value.candidateSha),
    ("event_id", .text value.eventId),
    ("landed_sha", .text value.landedSha)]

/-- The JSON value of a cancellation. -/
def Cancelled.toValue (value : Cancelled) : JsonText :=
  .object [
    ("actor", .text value.actor),
    ("cancelled_at", .text value.cancelledAt),
    ("reason", .text value.reason)]

/-- The JSON value of an effort that waits for a cleanup. -/
def ReplacementPending.toValue (value : ReplacementPending) : JsonText :=
  .object [("old_attempt_id", .text value.oldAttemptId), ("replaced_at", .text value.replacedAt)]

/-! ## Suspended states -/

/-- A state by its name and payload: `#[serde(tag = "state", content = "payload")]`. -/
def taggedState (name : String) (payload : JsonText) : JsonText :=
  .object [("payload", payload), ("state", .text name)]

/-- The JSON value of the state to resume. -/
def ResumeState.toValue : ResumeState → JsonText
  | .agentReady value => taggedState "agent_ready" value.toValue
  | .candidateBuilding value => taggedState "candidate_building" value.toValue
  | .reviewRequired value => taggedState "review_required" value.toValue
  | .candidateReady value => taggedState "candidate_ready" value.toValue
  | .validating value => taggedState "validating" value.toValue
  | .landing value => taggedState "landing" value.toValue
  | .landingUncertain value => taggedState "landing_uncertain" value.toValue

/-- The JSON value of the cause of a target move. -/
def TargetMoveCause.toValue : TargetMoveCause → JsonText
  | .observed previousTargetSha =>
    .object [("kind", .text "observed"), ("previous_target_sha", .text previousTargetSha)]
  | .staleLandingLease commandId expectedTargetSha =>
    .object [
      ("command_id", .text commandId),
      ("expected_target_sha", .text expectedTargetSha),
      ("kind", .text "stale_landing_lease")]

/-- `TargetMovePending`, by the value of its previous state. -/
def targetMoveJson (targetSha sourceSha : String) (previous : JsonText) (cause : TargetMoveCause) :
    JsonText :=
  .object [
    ("cause", cause.toValue),
    ("previous", previous),
    ("source_sha", .text sourceSha),
    ("target_sha", .text targetSha)]

/-- The JSON value of a pending target move. -/
def TargetMovePending.toValue (value : TargetMovePending) : JsonText :=
  targetMoveJson value.targetSha value.sourceSha value.previous.toValue value.cause

/-! ## Blockers -/

/-- The JSON value of an encoded path. -/
def EncodedPath.toValue (value : EncodedPath) : JsonText :=
  .array (value.components.map fun hex => .object [("hex", .text hex)])

/-- The JSON value of the commits of an effort's cycle. -/
def ExactEffortIdentity.toValue (value : ExactEffortIdentity) : JsonText :=
  .object [
    ("attempt_id", .text value.attemptId),
    ("candidate_sha", .option value.candidateSha),
    ("cycle_id", .text value.cycleId),
    ("effort_id", .text value.effortId),
    ("item_id", .text value.itemId),
    ("source_sha", .text value.sourceSha),
    ("target_sha", .text value.targetSha)]

/-- The JSON value of the alternatives of a question. -/
def GuidanceAlternatives.toValue : GuidanceAlternatives → JsonText
  | .explicit values => .object [("kind", .text "explicit"), ("values", textsJson values)]
  | .freeText => .object [("kind", .text "free_text")]

/-- The JSON value of the component that failed. -/
def InfrastructureComponent.toValue : InfrastructureComponent → JsonText
  | .configuration => .text "configuration"
  | .sandbox => .text "sandbox"
  | .runner => .text "runner"
  | .filesystem => .text "filesystem"
  | .database => .text "database"
  | .validation => .text "validation"

/-- The JSON value of the cause of a failure of the infrastructure. -/
def InfrastructureCause.toValue : InfrastructureCause → JsonText
  | .unavailable detail => .object [("detail", .text detail), ("kind", .text "unavailable")]
  | .identityChanged expected actual =>
    .object [
      ("actual", .text actual),
      ("expected", .text expected),
      ("kind", .text "identity_changed")]
  | .interrupted detail => .object [("detail", .text detail), ("kind", .text "interrupted")]
  | .limitUnavailable limit detail =>
    .object [
      ("detail", .text detail),
      ("kind", .text "limit_unavailable"),
      ("limit", .text limit)]

/-- The JSON value of the failure of a cycle. -/
def CycleFailure.toValue : CycleFailure → JsonText
  | .mechanical operation reason evidence =>
    .object [
      ("evidence", .text evidence),
      ("kind", .text "mechanical"),
      ("operation", .text operation),
      ("reason", .text reason)]
  | .invalidResult reason => .object [("kind", .text "invalid_result"), ("reason", .text reason)]
  | .runnerCrash exitCode =>
    .object [("exit_code", exitCode.elim .null .integer), ("kind", .text "runner_crash")]
  | .timeout => .object [("kind", .text "timeout")]
  | .interrupted => .object [("kind", .text "interrupted")]
  | .candidateDefect evidence =>
    .object [("evidence", .text evidence), ("kind", .text "candidate_defect")]

/-- The JSON value of the kind of a provider's gate. -/
def ProviderGateKind.toValue : ProviderGateKind → JsonText
  | .provider => .text "provider"
  | .signoff => .text "signoff"

/-- The JSON value of the status of a provider's gate. -/
def ProviderGateStatus.toValue : ProviderGateStatus → JsonText
  | .pending => .text "pending"
  | .failed => .text "failed"

/-- `IntegrationBlocker`: its kind stands among the fields of its variant. -/
def IntegrationBlocker.toValue : IntegrationBlocker → JsonText
  | .semanticGuidance blocker =>
    .object [
      ("affected_contracts", textsJson blocker.affectedContracts),
      ("affected_paths", .array (blocker.affectedPaths.map EncodedPath.toValue)),
      ("alternatives", blocker.alternatives.toValue),
      ("evidence", .text blocker.evidence),
      ("identity", blocker.identity.toValue),
      ("kind", .text "semantic_guidance"),
      ("question", .text blocker.question),
      ("request_id", .text blocker.requestId)]
  | .infrastructure blocker =>
    .object [
      ("cause", blocker.cause.toValue),
      ("component", blocker.component.toValue),
      ("kind", .text "infrastructure"),
      ("operation", .text blocker.operation)]
  | .cycleLimit blocker =>
    .object [
      ("alert_event_id", .text blocker.alertEventId),
      ("count", .number blocker.count),
      ("cycle_ids", textsJson blocker.cycleIds),
      ("kind", .text "cycle_limit"),
      ("last_failure", blocker.lastFailure.toValue)]
  | .providerSignoff blocker =>
    .object [
      ("candidate_sha", .text blocker.candidateSha),
      ("context", .text blocker.context),
      ("evidence", .text blocker.evidence),
      ("gate", blocker.gate.toValue),
      ("kind", .text "provider_signoff"),
      ("repository", .text blocker.repository),
      ("status", blocker.status.toValue)]

/-- `BlockedEffort`, by the value of the state to resume. -/
def blockedJson (blocker : IntegrationBlocker) (resume : JsonText) : JsonText :=
  .object [("blocker", blocker.toValue), ("resume", resume)]

/-- The JSON value of a blocked effort. -/
def BlockedEffort.toValue (value : BlockedEffort) : JsonText :=
  blockedJson value.blocker value.resume.toValue

/-! ## Effort states -/

/-- The payload of a state. -/
def IntegrationEffortState.payloadValue : IntegrationEffortState → JsonText
  | .replacementPending value => value.toValue
  | .agentReady value => value.toValue
  | .agentLaunching value => value.toValue
  | .agentRunning value => value.toValue
  | .candidateBuilding value => value.toValue
  | .reviewRequired value => value.toValue
  | .candidateReady value => value.toValue
  | .validating value => value.toValue
  | .guidanceRequired value => value.toValue
  | .infrastructureBlocked value => value.toValue
  | .cycleLimitBlocked value => value.toValue
  | .providerBlocked value => value.toValue
  | .landing value => value.toValue
  | .landingUncertain value => value.toValue
  | .targetMovePending value => value.toValue
  | .integrated value => value.toValue
  | .cancelled value => value.toValue

/-- The value of a state. -/
def IntegrationEffortState.toValue (state : IntegrationEffortState) : JsonText :=
  taggedState state.name.text state.payloadValue

end Iq
