import Iq.Domain.StateJson
import Iq.Library.JsonFields

/-!
# Reading effort states

The derived decoder of `IntegrationEffortState` and of the types in it. Each type refuses unknown
fields, and an optional field may be absent or null. What serialization writes is read back as it
was.
-/

namespace Iq

open Library JsonText

/-- A list of texts. -/
def textsFromValue? : JsonText → Option (List String) := list? asText

/-- The tag of a value that keeps its tag among its fields. -/
def kindOf? (value : JsonText) (tag : String) : Option String := (value.get? tag).bind asText

/-! ## Cycles and candidates -/

/-- Reads an effort that waits for its next cycle. -/
def AgentReady.fromValue? (value : JsonText) : Option AgentReady := do
  let fields ← value.strict? ["next_cycle"]
  return {
    nextCycle := ← field? fields "next_cycle" asNumber }

/-- Reads a launcher's process. -/
def LauncherAuthority.fromValue? (value : JsonText) : Option LauncherAuthority := do
  let fields ← value.strict? ["pid", "process_start_ticks", "token"]
  return {
    pid := ← field? fields "pid" asNumber
    processStartTicks := ← field? fields "process_start_ticks" asNumber
    token := ← field? fields "token" asText }

/-- Reads the authority to spawn. -/
def SpawnAuthority.fromValue? (value : JsonText) : Option SpawnAuthority :=
  match value.asText with
  | some "open" => some .open
  | some "close_requested" => some .closeRequested
  | some "surrendered" => some .surrendered
  | some "closed" => some .closed
  | _ => none

/-- Reads a launch. -/
def AgentLaunching.fromValue? (value : JsonText) : Option AgentLaunching := do
  let fields ← value.strict? ["launch_operation_id", "unit_name", "cycle_id", "cycle_number",
    "authority_lease_id", "launcher", "input_sha256", "protocol_directory", "prepared_at",
    "spawn_authority"]
  return {
    launchOperationId := ← field? fields "launch_operation_id" asText
    unitName := ← field? fields "unit_name" asText
    cycleId := ← field? fields "cycle_id" asText
    cycleNumber := ← field? fields "cycle_number" asNumber
    authorityLeaseId := ← field? fields "authority_lease_id" asText
    launcher := ← field? fields "launcher" LauncherAuthority.fromValue?
    inputSha256 := ← field? fields "input_sha256" asText
    protocolDirectory := ← field? fields "protocol_directory" asText
    preparedAt := ← field? fields "prepared_at" asText
    spawnAuthority := ← field? fields "spawn_authority" SpawnAuthority.fromValue? }

/-- Reads the publication of a cycle's result. -/
def AtomicResultState.fromValue? (value : JsonText) : Option AtomicResultState := do
  match ← kindOf? value "state" with
  | "absent" =>
    let _ ← value.strict? ["state"]
    return .absent
  | "writing" =>
    let fields ← value.strict? ["state", "device", "inode"]
    return .writing (← field? fields "device" asNumber) (← field? fields "inode" asNumber)
  | "complete" =>
    let fields ← value.strict? ["state", "device", "inode", "sha256"]
    return .complete (← field? fields "device" asNumber) (← field? fields "inode" asNumber)
      (← field? fields "sha256" asText)
  | _ => none

/-- Reads a running cycle. -/
def AgentRunning.fromValue? (value : JsonText) : Option AgentRunning := do
  let fields ← value.strict? ["launch_operation_id", "unit_name", "cycle_id", "cycle_number", "pid",
    "process_start_ticks", "control_group", "authority_lease_id", "launcher", "sandbox_id",
    "input_sha256", "result", "started_at"]
  return {
    launchOperationId := ← field? fields "launch_operation_id" asText
    unitName := ← field? fields "unit_name" asText
    cycleId := ← field? fields "cycle_id" asText
    cycleNumber := ← field? fields "cycle_number" asNumber
    pid := ← field? fields "pid" asNumber
    processStartTicks := ← field? fields "process_start_ticks" asNumber
    controlGroup := ← field? fields "control_group" asText
    authorityLeaseId := ← field? fields "authority_lease_id" asText
    launcher := ← field? fields "launcher" LauncherAuthority.fromValue?
    sandboxId := ← field? fields "sandbox_id" asText
    inputSha256 := ← field? fields "input_sha256" asText
    result := ← field? fields "result" AtomicResultState.fromValue?
    startedAt := ← field? fields "started_at" asText }

/-- Reads a candidate's classification. -/
def CandidateClassification.fromValue? (value : JsonText) : Option CandidateClassification :=
  match value.asText with
  | some "mechanical" => some .mechanical
  | some "semantic" => some .semantic
  | _ => none

/-- Reads a candidate that is being built. -/
def CandidateBuilding.fromValue? (value : JsonText) : Option CandidateBuilding := do
  let fields ← value.strict? ["operation_id", "cycle_id", "staged_tree_sha256", "tree_sha",
    "parent_shas", "author_name", "author_email", "author_timestamp", "committer_name",
    "committer_email", "committer_timestamp", "message", "operation_ref", "classification"]
  return {
    operationId := ← field? fields "operation_id" asText
    cycleId := ← field? fields "cycle_id" asText
    stagedTreeSha256 := ← field? fields "staged_tree_sha256" asText
    treeSha := ← field? fields "tree_sha" asText
    parentShas := ← field? fields "parent_shas" textsFromValue?
    authorName := ← field? fields "author_name" asText
    authorEmail := ← field? fields "author_email" asText
    authorTimestamp := ← field? fields "author_timestamp" asText
    committerName := ← field? fields "committer_name" asText
    committerEmail := ← field? fields "committer_email" asText
    committerTimestamp := ← field? fields "committer_timestamp" asText
    message := ← field? fields "message" asText
    operationRef := ← field? fields "operation_ref" asText
    classification := ← field? fields "classification" CandidateClassification.fromValue? }

/-- Reads a candidate that waits for its review. -/
def CandidateReviewRequired.fromValue? (value : JsonText) : Option CandidateReviewRequired := do
  let fields ← value.strict? ["review_id", "cycle_id", "candidate_sha"]
  return {
    reviewId := ← field? fields "review_id" asText
    cycleId := ← field? fields "cycle_id" asText
    candidateSha := ← field? fields "candidate_sha" asText }

/-- Reads a candidate's review. -/
def CandidateReview.fromValue? (value : JsonText) : Option CandidateReview := do
  match ← kindOf? value "kind" with
  | "mechanical" =>
    let _ ← value.strict? ["kind"]
    return .mechanical
  | "approved" =>
    let fields ← value.strict? ["kind", "review_id"]
    return .approved (← field? fields "review_id" asText)
  | _ => none

/-- Reads a candidate that is ready. -/
def CandidateReady.fromValue? (value : JsonText) : Option CandidateReady := do
  let fields ← value.strict? ["cycle_id", "candidate_sha", "review"]
  return {
    cycleId := ← field? fields "cycle_id" asText
    candidateSha := ← field? fields "candidate_sha" asText
    review := ← field? fields "review" CandidateReview.fromValue? }

/-- Reads the stage of a validation. -/
def ValidationStage.fromValue? (value : JsonText) : Option ValidationStage :=
  match value.asText with
  | some "running" => some .running
  | some "gates" => some .gates
  | _ => none

/-- Reads a candidate in validation. -/
def Validating.fromValue? (value : JsonText) : Option Validating := do
  let fields ← value.strict? ["candidate_sha", "policy_digest", "stage"]
  return {
    candidateSha := ← field? fields "candidate_sha" asText
    policyDigest := ← field? fields "policy_digest" asText
    stage := ← field? fields "stage" ValidationStage.fromValue? }

/-- Reads a landing's sign-off. -/
def SignoffDisposition.fromValue? (value : JsonText) : Option SignoffDisposition := do
  match ← kindOf? value "kind" with
  | "no_validation" =>
    let fields ← value.strict? ["kind", "policy_digest"]
    return .noValidation (← field? fields "policy_digest" asText)
  | "validation_without_signoff" =>
    let fields ← value.strict? ["kind", "policy_digest"]
    return .validationWithoutSignoff (← field? fields "policy_digest" asText)
  | "evidence" =>
    let fields ← value.strict? ["kind", "evidence_id", "candidate_sha", "policy_digest"]
    return .evidence (← field? fields "evidence_id" asText)
      (← field? fields "candidate_sha" asText) (← field? fields "policy_digest" asText)
  | _ => none

/-- Reads a landing. -/
def Landing.fromValue? (value : JsonText) : Option Landing := do
  let fields ← value.strict? ["candidate_sha", "expected_target_sha", "lease_id", "signoff"]
  return {
    candidateSha := ← field? fields "candidate_sha" asText
    expectedTargetSha := ← field? fields "expected_target_sha" asText
    leaseId := ← field? fields "lease_id" asText
    signoff := ← field? fields "signoff" SignoffDisposition.fromValue? }

/-- Reads a landing whose outcome is unknown. -/
def LandingUncertain.fromValue? (value : JsonText) : Option LandingUncertain := do
  let fields ← value.strict? ["candidate_sha", "expected_target_sha", "command_id", "evidence"]
  return {
    candidateSha := ← field? fields "candidate_sha" asText
    expectedTargetSha := ← field? fields "expected_target_sha" asText
    commandId := ← field? fields "command_id" asText
    evidence := ← field? fields "evidence" asText }

/-- Reads an integration. -/
def Integrated.fromValue? (value : JsonText) : Option Integrated := do
  let fields ← value.strict? ["candidate_sha", "landed_sha", "attempt_id", "event_id"]
  return {
    candidateSha := ← field? fields "candidate_sha" asText
    landedSha := ← field? fields "landed_sha" asText
    attemptId := ← field? fields "attempt_id" asText
    eventId := ← field? fields "event_id" asText }

/-- Reads a cancellation. -/
def Cancelled.fromValue? (value : JsonText) : Option Cancelled := do
  let fields ← value.strict? ["actor", "reason", "cancelled_at"]
  return {
    actor := ← field? fields "actor" asText
    reason := ← field? fields "reason" asText
    cancelledAt := ← field? fields "cancelled_at" asText }

/-- Reads an effort that waits for a cleanup. -/
def ReplacementPending.fromValue? (value : JsonText) : Option ReplacementPending := do
  let fields ← value.strict? ["old_attempt_id", "replaced_at"]
  return {
    oldAttemptId := ← field? fields "old_attempt_id" asText
    replacedAt := ← field? fields "replaced_at" asText }

/-! ## Suspended states -/

/-- The name and the payload of a state. -/
def taggedFromValue? (value : JsonText) : Option (String × JsonText) := do
  let fields ← value.strict? ["state", "payload"]
  return (← field? fields "state" asText, ← field? fields "payload" some)

/-- Reads the state to resume. -/
def ResumeState.fromValue? (value : JsonText) : Option ResumeState := do
  let (name, payload) ← taggedFromValue? value
  match name with
  | "agent_ready" => (AgentReady.fromValue? payload).map .agentReady
  | "candidate_building" => (CandidateBuilding.fromValue? payload).map .candidateBuilding
  | "review_required" => (CandidateReviewRequired.fromValue? payload).map .reviewRequired
  | "candidate_ready" => (CandidateReady.fromValue? payload).map .candidateReady
  | "validating" => (Validating.fromValue? payload).map .validating
  | "landing" => (Landing.fromValue? payload).map .landing
  | "landing_uncertain" => (LandingUncertain.fromValue? payload).map .landingUncertain
  | _ => none

/-- Reads the cause of a target move. -/
def TargetMoveCause.fromValue? (value : JsonText) : Option TargetMoveCause := do
  match ← kindOf? value "kind" with
  | "observed" =>
    let fields ← value.strict? ["kind", "previous_target_sha"]
    return .observed (← field? fields "previous_target_sha" asText)
  | "stale_landing_lease" =>
    let fields ← value.strict? ["kind", "command_id", "expected_target_sha"]
    return .staleLandingLease (← field? fields "command_id" asText)
      (← field? fields "expected_target_sha" asText)
  | _ => none

/-- Reads a pending target move. -/
def TargetMovePending.fromValue? (value : JsonText) : Option TargetMovePending := do
  let fields ← value.strict? ["target_sha", "source_sha", "previous", "cause"]
  return {
    targetSha := ← field? fields "target_sha" asText
    sourceSha := ← field? fields "source_sha" asText
    previous := ← field? fields "previous" ResumeState.fromValue?
    cause := ← field? fields "cause" TargetMoveCause.fromValue? }

/-! ## Blockers -/

/-- Reads an encoded path. -/
def EncodedPath.fromValue? (value : JsonText) : Option EncodedPath :=
  (list? componentFromValue? value).map .mk
where
  componentFromValue? (component : JsonText) : Option String := do
    let fields ← component.strict? ["hex"]
    field? fields "hex" asText

/-- Reads the commits of an effort's cycle. -/
def ExactEffortIdentity.fromValue? (value : JsonText) : Option ExactEffortIdentity := do
  let fields ← value.strict? ["effort_id", "item_id", "attempt_id", "cycle_id", "target_sha",
    "source_sha", "candidate_sha"]
  return {
    effortId := ← field? fields "effort_id" asText
    itemId := ← field? fields "item_id" asText
    attemptId := ← field? fields "attempt_id" asText
    cycleId := ← field? fields "cycle_id" asText
    targetSha := ← field? fields "target_sha" asText
    sourceSha := ← field? fields "source_sha" asText
    candidateSha := ← optionalField? fields "candidate_sha" asText }

/-- Reads the alternatives of a question. -/
def GuidanceAlternatives.fromValue? (value : JsonText) : Option GuidanceAlternatives := do
  match ← kindOf? value "kind" with
  | "explicit" =>
    let fields ← value.strict? ["kind", "values"]
    return .explicit (← field? fields "values" textsFromValue?)
  | "free_text" =>
    let _ ← value.strict? ["kind"]
    return .freeText
  | _ => none

/-- Reads the component that failed. -/
def InfrastructureComponent.fromValue? (value : JsonText) : Option InfrastructureComponent :=
  match value.asText with
  | some "configuration" => some .configuration
  | some "sandbox" => some .sandbox
  | some "runner" => some .runner
  | some "filesystem" => some .filesystem
  | some "database" => some .database
  | some "validation" => some .validation
  | _ => none

/-- Reads the cause of a failure of the infrastructure. -/
def InfrastructureCause.fromValue? (value : JsonText) : Option InfrastructureCause := do
  match ← kindOf? value "kind" with
  | "unavailable" =>
    let fields ← value.strict? ["kind", "detail"]
    return .unavailable (← field? fields "detail" asText)
  | "identity_changed" =>
    let fields ← value.strict? ["kind", "expected", "actual"]
    return .identityChanged (← field? fields "expected" asText) (← field? fields "actual" asText)
  | "interrupted" =>
    let fields ← value.strict? ["kind", "detail"]
    return .interrupted (← field? fields "detail" asText)
  | "limit_unavailable" =>
    let fields ← value.strict? ["kind", "limit", "detail"]
    return .limitUnavailable (← field? fields "limit" asText) (← field? fields "detail" asText)
  | _ => none

/-- An integer, with a sign or without. -/
def integerFromValue? : JsonText → Option Int
  | .integer value => some value
  | .number value => some value
  | _ => none

/-- Reads the failure of a cycle. -/
def CycleFailure.fromValue? (value : JsonText) : Option CycleFailure := do
  match ← kindOf? value "kind" with
  | "mechanical" =>
    let fields ← value.strict? ["kind", "operation", "reason", "evidence"]
    return .mechanical (← field? fields "operation" asText) (← field? fields "reason" asText)
      (← field? fields "evidence" asText)
  | "invalid_result" =>
    let fields ← value.strict? ["kind", "reason"]
    return .invalidResult (← field? fields "reason" asText)
  | "runner_crash" =>
    let fields ← value.strict? ["kind", "exit_code"]
    return .runnerCrash (← optionalField? fields "exit_code" integerFromValue?)
  | "timeout" =>
    let _ ← value.strict? ["kind"]
    return .timeout
  | "interrupted" =>
    let _ ← value.strict? ["kind"]
    return .interrupted
  | "candidate_defect" =>
    let fields ← value.strict? ["kind", "evidence"]
    return .candidateDefect (← field? fields "evidence" asText)
  | _ => none

/-- Reads the kind of a provider's gate. -/
def ProviderGateKind.fromValue? (value : JsonText) : Option ProviderGateKind :=
  match value.asText with
  | some "provider" => some .provider
  | some "signoff" => some .signoff
  | _ => none

/-- Reads the status of a provider's gate. -/
def ProviderGateStatus.fromValue? (value : JsonText) : Option ProviderGateStatus :=
  match value.asText with
  | some "pending" => some .pending
  | some "failed" => some .failed
  | _ => none

/-! The fields of a blocker stand beside the tag of its kind. -/

/-- Reads a question to the operator. -/
def SemanticGuidanceBlocker.fromValue? (value : JsonText) : Option SemanticGuidanceBlocker := do
  let fields ← value.strict? ["kind", "request_id", "question", "affected_contracts",
    "affected_paths", "alternatives", "evidence", "identity"]
  return {
    requestId := ← field? fields "request_id" asText
    question := ← field? fields "question" asText
    affectedContracts := ← field? fields "affected_contracts" textsFromValue?
    affectedPaths := ← field? fields "affected_paths" (list? EncodedPath.fromValue?)
    alternatives := ← field? fields "alternatives" GuidanceAlternatives.fromValue?
    evidence := ← field? fields "evidence" asText
    identity := ← field? fields "identity" ExactEffortIdentity.fromValue? }

/-- Reads a failure of the infrastructure. -/
def InfrastructureBlocker.fromValue? (value : JsonText) : Option InfrastructureBlocker := do
  let fields ← value.strict? ["kind", "component", "operation", "cause"]
  return {
    component := ← field? fields "component" InfrastructureComponent.fromValue?
    operation := ← field? fields "operation" asText
    cause := ← field? fields "cause" InfrastructureCause.fromValue? }

/-- Reads the limit of cycles. -/
def CycleLimitBlocker.fromValue? (value : JsonText) : Option CycleLimitBlocker := do
  let fields ← value.strict? ["kind", "count", "cycle_ids", "last_failure", "alert_event_id"]
  return {
    count := ← field? fields "count" asNumber
    cycleIds := ← field? fields "cycle_ids" textsFromValue?
    lastFailure := ← field? fields "last_failure" CycleFailure.fromValue?
    alertEventId := ← field? fields "alert_event_id" asText }

/-- Reads a provider's gate that blocks. -/
def ProviderSignoffBlocker.fromValue? (value : JsonText) : Option ProviderSignoffBlocker := do
  let fields ← value.strict? ["kind", "gate", "repository", "context", "candidate_sha", "status",
    "evidence"]
  return {
    gate := ← field? fields "gate" ProviderGateKind.fromValue?
    repository := ← field? fields "repository" asText
    context := ← field? fields "context" asText
    candidateSha := ← field? fields "candidate_sha" asText
    status := ← field? fields "status" ProviderGateStatus.fromValue?
    evidence := ← field? fields "evidence" asText }

/-- Reads a blocker. -/
def IntegrationBlocker.fromValue? (value : JsonText) : Option IntegrationBlocker := do
  match ← kindOf? value "kind" with
  | "semantic_guidance" => (SemanticGuidanceBlocker.fromValue? value).map .semanticGuidance
  | "infrastructure" => (InfrastructureBlocker.fromValue? value).map .infrastructure
  | "cycle_limit" => (CycleLimitBlocker.fromValue? value).map .cycleLimit
  | "provider_signoff" => (ProviderSignoffBlocker.fromValue? value).map .providerSignoff
  | _ => none

/-- Reads a blocked effort. -/
def BlockedEffort.fromValue? (value : JsonText) : Option BlockedEffort := do
  let fields ← value.strict? ["blocker", "resume"]
  return {
    blocker := ← field? fields "blocker" IntegrationBlocker.fromValue?
    resume := ← field? fields "resume" ResumeState.fromValue? }

/-! ## Effort states -/

/-- The decoder of an effort state. -/
def IntegrationEffortState.fromValue? (value : JsonText) : Option IntegrationEffortState := do
  let (name, payload) ← taggedFromValue? value
  match name with
  | "replacement_pending" => (ReplacementPending.fromValue? payload).map .replacementPending
  | "agent_ready" => (AgentReady.fromValue? payload).map .agentReady
  | "agent_launching" => (AgentLaunching.fromValue? payload).map .agentLaunching
  | "agent_running" => (AgentRunning.fromValue? payload).map .agentRunning
  | "candidate_building" => (CandidateBuilding.fromValue? payload).map .candidateBuilding
  | "review_required" => (CandidateReviewRequired.fromValue? payload).map .reviewRequired
  | "candidate_ready" => (CandidateReady.fromValue? payload).map .candidateReady
  | "validating" => (Validating.fromValue? payload).map .validating
  | "guidance_required" => (BlockedEffort.fromValue? payload).map .guidanceRequired
  | "infrastructure_blocked" => (BlockedEffort.fromValue? payload).map .infrastructureBlocked
  | "cycle_limit_blocked" => (BlockedEffort.fromValue? payload).map .cycleLimitBlocked
  | "provider_blocked" => (BlockedEffort.fromValue? payload).map .providerBlocked
  | "landing" => (Landing.fromValue? payload).map .landing
  | "landing_uncertain" => (LandingUncertain.fromValue? payload).map .landingUncertain
  | "target_move_pending" => (TargetMovePending.fromValue? payload).map .targetMovePending
  | "integrated" => (Integrated.fromValue? payload).map .integrated
  | "cancelled" => (Cancelled.fromValue? payload).map .cancelled
  | _ => none

/-! ## What is written is read back -/

/-- A payload is read under the variant that holds it. -/
theorem map_payload {α β : Type} {read : JsonText → Option α} {value : α} {written : JsonText}
    (inverse : read written = some value) (variant : α → β) :
    (read written).map variant = some (variant value) := by
  rw [inverse]
  rfl

/-- A list of texts is read back. -/
theorem textsFromValue?_textsJson (texts : List String) :
    textsFromValue? (textsJson texts) = some texts := by
  have inverse (value : String) : asText (.text value) = some value := rfl
  exact list?_array_map inverse texts

/-- An encoded path is read back. -/
theorem EncodedPath.fromValue?_toValue (path : EncodedPath) :
    fromValue? path.toValue = some path := by
  have inverse (hex : String) :
      fromValue?.componentFromValue? (.object [("hex", .text hex)]) = some hex := rfl
  show (list? fromValue?.componentFromValue? (.array (path.components.map _))).map .mk = some path
  rw [list?_array_map inverse]
  rfl

/-- A launching agent is read back. -/
theorem AgentLaunching.fromValue?_toValue (value : AgentLaunching) :
    fromValue? value.toValue = some value := by
  obtain ⟨_, _, _, _, _, _, _, _, _, spawnAuthority⟩ := value
  cases spawnAuthority <;> rfl

/-- A running agent is read back. -/
theorem AgentRunning.fromValue?_toValue (value : AgentRunning) :
    fromValue? value.toValue = some value := by
  obtain ⟨_, _, _, _, _, _, _, _, _, _, _, result, _⟩ := value
  cases result <;> rfl

/-- A candidate that is being built is read back. -/
theorem CandidateBuilding.fromValue?_toValue (value : CandidateBuilding) :
    fromValue? value.toValue = some value := by
  have parents := textsFromValue?_textsJson value.parentShas
  obtain ⟨_, _, _, _, parentShas, _, _, _, _, _, _, _, _, classification⟩ := value
  show (textsFromValue? (textsJson parentShas)).bind (fun parents =>
    (CandidateClassification.fromValue? classification.toValue).bind _) = some _
  rw [parents]
  cases classification <;> rfl

/-- A ready candidate is read back. -/
theorem CandidateReady.fromValue?_toValue (value : CandidateReady) :
    fromValue? value.toValue = some value := by
  obtain ⟨_, _, review⟩ := value
  cases review <;> rfl

/-- A validation is read back. -/
theorem Validating.fromValue?_toValue (value : Validating) :
    fromValue? value.toValue = some value := by
  obtain ⟨_, _, stage⟩ := value
  cases stage <;> rfl

/-- A landing is read back. -/
theorem Landing.fromValue?_toValue (value : Landing) : fromValue? value.toValue = some value := by
  obtain ⟨_, _, _, signoff⟩ := value
  cases signoff <;> rfl

/-- A suspended state is read back. -/
theorem ResumeState.fromValue?_toValue (state : ResumeState) :
    fromValue? state.toValue = some state := by
  cases state with
  | agentReady | reviewRequired | landingUncertain => rfl
  | candidateBuilding value => exact map_payload value.fromValue?_toValue candidateBuilding
  | candidateReady value => exact map_payload value.fromValue?_toValue candidateReady
  | validating value => exact map_payload value.fromValue?_toValue validating
  | landing value => exact map_payload value.fromValue?_toValue landing

/-- A pending move is read back. -/
theorem TargetMovePending.fromValue?_toValue (value : TargetMovePending) :
    fromValue? value.toValue = some value := by
  obtain ⟨_, _, previous, cause⟩ := value
  show (ResumeState.fromValue? previous.toValue).bind (fun previous =>
    (TargetMoveCause.fromValue? cause.toValue).bind _) = some _
  rw [previous.fromValue?_toValue]
  cases cause <;> rfl

/-- An identity is read back. -/
theorem ExactEffortIdentity.fromValue?_toValue (identity : ExactEffortIdentity) :
    fromValue? identity.toValue = some identity := by
  obtain ⟨_, _, _, _, _, _, candidateSha⟩ := identity
  cases candidateSha <;> rfl

/-- The alternatives of a question are read back. -/
theorem GuidanceAlternatives.fromValue?_toValue (alternatives : GuidanceAlternatives) :
    fromValue? alternatives.toValue = some alternatives := by
  cases alternatives with
  | freeText => rfl
  | explicit values =>
    show (textsFromValue? (textsJson values)).bind (fun values => some (explicit values)) = _
    rw [textsFromValue?_textsJson]
    rfl

/-- A blocker of the infrastructure is read back. -/
theorem InfrastructureBlocker.fromValue?_toValue (blocker : InfrastructureBlocker) :
    fromValue? (IntegrationBlocker.infrastructure blocker).toValue = some blocker := by
  obtain ⟨component, _, cause⟩ := blocker
  cases component <;> cases cause <;> rfl

/-- A failure is read back. -/
theorem CycleFailure.fromValue?_toValue (failure : CycleFailure) :
    fromValue? failure.toValue = some failure := by
  cases failure with
  | runnerCrash exitCode => cases exitCode <;> rfl
  | mechanical | invalidResult | timeout | interrupted | candidateDefect => rfl

/-- A blocker at the limit is read back. -/
theorem CycleLimitBlocker.fromValue?_toValue (blocker : CycleLimitBlocker) :
    fromValue? (IntegrationBlocker.cycleLimit blocker).toValue = some blocker := by
  obtain ⟨_, cycleIds, lastFailure, _⟩ := blocker
  show (textsFromValue? (textsJson cycleIds)).bind (fun cycleIds =>
    (CycleFailure.fromValue? lastFailure.toValue).bind _) = some _
  rw [textsFromValue?_textsJson, lastFailure.fromValue?_toValue]
  rfl

/-- A blocker of the provider is read back. -/
theorem ProviderSignoffBlocker.fromValue?_toValue (blocker : ProviderSignoffBlocker) :
    fromValue? (IntegrationBlocker.providerSignoff blocker).toValue = some blocker := by
  obtain ⟨gate, _, _, _, status, _⟩ := blocker
  cases gate <;> cases status <;> rfl

/-- A blocker that asks for guidance is read back. -/
theorem SemanticGuidanceBlocker.fromValue?_toValue (blocker : SemanticGuidanceBlocker) :
    fromValue? (IntegrationBlocker.semanticGuidance blocker).toValue = some blocker := by
  have paths := list?_array_map EncodedPath.fromValue?_toValue blocker.affectedPaths
  obtain ⟨_, _, contracts, affectedPaths, alternatives, _, identity⟩ := blocker
  show (textsFromValue? (textsJson contracts)).bind (fun contracts =>
    (list? EncodedPath.fromValue? (.array (affectedPaths.map EncodedPath.toValue))).bind
      fun paths => (GuidanceAlternatives.fromValue? alternatives.toValue).bind fun alternatives =>
        (ExactEffortIdentity.fromValue? identity.toValue).bind _) = some _
  rw [textsFromValue?_textsJson, paths, alternatives.fromValue?_toValue,
    identity.fromValue?_toValue]
  rfl

/-- A blocker is read back. -/
theorem IntegrationBlocker.fromValue?_toValue (blocker : IntegrationBlocker) :
    fromValue? blocker.toValue = some blocker := by
  cases blocker with
  | semanticGuidance value => exact map_payload value.fromValue?_toValue semanticGuidance
  | infrastructure value => exact map_payload value.fromValue?_toValue infrastructure
  | cycleLimit value => exact map_payload value.fromValue?_toValue cycleLimit
  | providerSignoff value => exact map_payload value.fromValue?_toValue providerSignoff

/-- A blocked effort is read back. -/
theorem BlockedEffort.fromValue?_toValue (blocked : BlockedEffort) :
    fromValue? blocked.toValue = some blocked := by
  show (IntegrationBlocker.fromValue? blocked.blocker.toValue).bind (fun blocker =>
    (ResumeState.fromValue? blocked.resume.toValue).bind _) = some _
  rw [blocked.blocker.fromValue?_toValue, blocked.resume.fromValue?_toValue]
  rfl

namespace IntegrationEffortState

/-- An effort state is read back from the value that serialization makes of it. -/
theorem fromValue?_toValue (state : IntegrationEffortState) :
    fromValue? state.toValue = some state := by
  cases state with
  | replacementPending | agentReady | reviewRequired | landingUncertain | integrated
  | cancelled => rfl
  | agentLaunching value => exact map_payload value.fromValue?_toValue agentLaunching
  | agentRunning value => exact map_payload value.fromValue?_toValue agentRunning
  | candidateBuilding value => exact map_payload value.fromValue?_toValue candidateBuilding
  | candidateReady value => exact map_payload value.fromValue?_toValue candidateReady
  | validating value => exact map_payload value.fromValue?_toValue validating
  | guidanceRequired value => exact map_payload value.fromValue?_toValue guidanceRequired
  | infrastructureBlocked value =>
    exact map_payload value.fromValue?_toValue infrastructureBlocked
  | cycleLimitBlocked value => exact map_payload value.fromValue?_toValue cycleLimitBlocked
  | providerBlocked value => exact map_payload value.fromValue?_toValue providerBlocked
  | landing value => exact map_payload value.fromValue?_toValue landing
  | targetMovePending value => exact map_payload value.fromValue?_toValue targetMovePending

end IntegrationEffortState

end Iq
