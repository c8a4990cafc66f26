import Iq.Domain.State

/-!
# State predicates

The functions of `control_domain.rs` on effort states: which candidate a state carries, whether it
holds external landing authority, how a blocker captures and restores it, and whether it is valid
for a count of failed cycles. Composition evidence classifies candidates at the end.
-/

namespace Iq

namespace ResumeState

/-- `ResumeState::candidate_sha`. -/
def candidateSha : ResumeState → Option String
  | .reviewRequired value => some value.candidateSha
  | .candidateReady value => some value.candidateSha
  | .validating value => some value.candidateSha
  | .landing value => some value.candidateSha
  | .landingUncertain value => some value.candidateSha
  | .agentReady _ | .candidateBuilding _ => none

/-- `ResumeState::contains_external_landing_authority`. -/
def containsExternalLandingAuthority : ResumeState → Bool
  | .landingUncertain _ => true
  | .agentReady _ | .candidateBuilding _ | .reviewRequired _ | .candidateReady _ | .validating _
  | .landing _ => false

/-- `ResumeState::capture`; `none` is its error. -/
def capture? : IntegrationEffortState → Option ResumeState
  | .agentReady value => some (.agentReady value)
  | .candidateBuilding value => some (.candidateBuilding value)
  | .reviewRequired value => some (.reviewRequired value)
  | .candidateReady value => some (.candidateReady value)
  | .validating value => some (.validating value)
  | .landing value => some (.landing value)
  | .landingUncertain value => some (.landingUncertain value)
  | _ => none

/-- `ResumeState::restore`. -/
def restore : ResumeState → IntegrationEffortState
  | .agentReady value => .agentReady value
  | .candidateBuilding value => .candidateBuilding value
  | .reviewRequired value => .reviewRequired value
  | .candidateReady value => .candidateReady value
  | .validating value => .validating value
  | .landing value => .landing value
  | .landingUncertain value => .landingUncertain value

/-- The candidate of a landing-gate resume state: the match of `validate_provider`. -/
def landingGateCandidate? : ResumeState → Option String
  | .validating ⟨candidate, _, .gates⟩ => some candidate
  | .landing value => some value.candidateSha
  | .landingUncertain value => some value.candidateSha
  | _ => none

/-- `ResumeState::validate_provider`. -/
def validateProvider (resume : ResumeState) (blocker : ProviderSignoffBlocker) : Check :=
  match resume.landingGateCandidate? with
  | none => .error "provider blocker requires a landing-gate resume state"
  | some candidate =>
    check (candidate == blocker.candidateSha)
      "provider blocker candidate differs from its resume state"

/-- Capturing and restoring are inverse: a suspended state is exactly the state that was
captured. -/
theorem capture?_eq_some {state : IntegrationEffortState} {resume : ResumeState} :
    capture? state = some resume ↔ resume.restore = state := by
  cases state <;> cases resume <;> simp [capture?, restore, eq_comm]

end ResumeState

namespace IntegrationEffortState

/-- The blocked payload of the four blocked states. -/
def blocked? : IntegrationEffortState → Option BlockedEffort
  | .guidanceRequired value | .infrastructureBlocked value | .cycleLimitBlocked value
  | .providerBlocked value => some value
  | _ => none

/-- `IntegrationEffortState::blocker`. -/
def blocker (state : IntegrationEffortState) : Option IntegrationBlocker :=
  state.blocked?.map BlockedEffort.blocker

/-- `IntegrationEffortState::candidate_sha`. -/
def candidateSha : IntegrationEffortState → Option String
  | .reviewRequired value => some value.candidateSha
  | .candidateReady value => some value.candidateSha
  | .validating value => some value.candidateSha
  | .landing value => some value.candidateSha
  | .landingUncertain value => some value.candidateSha
  | .targetMovePending value => value.previous.candidateSha
  | .infrastructureBlocked value | .providerBlocked value => value.resume.candidateSha
  | .integrated value => some value.candidateSha
  | _ => none

/-- `IntegrationEffortState::contains_external_landing_authority`. -/
def containsExternalLandingAuthority : IntegrationEffortState → Bool
  | .guidanceRequired blocked | .infrastructureBlocked blocked | .cycleLimitBlocked blocked
  | .providerBlocked blocked => blocked.resume.containsExternalLandingAuthority
  | .landingUncertain _ | .integrated _ => true
  | .replacementPending _ | .agentReady _ | .agentLaunching _ | .agentRunning _
  | .candidateBuilding _ | .reviewRequired _ | .candidateReady _ | .validating _ | .landing _
  | .targetMovePending _ | .cancelled _ => false

/-- The launcher checks that launching and running states share. -/
def isLauncherAuthority (launcher : LauncherAuthority) : Bool :=
  launcher.pid != 0 && launcher.processStartTicks != 0 && 32 ≤ launcher.token.utf8ByteSize &&
    (bytesOf launcher.token).all fun byte => isAsciiAlphanumeric byte || byte == hyphen

/-- The condition of the `AgentLaunching` arm of `validate_for_count`. -/
def isLaunchAuthority (value : AgentLaunching) : Bool :=
  value.launchOperationId != "" && value.unitName != "" && value.cycleId != "" &&
    value.cycleNumber != 0 && value.authorityLeaseId != "" && isLauncherAuthority value.launcher &&
    isDigest value.inputSha256 &&
    (value.spawnAuthority == .open || value.spawnAuthority == .surrendered)

/-- The condition of the `AgentRunning` arm of `validate_for_count`. -/
def isRunningAuthority (value : AgentRunning) : Bool :=
  value.launchOperationId != "" && value.unitName != "" && value.cycleId != "" &&
    value.cycleNumber != 0 && value.pid != 0 &&
    startsWith value.controlGroup "/user.slice/" && value.authorityLeaseId != "" &&
    isLauncherAuthority value.launcher && isDigest value.inputSha256

end IntegrationEffortState

/-- `RunnerServiceAuthority::validate`. -/
def RunnerServiceAuthority.validate (service : RunnerServiceAuthority) : Check := do
  validateSystemdUnitName service.cycleId service.unitName
  check (service.pid != 0 && service.processStartTicks != 0)
    "runner service process identity is invalid"
  check (startsWith service.controlGroup "/user.slice/" &&
      endsWith service.controlGroup ("/" ++ service.unitName))
    "runner control group differs from its exact systemd unit"

/-- The cause checks of the `TargetMovePending` arm of `validate_for_count`. -/
def TargetMoveCause.validate : TargetMoveCause → Check
  | .observed previousTargetSha => requireExactText previousTargetSha "previous target"
  | .staleLandingLease commandId expectedTargetSha => do
    requireExactText commandId "stale landing command"
    requireExactText expectedTargetSha "stale landing expected target"

namespace IntegrationEffortState

/-- The payload arms of `validate_for_count`, reached when the count is within the limit. -/
def validatePayload : IntegrationEffortState → Check
  | .agentLaunching value => do
    check (isLaunchAuthority value) "agent_launching has invalid launch authority"
    validateSystemdUnitName value.cycleId value.unitName
  | .agentRunning value => do
    check (isRunningAuthority value) "agent_running has invalid launch authority"
    validateSystemdUnitName value.cycleId value.unitName
    value.terminationAuthority.validate
  | .targetMovePending value => do
    requireExactText value.targetSha "pending target move target"
    requireExactText value.sourceSha "pending target move source"
    value.cause.validate
  | _ => .ok ()

/-- `IntegrationEffortState::validate_for_count`. The blocked arms come before the general bound
on the count, as in the source; `validate_infrastructure` accepts every resume state. -/
def validateForCount (state : IntegrationEffortState) (failedCycles : Nat) : Check :=
  let within : Check :=
    if failedCycles > automaticCycleLimit then
      .error "failed consumed-cycle count exceeds ten"
    else
      state.validatePayload
  match state with
  | .replacementPending value =>
    if failedCycles != 0 || value.oldAttemptId == "" || value.replacedAt == "" then
      .error ("replacement_pending requires its old attempt, replacement time, " ++
        "and zero failed cycles")
    else
      within
  | .guidanceRequired ⟨.semanticGuidance _, _⟩ => within
  | .guidanceRequired _ => .error "guidance_required requires semantic_guidance"
  | .infrastructureBlocked ⟨.infrastructure _, _⟩ => .ok ()
  | .infrastructureBlocked _ => .error "infrastructure_blocked requires infrastructure"
  | .cycleLimitBlocked ⟨.cycleLimit blocker, _⟩ =>
    check (failedCycles == automaticCycleLimit && blocker.count == automaticCycleLimit)
      "cycle_limit_blocked requires exactly ten failed cycles"
  | .cycleLimitBlocked _ => .error "cycle_limit_blocked requires exactly ten failed cycles"
  | .providerBlocked ⟨.providerSignoff blocker, resume⟩ => resume.validateProvider blocker
  | .providerBlocked _ => .error "provider_blocked requires provider_signoff"
  | _ => within

end IntegrationEffortState

/-! ## Composition evidence -/

/-- `CompositionEvidence`. -/
inductive CompositionEvidence where
  | clean (mechanicalTreeSha : String)
  | targetMoved (mechanicalTreeSha : String)
  | conflicted (conflictPathsSha256 : String)
  | migratedUnknown (sourceSchema : Nat)
  | migratedPostRelease (sourceSchema : Nat)
  deriving DecidableEq, Repr

namespace CompositionEvidence

/-- `CompositionEvidence::candidate_classification`. -/
def candidateClassification (composition : CompositionEvidence) (acceptedTreeSha : String) :
    CandidateClassification :=
  match composition with
  | .clean mechanicalTreeSha =>
    if mechanicalTreeSha = acceptedTreeSha then .mechanical else .semantic
  | .targetMoved _ | .conflicted _ | .migratedUnknown _ | .migratedPostRelease _ => .semantic

/-- `CompositionEvidence::validate`; `allowMigrated` is its `allow_migrated_unknown`. -/
def validate (composition : CompositionEvidence) (format : GitObjectFormat)
    (allowMigrated : Bool) : Check :=
  let migrated (sourceSchema : Nat) : Check :=
    check (allowMigrated && (sourceSchema == 3 || sourceSchema == 5))
      "migrated composition evidence is not valid runtime composition"
  match composition with
  | .clean mechanicalTreeSha | .targetMoved mechanicalTreeSha =>
    format.requireOid mechanicalTreeSha "mechanical composition tree"
  | .conflicted conflictPathsSha256 =>
    check (isDigest conflictPathsSha256) "conflict-path evidence must be an exact SHA-256 digest"
  | .migratedUnknown sourceSchema => migrated sourceSchema
  | .migratedPostRelease sourceSchema => migrated sourceSchema

/-- A candidate is mechanical exactly when the composition was clean and produced its tree. -/
theorem candidateClassification_eq_mechanical {composition : CompositionEvidence} {tree : String} :
    composition.candidateClassification tree = .mechanical ↔ composition = .clean tree := by
  cases composition with
  | clean mechanicalTreeSha =>
    by_cases same : mechanicalTreeSha = tree <;> simp [candidateClassification, same]
  | targetMoved | conflicted | migratedUnknown | migratedPostRelease =>
    simp [candidateClassification]

end CompositionEvidence

end Iq
