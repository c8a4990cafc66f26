import Iq.Domain.Text

/-!
# Integration effort states

The state of one integration effort with the payload of each state, as `control_domain.rs` defines
them. A blocked state keeps the state it interrupted as a `ResumeState`; a pending target move
keeps the candidate authority it replaces the same way.
-/

namespace Iq

/-- `AUTOMATIC_CYCLE_LIMIT`. -/
def automaticCycleLimit : Nat := 10

/-! ## Runner and workspace identities -/

/-- `ExecutableIdentity`. -/
structure ExecutableIdentity where
  path : String
  device : Nat
  inode : Nat
  sha256 : String
  deriving DecidableEq, Repr

/-- `RunnerBounds`. -/
structure RunnerBounds where
  maxLogBytes : Nat
  maxResultBytes : Nat
  maxProcesses : Nat
  memoryBytes : Nat
  cpuSeconds : Nat
  writableBytes : Nat
  openFiles : Nat
  deriving DecidableEq, Repr

/-- `SandboxIdentity`. -/
structure SandboxIdentity where
  implementation : String
  bubblewrap : ExecutableIdentity
  unshare : ExecutableIdentity
  systemdRun : ExecutableIdentity
  systemctl : ExecutableIdentity
  deriving DecidableEq, Repr

/-- `RunnerSnapshot`; its kind has the single value `Opencode`. -/
structure RunnerSnapshot where
  executable : ExecutableIdentity
  agent : String
  model : String
  cycleTimeoutSeconds : Nat
  bounds : RunnerBounds
  sandbox : SandboxIdentity
  credentialEnv : String
  deriving DecidableEq, Repr

/-- `WorkspaceIdentity`. -/
structure WorkspaceIdentity where
  path : String
  riftId : String
  sourceRiftId : String
  deriving DecidableEq, Repr

/-- `IssueVisibility`. -/
inductive IssueVisibility where
  | minimal
  | full
  deriving DecidableEq, Repr

/-- `IssueRepositorySnapshot`. -/
structure IssueRepositorySnapshot where
  repository : String
  visibility : IssueVisibility
  allowedResponders : List String
  deriving DecidableEq, Repr

/-- `StateRepositorySnapshot`: who may answer an effort. -/
inductive StateRepositorySnapshot where
  | local
  | githubIssue (issue : IssueRepositorySnapshot)
  | gitlabIssue (issue : IssueRepositorySnapshot)
  deriving DecidableEq, Repr

/-- `char::to_ascii_lowercase` on every character of a text. -/
def asciiLowercase (text : String) : List Char := text.toList.map Char.toLower

/-- `StateRepositorySnapshot::permits_actor`. -/
def StateRepositorySnapshot.permitsActor (snapshot : StateRepositorySnapshot) (actor : String) :
    Bool :=
  match snapshot with
  | .local => false
  | .githubIssue issue | .gitlabIssue issue =>
    issue.allowedResponders.any fun allowed => asciiLowercase allowed == asciiLowercase actor

/-! ## Cycles and candidates -/

/-- `AgentReady`. -/
structure AgentReady where
  /-- The number the next launched cycle must carry. -/
  nextCycle : Nat
  deriving DecidableEq, Repr

/-- `LauncherAuthority`: the exact process that may spawn the runner. -/
structure LauncherAuthority where
  pid : Nat
  processStartTicks : Nat
  token : String
  deriving DecidableEq, Repr

/-- `SpawnAuthority`. -/
inductive SpawnAuthority where
  | open
  | closeRequested
  | surrendered
  | closed
  deriving DecidableEq, Repr

/-- `AgentLaunching`. -/
structure AgentLaunching where
  launchOperationId : String
  unitName : String
  cycleId : String
  cycleNumber : Nat
  authorityLeaseId : String
  launcher : LauncherAuthority
  inputSha256 : String
  protocolDirectory : String
  preparedAt : String
  spawnAuthority : SpawnAuthority
  deriving DecidableEq, Repr

/-- `AtomicResultState`. -/
inductive AtomicResultState where
  | absent
  | writing (device inode : Nat)
  | complete (device inode : Nat) (sha256 : String)
  deriving DecidableEq, Repr

/-- `AgentRunning`. -/
structure AgentRunning where
  launchOperationId : String
  unitName : String
  cycleId : String
  cycleNumber : Nat
  pid : Nat
  processStartTicks : Nat
  controlGroup : String
  authorityLeaseId : String
  launcher : LauncherAuthority
  sandboxId : String
  inputSha256 : String
  result : AtomicResultState
  startedAt : String
  deriving DecidableEq, Repr

/-- `RunnerServiceAuthority`: the exact running service a termination must stop. -/
structure RunnerServiceAuthority where
  cycleId : String
  unitName : String
  controlGroup : String
  pid : Nat
  processStartTicks : Nat
  deriving DecidableEq, Repr

/-- `AgentRunning::termination_authority`. -/
def AgentRunning.terminationAuthority (running : AgentRunning) : RunnerServiceAuthority where
  cycleId := running.cycleId
  unitName := running.unitName
  controlGroup := running.controlGroup
  pid := running.pid
  processStartTicks := running.processStartTicks

/-- `CandidateClassification`. -/
inductive CandidateClassification where
  | mechanical
  | semantic
  deriving DecidableEq, Repr

/-- `CandidateBuilding`: the durable intent of the candidate builder. -/
structure CandidateBuilding where
  operationId : String
  cycleId : String
  stagedTreeSha256 : String
  treeSha : String
  parentShas : List String
  authorName : String
  authorEmail : String
  authorTimestamp : String
  committerName : String
  committerEmail : String
  committerTimestamp : String
  message : String
  operationRef : String
  classification : CandidateClassification
  deriving DecidableEq, Repr

/-- `CandidateReviewRequired`. -/
structure CandidateReviewRequired where
  reviewId : String
  cycleId : String
  candidateSha : String
  deriving DecidableEq, Repr

/-- `CandidateReview`. -/
inductive CandidateReview where
  | mechanical
  | approved (reviewId : String)
  deriving DecidableEq, Repr

/-- `CandidateReady`. -/
structure CandidateReady where
  cycleId : String
  candidateSha : String
  review : CandidateReview
  deriving DecidableEq, Repr

/-- `ValidationStage`. -/
inductive ValidationStage where
  | running
  | gates
  deriving DecidableEq, Repr

/-- `Validating`. -/
structure Validating where
  candidateSha : String
  policyDigest : String
  stage : ValidationStage
  deriving DecidableEq, Repr

/-- `SignoffDisposition`. -/
inductive SignoffDisposition where
  | noValidation (policyDigest : String)
  | validationWithoutSignoff (policyDigest : String)
  | evidence (evidenceId candidateSha policyDigest : String)
  deriving DecidableEq, Repr

/-- The policy digest every disposition carries. -/
def SignoffDisposition.policyDigest : SignoffDisposition → String
  | .noValidation digest | .validationWithoutSignoff digest | .evidence _ _ digest => digest

/-- The candidate that signoff evidence names. -/
def SignoffDisposition.candidate? : SignoffDisposition → Option String
  | .evidence _ candidate _ => some candidate
  | .noValidation _ | .validationWithoutSignoff _ => none

/-- `Landing`: a prepared landing command that was not released. -/
structure Landing where
  candidateSha : String
  expectedTargetSha : String
  leaseId : String
  signoff : SignoffDisposition
  deriving DecidableEq, Repr

/-- `LandingUncertain`: a released landing command whose effect is unknown. -/
structure LandingUncertain where
  candidateSha : String
  expectedTargetSha : String
  commandId : String
  evidence : String
  deriving DecidableEq, Repr

/-- `Integrated`. -/
structure Integrated where
  candidateSha : String
  landedSha : String
  attemptId : String
  eventId : String
  deriving DecidableEq, Repr

/-- `Cancelled`. -/
structure Cancelled where
  actor : String
  reason : String
  cancelledAt : String
  deriving DecidableEq, Repr

/-- `ReplacementPending`. -/
structure ReplacementPending where
  oldAttemptId : String
  replacedAt : String
  deriving DecidableEq, Repr

/-! ## Suspended states -/

/-- `ResumeState`: a state that a blocker or a target move suspends. -/
inductive ResumeState where
  | agentReady (value : AgentReady)
  | candidateBuilding (value : CandidateBuilding)
  | reviewRequired (value : CandidateReviewRequired)
  | candidateReady (value : CandidateReady)
  | validating (value : Validating)
  | landing (value : Landing)
  | landingUncertain (value : LandingUncertain)
  deriving DecidableEq, Repr

/-- `TargetMoveCause`. -/
inductive TargetMoveCause where
  | observed (previousTargetSha : String)
  | staleLandingLease (commandId expectedTargetSha : String)
  deriving DecidableEq, Repr

/-- `TargetMovePending`. -/
structure TargetMovePending where
  targetSha : String
  sourceSha : String
  previous : ResumeState
  cause : TargetMoveCause
  deriving DecidableEq, Repr

/-! ## Blockers -/

/-- `EncodedPath`: a relative path as the hexadecimal form of each component. -/
structure EncodedPath where
  components : List String
  deriving DecidableEq, Repr

/-- `ExactEffortIdentity`. -/
structure ExactEffortIdentity where
  effortId : String
  itemId : String
  attemptId : String
  cycleId : String
  targetSha : String
  sourceSha : String
  candidateSha : Option String
  deriving DecidableEq, Repr

/-- `GuidanceAlternatives`. -/
inductive GuidanceAlternatives where
  | explicit (values : List String)
  | freeText
  deriving DecidableEq, Repr

/-- `SemanticGuidanceBlocker`. -/
structure SemanticGuidanceBlocker where
  requestId : String
  question : String
  affectedContracts : List String
  affectedPaths : List EncodedPath
  alternatives : GuidanceAlternatives
  evidence : String
  identity : ExactEffortIdentity
  deriving DecidableEq, Repr

/-- `InfrastructureComponent`. -/
inductive InfrastructureComponent where
  | configuration
  | sandbox
  | runner
  | filesystem
  | database
  | validation
  deriving DecidableEq, Repr

/-- `InfrastructureCause`. -/
inductive InfrastructureCause where
  | unavailable (detail : String)
  | identityChanged (expected actual : String)
  | interrupted (detail : String)
  | limitUnavailable (limit detail : String)
  deriving DecidableEq, Repr

/-- `InfrastructureBlocker`. -/
structure InfrastructureBlocker where
  component : InfrastructureComponent
  operation : String
  cause : InfrastructureCause
  deriving DecidableEq, Repr

/-- `CycleFailure`. -/
inductive CycleFailure where
  | mechanical (operation reason evidence : String)
  | invalidResult (reason : String)
  | runnerCrash (exitCode : Option Int)
  | timeout
  | interrupted
  | candidateDefect (evidence : String)
  deriving DecidableEq, Repr

/-- `CycleLimitBlocker`. -/
structure CycleLimitBlocker where
  count : Nat
  cycleIds : List String
  lastFailure : CycleFailure
  alertEventId : String
  deriving DecidableEq, Repr

/-- `ProviderGateKind`. -/
inductive ProviderGateKind where
  | provider
  | signoff
  deriving DecidableEq, Repr

/-- `ProviderGateStatus`. -/
inductive ProviderGateStatus where
  | pending
  | failed
  deriving DecidableEq, Repr

/-- `ProviderSignoffBlocker`. -/
structure ProviderSignoffBlocker where
  gate : ProviderGateKind
  repository : String
  context : String
  candidateSha : String
  status : ProviderGateStatus
  evidence : String
  deriving DecidableEq, Repr

/-- `IntegrationBlocker`. -/
inductive IntegrationBlocker where
  | semanticGuidance (blocker : SemanticGuidanceBlocker)
  | infrastructure (blocker : InfrastructureBlocker)
  | cycleLimit (blocker : CycleLimitBlocker)
  | providerSignoff (blocker : ProviderSignoffBlocker)
  deriving DecidableEq, Repr

/-- `BlockedEffort`. -/
structure BlockedEffort where
  blocker : IntegrationBlocker
  resume : ResumeState
  deriving DecidableEq, Repr

/-! ## Effort states -/

/-- `IntegrationEffortState`. -/
inductive IntegrationEffortState where
  | replacementPending (value : ReplacementPending)
  | agentReady (value : AgentReady)
  | agentLaunching (value : AgentLaunching)
  | agentRunning (value : AgentRunning)
  | candidateBuilding (value : CandidateBuilding)
  | reviewRequired (value : CandidateReviewRequired)
  | candidateReady (value : CandidateReady)
  | validating (value : Validating)
  | guidanceRequired (value : BlockedEffort)
  | infrastructureBlocked (value : BlockedEffort)
  | cycleLimitBlocked (value : BlockedEffort)
  | providerBlocked (value : BlockedEffort)
  | landing (value : Landing)
  | landingUncertain (value : LandingUncertain)
  | targetMovePending (value : TargetMovePending)
  | integrated (value : Integrated)
  | cancelled (value : Cancelled)
  deriving DecidableEq, Repr

/-- The values of the `state` column. -/
inductive StateName where
  | replacementPending
  | agentReady
  | agentLaunching
  | agentRunning
  | candidateBuilding
  | reviewRequired
  | candidateReady
  | validating
  | guidanceRequired
  | infrastructureBlocked
  | cycleLimitBlocked
  | providerBlocked
  | landing
  | landingUncertain
  | targetMovePending
  | integrated
  | cancelled
  deriving DecidableEq, Repr

/-- The text of a state name, which receipts and events carry. -/
def StateName.text : StateName → String
  | .replacementPending => "replacement_pending"
  | .agentReady => "agent_ready"
  | .agentLaunching => "agent_launching"
  | .agentRunning => "agent_running"
  | .candidateBuilding => "candidate_building"
  | .reviewRequired => "review_required"
  | .candidateReady => "candidate_ready"
  | .validating => "validating"
  | .guidanceRequired => "guidance_required"
  | .infrastructureBlocked => "infrastructure_blocked"
  | .cycleLimitBlocked => "cycle_limit_blocked"
  | .providerBlocked => "provider_blocked"
  | .landing => "landing"
  | .landingUncertain => "landing_uncertain"
  | .targetMovePending => "target_move_pending"
  | .integrated => "integrated"
  | .cancelled => "cancelled"

namespace IntegrationEffortState

/-- `IntegrationEffortState::name`. -/
def name : IntegrationEffortState → StateName
  | .replacementPending _ => .replacementPending
  | .agentReady _ => .agentReady
  | .agentLaunching _ => .agentLaunching
  | .agentRunning _ => .agentRunning
  | .candidateBuilding _ => .candidateBuilding
  | .reviewRequired _ => .reviewRequired
  | .candidateReady _ => .candidateReady
  | .validating _ => .validating
  | .guidanceRequired _ => .guidanceRequired
  | .infrastructureBlocked _ => .infrastructureBlocked
  | .cycleLimitBlocked _ => .cycleLimitBlocked
  | .providerBlocked _ => .providerBlocked
  | .landing _ => .landing
  | .landingUncertain _ => .landingUncertain
  | .targetMovePending _ => .targetMovePending
  | .integrated _ => .integrated
  | .cancelled _ => .cancelled

/-- The payload of `AgentReady`, as `let IntegrationEffortState::AgentReady(value)` takes it. -/
def agentReady? : IntegrationEffortState → Option AgentReady
  | .agentReady value => some value
  | _ => none

/-- The payload of `AgentLaunching`. -/
def agentLaunching? : IntegrationEffortState → Option AgentLaunching
  | .agentLaunching value => some value
  | _ => none

/-- The payload of `AgentRunning`. -/
def agentRunning? : IntegrationEffortState → Option AgentRunning
  | .agentRunning value => some value
  | _ => none

/-- The payload of `CandidateBuilding`. -/
def candidateBuilding? : IntegrationEffortState → Option CandidateBuilding
  | .candidateBuilding value => some value
  | _ => none

/-- The payload of `CandidateReady`. -/
def candidateReady? : IntegrationEffortState → Option CandidateReady
  | .candidateReady value => some value
  | _ => none

/-- The payload of `Validating`. -/
def validating? : IntegrationEffortState → Option Validating
  | .validating value => some value
  | _ => none

/-- The payload of `ProviderBlocked`. -/
def providerBlocked? : IntegrationEffortState → Option BlockedEffort
  | .providerBlocked value => some value
  | _ => none

/-- The payload of `Landing`. -/
def landing? : IntegrationEffortState → Option Landing
  | .landing value => some value
  | _ => none

/-- The payload of `TargetMovePending`. -/
def targetMovePending? : IntegrationEffortState → Option TargetMovePending
  | .targetMovePending value => some value
  | _ => none

variable {state : IntegrationEffortState}

/-- The payload of a ready agent. -/
@[simp] theorem agentReady?_eq_some {value : AgentReady} :
    state.agentReady? = some value ↔ state = .agentReady value := by
  cases state <;> simp [agentReady?]

/-- The payload of a launching agent. -/
@[simp] theorem agentLaunching?_eq_some {value : AgentLaunching} :
    state.agentLaunching? = some value ↔ state = .agentLaunching value := by
  cases state <;> simp [agentLaunching?]

/-- The payload of a running agent. -/
@[simp] theorem agentRunning?_eq_some {value : AgentRunning} :
    state.agentRunning? = some value ↔ state = .agentRunning value := by
  cases state <;> simp [agentRunning?]

/-- The payload of a candidate that is being built. -/
@[simp] theorem candidateBuilding?_eq_some {value : CandidateBuilding} :
    state.candidateBuilding? = some value ↔ state = .candidateBuilding value := by
  cases state <;> simp [candidateBuilding?]

/-- The payload of a ready candidate. -/
@[simp] theorem candidateReady?_eq_some {value : CandidateReady} :
    state.candidateReady? = some value ↔ state = .candidateReady value := by
  cases state <;> simp [candidateReady?]

/-- The payload of a validation. -/
@[simp] theorem validating?_eq_some {value : Validating} :
    state.validating? = some value ↔ state = .validating value := by
  cases state <;> simp [validating?]

/-- The payload of a block by the provider. -/
@[simp] theorem providerBlocked?_eq_some {value : BlockedEffort} :
    state.providerBlocked? = some value ↔ state = .providerBlocked value := by
  cases state <;> simp [providerBlocked?]

/-- The payload of a landing. -/
@[simp] theorem landing?_eq_some {value : Landing} :
    state.landing? = some value ↔ state = .landing value := by
  cases state <;> simp [landing?]

/-- The payload of a pending move. -/
@[simp] theorem targetMovePending?_eq_some {value : TargetMovePending} :
    state.targetMovePending? = some value ↔ state = .targetMovePending value := by
  cases state <;> simp [targetMovePending?]

end IntegrationEffortState

end Iq
