import Iq.Lifecycle.Frame

/-!
# Footprints of operations

The tables that an operation may write. A property that ignores all of them is kept by every commit
of the operation; what is left to show of a property of some tables is what the operations that
write these tables do.
-/

namespace Iq

open Library Library.Transaction

/-- The tables that every change of the state of an effort writes. -/
def stateTables : List TableName := [.efforts, .items, .events]

/-- The tables that the commits of an operation may change. -/
def Operation.footprint : Operation → List TableName
  | .authorizeCycleSpawn .. | .authorizeDefiniteLandingRejection .. => []
  | .createEffort .. => [.efforts, .events]
  | .recordResultState .. => [.efforts, .items]
  | .startCandidateBuild ..
  | .resetInterruptedCandidateBuild .. | .startValidation .. | .completeValidation ..
  | .blockInfrastructure .. | .blockProvider .. | .retryBlocked ..
  | .resumeProviderReconciliation .. | .beginLanding .. | .releaseLanding .. => stateTables
  | .prepareCycleLaunch .. | .recordCycleStarted .. | .resetPreparedLaunch ..
  | .acceptResolvedCycle .. | .consumeCycleFailure .. => .cycles :: stateTables
  | .surrenderCycleSpawnAuthority .. => .terminationDebts :: stateTables
  | .acknowledgeTerminatedCycleSpawn .. => [.terminationDebts, .cycles, .efforts, .items]
  | .requireGuidance .. => .cycles :: .guidance :: stateTables
  | .answer .. => .answers :: .guidance :: stateTables
  | .recordCandidate .. => .attempts :: .invocations :: .evidence :: .reviews :: stateTables
  | .rejectCandidate .. => .attempts :: .invocations :: .evidence :: .cycles :: stateTables
  | .markIntegrated .. =>
    .attempts :: .privateRefDebts :: .submissions :: .workspaces :: .repositories :: stateTables
  | .beginTargetMove .. =>
    .attempts :: .invocations :: .reviews :: .cycles :: .repositories :: stateTables
  | .prepareTargetRecomposition .. | .schedulePrivateRefCleanup ..
  | .completePrivateRefCleanup .. => [.privateRefDebts]
  | .completeTargetRecomposition .. =>
    .attempts :: .invocations :: .evidence :: .reviews :: .cycles :: stateTables
  | .reviewCandidate .. =>
    .reviewReceipts :: .attempts :: .invocations :: .evidence :: .reviews :: stateTables
  | .cancel .. =>
    .attempts :: .submissions :: .workspaces :: .cycles :: .guidance :: .reviews ::
      .terminationDebts :: stateTables
  | .deleteTerminationDebt .. => [.terminationDebts]
  | .claimNextReady .. => [.attempts, .items]
  | .cancelItemWithoutEffort .. => [.attempts, .submissions, .workspaces, .items]
  | .blockItemOwned .. | .blockIntegratingRecoveryOwned .. | .setConflictMetadata .. => [.items]
  | .finishReplacementCleanup .. => .attempts :: stateTables
  | .recordAttemptValidation .. | .recordAttemptRevalidation ..
  | .completeAttemptValidation .. => [.attempts, .invocations]
  | .acceptCandidateWithoutValidation .. | .updateAttemptSignoff .. => [.attempts]
  | .beginInitialTargetFetch .. => [.attempts, .repositories]
  | .beginRepositoryDraining .. | .disableDrainedRepository .. => [.policies]

variable {property : Database → Prop} {effort : IntegrationEffort} {id : String} {stamp : Stamp}

/-! ## Routines -/

/-- The state of an effort is a column of its row. -/
@[simp] theorem preserves_writeEffortState [Ignores property .efforts]
    {state : IntegrationEffortState} {failedCycles : Nat} :
    (writeEffortState effort state failedCycles).Preserves property := by
  unfold writeEffortState
  iterate 6 refine preserves_bind (by simp) fun _ => ?_
  refine preserves_bind (preserves_table .efforts fun _ => rfl) fun _ => ?_
  exact preserves_bind (by simp) fun _ => preserves_require

/-- An update of a queue item that keeps what other tables refer to. -/
@[simp] theorem preserves_updateQueueItem [framed : FramesItems property] {expected : QueueItem → Bool}
    {change : QueueItem → QueueItem} {kept : ∀ row, (change row).id = row.id} {lost : String}
    (same : ∀ row : QueueItem, row.Persists (change row)) :
    (updateQueueItem id expected change kept lost).Preserves property := by
  unfold updateQueueItem
  iterate 3 refine preserves_bind (by simp) fun _ => ?_
  exact preserves_write fun db => framed.items db _ _ _ same

/-- The projection of a state rewrites the status columns of the item. -/
@[simp] theorem preserves_projectQueueState [framed : FramesItems property]
    {state : IntegrationEffortState} : (projectQueueState effort state).Preserves property := by
  unfold projectQueueState
  split
  · exact preserves_updateQueueItem fun _ => ⟨rfl, .inl rfl⟩
  · refine preserves_updateQueueItem fun _ => ⟨rfl, ?_⟩
    dsimp only
    split
    · exact .inr rfl
    · exact .inl rfl

/-- An update of attempts, whatever rows it chooses. -/
@[simp] theorem ignores_updateAttempts [Ignores property .attempts] {chosen : Attempt → Bool}
    {change : Attempt → Attempt} {kept : ∀ row, (change row).id = row.id} :
    (updateAttempts chosen change kept).Preserves property :=
  preserves_table .attempts fun _ => rfl

/-- The check of a checkout records the target of the repository. -/
@[simp] theorem ignores_requireCheckout [Ignores property .repositories] {targetSha : String} :
    (requireCheckout id targetSha).Preserves property := by
  unfold requireCheckout
  refine preserves_bind (by simp) fun item => ?_
  cases item with
  | none => exact preserves_pure
  | some item => exact preserves_table .repositories fun _ => rfl

/-- A moved target changes the base of the item only. -/
@[simp] theorem ignores_moveQueueItem [framed : FramesItems property] {targetSha lost : String} :
    (moveQueueItem effort targetSha lost).Preserves property := by
  unfold moveQueueItem
  iterate 2 refine preserves_bind (by simp) fun _ => ?_
  exact preserves_write fun db => framed.items db _ _ _ fun _ => ⟨rfl, .inl rfl⟩

/-- An open review is superseded with its cycle and its invocations. -/
@[simp] theorem ignores_supersedeOpenReview [Ignores property .reviews] [Ignores property .cycles]
    [Ignores property .invocations] [Ignores property .repositories] {targetSha now : String} :
    (supersedeOpenReview effort targetSha now).Preserves property := by
  unfold supersedeOpenReview
  split
  · unfold Iq.supersedeReview
    repeat refine preserves_bind (by simp) fun _ => ?_
    simp
  · exact preserves_pure


/-! ## Operations without a state change -/

/-- To authorize a spawn is to read. -/
theorem preserves_authorizeCycleSpawn {identity : LaunchIdentity} {alive : Bool} :
    (authorizeCycleSpawn id identity alive).Preserves property := by
  unfold authorizeCycleSpawn
  refine preserves_bind (by simp) fun _ => ?_
  split
  · exact preserves_bind (by simp) fun _ => preserves_pure
  · exact preserves_bind (by simp) fun _ => preserves_pure
  · exact preserves_abort

/-- To authorize a definite rejection is to read. -/
theorem preserves_authorizeDefiniteLandingRejection {commandId expectedTargetSha : String} :
    (authorizeDefiniteLandingRejection id commandId expectedTargetSha).Preserves property := by
  unfold authorizeDefiniteLandingRejection
  repeat refine preserves_bind (by simp) fun _ => ?_
  simp

/-- Before a recomposition the private references of the old candidate are scheduled for cleanup. -/
theorem preserves_prepareTargetRecomposition [Ignores property .privateRefDebts]
    {targetSha : String} {rejection : Option DefiniteLandingRejection} :
    (prepareTargetRecompositionWithResolution id targetSha rejection).Preserves property := by
  unfold prepareTargetRecompositionWithResolution
  iterate 10 refine preserves_bind (by simp) fun _ => ?_
  exact preserves_scheduleCleanup

/-- A scheduled cleanup is a debt. -/
theorem preserves_schedulePrivateRefCleanup [Ignores property .privateRefDebts]
    {debt : PrivateRefCleanupDebt} : (schedulePrivateRefCleanup debt).Preserves property := by
  unfold schedulePrivateRefCleanup
  iterate 3 refine preserves_bind (by simp) fun _ => ?_
  exact preserves_scheduleCleanup

/-- A completed cleanup takes its debt away. -/
theorem preserves_completePrivateRefCleanup [Ignores property .privateRefDebts]
    {debt : PrivateRefCleanupDebt} : (completePrivateRefCleanup debt).Preserves property := by
  unfold completePrivateRefCleanup
  iterate 2 refine preserves_bind (by simp) fun _ => ?_
  exact preserves_table .privateRefDebts fun _ => rfl

/-- A runner that is known to have ended takes its debt away. -/
theorem preserves_deleteTerminationDebt [Ignores property .terminationDebts]
    {authority : RunnerTerminationAuthority} : (deleteTerminationDebt id authority).Preserves
    property := by
  unfold deleteTerminationDebt
  iterate 2 refine preserves_bind (by simp) fun _ => ?_
  exact preserves_table .terminationDebts fun _ => rfl

/-- A claim opens an attempt and moves the item to it. -/
theorem preserves_claimNextReady [Ignores property .attempts] [framed : FramesItems property]
    {repoKey : String} {targetRef : TargetRef} {withoutValidation : Bool} :
    (claimNextReady repoKey targetRef withoutValidation stamp).Preserves property := by
  unfold claimNextReady
  refine preserves_bind (by simp) fun oldest => ?_
  split
  · exact preserves_pure
  · refine preserves_bind (by simp) fun _ => preserves_ite preserves_pure ?_
    iterate 2 refine preserves_bind (by simp) fun _ => ?_
    refine preserves_bind (preserves_table .attempts fun _ => rfl) fun _ => ?_
    exact preserves_bind (preserves_updateQueueItem fun _ => ⟨rfl, .inl rfl⟩) fun _ => preserves_pure

/-- An item without an effort is cancelled with its attempt, and its submission is released. -/
theorem preserves_cancelItemWithoutEffort [Ignores property .attempts]
    [Ignores property .submissions] [Ignores property .workspaces] [framed : FramesItems property] :
    (cancelItemWithoutEffort id stamp).Preserves property := by
  unfold cancelItemWithoutEffort
  refine preserves_bind (by simp) fun item => ?_
  iterate 7 refine preserves_bind (by simp) fun _ => ?_
  split
  · exact preserves_updateQueueItem fun _ => ⟨rfl, .inr rfl⟩
  · refine preserves_bind ignores_updateAttempts fun _ => ?_
    exact preserves_updateQueueItem fun _ => ⟨rfl, .inr rfl⟩

/-- A blocked item keeps its attempts. -/
theorem preserves_blockItemFromStatus [framed : FramesItems property] {expected : QueueStatus}
    {phase : BlockedPhase} {reason : BlockedReason} :
    (blockItemFromStatus id expected phase reason).Preserves property := by
  unfold blockItemFromStatus
  iterate 2 refine preserves_bind (by simp) fun _ => ?_
  exact preserves_updateQueueItem fun _ => ⟨rfl, .inl rfl⟩

/-- An item whose recovery is blocked keeps its attempts. -/
theorem preserves_blockIntegratingRecoveryOwned [framed : FramesItems property] {phase : BlockedPhase}
    {reason : BlockedReason} : (blockIntegratingRecoveryOwned id phase reason).Preserves property := by
  unfold blockIntegratingRecoveryOwned
  exact preserves_bind (by simp) fun _ => preserves_blockItemFromStatus

/-- The commits of a conflict are columns of the item. -/
theorem preserves_setConflictMetadata [framed : FramesItems property]
    {attemptId targetSha sourceSha : String} :
    (setConflictMetadata id attemptId targetSha sourceSha).Preserves property := by
  unfold setConflictMetadata
  refine preserves_bind (by simp) fun item => preserves_ite ?_ preserves_require
  exact preserves_write fun db => framed.items db _ _ _ fun _ => ⟨rfl, .inl rfl⟩

/-- An invocation is recorded beside the attempt it retargets. -/
theorem ignores_recordInvocation [Ignores property .attempts] [Ignores property .invocations]
    {invocation : AttemptValidationInvocation} {retarget : Option String}
    {disappeared without : String} :
    (recordInvocation id invocation retarget disappeared without).Preserves property := by
  unfold recordInvocation
  refine preserves_bind ignores_updateAttempts fun _ => ?_
  iterate 4 refine preserves_bind (by simp) fun _ => ?_
  exact preserves_table .invocations fun _ => rfl

/-- A validation ends in its invocation and its attempt. -/
theorem preserves_completeAttemptValidation [Ignores property .attempts]
    [Ignores property .invocations] {invocationNumber : Nat} {value : String} :
    (completeAttemptValidation id invocationNumber value).Preserves property := by
  unfold completeAttemptValidation
  iterate 6 refine preserves_bind (by simp) fun _ => ?_
  refine preserves_bind (preserves_table .invocations fun _ => rfl) fun _ => ?_
  exact preserves_bind ignores_updateAttempts fun _ => preserves_require

/-- A candidate that needs no validation is accepted in its attempt. -/
theorem preserves_acceptCandidateWithoutValidation [Ignores property .attempts]
    {itemId targetBaseSha value : String} {expected : QueueStatus} :
    (acceptCandidateWithoutValidation itemId id targetBaseSha value expected).Preserves property := by
  unfold acceptCandidateWithoutValidation
  iterate 7 refine preserves_bind (by simp) fun _ => ?_
  refine preserves_ite preserves_pure ?_
  iterate 3 refine preserves_bind (by simp) fun _ => ?_
  exact preserves_bind ignores_updateAttempts fun _ => preserves_pure

/-- The evidence of a signoff is a column of the attempt. -/
theorem preserves_updateAttemptSignoff [Ignores property .attempts] {evidence : String} :
    (updateAttemptSignoff id evidence).Preserves property := by
  unfold updateAttemptSignoff
  exact preserves_bind ignores_updateAttempts fun _ => preserves_require

/-- The first fetch of the target is recorded in the attempt and the repository. -/
theorem preserves_beginInitialTargetFetch [Ignores property .attempts]
    [Ignores property .repositories] {itemId targetSha : String} :
    (beginInitialTargetFetch itemId id targetSha).Preserves property := by
  unfold beginInitialTargetFetch
  iterate 2 refine preserves_bind (by simp) fun _ => ?_
  refine preserves_bind ignores_updateAttempts fun _ => ?_
  iterate 3 refine preserves_bind (by simp) fun _ => ?_
  exact preserves_require

/-- A draining repository is a state of its policy. -/
theorem preserves_beginRepositoryDraining [framed : FramesPolicies property] :
    (beginRepositoryDraining id).Preserves property := by
  unfold beginRepositoryDraining
  iterate 5 refine preserves_bind (by simp) fun _ => ?_
  exact preserves_write fun db => framed.policies db _ _

/-- A drained repository is disabled in its policy. -/
theorem preserves_disableDrainedRepository [framed : FramesPolicies property] :
    (disableDrainedRepository id).Preserves property := by
  unfold disableDrainedRepository
  refine preserves_bind (by simp) fun policy => ?_
  split
  · exact preserves_abort
  · exact preserves_abort
  · iterate 2 refine preserves_bind (by simp) fun _ => ?_
    exact preserves_write fun db => framed.policies db _ _

/-- A replaced effort takes the row of the old one. -/
theorem preserves_replaceEffort [Ignores property .efforts] [Ignores property .events]
    {new : NewEffort} {existing : IntegrationEffort} {pending : ReplacementPending} :
    (replaceEffort new existing pending stamp).Preserves property := by
  unfold replaceEffort
  iterate 5 refine preserves_bind (by simp) fun _ => ?_
  exact preserves_bind (preserves_table .efforts fun _ => rfl) fun _ => preserves_appendEvent

/-- A new effort is a row and its first event. -/
theorem preserves_createEffort [Ignores property .efforts] [Ignores property .events]
    {new : NewEffort} : (createEffort new stamp).Preserves property := by
  unfold createEffort
  iterate 9 refine preserves_bind (by simp) fun _ => ?_
  split
  · refine preserves_bind (by simp) fun _ => ?_
    split
    · exact preserves_replaceEffort
    · exact preserves_require
  · iterate 3 refine preserves_bind (by simp) fun _ => ?_
    exact preserves_bind (preserves_table .efforts fun _ => rfl) fun _ => preserves_appendEvent

/-! ## Operations that change the state of an effort -/

section State

variable [Ignores property .efforts] [framed : FramesItems property]

/-- A change of state with its count writes the effort, the item and nothing else. -/
@[simp] theorem ignores_updateStateAndCountWithResolution {state : IntegrationEffortState}
    {failedCycles : Nat} {rejection : Option DefiniteLandingRejection} :
    (updateStateAndCountWithResolution effort state failedCycles rejection).Preserves
      property := by
  unfold updateStateAndCountWithResolution
  iterate 2 refine preserves_bind (by simp) fun _ => ?_
  refine preserves_ite (preserves_bind (by simp) fun _ => ?_) ?_
  · exact preserves_bind (by simp) fun _ => preserves_projectQueueState
  · exact preserves_bind (by simp) fun _ => preserves_projectQueueState

/-- The same without a rejected landing. -/
@[simp] theorem ignores_updateStateAndCount {state : IntegrationEffortState} {failedCycles : Nat} :
    (updateStateAndCount effort state failedCycles).Preserves property :=
  ignores_updateStateAndCountWithResolution

/-- The same with the count as it was. -/
@[simp] theorem ignores_updateState {state : IntegrationEffortState} :
    (updateState effort state).Preserves property :=
  ignores_updateStateAndCountWithResolution

/-- The result of an agent is recorded in the running state. -/
theorem preserves_recordResultState {cycleId : String} {result : AtomicResultState} :
    (recordResultState id cycleId result).Preserves property := by
  unfold recordResultState
  iterate 7 refine preserves_bind (by simp) fun _ => ?_
  exact ignores_updateState

/-- A build begins with a state and its event. -/
theorem preserves_startCandidateBuild [Ignores property .events] {intent : CandidateIntent} :
    (startCandidateBuild id intent stamp).Preserves property := by
  unfold startCandidateBuild
  repeat refine preserves_bind (by simp) fun _ => ?_
  simp

/-- An interrupted build is put back with a state and its event. -/
theorem preserves_resetInterruptedCandidateBuild [Ignores property .events] :
    (resetInterruptedCandidateBuild id stamp).Preserves property := by
  unfold resetInterruptedCandidateBuild
  repeat refine preserves_bind (by simp) fun _ => ?_
  simp

/-- A validation begins with a state and its event. -/
theorem preserves_startValidation [Ignores property .events] {policyDigest : String} :
    (startValidation id policyDigest stamp).Preserves property := by
  unfold startValidation
  repeat refine preserves_bind (by simp) fun _ => ?_
  simp

/-- A validation ends with a state and its event. -/
theorem preserves_completeValidation [Ignores property .events] {candidateSha : String} :
    (completeValidation id candidateSha stamp).Preserves property := by
  unfold completeValidation
  repeat refine preserves_bind (by simp) fun _ => ?_
  simp

/-- A missing part of the infrastructure is a state and its event. -/
theorem preserves_blockInfrastructure [Ignores property .events] {blocker : InfrastructureBlocker} :
    (blockInfrastructure id blocker stamp).Preserves property := by
  unfold blockInfrastructure
  repeat refine preserves_bind (by simp) fun _ => ?_
  simp

/-- A signoff that the provider withholds is a state and its event. -/
theorem preserves_blockProvider [Ignores property .events] {blocker : ProviderSignoffBlocker} :
    (blockProvider id blocker stamp).Preserves property := by
  unfold blockProvider
  repeat refine preserves_bind (by simp) fun _ => ?_
  simp

/-- A retry restores the suspended state, with its event. -/
theorem preserves_retryBlocked [Ignores property .events] {responder : ResponderIdentity}
    {daemonUid : Nat} : (retryBlocked id responder daemonUid stamp).Preserves property := by
  unfold retryBlocked
  iterate 4 refine preserves_bind (by simp) fun _ => ?_
  split
  · iterate 2 refine preserves_bind (by simp) fun _ => ?_
    exact preserves_appendEvent
  · exact preserves_bind (by simp) fun _ => preserves_appendEvent
  · exact preserves_bind (by simp) fun _ => preserves_appendEvent
  · exact preserves_abort

/-- A resumed reconciliation restores the suspended state, with its event. -/
theorem preserves_resumeProviderReconciliation [Ignores property .events] :
    (resumeProviderReconciliation id stamp).Preserves property := by
  unfold resumeProviderReconciliation
  repeat refine preserves_bind (by simp) fun _ => ?_
  simp

/-- A landing begins with a state and its event. -/
theorem preserves_beginLanding [Ignores property .events]
    {expectedTargetSha leaseId commandId : String} {signoff : SignoffDisposition} :
    (beginLanding id expectedTargetSha leaseId commandId signoff stamp).Preserves property := by
  unfold beginLanding
  repeat refine preserves_bind (by simp) fun _ => ?_
  simp

/-- A released landing is uncertain, which is a state and its event. -/
theorem preserves_releaseLanding [Ignores property .events] {commandId : String} :
    (releaseLanding id commandId stamp).Preserves property := by
  unfold releaseLanding
  repeat refine preserves_bind (by simp) fun _ => ?_
  simp

/-- A launch inserts its cycle beside the change of state. -/
theorem preserves_prepareCycleLaunch [Ignores property .events] [Ignores property .cycles]
    {launch : AgentLaunching} : (prepareCycleLaunch id launch stamp).Preserves property := by
  unfold prepareCycleLaunch
  repeat refine preserves_bind (by simp) fun _ => ?_
  simp

/-- A launch that fails closes its cycle. -/
theorem preserves_failLaunchedCycle [Ignores property .cycles] {cycleId changed : String}
    {status : CycleStatus} : (failLaunchedCycle effort cycleId status changed).Preserves property := by
  unfold failLaunchedCycle
  iterate 3 refine preserves_bind (by simp) fun _ => ?_
  exact ignores_updateState

/-- A started agent runs in its cycle. -/
theorem preserves_recordCycleStarted [Ignores property .events] [Ignores property .cycles]
    {running : AgentRunning} {authorityLeaseId : String} {launcher : LauncherAuthority} :
    (recordCycleStarted id running authorityLeaseId launcher stamp).Preserves property := by
  unfold recordCycleStarted
  refine preserves_bind (by simp) fun _ => ?_
  split
  · iterate 5 refine preserves_bind (by simp) fun _ => ?_
    exact preserves_pure
  · exact preserves_bind (by simp) fun _ => preserves_pure
  · exact preserves_abort

/-- A launch that is put back closes its cycle. -/
theorem preserves_resetPreparedLaunch [Ignores property .events] [Ignores property .cycles]
    {cycleId : String} {alive : Bool} : (resetPreparedLaunch id cycleId alive stamp).Preserves
    property := by
  unfold resetPreparedLaunch
  iterate 4 refine preserves_bind (by simp) fun _ => ?_
  exact preserves_bind preserves_failLaunchedCycle fun _ => preserves_appendEvent

/-- A resolved cycle ends with the change of state. -/
theorem preserves_acceptResolvedCycle [Ignores property .events] [Ignores property .cycles]
    {intent : CandidateIntent} : (acceptResolvedCycle id intent stamp).Preserves property := by
  unfold acceptResolvedCycle
  repeat refine preserves_bind (by simp) fun _ => ?_
  simp

/-- A failed cycle ends with the change of state and count. -/
theorem preserves_consumeCycleFailure [Ignores property .events] [Ignores property .cycles]
    {cycleId : String} {failure : CycleFailure} :
    (consumeCycleFailure id cycleId failure stamp).Preserves property := by
  unfold consumeCycleFailure
  repeat refine preserves_bind (by simp) fun _ => ?_
  simp

/-- A spawn that is given up leaves a termination debt. -/
theorem preserves_surrenderCycleSpawnAuthority [Ignores property .events]
    [Ignores property .terminationDebts] {identity : LaunchIdentity} {alive : Bool} :
    (surrenderCycleSpawnAuthority id identity alive stamp).Preserves property := by
  unfold surrenderCycleSpawnAuthority
  iterate 2 refine preserves_bind (by simp) fun _ => ?_
  split
  · iterate 5 refine preserves_bind (by simp) fun _ => ?_
    exact preserves_pure
  · iterate 2 refine preserves_bind (by simp) fun _ => ?_
    exact preserves_pure
  · exact preserves_abort

/-- A terminated spawn settles its debt and closes its cycle. -/
theorem preserves_acknowledgeTerminatedCycleSpawn [Ignores property .terminationDebts]
    [Ignores property .cycles] {identity : LaunchIdentity} :
    (acknowledgeTerminatedCycleSpawn id identity).Preserves property := by
  unfold acknowledgeTerminatedCycleSpawn
  refine preserves_bind (by simp) fun _ => ?_
  split
  · exact preserves_bind (by simp) fun _ => preserves_failLaunchedCycle
  · exact preserves_bind (by simp) fun _ => preserves_failLaunchedCycle
  · iterate 3 refine preserves_bind (by simp) fun _ => ?_
    exact preserves_ite (preserves_bind (by simp) fun _ => preserves_require) preserves_pure
  · exact preserves_abort

/-- A question for guidance ends the cycle and inserts a request. -/
theorem preserves_requireGuidance [Ignores property .events] [Ignores property .cycles]
    [Ignores property .guidance] {guidance : SemanticGuidanceBlocker} :
    (requireGuidance id guidance stamp).Preserves property := by
  unfold requireGuidance
  repeat refine preserves_bind (by simp) fun _ => ?_
  simp

/-- An answer closes its request. -/
theorem preserves_applyAnswer [Ignores property .events] [Ignores property .guidance]
    {command : AnswerCommand} : (applyAnswer command effort stamp).Preserves property := by
  unfold applyAnswer
  repeat refine preserves_bind (by simp) fun _ => ?_
  simp

/-- An answer is kept with a receipt. -/
theorem preserves_answerForEffort [Ignores property .events] [Ignores property .answers]
    [Ignores property .guidance] {command : AnswerCommand} {responder : ResponderIdentity}
    {daemonUid : Nat} : (answerForEffort command id responder daemonUid stamp).Preserves property := by
  unfold answerForEffort
  refine preserves_bind (by simp) fun _ => preserves_ite preserves_pure ?_
  iterate 2 refine preserves_bind (by simp) fun _ => ?_
  exact preserves_ite (preserves_bind preserves_applyAnswer fun _ => by simp) (by simp)

/-- A published candidate is evidence, and its attempt starts over with validation. -/
theorem preserves_publishCandidate [Ignores property .events] [Ignores property .attempts]
    [Ignores property .invocations] [Ignores property .evidence] {building : CandidateBuilding}
    {item : QueueItem} {observation : CandidateObservation} :
    (publishCandidate effort building item observation stamp).Preserves property := by
  unfold publishCandidate
  iterate 3 refine preserves_bind (by simp) fun _ => ?_
  refine preserves_bind ignores_updateAttempts fun _ => ?_
  iterate 2 refine preserves_bind (by simp) fun _ => ?_
  exact preserves_appendEvent

/-- A recorded candidate is published or put to review. -/
theorem preserves_recordCandidate [Ignores property .events] [Ignores property .attempts]
    [Ignores property .invocations] [Ignores property .evidence] [Ignores property .reviews]
    {observation : CandidateObservation} : (recordCandidate id observation stamp).Preserves property
    := by
  unfold recordCandidate
  iterate 10 refine preserves_bind (by simp) fun _ => ?_
  exact preserves_ite (preserves_bind (by simp) fun _ => preserves_publishCandidate)
    preserves_publishCandidate

/-- A rejected candidate loses its evidence, and its cycle ends as a defect. -/
theorem preserves_rejectCandidate [Ignores property .events] [Ignores property .attempts]
    [Ignores property .invocations] [Ignores property .evidence] [Ignores property .cycles]
    {evidence : String} : (rejectCandidate id evidence stamp).Preserves property := by
  unfold rejectCandidate
  iterate 12 refine preserves_bind (by simp) fun _ => ?_
  refine preserves_bind ignores_updateAttempts fun _ => ?_
  exact preserves_bind (by simp) fun _ => preserves_reportFailure

/-- A landed candidate ends the attempt, the submission and its workspaces, and moves the target. -/
theorem preserves_markIntegrated [Ignores property .events] [Ignores property .attempts]
    [Ignores property .privateRefDebts] [Ignores property .submissions]
    [Ignores property .workspaces] [Ignores property .repositories]
    {landedSha remoteTargetSha : String} :
    (markIntegrated id landedSha remoteTargetSha stamp).Preserves property := by
  unfold markIntegrated
  iterate 7 refine preserves_bind (by simp) fun _ => ?_
  refine preserves_bind ignores_updateAttempts fun _ => ?_
  iterate 4 refine preserves_bind (by simp) fun _ => ?_
  exact preserves_appendEvent

/-- A moved target invalidates the attempt and supersedes what was built on the old one. -/
theorem preserves_beginTargetMove [Ignores property .events] [Ignores property .attempts]
    [Ignores property .invocations] [Ignores property .reviews] [Ignores property .cycles]
    [Ignores property .repositories] {targetSha : String}
    {rejection : Option DefiniteLandingRejection} :
    (beginTargetMoveWithResolution id targetSha rejection stamp).Preserves property := by
  unfold beginTargetMoveWithResolution
  iterate 3 refine preserves_bind (by simp) fun _ => ?_
  split
  · exact preserves_require
  · iterate 4 refine preserves_bind (by simp) fun _ => ?_
    refine preserves_bind ignores_updateAttempts fun _ => ?_
    iterate 3 refine preserves_bind (by simp) fun _ => ?_
    exact preserves_appendEvent

/-- A recomposition is a new candidate, recorded or to be resolved by an agent. -/
theorem preserves_completeTargetRecomposition [Ignores property .events]
    [Ignores property .attempts] [Ignores property .invocations] [Ignores property .evidence]
    [Ignores property .reviews] [Ignores property .cycles] {targetSha : String}
    {composition : CompositionEvidence} :
    (completeTargetRecomposition id targetSha composition stamp).Preserves property := by
  unfold completeTargetRecomposition
  iterate 16 refine preserves_bind (by simp) fun _ => ?_
  refine preserves_bind ignores_updateAttempts fun _ => ?_
  refine preserves_bind (preserves_table .efforts fun _ => rfl) fun _ => ?_
  iterate 3 refine preserves_bind (by simp) fun _ => ?_
  exact preserves_appendEvent

/-- A review decides on the candidate it was asked for. -/
theorem preserves_applyReview [Ignores property .events] [Ignores property .attempts]
    [Ignores property .invocations] [Ignores property .evidence] [Ignores property .reviews]
    {command : CandidateReviewCommand} {review : CandidateReviewRequired}
    {responder : ResponderIdentity} : (applyReview command effort review responder stamp).Preserves
    property := by
  unfold applyReview
  cases command.decision with
  | approve text =>
    iterate 5 refine preserves_bind (by simp) fun _ => ?_
    exact preserves_pure
  | requestChanges text =>
    iterate 5 refine preserves_bind (by simp) fun _ => ?_
    refine preserves_bind ignores_updateAttempts fun _ => ?_
    iterate 2 refine preserves_bind (by simp) fun _ => ?_
    exact preserves_pure

/-- A review command is kept with a receipt. -/
theorem preserves_reviewCandidateForEffort [Ignores property .events]
    [Ignores property .reviewReceipts] [Ignores property .attempts] [Ignores property .invocations]
    [Ignores property .evidence] [Ignores property .reviews] {command : CandidateReviewCommand}
    {responder : ResponderIdentity} {daemonUid : Nat} :
    (reviewCandidateForEffort command id responder daemonUid stamp).Preserves property := by
  unfold reviewCandidateForEffort
  refine preserves_bind (by simp) fun existing => ?_
  split
  · exact preserves_ite preserves_pure preserves_pure
  · iterate 3 refine preserves_bind (by simp) fun _ => ?_
    refine preserves_ite (preserves_bind (by simp) fun _ => ?_) preserves_insertReviewReceipt
    exact preserves_bind preserves_applyReview fun _ => preserves_insertReviewReceipt

/-- A cancelled effort ends its attempt, cycle and requests, and releases its submission. -/
theorem preserves_cancel [Ignores property .events] [Ignores property .attempts]
    [Ignores property .submissions] [Ignores property .workspaces] [Ignores property .cycles]
    [Ignores property .guidance] [Ignores property .reviews] [Ignores property .terminationDebts]
    {actor reason : String} : (cancel id actor reason stamp).Preserves property := by
  unfold cancel
  iterate 5 refine preserves_bind (by simp) fun _ => ?_
  refine preserves_ite ?_ preserves_pure
  unfold cancelEffortTransaction
  iterate 4 refine preserves_bind (by simp) fun _ => ?_
  refine preserves_bind ignores_updateAttempts fun _ => ?_
  iterate 3 refine preserves_bind (by simp) fun _ => ?_
  exact preserves_appendEvent

/-- An effort that is to be replaced waits in a state of its own. -/
theorem preserves_markEffortReplacementPending [Ignores property .events]
    {itemId oldAttemptId : String} :
    (markEffortReplacementPending itemId oldAttemptId stamp).Preserves property := by
  unfold markEffortReplacementPending
  refine preserves_bind (by simp) fun existing => ?_
  split
  · exact preserves_pure
  · iterate 4 refine preserves_bind (by simp) fun _ => ?_
    exact preserves_pure

/-- The replaced attempt is superseded. -/
theorem preserves_supersedeAttempt [Ignores property .events] [Ignores property .attempts]
    {item : QueueItem} {oldAttemptId : String} :
    (supersedeAttempt item oldAttemptId stamp).Preserves property := by
  unfold supersedeAttempt
  refine preserves_bind ignores_updateAttempts fun _ => ?_
  have rest : (do
      let pending ← markEffortReplacementPending item.id oldAttemptId stamp
      let expected := if pending then QueueStatus.ready else .blocked
      updateQueueItem item.id (fun row => row.repoKey == item.repoKey && row.status == expected)
        (fun row => { row with
          status := .ready, currentAttemptId := none, replacement := .none, blockedPhase := none,
          blockedReason := none }) (fun _ => rfl)
        "replacement cleanup state changed concurrently").Preserves property :=
    preserves_bind preserves_markEffortReplacementPending fun _ =>
      preserves_updateQueueItem fun _ => ⟨rfl, .inr rfl⟩
  exact preserves_ite (preserves_bind (by simp) fun _ => preserves_bind (by simp) fun _ => rest) rest

/-- After the cleanup the old attempt is superseded and the effort waits for its successor. -/
theorem preserves_finishReplacementCleanup [Ignores property .events] [Ignores property .attempts]
    {itemId oldAttemptId : String} : (finishReplacementCleanup itemId oldAttemptId stamp).Preserves
    property := by
  unfold finishReplacementCleanup
  refine preserves_bind (by simp) fun item => ?_
  split
  · exact preserves_abort
  · refine preserves_bind (by simp) fun _ => preserves_ite preserves_supersedeAttempt ?_
    iterate 3 refine preserves_bind (by simp) fun _ => ?_
    exact preserves_write fun db => framed.items db _ _ _ fun _ => ⟨rfl, .inr rfl⟩

end State

/-- A commit keeps every property that tolerates the changes of the tables of its operation. -/
theorem Operation.preserves {operation : Operation}
    (ignored : ∀ table ∈ operation.footprint, Tolerates property table) :
    operation.transaction.Preserves property := by
  cases operation <;> refine preserves_map ?_ <;>
    simp only [footprint, stateTables, List.forall_mem_cons, Tolerates] at ignored
  case createEffort =>
    rcases ignored with ⟨_, _, -⟩
    exact preserves_createEffort
  case prepareCycleLaunch =>
    rcases ignored with ⟨_, _, _, _, -⟩
    exact preserves_prepareCycleLaunch
  case surrenderCycleSpawnAuthority =>
    rcases ignored with ⟨_, _, _, _, -⟩
    exact preserves_surrenderCycleSpawnAuthority
  case authorizeCycleSpawn => exact preserves_authorizeCycleSpawn
  case acknowledgeTerminatedCycleSpawn =>
    rcases ignored with ⟨_, _, _, _, -⟩
    exact preserves_acknowledgeTerminatedCycleSpawn
  case recordCycleStarted =>
    rcases ignored with ⟨_, _, _, _, -⟩
    exact preserves_recordCycleStarted
  case resetPreparedLaunch =>
    rcases ignored with ⟨_, _, _, _, -⟩
    exact preserves_resetPreparedLaunch
  case recordResultState =>
    rcases ignored with ⟨_, _, -⟩
    exact preserves_recordResultState
  case startCandidateBuild =>
    rcases ignored with ⟨_, _, _, -⟩
    exact preserves_startCandidateBuild
  case acceptResolvedCycle =>
    rcases ignored with ⟨_, _, _, _, -⟩
    exact preserves_acceptResolvedCycle
  case recordCandidate =>
    rcases ignored with ⟨_, _, _, _, _, _, _, -⟩
    exact preserves_recordCandidate
  case resetInterruptedCandidateBuild =>
    rcases ignored with ⟨_, _, _, -⟩
    exact preserves_resetInterruptedCandidateBuild
  case startValidation =>
    rcases ignored with ⟨_, _, _, -⟩
    exact preserves_startValidation
  case completeValidation =>
    rcases ignored with ⟨_, _, _, -⟩
    exact preserves_completeValidation
  case requireGuidance =>
    rcases ignored with ⟨_, _, _, _, _, -⟩
    exact preserves_requireGuidance
  case answer =>
    rcases ignored with ⟨_, _, _, _, _, -⟩
    exact preserves_answerForEffort
  case blockInfrastructure =>
    rcases ignored with ⟨_, _, _, -⟩
    exact preserves_blockInfrastructure
  case blockProvider =>
    rcases ignored with ⟨_, _, _, -⟩
    exact preserves_blockProvider
  case consumeCycleFailure =>
    rcases ignored with ⟨_, _, _, _, -⟩
    exact preserves_consumeCycleFailure
  case rejectCandidate =>
    rcases ignored with ⟨_, _, _, _, _, _, _, -⟩
    exact preserves_rejectCandidate
  case retryBlocked =>
    rcases ignored with ⟨_, _, _, -⟩
    exact preserves_retryBlocked
  case resumeProviderReconciliation =>
    rcases ignored with ⟨_, _, _, -⟩
    exact preserves_resumeProviderReconciliation
  case beginLanding =>
    rcases ignored with ⟨_, _, _, -⟩
    exact preserves_beginLanding
  case releaseLanding =>
    rcases ignored with ⟨_, _, _, -⟩
    exact preserves_releaseLanding
  case markIntegrated =>
    rcases ignored with ⟨_, _, _, _, _, _, _, _, -⟩
    exact preserves_markIntegrated
  case authorizeDefiniteLandingRejection => exact preserves_authorizeDefiniteLandingRejection
  case beginTargetMove =>
    rcases ignored with ⟨_, _, _, _, _, _, _, _, -⟩
    exact preserves_beginTargetMove
  case prepareTargetRecomposition =>
    rcases ignored with ⟨_, -⟩
    exact preserves_prepareTargetRecomposition
  case completeTargetRecomposition =>
    rcases ignored with ⟨_, _, _, _, _, _, _, _, -⟩
    exact preserves_completeTargetRecomposition
  case reviewCandidate =>
    rcases ignored with ⟨_, _, _, _, _, _, _, _, -⟩
    exact preserves_reviewCandidateForEffort
  case cancel =>
    rcases ignored with ⟨_, _, _, _, _, _, _, _, _, _, -⟩
    exact preserves_cancel
  case deleteTerminationDebt =>
    rcases ignored with ⟨_, -⟩
    exact preserves_deleteTerminationDebt
  case claimNextReady =>
    rcases ignored with ⟨_, _, -⟩
    exact preserves_claimNextReady
  case cancelItemWithoutEffort =>
    rcases ignored with ⟨_, _, _, _, -⟩
    exact preserves_cancelItemWithoutEffort
  case blockItemOwned =>
    rcases ignored with ⟨_, -⟩
    exact preserves_blockItemFromStatus
  case blockIntegratingRecoveryOwned =>
    rcases ignored with ⟨_, -⟩
    exact preserves_blockIntegratingRecoveryOwned
  case finishReplacementCleanup =>
    rcases ignored with ⟨_, _, _, _, -⟩
    exact preserves_finishReplacementCleanup
  case recordAttemptValidation =>
    rcases ignored with ⟨_, _, -⟩
    exact ignores_recordInvocation
  case recordAttemptRevalidation =>
    rcases ignored with ⟨_, _, -⟩
    exact ignores_recordInvocation
  case completeAttemptValidation =>
    rcases ignored with ⟨_, _, -⟩
    exact preserves_completeAttemptValidation
  case acceptCandidateWithoutValidation =>
    rcases ignored with ⟨_, -⟩
    exact preserves_acceptCandidateWithoutValidation
  case updateAttemptSignoff =>
    rcases ignored with ⟨_, -⟩
    exact preserves_updateAttemptSignoff
  case beginInitialTargetFetch =>
    rcases ignored with ⟨_, _, -⟩
    exact preserves_beginInitialTargetFetch
  case setConflictMetadata =>
    rcases ignored with ⟨_, -⟩
    exact preserves_setConflictMetadata
  case schedulePrivateRefCleanup =>
    rcases ignored with ⟨_, -⟩
    exact preserves_schedulePrivateRefCleanup
  case completePrivateRefCleanup =>
    rcases ignored with ⟨_, -⟩
    exact preserves_completePrivateRefCleanup
  case beginRepositoryDraining =>
    rcases ignored with ⟨_, -⟩
    exact preserves_beginRepositoryDraining
  case disableDrainedRepository =>
    rcases ignored with ⟨_, -⟩
    exact preserves_disableDrainedRepository

end Iq
