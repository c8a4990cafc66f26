import Iq.Store.Queue
import Iq.Library.Transition

/-!
# Operations and runs

Every transaction of the control store and of the queue as one labelled step. A step that aborts
leaves the database as it was. A run applies operations in order from a database without efforts;
the arguments of the operations, the clock and the fresh identifiers are arbitrary.
-/

namespace Iq

open Library

/-- The operations of the control store, followed by those of the queue. -/
inductive Operation where
  | createEffort (new : NewEffort) (stamp : Stamp)
  | prepareCycleLaunch (effortId : String) (launch : AgentLaunching) (stamp : Stamp)
  | surrenderCycleSpawnAuthority (effortId : String) (identity : LaunchIdentity) (alive : Bool)
    (stamp : Stamp)
  | authorizeCycleSpawn (effortId : String) (identity : LaunchIdentity) (alive : Bool)
  | acknowledgeTerminatedCycleSpawn (effortId : String) (identity : LaunchIdentity)
  | recordCycleStarted (effortId : String) (running : AgentRunning) (authorityLeaseId : String)
    (launcher : LauncherAuthority) (stamp : Stamp)
  | resetPreparedLaunch (effortId cycleId : String) (alive : Bool) (stamp : Stamp)
  | recordResultState (effortId cycleId : String) (result : AtomicResultState)
  | startCandidateBuild (effortId : String) (intent : CandidateIntent) (stamp : Stamp)
  | acceptResolvedCycle (effortId : String) (intent : CandidateIntent) (stamp : Stamp)
  | recordCandidate (effortId : String) (observation : CandidateObservation) (stamp : Stamp)
  | resetInterruptedCandidateBuild (effortId : String) (stamp : Stamp)
  | startValidation (effortId policyDigest : String) (stamp : Stamp)
  | completeValidation (effortId candidateSha : String) (stamp : Stamp)
  | requireGuidance (effortId : String) (guidance : SemanticGuidanceBlocker) (stamp : Stamp)
  | answer (command : AnswerCommand) (effortId : String) (responder : ResponderIdentity)
    (daemonUid : Nat) (stamp : Stamp)
  | blockInfrastructure (effortId : String) (blocker : InfrastructureBlocker) (stamp : Stamp)
  | blockProvider (effortId : String) (blocker : ProviderSignoffBlocker) (stamp : Stamp)
  | consumeCycleFailure (effortId cycleId : String) (failure : CycleFailure) (stamp : Stamp)
  | rejectCandidate (effortId evidence : String) (stamp : Stamp)
  | retryBlocked (effortId : String) (responder : ResponderIdentity) (daemonUid : Nat)
    (stamp : Stamp)
  | resumeProviderReconciliation (effortId : String) (stamp : Stamp)
  | beginLanding (effortId expectedTargetSha leaseId commandId : String)
    (signoff : SignoffDisposition) (stamp : Stamp)
  | releaseLanding (effortId commandId : String) (stamp : Stamp)
  | markIntegrated (effortId landedSha remoteTargetSha : String) (stamp : Stamp)
  | authorizeDefiniteLandingRejection (effortId commandId expectedTargetSha : String)
  | beginTargetMove (effortId targetSha : String) (rejection : Option DefiniteLandingRejection)
    (stamp : Stamp)
  | prepareTargetRecomposition (effortId targetSha : String)
    (rejection : Option DefiniteLandingRejection)
  | completeTargetRecomposition (effortId targetSha : String) (composition : CompositionEvidence)
    (stamp : Stamp)
  | reviewCandidate (command : CandidateReviewCommand) (effortId : String)
    (responder : ResponderIdentity) (daemonUid : Nat) (stamp : Stamp)
  | cancel (effortId actor reason : String) (stamp : Stamp)
  | deleteTerminationDebt (effortId : String) (authority : RunnerTerminationAuthority)
  | claimNextReady (repoKey : String) (targetRef : TargetRef) (withoutValidation : Bool)
    (stamp : Stamp)
  | cancelItemWithoutEffort (itemId : String) (stamp : Stamp)
  | blockItemOwned (itemId : String) (phase : BlockedPhase) (reason : BlockedReason)
  | blockIntegratingRecoveryOwned (itemId : String) (phase : BlockedPhase) (reason : BlockedReason)
  | finishReplacementCleanup (itemId oldAttemptId : String) (stamp : Stamp)
  | recordAttemptValidation (attemptId : String) (invocation : AttemptValidationInvocation)
  | recordAttemptRevalidation (attemptId targetBaseSha : String)
    (invocation : AttemptValidationInvocation)
  | completeAttemptValidation (attemptId : String) (invocationNumber : Nat)
    (validatedCommitSha : String)
  | acceptCandidateWithoutValidation (itemId attemptId targetBaseSha candidateSha : String)
    (expected : QueueStatus)
  | updateAttemptSignoff (attemptId evidence : String)
  | beginInitialTargetFetch (itemId attemptId targetSha : String)
  | setConflictMetadata (itemId attemptId targetSha sourceSha : String)
  | schedulePrivateRefCleanup (debt : PrivateRefCleanupDebt)
  | completePrivateRefCleanup (debt : PrivateRefCleanupDebt)
  | beginRepositoryDraining (repoKey : String)
  | disableDrainedRepository (repoKey : String)
  deriving DecidableEq, Repr

/-- What an operation returns to its caller. -/
inductive Outcome where
  | done
  | flag (value : Bool)
  | number (value : Nat)
  | answered (disposition : AnswerDisposition)
  | reviewed (receipt : CandidateReviewReceipt)
  | authorized (rejection : DefiniteLandingRejection)
  deriving DecidableEq, Repr

/-- The transaction of an operation, with its result. -/
def Operation.transaction : Operation → Tx Outcome
  | .createEffort new stamp => (fun _ => .done) <$> Iq.createEffort new stamp
  | .prepareCycleLaunch effortId launch stamp =>
    (fun _ => .done) <$> Iq.prepareCycleLaunch effortId launch stamp
  | .surrenderCycleSpawnAuthority effortId identity alive stamp =>
    .flag <$> Iq.surrenderCycleSpawnAuthority effortId identity alive stamp
  | .authorizeCycleSpawn effortId identity alive =>
    .flag <$> Iq.authorizeCycleSpawn effortId identity alive
  | .acknowledgeTerminatedCycleSpawn effortId identity =>
    (fun _ => .done) <$> Iq.acknowledgeTerminatedCycleSpawn effortId identity
  | .recordCycleStarted effortId running authorityLeaseId launcher stamp =>
    .flag <$> Iq.recordCycleStarted effortId running authorityLeaseId launcher stamp
  | .resetPreparedLaunch effortId cycleId alive stamp =>
    (fun _ => .done) <$> Iq.resetPreparedLaunch effortId cycleId alive stamp
  | .recordResultState effortId cycleId result =>
    (fun _ => .done) <$> Iq.recordResultState effortId cycleId result
  | .startCandidateBuild effortId intent stamp =>
    (fun _ => .done) <$> Iq.startCandidateBuild effortId intent stamp
  | .acceptResolvedCycle effortId intent stamp =>
    (fun _ => .done) <$> Iq.acceptResolvedCycle effortId intent stamp
  | .recordCandidate effortId observation stamp =>
    (fun _ => .done) <$> Iq.recordCandidate effortId observation stamp
  | .resetInterruptedCandidateBuild effortId stamp =>
    (fun _ => .done) <$> Iq.resetInterruptedCandidateBuild effortId stamp
  | .startValidation effortId policyDigest stamp =>
    (fun _ => .done) <$> Iq.startValidation effortId policyDigest stamp
  | .completeValidation effortId candidateSha stamp =>
    (fun _ => .done) <$> Iq.completeValidation effortId candidateSha stamp
  | .requireGuidance effortId guidance stamp =>
    (fun _ => .done) <$> Iq.requireGuidance effortId guidance stamp
  | .answer command effortId responder daemonUid stamp =>
    .answered <$> Iq.answerForEffort command effortId responder daemonUid stamp
  | .blockInfrastructure effortId blocker stamp =>
    (fun _ => .done) <$> Iq.blockInfrastructure effortId blocker stamp
  | .blockProvider effortId blocker stamp =>
    (fun _ => .done) <$> Iq.blockProvider effortId blocker stamp
  | .consumeCycleFailure effortId cycleId failure stamp =>
    (fun _ => .done) <$> Iq.consumeCycleFailure effortId cycleId failure stamp
  | .rejectCandidate effortId evidence stamp =>
    (fun _ => .done) <$> Iq.rejectCandidate effortId evidence stamp
  | .retryBlocked effortId responder daemonUid stamp =>
    (fun _ => .done) <$> Iq.retryBlocked effortId responder daemonUid stamp
  | .resumeProviderReconciliation effortId stamp =>
    (fun _ => .done) <$> Iq.resumeProviderReconciliation effortId stamp
  | .beginLanding effortId expectedTargetSha leaseId commandId signoff stamp =>
    (fun _ => .done) <$>
      Iq.beginLanding effortId expectedTargetSha leaseId commandId signoff stamp
  | .releaseLanding effortId commandId stamp =>
    (fun _ => .done) <$> Iq.releaseLanding effortId commandId stamp
  | .markIntegrated effortId landedSha remoteTargetSha stamp =>
    (fun _ => .done) <$> Iq.markIntegrated effortId landedSha remoteTargetSha stamp
  | .authorizeDefiniteLandingRejection effortId commandId expectedTargetSha =>
    .authorized <$> Iq.authorizeDefiniteLandingRejection effortId commandId expectedTargetSha
  | .beginTargetMove effortId targetSha rejection stamp =>
    (fun _ => .done) <$> Iq.beginTargetMoveWithResolution effortId targetSha rejection stamp
  | .prepareTargetRecomposition effortId targetSha rejection =>
    (fun _ => .done) <$> Iq.prepareTargetRecompositionWithResolution effortId targetSha rejection
  | .completeTargetRecomposition effortId targetSha composition stamp =>
    (fun _ => .done) <$> Iq.completeTargetRecomposition effortId targetSha composition stamp
  | .reviewCandidate command effortId responder daemonUid stamp =>
    .reviewed <$> Iq.reviewCandidateForEffort command effortId responder daemonUid stamp
  | .cancel effortId actor reason stamp =>
    (fun _ => .done) <$> Iq.cancel effortId actor reason stamp
  | .deleteTerminationDebt effortId authority =>
    (fun _ => .done) <$> Iq.deleteTerminationDebt effortId authority
  | .claimNextReady repoKey targetRef withoutValidation stamp =>
    .flag <$> Iq.claimNextReady repoKey targetRef withoutValidation stamp
  | .cancelItemWithoutEffort itemId stamp =>
    (fun _ => .done) <$> Iq.cancelItemWithoutEffort itemId stamp
  | .blockItemOwned itemId phase reason =>
    (fun _ => .done) <$> Iq.blockItemOwned itemId phase reason
  | .blockIntegratingRecoveryOwned itemId phase reason =>
    (fun _ => .done) <$> Iq.blockIntegratingRecoveryOwned itemId phase reason
  | .finishReplacementCleanup itemId oldAttemptId stamp =>
    (fun _ => .done) <$> Iq.finishReplacementCleanup itemId oldAttemptId stamp
  | .recordAttemptValidation attemptId invocation =>
    .number <$> Iq.recordAttemptValidation attemptId invocation
  | .recordAttemptRevalidation attemptId targetBaseSha invocation =>
    .number <$> Iq.recordAttemptRevalidation attemptId targetBaseSha invocation
  | .completeAttemptValidation attemptId invocationNumber validatedCommitSha =>
    (fun _ => .done) <$>
      Iq.completeAttemptValidation attemptId invocationNumber validatedCommitSha
  | .acceptCandidateWithoutValidation itemId attemptId targetBaseSha candidateSha expected =>
    (fun _ => .done) <$>
      Iq.acceptCandidateWithoutValidation itemId attemptId targetBaseSha candidateSha expected
  | .updateAttemptSignoff attemptId evidence =>
    (fun _ => .done) <$> Iq.updateAttemptSignoff attemptId evidence
  | .beginInitialTargetFetch itemId attemptId targetSha =>
    (fun _ => .done) <$> Iq.beginInitialTargetFetch itemId attemptId targetSha
  | .setConflictMetadata itemId attemptId targetSha sourceSha =>
    (fun _ => .done) <$> Iq.setConflictMetadata itemId attemptId targetSha sourceSha
  | .schedulePrivateRefCleanup debt =>
    (fun _ => .done) <$> Iq.schedulePrivateRefCleanup debt
  | .completePrivateRefCleanup debt =>
    (fun _ => .done) <$> Iq.completePrivateRefCleanup debt
  | .beginRepositoryDraining repoKey =>
    (fun _ => .done) <$> Iq.beginRepositoryDraining repoKey
  | .disableDrainedRepository repoKey =>
    (fun _ => .done) <$> Iq.disableDrainedRepository repoKey

/-- A repository policy lets an unfinished item be worked on. -/
def Database.Admits (db : Database) (item : QueueItem) : Prop :=
  ∃ policy, db.policies.find? item.repoKey = some policy ∧
    policy.operationState.requireObligation (.queueItem item.id) = .ok ()

/-- An item that no effort owns has landed nothing, and carries a block only while it is blocked or
was cancelled. -/
structure QueueItem.Unlanded (item : QueueItem) : Prop where
  landedCommitSha : item.landedCommitSha = none
  landing : item.landing = .ready
  unblocked : item.status ≠ .blocked → item.status ≠ .cancelled →
    item.blockedPhase = none ∧ item.blockedReason = none

/-- A database before the first effort: no control rows, and every item admitted by the policy of
its registered repository while it is unfinished. -/
structure Database.Initial (db : Database) : Prop where
  efforts : db.efforts = Table.empty
  cycles : db.cycles = Table.empty
  guidance : db.guidance = Table.empty
  evidence : db.evidence = Table.empty
  reviews : db.reviews = Table.empty
  reviewReceipts : db.reviewReceipts = Table.empty
  answers : db.answers = Table.empty
  terminationDebts : db.terminationDebts = Table.empty
  events : db.events = []
  unlanded : ∀ item ∈ db.items, item.Unlanded
  admitted : ∀ item ∈ db.items, item.status.isTerminal = false → db.Admits item
  registered : ∀ item ∈ db.items, ∃ repository, db.repositories.find? item.repoKey = some repository

/-- The machine of the store: one operation at a time, an abort changing nothing. -/
def store : Machine Database Operation where
  Initial := Database.Initial
  step db operation := operation.transaction.settle db

/-- A step of the store settles a transaction. -/
theorem store_step (db : Database) (operation : Operation) :
    store.step db operation = operation.transaction.settle db := rfl

end Iq
