import Iq.Lifecycle.Write

/-!
# The lifecycle of one effort

`EffortStep` is the transition system that the committed operations of the store form on the view
of one effort. Every step names its operation, states what the operation required of the effort,
and gives the rows it wrote; a state is always written through `Writes`. Operations of the queue
and operations on other efforts do not appear: they leave the view as it is.
-/

namespace Iq

open Library

namespace EffortView

/-- The blocked state of the tenth failed cycle: `cycleLimitState` on a view. -/
def limitState (view : EffortView) (cycleId : String) (failure : CycleFailure) (count next : Nat)
    (eventId : String) : IntegrationEffortState :=
  let failed := view.cycles.filter fun row => row.status == .failed
  let sorted := failed.insertionSort fun first second => first.cycleNumber ≤ second.cycleNumber
  let ids := sorted.map IntegrationCycle.id
  .cycleLimitBlocked ⟨.cycleLimit ⟨count, if ids.contains cycleId then ids else ids ++ [cycleId],
    failure, eventId⟩, .agentReady ⟨next⟩⟩

/-- The state after a failed cycle: `Iq.failedState` on a view. -/
def failedState (view : EffortView) (cycleId : String) (failure : CycleFailure)
    (count next : Nat) (eventId : String) : IntegrationEffortState :=
  if count = automaticCycleLimit then view.limitState cycleId failure count next eventId
  else .agentReady ⟨next⟩

/-- The view with the open review of a moving effort superseded, with its cycle. -/
def supersedeReview (view : EffortView) (effort : IntegrationEffort) : EffortView :=
  match effort.state with
  | .reviewRequired review =>
    (view.setReviews (fun row => row.id == review.reviewId && row.effortId == effort.id &&
        row.cycleId == review.cycleId && row.candidateSha == review.candidateSha &&
        row.status == .required) .superseded none none).setCycles
      (isCycleOf effort.id review.cycleId .resolved) .superseded none
  | _ => view

/-- The view with the candidate of a target cleared and the new target written. -/
def recompose (view : EffortView) (effortId targetSha : String)
    (composition : CompositionEvidence) : EffortView :=
  { (view.setCycles (fun row => row.effortId == effortId && row.status == .resolved)
      .superseded none).setReviews (fun row => row.effortId == effortId && row.status == .required)
      .superseded none none with
    evidence := none
    effort := view.effort.map fun row => { row with targetSha, composition } }

/-- The view with the active rows of a cancelled effort closed. -/
def closeRows (view : EffortView) (effortId : String) : EffortView :=
  ((view.setCycles (fun row => row.effortId == effortId && row.status.isActive) .cancelled
    none).setGuidance (fun row => row.effortId == effortId && row.status == .open)
    .cancelled).setReviews (fun row => row.effortId == effortId && row.status == .required)
    .cancelled none none

/-- The choice of the open review that a decision names. -/
def isOpenReview (effortId reviewId : String) (row : CandidateReviewRow) : Bool :=
  row.id == reviewId && row.effortId == effortId && row.status == .required

/-- The choice of the running cycle with an identifier. -/
def isRunningCycle (cycleId : String) (row : IntegrationCycle) : Bool :=
  row.id == cycleId && row.status == .running

end EffortView

open EffortView

/-- A chosen cycle exists. -/
def EffortView.HasCycle (view : EffortView) (chosen : IntegrationCycle → Bool) : Prop :=
  ∃ cycle ∈ view.cycles, chosen cycle = true

/-- Failing the cycle of a launch and returning to `AgentReady`. -/
structure LaunchFails (view : EffortView) (effort : IntegrationEffort) (cycleId : String)
    (status : CycleStatus) (after : EffortView) : Prop where
  active : view.HasCycle (isCycleOf effort.id cycleId status)
  writes : Writes none
    (view.setCycles (isCycleOf effort.id cycleId status) .failed (some .interrupted)) effort
    (.agentReady ⟨view.maxCycle + 1⟩) effort.failedCycles after

/-- A decision that a review command applies to the open review of its effort. -/
structure Decides (command : CandidateReviewCommand) (effort : IntegrationEffort)
    (review : CandidateReviewRequired) (responder : ResponderIdentity) (daemonUid : Nat) :
    Prop where
  waiting : effort.state = .reviewRequired review
  authorized : isAuthorizedResponder effort responder daemonUid = true
  wellFormed : command.decision.text?.any isReviewTextMalformed = false
  named : ∃ targetRef, command.matchesReview effort targetRef review = true

/-- One committed operation at the effort it changes. -/
inductive EffortStep : Operation → EffortView → EffortView → Prop where
  | create {view : EffortView} {new : NewEffort} {stamp : Stamp} {format : GitObjectFormat}
      (absent : view.effort = none)
      (idle : ∀ cycle ∈ view.cycles, cycle.status.isActive = false)
      (composed : new.composition.validate format false = .ok ()) :
      EffortStep (.createEffort new stamp) view
        { view with effort := some (new.row stamp.rowId) }
  | replace {view : EffortView} {effort : IntegrationEffort} {pending : ReplacementPending}
      {new : NewEffort} {stamp : Stamp} {format : GitObjectFormat}
      (stored : view.effort = some effort) (waiting : effort.state = .replacementPending pending)
      (another : effort.attemptId ≠ new.attemptId)
      (composed : new.composition.validate format false = .ok ()) :
      EffortStep (.createEffort new stamp) view
        { view with effort := some (new.replace (view.maxCycle + 1) effort) }
  | prepare {view after : EffortView} {effort : IntegrationEffort} {launch : AgentLaunching}
      {stamp : Stamp} (fresh : launch.spawnAuthority = .open)
      (ready : effort.state = .agentReady ⟨launch.cycleNumber⟩)
      (within : effort.failedCycles < automaticCycleLimit)
      (unused : ∀ cycle ∈ view.cycles, cycle.id ≠ launch.cycleId ∧
        cycle.cycleNumber ≠ launch.cycleNumber ∧ cycle.status.isActive = false)
      (writes : Writes none
        { view with cycles := view.cycles ++
          [⟨launch.cycleId, effort.id, launch.cycleNumber, .starting, none⟩] }
        effort (.agentLaunching launch) effort.failedCycles after) :
      EffortStep (.prepareCycleLaunch effort.id launch stamp) view after
  | surrender {view after : EffortView} {effort : IntegrationEffort} {launch : AgentLaunching}
      {stamp : Stamp} (launching : effort.state = .agentLaunching launch)
      (opened : launch.spawnAuthority = .open)
      (writes : Writes none view effort
        (.agentLaunching { launch with spawnAuthority := .surrendered }) effort.failedCycles
        after) :
      EffortStep (.surrenderCycleSpawnAuthority effort.id launch.identity true stamp) view after
  | surrenderCancelled {view : EffortView} {effort : IntegrationEffort} {cancelled : Cancelled}
      {launch : AgentLaunching} {stamp : Stamp} (stored : view.effort = some effort)
      (ended : effort.state = .cancelled cancelled)
      (owed : view.debt = some ⟨effort.id, .launching launch⟩)
      (requested : launch.spawnAuthority = .closeRequested) :
      EffortStep (.surrenderCycleSpawnAuthority effort.id launch.identity true stamp) view
        { view with
          debt := some ⟨effort.id, .launching { launch with spawnAuthority := .closed }⟩ }
  | acknowledgeLaunching {view after : EffortView} {effort : IntegrationEffort}
      {launch : AgentLaunching} (launching : effort.state = .agentLaunching launch)
      (surrendered : launch.spawnAuthority = .surrendered)
      (fails : LaunchFails view effort launch.cycleId .starting after) :
      EffortStep (.acknowledgeTerminatedCycleSpawn effort.id launch.identity) view after
  | acknowledgeRunning {view after : EffortView} {effort : IntegrationEffort}
      {running : AgentRunning} (started : effort.state = .agentRunning running)
      (fails : LaunchFails view effort running.cycleId .running after) :
      EffortStep (.acknowledgeTerminatedCycleSpawn effort.id running.identity) view after
  | acknowledgeCancelled {view : EffortView} {effort : IntegrationEffort} {cancelled : Cancelled}
      {launch : AgentLaunching} (stored : view.effort = some effort)
      (ended : effort.state = .cancelled cancelled)
      (owed : view.debt = some ⟨effort.id, .launching launch⟩)
      (surrendered : launch.spawnAuthority = .surrendered) :
      EffortStep (.acknowledgeTerminatedCycleSpawn effort.id launch.identity) view
        { view with
          debt := some ⟨effort.id, .launching { launch with spawnAuthority := .closed }⟩ }
  | started {view after : EffortView} {effort : IntegrationEffort} {launch : AgentLaunching}
      {running : AgentRunning} {authorityLeaseId : String} {launcher : LauncherAuthority}
      {stamp : Stamp} (launching : effort.state = .agentLaunching launch)
      (surrendered : launch.spawnAuthority = .surrendered)
      (sameLaunch : launch.identity = running.identity)
      (sameCycle : launch.cycleId = running.cycleId)
      (sameUnit : launch.unitName = running.unitName)
      (presented : launch.identity =
        ⟨running.launchOperationId, authorityLeaseId, launcher⟩)
      (active : view.HasCycle (isCycleOf effort.id running.cycleId .starting))
      (writes : Writes none
        (view.setCycles (isCycleOf effort.id running.cycleId .starting) .running none) effort
        (.agentRunning running) effort.failedCycles after) :
      EffortStep (.recordCycleStarted effort.id running authorityLeaseId launcher stamp) view after
  | reset {view after : EffortView} {effort : IntegrationEffort} {launch : AgentLaunching}
      {stamp : Stamp} (launching : effort.state = .agentLaunching launch)
      (fails : LaunchFails view effort launch.cycleId .starting after) :
      EffortStep (.resetPreparedLaunch effort.id launch.cycleId false stamp) view after
  | result {view after : EffortView} {effort : IntegrationEffort} {running : AgentRunning}
      {result : AtomicResultState} (started : effort.state = .agentRunning running)
      (writes : Writes none view effort (.agentRunning { running with result })
        effort.failedCycles after) :
      EffortStep (.recordResultState effort.id running.cycleId result) view after
  | accept {view middle : EffortView} {effort : IntegrationEffort} {running : AgentRunning}
      {intent : CandidateIntent} {stamp : Stamp} (started : effort.state = .agentRunning running)
      (same : running.cycleId = intent.cycleId)
      (writes : Writes none
        (view.setCycles (isRunningCycle running.cycleId) .resolved none) effort
        (.candidateBuilding (intent.building effort.composition)) effort.failedCycles middle) :
      EffortStep (.acceptResolvedCycle effort.id intent stamp) view
        { middle with intents := middle.intents ++ [intent] }
  | record {view after : EffortView} {effort : IntegrationEffort} {building : CandidateBuilding}
      {observation : CandidateObservation} {stamp : Stamp} {reviews : List CandidateReviewRow}
      (built : effort.state = .candidateBuilding building)
      (same : observation.matches building = true)
      (opened : building.classification = .semantic →
        (∀ row ∈ view.reviews, row.status ≠ .required ∧ row.id ≠ stamp.rowId) ∧
        reviews = view.reviews ++ [⟨stamp.rowId, effort.id, effort.attemptId, building.cycleId,
          effort.targetSha, effort.sourceSha, observation.candidateSha, .required, none, none,
          stamp.now⟩])
      (unopened : building.classification = .mechanical → reviews = view.reviews)
      (writes : Writes none
        { view with
          reviews
          evidence := some ⟨effort.id, building.cycleId, observation.candidateSha,
            observation.operationId, building.classification⟩ }
        effort (building.candidateState observation.candidateSha stamp.rowId)
        effort.failedCycles after) :
      EffortStep (.recordCandidate effort.id observation stamp) view after
  | resetBuild {view after : EffortView} {effort : IntegrationEffort} {stamp : Stamp}
      {building : CandidateBuilding} (built : effort.state = .candidateBuilding building)
      (writes : Writes none view effort (.agentReady ⟨view.maxCycle + 1⟩) effort.failedCycles
        after) :
      EffortStep (.resetInterruptedCandidateBuild effort.id stamp) view after
  | startValidation {view after : EffortView} {effort : IntegrationEffort}
      {candidate : CandidateReady} {policyDigest : String} {stamp : Stamp}
      (ready : effort.state = .candidateReady candidate)
      (writes : Writes none view effort
        (.validating ⟨candidate.candidateSha, policyDigest, .running⟩) effort.failedCycles after) :
      EffortStep (.startValidation effort.id policyDigest stamp) view after
  | completeValidation {view after : EffortView} {effort : IntegrationEffort}
      {validating : Validating} {stamp : Stamp} (validated : effort.state = .validating validating)
      (writes : Writes none view effort
        (.validating ⟨validating.candidateSha, validating.policyDigest, .gates⟩)
        effort.failedCycles after) :
      EffortStep (.completeValidation effort.id validating.candidateSha stamp) view after
  | requireGuidance {view after : EffortView} {effort : IntegrationEffort}
      {running : AgentRunning} {guidance : SemanticGuidanceBlocker} {stamp : Stamp}
      (started : effort.state = .agentRunning running)
      (same : guidance.identity.cycleId = running.cycleId)
      (unopened : ∀ row ∈ view.guidance, row.status ≠ .open)
      (writes : Writes none
        { view.setCycles (isRunningCycle running.cycleId) .guidanceRequired none with
          guidance := view.guidance ++
            [⟨guidance.requestId, effort.id, running.cycleId, guidance, .open⟩] }
        effort (.guidanceRequired ⟨.semanticGuidance guidance, .agentReady ⟨view.maxCycle + 1⟩⟩)
        (effort.failedCycles + 1) after) :
      EffortStep (.requireGuidance effort.id guidance stamp) view after
  | answer {view after : EffortView} {effort : IntegrationEffort} {guidance : SemanticGuidanceBlocker}
      {command : AnswerCommand} {responder : ResponderIdentity} {daemonUid : Nat} {stamp : Stamp}
      (waiting : effort.state.guidance? = some guidance)
      (applies : command.disposition effort responder daemonUid = .applied)
      (writes : Writes none
        (view.setGuidance (fun row => row.id == command.requestId && row.effortId == effort.id &&
          row.status == .open) .answered)
        effort (.agentReady ⟨view.maxCycle + 1⟩) effort.failedCycles after) :
      EffortStep (.answer command effort.id responder daemonUid stamp) view after
  | blockInfrastructure {view after : EffortView} {effort : IntegrationEffort}
      {resume : ResumeState} {blocker : InfrastructureBlocker} {stamp : Stamp}
      (captured : effort.state = resume.restore)
      (writes : Writes none view effort (.infrastructureBlocked ⟨.infrastructure blocker, resume⟩)
        effort.failedCycles after) :
      EffortStep (.blockInfrastructure effort.id blocker stamp) view after
  | blockProvider {view after : EffortView} {effort : IntegrationEffort}
      {resume : ResumeState} {blocker : ProviderSignoffBlocker} {stamp : Stamp}
      (captured : effort.state = resume.restore)
      (writes : Writes none view effort (.providerBlocked ⟨.providerSignoff blocker, resume⟩)
        effort.failedCycles after) :
      EffortStep (.blockProvider effort.id blocker stamp) view after
  | consume {view after : EffortView} {effort : IntegrationEffort} {cycleId : String}
      {failure : CycleFailure} {stamp : Stamp}
      (active : view.HasCycle (isCycleOf effort.id cycleId .running))
      (writes : Writes none
        (view.setCycles (isCycleOf effort.id cycleId .running) .failed (some failure)) effort
        (view.failedState cycleId failure (effort.failedCycles + 1) (view.maxCycle + 1)
          stamp.eventId)
        (effort.failedCycles + 1) after) :
      EffortStep (.consumeCycleFailure effort.id cycleId failure stamp) view after
  | reject {view after : EffortView} {effort : IntegrationEffort} {cycleId evidence : String}
      {stamp : Stamp}
      (candidate : [.candidateReady, .validating, .landing].contains effort.state.name = true)
      (exact : isExactText evidence = true)
      (active : view.HasCycle (isCycleOf effort.id cycleId .resolved))
      (writes : Writes none
        { view.setCycles (isCycleOf effort.id cycleId .resolved) .failed
            (some (.candidateDefect evidence)) with evidence := none }
        effort
        (view.failedState cycleId (.candidateDefect evidence) (effort.failedCycles + 1)
          (if effort.failedCycles + 1 = automaticCycleLimit then view.maxCycle + 1
            else effort.failedCycles + 2) stamp.eventId)
        (effort.failedCycles + 1) after) :
      EffortStep (.rejectCandidate effort.id evidence stamp) view after
  | retryLimit {view after : EffortView} {effort : IntegrationEffort} {blocked : BlockedEffort}
      {responder : ResponderIdentity} {daemonUid : Nat} {stamp : Stamp}
      (limited : effort.state = .cycleLimitBlocked blocked)
      (writes : Writes none view effort (.agentReady ⟨view.maxCycle + 1⟩) 0 after) :
      EffortStep (.retryBlocked effort.id responder daemonUid stamp) view after
  | retry {view after : EffortView} {effort : IntegrationEffort} {blocked : BlockedEffort}
      {responder : ResponderIdentity} {daemonUid : Nat} {stamp : Stamp}
      (suspended : effort.state = .infrastructureBlocked blocked ∨
        effort.state = .providerBlocked blocked)
      (writes : Writes none view effort blocked.resume.restore effort.failedCycles after) :
      EffortStep (.retryBlocked effort.id responder daemonUid stamp) view after
  | resumeProvider {view after : EffortView} {effort : IntegrationEffort} {blocked : BlockedEffort}
      {stamp : Stamp} (suspended : effort.state = .providerBlocked blocked)
      (writes : Writes none view effort blocked.resume.restore effort.failedCycles after) :
      EffortStep (.resumeProviderReconciliation effort.id stamp) view after
  | beginLanding {view after : EffortView} {effort : IntegrationEffort} {validating : Validating}
      {expectedTargetSha leaseId commandId : String} {signoff : SignoffDisposition} {stamp : Stamp}
      (validated : effort.state = .validating validating)
      (writes : Writes none view effort
        (.landing ⟨validating.candidateSha, expectedTargetSha, leaseId, signoff⟩)
        effort.failedCycles after) :
      EffortStep (.beginLanding effort.id expectedTargetSha leaseId commandId signoff stamp) view
        after
  | release {view after : EffortView} {effort : IntegrationEffort} {landing : Landing}
      {commandId : String} {stamp : Stamp} (prepared : effort.state = .landing landing)
      (writes : Writes none view effort (.landingUncertain
        ⟨landing.candidateSha, landing.expectedTargetSha, commandId, "command_gate_released"⟩)
        effort.failedCycles after) :
      EffortStep (.releaseLanding effort.id commandId stamp) view after
  | integrate {view after : EffortView} {effort : IntegrationEffort} {candidateSha landedSha
      remoteTargetSha : String} {stamp : Stamp}
      (landed : effort.state.landingCandidate? = some candidateSha)
      (writes : Writes none view effort
        (.integrated ⟨candidateSha, landedSha, effort.attemptId, stamp.eventId⟩)
        effort.failedCycles after) :
      EffortStep (.markIntegrated effort.id landedSha remoteTargetSha stamp) view after
  | moveTarget {view after : EffortView} {effort : IntegrationEffort} {targetSha : String}
      {previous : ResumeState} {rejection : Option DefiniteLandingRejection} {stamp : Stamp}
      (movable : isMovable effort.state = true) (captured : effort.state = previous.restore)
      (writes : Writes rejection (view.supersedeReview effort) effort
        (.targetMovePending
          ⟨targetSha, effort.sourceSha, previous, targetMoveCause effort rejection⟩)
        effort.failedCycles after) :
      EffortStep (.beginTargetMove effort.id targetSha rejection stamp) view after
  | recompose {view after : EffortView} {effort : IntegrationEffort} {pending : TargetMovePending}
      {targetSha : String} {composition : CompositionEvidence} {stamp : Stamp}
      {format : GitObjectFormat} (stored : view.effort = some effort)
      (moving : effort.state = .targetMovePending pending)
      (composed : composition.validate format false = .ok ())
      (writes : Writes none (view.recompose effort.id targetSha composition)
        { effort with targetSha, composition } (.agentReady ⟨view.maxCycle + 1⟩)
        effort.failedCycles after) :
      EffortStep (.completeTargetRecomposition effort.id targetSha composition stamp) view after
  | approve {view after : EffortView} {effort : IntegrationEffort}
      {review : CandidateReviewRequired} {command : CandidateReviewCommand} {text : Option String}
      {responder : ResponderIdentity} {daemonUid : Nat} {stamp : Stamp}
      (decides : Decides command effort review responder daemonUid)
      (decision : command.decision = .approve text)
      (writes : Writes none
        (view.setReviews (isOpenReview effort.id review.reviewId) .approved (some responder) text)
        effort (.candidateReady ⟨review.cycleId, review.candidateSha, .approved review.reviewId⟩)
        effort.failedCycles after) :
      EffortStep (.reviewCandidate command effort.id responder daemonUid stamp) view after
  | requestChanges {view after : EffortView} {effort : IntegrationEffort}
      {review : CandidateReviewRequired} {command : CandidateReviewCommand} {text : String}
      {responder : ResponderIdentity} {daemonUid : Nat} {stamp : Stamp}
      (decides : Decides command effort review responder daemonUid)
      (decision : command.decision = .requestChanges text)
      (writes : Writes none
        { view.setReviews (isOpenReview effort.id review.reviewId) .changesRequested
            (some responder) (some text) with evidence := none }
        effort (.agentReady ⟨view.maxCycle + 1⟩) effort.failedCycles after) :
      EffortStep (.reviewCandidate command effort.id responder daemonUid stamp) view after
  | cancel {view after : EffortView} {effort : IntegrationEffort} {actor reason : String}
      {stamp : Stamp} {debt : Option RunnerTerminationDebt}
      (free : effort.state.containsExternalLandingAuthority = false)
      (active : effort.state.name ≠ .cancelled)
      (owed : ∃ authority, terminationAuthority effort.state = .ok authority ∧
        (authority = none ∧ debt = view.debt ∨
          view.debt = none ∧ ∃ runner, authority = some runner ∧ debt = some ⟨effort.id, runner⟩))
      (writes : Writes none { view.closeRows effort.id with debt } effort
        (.cancelled ⟨actor, reason, stamp.now⟩) 0 after) :
      EffortStep (.cancel effort.id actor reason stamp) view after
  | deleteDebt {view : EffortView} {effort : IntegrationEffort} {cancelled : Cancelled}
      {authority : RunnerTerminationAuthority} (stored : view.effort = some effort)
      (ended : effort.state = .cancelled cancelled)
      (owed : view.debt = some ⟨effort.id, authority⟩) :
      EffortStep (.deleteTerminationDebt effort.id authority) view { view with debt := none }
  | markReplacement {view after : EffortView} {effort : IntegrationEffort} {itemId : String}
      {blocked : BlockedEffort} {stamp : Stamp}
      (limited : effort.state = .cycleLimitBlocked blocked)
      (writes : Writes none view effort (.replacementPending ⟨effort.attemptId, stamp.now⟩) 0
        after) :
      EffortStep (.finishReplacementCleanup itemId effort.attemptId stamp) view after

end Iq
