import Mathlib.Data.List.Sort
import Iq.Store.Schema

/-!
# Shared routines of the control store

Reading an effort, the state update that every operation goes through with the constraints and
triggers it meets, the projection of an effort onto its queue item, and the event log.
-/

namespace Iq

open Library Library.Transaction

/-! ## Reading -/

namespace Database

/-- The policy of the repository of an item. -/
def policyOf (db : Database) (itemId : String) : Option RepositoryPolicy :=
  (db.items.find? itemId).bind fun item => db.policies.find? item.repoKey

/-- The cycles of an effort, in insertion order. -/
def cyclesOf (db : Database) (effortId : String) : List IntegrationCycle :=
  db.cycles.select fun row => row.effortId == effortId

/-- `COALESCE(MAX(cycle_number),0)` over the cycles of an effort. -/
def maxCycleNumber (db : Database) (effortId : String) : Nat :=
  ((db.cyclesOf effortId).map IntegrationCycle.cycleNumber).max?.getD 0

/-- The effort of an item, which is unique. -/
def effortOfItem (db : Database) (itemId : String) : Option IntegrationEffort :=
  db.efforts.rows.find? fun row => row.itemId == itemId

end Database

/-- `required_effort`: the stored effort, valid for its count. -/
def requiredEffort (effortId : String) : Tx IntegrationEffort := do
  let effort ← lookup (fun db => db.efforts.find? effortId)
    (.refused s!"integration effort not found: {effortId}")
  ensure (effort.state.validateForCount effort.failedCycles)
  pure effort

/-- `item_object_format`. -/
def itemObjectFormat (itemId : String) : Tx GitObjectFormat := do
  let policy ← lookup (fun db => db.policyOf itemId) (.refused "Query returned no rows")
  pure policy.objectFormat

/-- `effort_object_format`, on the item of an effort that was read. -/
def effortObjectFormat (effort : IntegrationEffort) : Tx GitObjectFormat :=
  itemObjectFormat effort.itemId

/-- The repository of an item admits the obligation to finish the item. -/
def requireItemObligation (itemId : String) : Tx Unit := do
  let policy ← lookup (fun db => db.policyOf itemId) (.refused "Query returned no rows")
  ensure (policy.operationState.requireObligation (.queueItem itemId))

/-- `next_cycle_number`. -/
def nextCycleNumber (effortId : String) : Tx Nat := do
  let next ← query fun db => db.maxCycleNumber effortId + 1
  require (next ≤ 255) (.refused "integration effort exceeds cycle identity range")
  pure next

/-- `cycle_ids`: the failed cycles of an effort by number, and the current one. -/
def cycleIds (db : Database) (effortId current : String) : List String :=
  let failed := (db.cyclesOf effortId).filter fun row => row.status == .failed
  let sorted := failed.insertionSort fun first second => first.cycleNumber ≤ second.cycleNumber
  let ids := sorted.map IntegrationCycle.id
  if ids.contains current then ids else ids ++ [current]

/-! ## Writing -/

/-- `append_event` and `append_event_with_id`. -/
def appendEvent (effort : IntegrationEffort) (eventId eventType : String) (payload : EventPayload)
    (alert : Bool) : Tx Unit :=
  write fun db => ((), { db with
    events := db.events ++ [⟨eventId, effort.itemId, effort.id, eventType, payload, alert⟩] })

/-- `UPDATE integration_cycles SET status=... WHERE ...`; the result is the number of rows. -/
def updateCycles (chosen : IntegrationCycle → Bool) (status : CycleStatus)
    (failure : Option CycleFailure) : Tx Nat :=
  write fun db => (db.cycles.count chosen, { db with
    cycles := db.cycles.update chosen
      (fun row => { row with status, failure := failure.or row.failure }) fun _ => rfl })

/-- `UPDATE integration_attempts SET ... WHERE id=?`. -/
def updateAttempts (chosen : Attempt → Bool) (change : Attempt → Attempt)
    (kept : ∀ row, (change row).id = row.id) : Tx Nat :=
  write fun db => (db.attempts.count chosen, { db with
    attempts := db.attempts.update chosen change kept })

/-- `UPDATE candidate_reviews SET status=... WHERE ...`; a result carries its responder. -/
def updateReviews (chosen : CandidateReviewRow → Bool) (status : ReviewStatus)
    (responder : Option ResponderIdentity) (reviewText : Option String) : Tx Nat :=
  write fun db => (db.reviews.count chosen, { db with
    reviews := db.reviews.update chosen (fun row => { row with
      status, responder := responder.or row.responder, reviewText := reviewText.or row.reviewText })
      fun _ => rfl })

/-- `UPDATE guidance_requests SET status=... WHERE ...`. -/
def updateGuidance (chosen : GuidanceRequest → Bool) (status : GuidanceStatus) : Tx Nat :=
  write fun db => (db.guidance.count chosen, { db with
    guidance := db.guidance.update chosen (fun row => { row with status }) fun _ => rfl })

/-- `invalidate_validation_invocations`. -/
def invalidateValidationInvocations (attemptId now : String) : Tx Unit :=
  write fun db => ((), { db with
    invocations := db.invocations.update
      (fun row => row.attemptId == attemptId && row.invalidatedAt.isNone)
      (fun row => { row with invalidatedAt := some now }) fun _ => rfl })

/-- The attempt columns that a candidate leaves behind, cleared. -/
def Attempt.withoutCandidate (row : Attempt) : Attempt :=
  { row with
    mergeCommitSha := none, validatedCommitSha := none, validationCommand := none,
    validationExitCode := none, validationLogPath := none, signoffEvidence := none }

/-- An attempt without its candidate has its id. -/
theorem Attempt.id_withoutCandidate (row : Attempt) : row.withoutCandidate.id = row.id := rfl

/-- A cancelled attempt has its id. -/
theorem Attempt.id_cancelled (finished : String) (row : Attempt) :
    { row with result := some .cancelled, finishedAt := some finished }.id = row.id :=
  rfl

/-- `DELETE FROM candidate_evidence WHERE effort_id=?` under `candidate_evidence_delete_guard`:
the row goes only from a moving effort, or when its cycle failed or its review asked for
changes. -/
def deleteEvidence (effortId : String) : Tx Unit := do
  let guarded ← query fun db =>
    match db.evidence.find? effortId, db.efforts.find? effortId with
    | some candidate, some effort =>
      effort.state.name != .targetMovePending &&
        !db.cycles.any (fun row => row.id == candidate.cycleId && row.effortId == effortId &&
          row.status == .failed) &&
        !db.reviews.any (fun row => row.effortId == effortId && row.cycleId == candidate.cycleId &&
          row.candidateSha == candidate.candidateSha && row.status == .changesRequested)
    | _, _ => false
  require (guarded = false) (.constraint .evidenceDelete)
  write fun db => ((), { db with evidence := db.evidence.delete fun row => row.effortId == effortId })

/-- `INSERT INTO private_ref_cleanup_debt ... ON CONFLICT DO NOTHING`, followed by the comparison
of a debt that was present with the one intended. -/
def scheduleCleanup (debt : PrivateRefCleanupDebt) (differs : String) : Tx Unit := do
  let present ← query fun db => db.privateRefDebts.find? debt.key
  match present with
  | some stored => require (stored = debt) (.refused differs)
  | none =>
    let inserted ← lookup (fun db => db.privateRefDebts.insert? debt)
      (.constraint (.unique "private_ref_cleanup_debt"))
    write fun db => ((), { db with privateRefDebts := inserted })

/-! ## Effort constraints -/

/-- `integration_effort_legal_transition`. -/
def legalTransition : StateName → StateName → Bool
  | .replacementPending, new => new == .agentReady
  | .agentReady, new => [.agentLaunching, .infrastructureBlocked, .cancelled].contains new
  | .agentLaunching, new =>
    [.agentReady, .agentRunning, .infrastructureBlocked, .cancelled].contains new
  | .agentRunning, new =>
    [.candidateBuilding, .agentReady, .guidanceRequired, .infrastructureBlocked,
      .cycleLimitBlocked, .cancelled].contains new
  | .candidateBuilding, new =>
    [.reviewRequired, .candidateReady, .agentReady, .infrastructureBlocked, .cancelled].contains new
  | .reviewRequired, new =>
    [.candidateReady, .agentReady, .targetMovePending, .infrastructureBlocked,
      .cancelled].contains new
  | .candidateReady, new =>
    [.validating, .agentReady, .targetMovePending, .infrastructureBlocked, .cancelled].contains new
  | .validating, new =>
    [.validating, .landing, .agentReady, .targetMovePending, .guidanceRequired,
      .infrastructureBlocked, .providerBlocked, .cycleLimitBlocked, .cancelled].contains new
  | .guidanceRequired, new => [.agentReady, .cancelled].contains new
  | .infrastructureBlocked, new =>
    [.agentReady, .candidateBuilding, .reviewRequired, .candidateReady, .validating, .landing,
      .landingUncertain, .cancelled].contains new
  | .cycleLimitBlocked, new => [.replacementPending, .agentReady, .cancelled].contains new
  | .providerBlocked, new =>
    [.validating, .landing, .landingUncertain, .agentReady, .cancelled].contains new
  | .landing, new =>
    [.landingUncertain, .targetMovePending, .integrated, .agentReady, .providerBlocked,
      .infrastructureBlocked, .cancelled].contains new
  | .landingUncertain, new =>
    [.targetMovePending, .integrated, .landing, .agentReady, .providerBlocked,
      .infrastructureBlocked].contains new
  | .targetMovePending, new => [.agentReady, .cancelled].contains new
  | .integrated, _ | .cancelled, _ => false

/-- The trigger fires only when the state column changes. -/
def transitionAllowed (old new : StateName) : Bool := new == old || legalTransition old new

/-- `CHECK((state='cycle_limit_blocked')=(failed_cycles=10))`. -/
def cycleLimitCheck (state : StateName) (failedCycles : Nat) : Bool :=
  (state == .cycleLimitBlocked) == (failedCycles == 10)

/-- The `CHECK` that ties `blocker_kind` to the state. -/
def blockerKindCheck : IntegrationEffortState → Bool
  | .guidanceRequired ⟨.semanticGuidance _, _⟩ => true
  | .infrastructureBlocked ⟨.infrastructure _, _⟩ => true
  | .cycleLimitBlocked ⟨.cycleLimit _, _⟩ => true
  | .providerBlocked ⟨.providerSignoff _, _⟩ => true
  | .guidanceRequired _ | .infrastructureBlocked _ | .cycleLimitBlocked _ | .providerBlocked _ =>
    false
  | _ => true

/-- The conditions of the payload `CHECK` that the serialisation of a payload can violate. -/
def payloadCheck (row : IntegrationEffort) : Bool :=
  match row.state with
  | .replacementPending value => row.failedCycles == 0 && value.oldAttemptId == row.attemptId
  | .agentReady value => 1 ≤ value.nextCycle
  | .agentLaunching value =>
    (value.spawnAuthority == .open || value.spawnAuthority == .surrendered) &&
      0 < value.launcher.pid && 0 < value.launcher.processStartTicks
  | .agentRunning value => 0 < value.launcher.pid && 0 < value.launcher.processStartTicks
  | .candidateBuilding value => 1 ≤ value.parentShas.length
  | .guidanceRequired value =>
    match value.resume with
    | .agentReady _ => true
    | _ => false
  | .cycleLimitBlocked value =>
    match value.blocker with
    | .cycleLimit blocker => blocker.count == 10
    | _ => false
  | _ => true

namespace Database

/-- An approved review of a candidate for the current attempt, target and source of an effort. -/
def isApprovedReview (row : IntegrationEffort) (candidate : CandidateEvidence)
    (review : CandidateReviewRow) : Bool :=
  review.effortId == row.id && review.attemptId == row.attemptId &&
    review.cycleId == candidate.cycleId && review.targetSha == row.targetSha &&
    review.sourceSha == row.sourceSha && review.candidateSha == candidate.candidateSha &&
    review.status == .approved

/-- The candidate of a released-candidate state: `payload.candidate_sha`, or the blocker's. -/
def gatedCandidate? : IntegrationEffortState → Option String
  | .validating value => some value.candidateSha
  | .landing value => some value.candidateSha
  | .landingUncertain value => some value.candidateSha
  | .integrated value => some value.candidateSha
  | .providerBlocked ⟨.providerSignoff blocker, _⟩ => some blocker.candidateSha
  | _ => none

/-- `integration_effort_related_state_update`: the rows that a new state needs. -/
def relatedState (db : Database) (row : IntegrationEffort) : Bool :=
  let cycleIs (cycleId : String) (status : CycleStatus) : Bool :=
    db.cycles.any fun cycle => cycle.effortId == row.id && cycle.id == cycleId &&
      cycle.status == status
  match row.state with
  | .agentLaunching value => cycleIs value.cycleId .starting
  | .agentRunning value => cycleIs value.cycleId .running
  | .candidateBuilding value =>
    cycleIs value.cycleId .resolved &&
      value.classification == row.composition.candidateClassification value.treeSha
  | .reviewRequired value =>
    (db.evidence.find? row.id).any (fun candidate =>
      candidate.candidateSha == value.candidateSha && candidate.classification == .semantic) &&
      db.reviews.any fun review => review.id == value.reviewId && review.effortId == row.id &&
        review.attemptId == row.attemptId && review.cycleId == value.cycleId &&
        review.targetSha == row.targetSha && review.sourceSha == row.sourceSha &&
        review.candidateSha == value.candidateSha && review.status == .required
  | .candidateReady value =>
    (db.evidence.find? row.id).any fun candidate =>
      candidate.candidateSha == value.candidateSha &&
        match value.review with
        | .mechanical => candidate.classification == .mechanical
        | .approved reviewId => candidate.classification == .semantic &&
          db.reviews.any fun review => review.id == reviewId &&
            isApprovedReview row candidate review
  | .validating _ | .landing _ | .landingUncertain _ | .integrated _ | .providerBlocked _ =>
    (db.evidence.find? row.id).any fun candidate =>
      some candidate.candidateSha == gatedCandidate? row.state &&
        (candidate.classification == .mechanical ||
          (match row.composition with
            | .migratedPostRelease _ => true
            | _ => false) ||
          db.reviews.any (isApprovedReview row candidate))
  | .targetMovePending value =>
    (db.evidence.find? row.id).any fun candidate =>
      some candidate.candidateSha == value.previous.candidateSha
  | .guidanceRequired _ =>
    db.guidance.any fun request => request.effortId == row.id && request.status == .open
  | .replacementPending _ | .agentReady _ | .infrastructureBlocked _ | .cycleLimitBlocked _
  | .cancelled _ => true

end Database

/-- `UPDATE integration_efforts SET failed_cycles=?,state=?,state_json=?,blocker_kind=? WHERE id=?
AND state=?` with the triggers and checks that fire on it, in their order. -/
def writeEffortState (effort : IntegrationEffort) (state : IntegrationEffortState)
    (failedCycles : Nat) : Tx Unit := do
  let old ← lookup
    (fun db => (db.efforts.find? effort.id).filter fun row => row.state.name == effort.state.name)
    (.refused "integration effort state changed concurrently")
  require (transitionAllowed old.state.name state.name = true) (.constraint .legalTransition)
  require (failedCycles ≤ 10) (.constraint .failedCyclesRange)
  require (blockerKindCheck state = true) (.constraint .blockerKind)
  require (cycleLimitCheck state.name failedCycles = true) (.constraint .cycleLimit)
  require (payloadCheck { old with state, failedCycles } = true) (.constraint .payload)
  write fun db => ((), { db with
    efforts := db.efforts.update (fun row => row.id == effort.id)
      (fun row => { row with state, failedCycles }) fun _ => rfl })
  let related ← query fun db => db.relatedState { old with state, failedCycles }
  require (related = true) (.constraint .relatedState)

/-! ## Queue projection -/

/-- The lifecycle columns of a queue item. -/
structure Projection where
  status : QueueStatus
  blockedPhase : Option BlockedPhase
  blockedReason : Option BlockedReason
  deriving DecidableEq, Repr

/-- The phase a validation stage belongs to. -/
def ValidationStage.phase : ValidationStage → BlockedPhase
  | .running => .validating
  | .gates => .integrating

/-- The phase that an infrastructure blocker interrupts. -/
def ResumeState.blockedPhase : ResumeState → BlockedPhase
  | .agentReady _ | .candidateBuilding _ => .merging
  | .reviewRequired _ | .candidateReady _ => .validating
  | .validating value => value.stage.phase
  | .landing _ | .landingUncertain _ => .integrating

/-- The lifecycle columns that `project_queue_state` writes for a state. -/
def IntegrationEffortState.projection : IntegrationEffortState → Projection
  | .replacementPending _ => ⟨.ready, none, none⟩
  | .agentReady _ | .agentLaunching _ | .agentRunning _ | .candidateBuilding _ =>
    ⟨.merging, none, none⟩
  | .reviewRequired _ => ⟨.blocked, some .validating, some .needsUserInput⟩
  | .candidateReady _ => ⟨.merged, none, none⟩
  | .validating value =>
    match value.stage with
    | .running => ⟨.validating, none, none⟩
    | .gates => ⟨.integrating, none, none⟩
  | .guidanceRequired _ => ⟨.blocked, some .merging, some .needsUserInput⟩
  | .infrastructureBlocked value => ⟨.blocked, some value.resume.blockedPhase, some .infra⟩
  | .cycleLimitBlocked _ => ⟨.blocked, some .merging, some .needsAgentFix⟩
  | .providerBlocked _ => ⟨.blocked, some .integrating, some .provider⟩
  | .landing _ | .landingUncertain _ | .targetMovePending _ => ⟨.integrating, none, none⟩
  | .integrated _ => ⟨.integrated, none, none⟩
  | .cancelled _ => ⟨.cancelled, none, none⟩

/-- The landing column of a suspended state. -/
def ResumeState.legacyLanding : ResumeState → LandingState
  | .landingUncertain value => .uncertain value.candidateSha value.expectedTargetSha
  | _ => .ready

/-- `legacy_landing_state`, with the `landed` value of an integrated effort. -/
def IntegrationEffortState.legacyLanding : IntegrationEffortState → LandingState
  | .landingUncertain value => .uncertain value.candidateSha value.expectedTargetSha
  | .infrastructureBlocked value | .providerBlocked value => value.resume.legacyLanding
  | .integrated value => .landed value.candidateSha value.landedSha
  | _ => .ready

/-- The landed commit that a state fixes on its queue item. -/
def IntegrationEffortState.landedCommit : IntegrationEffortState → Option String
  | .integrated value => some value.landedSha
  | _ => none

/-- `queue_effort_projection_guard`: whether the lifecycle columns of an item are the projection of
its effort. An item whose effort awaits replacement may be claimed for another attempt. -/
def projectionMatches (effort : IntegrationEffort) (item : QueueItem) : Bool :=
  let expected := effort.state.projection
  let status := match effort.state with
    | .replacementPending _ =>
      if item.currentAttemptId = none ∨ item.currentAttemptId = some effort.attemptId then .ready
      else .merging
    | _ => expected.status
  item.status == status && item.blockedPhase == expected.blockedPhase &&
    item.blockedReason == expected.blockedReason &&
    item.landedCommitSha == effort.state.landedCommit &&
    item.landing == effort.state.legacyLanding

/-- `UPDATE queue_items` of lifecycle columns of one item, under the projection guard. -/
def updateQueueItem (itemId : String) (expected : QueueItem → Bool)
    (change : QueueItem → QueueItem) (kept : ∀ row, (change row).id = row.id) (lost : String) :
    Tx Unit := do
  let item ← lookup (fun db => (db.items.find? itemId).filter expected) (.refused lost)
  let matching ← query fun db => (db.effortOfItem itemId).all fun effort =>
    projectionMatches effort (change item)
  require (matching = true) (.constraint .projection)
  write fun db => ((), { db with
    items := db.items.update (fun row => row.id == itemId) change kept })

/-- `project_queue_state`. -/
def projectQueueState (effort : IntegrationEffort) (state : IntegrationEffortState) : Tx Unit :=
  let projection := state.projection
  match state with
  | .integrated integrated =>
    updateQueueItem effort.itemId (fun _ => true) (fun item => { item with
        status := projection.status, blockedPhase := none, blockedReason := none,
        landedCommitSha := some integrated.landedSha, landing := state.legacyLanding })
      (fun _ => rfl) "queue terminal projection lost item identity"
  | _ =>
    updateQueueItem effort.itemId (fun item => item.currentAttemptId == some effort.attemptId)
      (fun item => { item with
        status := projection.status, blockedPhase := projection.blockedPhase,
        blockedReason := projection.blockedReason, landing := state.legacyLanding,
        replacement := if projection.status = .cancelled then .none else item.replacement })
      (fun _ => rfl) "queue compatibility projection lost item or attempt identity"

/-! ## State updates -/

/-- `DefiniteLandingRejection`: the authority that a definite rejection of a released landing
command gives. -/
structure DefiniteLandingRejection where
  effortId : String
  commandId : String
  expectedTargetSha : String
  deriving DecidableEq, Repr

/-- `require_target_move_authority`. -/
def requireTargetMoveAuthority (effort : IntegrationEffort)
    (rejection : Option DefiniteLandingRejection) : Check :=
  if effort.state.containsExternalLandingAuthority = false then
    check rejection.isNone "definite landing rejection has no released landing authority"
  else
    match rejection, effort.state with
    | none, _ => .error "external landing authority cannot enter target movement"
    | some rejection, .landingUncertain landing =>
      check (effort.landingVariant == .direct && rejection.effortId == effort.id &&
          rejection.commandId == landing.commandId &&
          rejection.expectedTargetSha == landing.expectedTargetSha)
        "definite landing rejection differs from released landing authority"
    | some _, _ => .error "only direct uncertain landing authority can use definite rejection"

/-- `target_move_cause_matches`. -/
def targetMoveCauseMatches : TargetMoveCause → Option DefiniteLandingRejection → Bool
  | _, none => true
  | .staleLandingLease commandId expectedTargetSha, some rejection =>
    commandId == rejection.commandId && expectedTargetSha == rejection.expectedTargetSha
  | .observed _, some _ => false

/-- Whether a state update needs the authority of a definite rejection. -/
def releasesLandingAuthority (effort : IntegrationEffort) (state : IntegrationEffortState) : Bool :=
  effort.state.containsExternalLandingAuthority && !state.containsExternalLandingAuthority

/-- `update_state_and_count_with_resolution`. -/
def updateStateAndCountWithResolution (effort : IntegrationEffort) (state : IntegrationEffortState)
    (failedCycles : Nat) (rejection : Option DefiniteLandingRejection) : Tx Unit := do
  ensure (if releasesLandingAuthority effort state then
      requireTargetMoveAuthority effort rejection
    else
      check rejection.isNone
        "definite landing rejection does not authorize this effort transition")
  ensure (state.validateForCount failedCycles)
  if state.name ≠ .cancelled then requireItemObligation effort.itemId
  writeEffortState effort state failedCycles
  projectQueueState effort state

/-- `update_state_and_count`. -/
def updateStateAndCount (effort : IntegrationEffort) (state : IntegrationEffortState)
    (failedCycles : Nat) : Tx Unit :=
  updateStateAndCountWithResolution effort state failedCycles none

/-- `update_state`. -/
def updateState (effort : IntegrationEffort) (state : IntegrationEffortState) : Tx Unit :=
  updateStateAndCount effort state effort.failedCycles

end Iq
