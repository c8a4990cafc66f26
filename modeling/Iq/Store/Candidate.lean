import Iq.Store.Launch

/-!
# Candidates

The transactions that turn an accepted agent result into a candidate and validate it: the builder
intent, the record of the built candidate with its evidence and review, and the validation stages.
-/

namespace Iq

open Library Library.Transaction

/-- The builder state that an accepted intent leaves, classified against the composition. -/
def CandidateIntent.building (intent : CandidateIntent) (composition : CompositionEvidence) :
    CandidateBuilding where
  operationId := intent.operationId
  cycleId := intent.cycleId
  stagedTreeSha256 := intent.stagedTreeSha256
  treeSha := intent.treeSha
  parentShas := intent.parents
  authorName := intent.authorName
  authorEmail := intent.authorEmail
  authorTimestamp := intent.authorTimestamp
  committerName := intent.committerName
  committerEmail := intent.committerEmail
  committerTimestamp := intent.committerTimestamp
  message := intent.message
  operationRef := intent.operationRef
  classification := composition.candidateClassification intent.treeSha

/-- `start_candidate_build`. -/
def startCandidateBuild (effortId : String) (intent : CandidateIntent) (stamp : Stamp) :
    Tx Unit := do
  let effort ← requiredEffort effortId
  let running ← expect effort.state.agentRunning?
    (.refused "candidate build requires agent_running effort")
  require (running.cycleId = intent.cycleId ∧ intent.parents ≠ [])
    (.refused "candidate intent does not match accepted cycle")
  updateState effort (.candidateBuilding (intent.building effort.composition))
  appendEvent effort stamp.eventId "candidate_building" (.intent intent) false

/-- `accept_resolved_cycle`. -/
def acceptResolvedCycle (effortId : String) (intent : CandidateIntent) (stamp : Stamp) :
    Tx Unit := do
  let effort ← requiredEffort effortId
  let running ← expect effort.state.agentRunning?
    (.refused "resolved result requires agent_running effort")
  require (running.cycleId = intent.cycleId ∧ intent.parents ≠ [])
    (.refused "resolved result does not match running cycle")
  let rows ← updateCycles (fun row => row.id == running.cycleId && row.status == .running)
    .resolved none
  require (rows = 1)
    (.refused "running cycle authority changed before resolved result acceptance")
  updateState effort (.candidateBuilding (intent.building effort.composition))
  appendEvent effort stamp.eventId "candidate_building" (.intent intent) false

/-- `CandidateObservation`: what Git shows of a built candidate. -/
structure CandidateObservation where
  operationId : String
  candidateSha : String
  treeSha : String
  parentShas : List String
  authorName : String
  authorEmail : String
  authorTimestamp : String
  committerName : String
  committerEmail : String
  committerTimestamp : String
  message : String
  operationRef : String
  deriving DecidableEq, Repr

/-- The comparison of an observation with the durable builder intent. -/
def CandidateObservation.matches (observation : CandidateObservation)
    (building : CandidateBuilding) : Bool :=
  building.operationId == observation.operationId && building.treeSha == observation.treeSha &&
    building.parentShas == observation.parentShas &&
    building.authorName == observation.authorName &&
    building.authorEmail == observation.authorEmail &&
    building.authorTimestamp == observation.authorTimestamp &&
    building.committerName == observation.committerName &&
    building.committerEmail == observation.committerEmail &&
    building.committerTimestamp == observation.committerTimestamp &&
    building.message == observation.message && building.operationRef == observation.operationRef

/-- Whether old landing-reference cleanup holds back an attempt. -/
def Database.landingCleanupPending (db : Database) (attemptId : String) : Bool :=
  db.privateRefDebts.any fun row => row.kind == .landing && row.ownerId == attemptId

/-- `INSERT INTO candidate_reviews` with its unique index and foreign key. -/
def insertReview (row : CandidateReviewRow) : Tx Unit := do
  let cycle ← query fun db => db.cycles.any fun cycle =>
    cycle.id == row.cycleId && cycle.effortId == row.effortId
  require (cycle = true) (.constraint (.foreignKey "candidate_reviews"))
  let open' ← query fun db => db.reviews.any fun other =>
    other.effortId == row.effortId && other.status == .required
  require (open' = false) (.constraint (.unique "one_required_candidate_review_per_effort"))
  let reviews ← lookup (fun db => db.reviews.insert? row)
    (.constraint (.unique "candidate_reviews"))
  write fun db => ((), { db with reviews })

/-- `INSERT INTO candidate_evidence ... ON CONFLICT(effort_id) DO UPDATE` with its triggers, its
foreign key and the uniqueness of the builder operation. -/
def upsertEvidence (row : CandidateEvidence) : Tx Unit := do
  let classified ← query fun db => (db.efforts.find? row.effortId).any fun effort =>
    match effort.state with
    | .candidateBuilding building => building.cycleId == row.cycleId &&
      building.operationId == row.builderOperationId &&
      row.classification == effort.composition.candidateClassification building.treeSha
    | _ => false
  require (classified = true) (.constraint .classification)
  let cycle ← query fun db => db.cycles.any fun cycle =>
    cycle.id == row.cycleId && cycle.effortId == row.effortId
  require (cycle = true) (.constraint (.foreignKey "candidate_evidence"))
  let built ← query fun db => db.evidence.any fun other =>
    other.effortId != row.effortId && other.builderOperationId == row.builderOperationId
  require (built = false) (.constraint (.unique "candidate_evidence.builder_operation_id"))
  let cleared ← query fun db => db.evidence.delete fun other => other.effortId == row.effortId
  let evidence ← expect (cleared.insert? row) (.constraint (.unique "candidate_evidence"))
  write fun db => ((), { db with evidence })

/-- The moved-base state of an attempt once a candidate was recorded on it. -/
def MovedBaseState.withCandidate (candidateSha : String) : MovedBaseState → MovedBaseState
  | .none => .none
  | .pending targetSha sourceSha => .applied targetSha sourceSha candidateSha
  | .applied targetSha sourceSha _ => .applied targetSha sourceSha candidateSha

/-- The state that a recorded candidate enters, by its classification. -/
def CandidateBuilding.candidateState (building : CandidateBuilding)
    (candidateSha reviewId : String) : IntegrationEffortState :=
  match building.classification with
  | .mechanical => .candidateReady ⟨building.cycleId, candidateSha, .mechanical⟩
  | .semantic => .reviewRequired ⟨reviewId, building.cycleId, candidateSha⟩

/-- The event payload of a recorded candidate. -/
def candidateEventFields (effort : IntegrationEffort) (building : CandidateBuilding)
    (targetRef : TargetRef) (candidateSha reviewId : String) : List (String × EventValue) :=
  match building.classification with
  | .mechanical =>
    [("cycle_id", .text building.cycleId), ("candidate_sha", .text candidateSha),
      ("classification", .classification .mechanical)]
  | .semantic =>
    [("review_id", .text reviewId), ("attempt_id", .text effort.attemptId),
      ("cycle_id", .text building.cycleId), ("target_ref", .text targetRef.text),
      ("target_sha", .text effort.targetSha), ("source_sha", .text effort.sourceSha),
      ("candidate_sha", .text candidateSha), ("classification", .classification .semantic)]

/-- The writes of `record_candidate` once its review is open: the evidence, the attempt and the
state of the candidate. -/
def publishCandidate (effort : IntegrationEffort) (building : CandidateBuilding) (item : QueueItem)
    (observation : CandidateObservation) (stamp : Stamp) : Tx Unit := do
  upsertEvidence ⟨effort.id, building.cycleId, observation.candidateSha, observation.operationId,
    building.classification⟩
  let attempt ← lookup (fun db => (db.attempts.find? effort.attemptId).filter fun row =>
      row.itemId == effort.itemId) (.refused "Query returned no rows")
  invalidateValidationInvocations effort.attemptId stamp.now
  let projected ← updateAttempts (fun row => row.id == effort.attemptId &&
      row.itemId == effort.itemId)
    (fun row => { row.withoutCandidate with
      mergeCommitSha := some observation.candidateSha
      movedBase := attempt.movedBase.withCandidate observation.candidateSha }) fun _ => rfl
  require (projected = 1)
    (.refused "candidate attempt projection lost exact effort authority")
  let state := building.candidateState observation.candidateSha stamp.rowId
  updateState effort state
  appendEvent effort stamp.eventId state.name.text
    (.fields (candidateEventFields effort building item.targetRef observation.candidateSha
      stamp.rowId)) (building.classification == .semantic)

/-- `record_candidate`. A semantic candidate opens a review under the fresh row identifier. -/
def recordCandidate (effortId : String) (observation : CandidateObservation) (stamp : Stamp) :
    Tx Unit := do
  let effort ← requiredEffort effortId
  let item ← lookup (fun db => db.items.find? effort.itemId) (.refused "Query returned no rows")
  let format ← effortObjectFormat effort
  ensure (format.requireOid observation.candidateSha "candidate SHA")
  ensure (format.requireOid observation.treeSha "candidate tree")
  ensure (format.requireOids observation.parentShas "candidate parent")
  let building ← expect effort.state.candidateBuilding?
    (.refused "candidate record requires candidate_building effort")
  let cleanup ← query fun db => db.landingCleanupPending effort.attemptId
  require (cleanup = false)
    (.refused "candidate publication waits for old landing-ref cleanup")
  require (observation.matches building = true)
    (.refused "complete candidate Git observation differs from durable builder intent")
  if building.classification = .semantic then
    insertReview ⟨stamp.rowId, effort.id, effort.attemptId, building.cycleId, effort.targetSha,
      effort.sourceSha, observation.candidateSha, .required, none, none, stamp.now⟩
  publishCandidate effort building item observation stamp

/-- `reset_interrupted_candidate_build`. -/
def resetInterruptedCandidateBuild (effortId : String) (stamp : Stamp) : Tx Unit := do
  let effort ← requiredEffort effortId
  require (effort.state.name = .candidateBuilding)
    (.refused "candidate reset requires candidate_building effort")
  let next ← nextCycleNumber effortId
  updateState effort (.agentReady ⟨next⟩)
  appendEvent effort stamp.eventId "candidate_build_interrupted"
    (.fields [("resume", .text "agent_ready")]) false

/-- `start_validation`. -/
def startValidation (effortId policyDigest : String) (stamp : Stamp) : Tx Unit := do
  require (isDigest policyDigest = true)
    (.refused "validation policy digest must be an exact SHA-256 digest")
  let effort ← requiredEffort effortId
  let candidate ← expect effort.state.candidateReady?
    (.refused "validation requires candidate_ready effort")
  updateState effort (.validating ⟨candidate.candidateSha, policyDigest, .running⟩)
  appendEvent effort stamp.eventId "validating" (.fields
    [("candidate_sha", .text candidate.candidateSha),
      ("policy_digest", .text policyDigest)]) false

/-- `complete_validation`. -/
def completeValidation (effortId candidateSha : String) (stamp : Stamp) : Tx Unit := do
  let effort ← requiredEffort effortId
  let format ← effortObjectFormat effort
  ensure (format.requireOid candidateSha "validated candidate SHA")
  let validating ← expect effort.state.validating?
    (.refused "validation completion requires validating effort")
  require (validating.stage = .running ∧ validating.candidateSha = candidateSha)
    (.refused "validation completion differs from current candidate authority")
  let validated ← query fun db =>
    ((db.attempts.find? effort.attemptId).filter fun row => row.itemId == effort.itemId).bind
      Attempt.validatedCommitSha
  require (validated = some candidateSha)
    (.refused "validation completion differs from exact attempt evidence")
  updateState effort (.validating ⟨candidateSha, validating.policyDigest, .gates⟩)
  appendEvent effort stamp.eventId "validation_succeeded"
    (.fields [("candidate_sha", .text candidateSha)]) false

end Iq
