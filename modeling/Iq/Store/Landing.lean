import Iq.Store.Blocking

/-!
# Landing and target movement

The transactions that prepare and release a landing command, record its completion, and move a
candidate to a newer target: beginning the move, scheduling the cleanup of the old landing
reference, and completing the recomposition.
-/

namespace Iq

open Library Library.Transaction

/-- `begin_landing`. -/
def beginLanding (effortId expectedTargetSha leaseId commandId : String)
    (signoff : SignoffDisposition) (stamp : Stamp) : Tx Unit := do
  ensure (requireExactText leaseId "landing lease identity")
  ensure (requireExactText commandId "landing command identity")
  let effort ← requiredEffort effortId
  let format ← effortObjectFormat effort
  ensure (format.requireOid expectedTargetSha "landing target SHA")
  let validating ← expect effort.state.validating? (.refused "landing requires validating effort")
  require (isDigest signoff.policyDigest = true)
    (.refused "landing policy digest must be an exact SHA-256 digest")
  require (signoff.policyDigest = validating.policyDigest)
    (.refused "landing evidence policy digest differs from validation authority")
  require (signoff.candidate?.all (· == validating.candidateSha) = true)
    (.refused "signoff evidence names a different candidate")
  let state := .landing ⟨validating.candidateSha, expectedTargetSha, leaseId, signoff⟩
  updateState effort state
  appendEvent effort stamp.eventId "landing_prepared" (.state state) false

/-- `release_landing`. -/
def releaseLanding (effortId commandId : String) (stamp : Stamp) : Tx Unit := do
  ensure (requireExactText commandId "landing command identity")
  let effort ← requiredEffort effortId
  let landing ← expect effort.state.landing?
    (.refused "landing command release requires prepared landing effort")
  let state := .landingUncertain
    ⟨landing.candidateSha, landing.expectedTargetSha, commandId, "command_gate_released"⟩
  updateState effort state
  appendEvent effort stamp.eventId "landing_released" (.state state) false

/-- The candidate of a landing that can complete. -/
def IntegrationEffortState.landingCandidate? : IntegrationEffortState → Option String
  | .landing value => some value.candidateSha
  | .landingUncertain value => some value.candidateSha
  | _ => none

/-- Move the local submission of an integrated item, when it has one, to its cleanup debt. -/
def integrateLocalSubmission (itemId : String) : Tx Unit := do
  let submission ← query fun db => ((db.items.find? itemId).bind QueueItem.submissionId).bind
    db.submissions.find?
  match submission with
  | none => pure ()
  | some submission => do
    let queued ← query fun db => db.submissions.any fun row =>
      row.id == submission.id && row.state == .queued
    let submitted ← query fun db => db.workspaces.any fun row => row.id == submission.workspaceId &&
      [.submitted, .cleanupPending, .cleanupFailed].contains row.status
    require (queued = true ∧ submitted = true)
      (.refused "local submission cannot enter integrated cleanup debt")
    write fun db => ((), { db with
      submissions := db.submissions.update (fun row => row.id == submission.id)
        (fun row => { row with state := .integrated }) fun _ => rfl
      workspaces := db.workspaces.update (fun row => row.id == submission.workspaceId)
        (fun row => { row with status := .cleanupPending }) fun _ => rfl })

/-- `UPDATE registered_repositories SET checkout_json=...` for the repository of an item; the
result is the number of rows. -/
def requireCheckout (itemId targetSha : String) : Tx Nat := do
  let item ← query fun db => db.items.find? itemId
  match item with
  | none => pure 0
  | some item =>
    write fun db => (db.repositories.count fun row => row.repoKey == item.repoKey, { db with
      repositories := db.repositories.update (fun row => row.repoKey == item.repoKey)
        (fun row => { row with checkout := .pending item.targetRef targetSha }) fun _ => rfl })

/-- `mark_integrated`; the debts that replicate the landed commit are not modelled. -/
def markIntegrated (effortId landedSha remoteTargetSha : String) (stamp : Stamp) : Tx Unit := do
  let effort ← requiredEffort effortId
  let format ← effortObjectFormat effort
  ensure (format.requireOid landedSha "landed SHA")
  ensure (format.requireOid remoteTargetSha "remote target SHA")
  let item ← lookup (fun db => db.items.find? effort.itemId) (.refused "Query returned no rows")
  requireItemObligation effort.itemId
  let candidateSha ← expect effort.state.landingCandidate?
    (.refused "integration completion requires landing authority")
  let state := .integrated ⟨candidateSha, landedSha, effort.attemptId, stamp.eventId⟩
  let _ ← updateAttempts (fun row => row.id == effort.attemptId && row.itemId == effort.itemId)
    (fun row => { row with landedCommitSha := some landedSha, result := some .integrated,
                           finishedAt := some stamp.now }) fun _ => rfl
  updateState effort state
  scheduleCleanup ⟨item.repoKey, .landing, effort.attemptId, landingRef effort.attemptId,
    candidateSha⟩ "landing cleanup debt differs from integration authority"
  integrateLocalSubmission effort.itemId
  let _ ← requireCheckout effort.itemId remoteTargetSha
  appendEvent effort stamp.eventId "integrated" (.state state) false

/-! ## Target movement -/

/-- `authorize_definite_landing_rejection`. -/
def authorizeDefiniteLandingRejection (effortId commandId expectedTargetSha : String) :
    Tx DefiniteLandingRejection := do
  ensure (requireExactText commandId "landing command identity")
  let effort ← requiredEffort effortId
  let format ← effortObjectFormat effort
  ensure (format.requireOid expectedTargetSha "expected landing target SHA")
  let rejection : DefiniteLandingRejection := ⟨effortId, commandId, expectedTargetSha⟩
  ensure (requireTargetMoveAuthority effort (some rejection))
  pure rejection

/-- The cause that a new target move records. -/
def targetMoveCause (effort : IntegrationEffort) :
    Option DefiniteLandingRejection → TargetMoveCause
  | some rejection => .staleLandingLease rejection.commandId rejection.expectedTargetSha
  | none => .observed effort.targetSha

/-- Supersede the open review of an effort whose target moves, with its cycle and checkout. -/
def supersedeReview (effort : IntegrationEffort) (review : CandidateReviewRequired)
    (targetSha now : String) : Tx Unit := do
  let superseded ← updateReviews (fun row => row.id == review.reviewId &&
    row.effortId == effort.id && row.cycleId == review.cycleId &&
    row.candidateSha == review.candidateSha && row.status == .required) .superseded none none
  require (superseded = 1) (.refused "open candidate review changed before target movement")
  let cycles ← updateCycles (isCycleOf effort.id review.cycleId .resolved) .superseded none
  require (cycles = 1) (.refused "candidate review cycle changed before target movement")
  invalidateValidationInvocations effort.attemptId now
  let checkouts ← requireCheckout effort.itemId targetSha
  require (checkouts = 1) (.refused "review target movement lost registered checkout authority")

/-- Supersede the review of a state that waits for one. -/
def supersedeOpenReview (effort : IntegrationEffort) (targetSha now : String) : Tx Unit :=
  match effort.state with
  | .reviewRequired review => supersedeReview effort review targetSha now
  | _ => pure ()

/-- Whether a target move may begin from a state. -/
def isMovable : IntegrationEffortState → Bool
  | .reviewRequired _ | .candidateReady _ | .validating _ | .landing _ | .landingUncertain _ => true
  | _ => false

/-- The columns of a queue item that follow its target and source. -/
def moveQueueItem (effort : IntegrationEffort) (targetSha lost : String) : Tx Unit := do
  let projected ← query fun db => db.items.count fun row =>
    row.id == effort.itemId && row.currentAttemptId == some effort.attemptId
  require (projected = 1) (.refused lost)
  write fun db => ((), { db with
    items := db.items.update (fun row => row.id == effort.itemId)
      (fun row => { row with targetSha := some targetSha, sourceSha := some effort.sourceSha })
      fun _ => rfl })

/-- `begin_target_move_with_resolution`. -/
def beginTargetMoveWithResolution (effortId targetSha : String)
    (rejection : Option DefiniteLandingRejection) (stamp : Stamp) : Tx Unit := do
  let effort ← requiredEffort effortId
  let format ← effortObjectFormat effort
  ensure (format.requireOid targetSha "replacement target SHA")
  match effort.state with
  | .targetMovePending pending =>
    require (pending.targetSha = targetSha ∧ pending.sourceSha = effort.sourceSha ∧
        targetMoveCauseMatches pending.cause rejection = true)
      (.refused "pending target movement differs from durable authority")
  | _ => do
    ensure (requireTargetMoveAuthority effort rejection)
    require (isMovable effort.state = true)
      (.refused "target movement requires candidate or landing authority")
    let previous ← expect (ResumeState.capture? effort.state)
      (.refused "effort state cannot be suspended for external repair")
    let state := .targetMovePending
      ⟨targetSha, effort.sourceSha, previous, targetMoveCause effort rejection⟩
    supersedeOpenReview effort targetSha stamp.now
    let changed ← updateAttempts (fun row => row.id == effort.attemptId &&
        row.itemId == effort.itemId)
      (fun row => { row with movedBase := .pending targetSha effort.sourceSha }) fun _ => rfl
    require (changed = 1) (.refused "target movement lost exact attempt authority")
    updateStateAndCountWithResolution effort state effort.failedCycles rejection
    moveQueueItem effort targetSha "pending target movement lost queue projection authority"
    appendEvent effort stamp.eventId "target_move_pending" (.fields
      [("old_target_sha", .text effort.targetSha), ("target_sha", .text targetSha)]) false

/-- The attempt row that an effort names, of its item. -/
def attemptOf (db : Database) (effort : IntegrationEffort) : Option Attempt :=
  (db.attempts.find? effort.attemptId).filter fun row => row.itemId == effort.itemId

/-- The authority check of a recomposition that starts outside a pending movement. -/
def requireMoveUnlessPending (effort : IntegrationEffort)
    (rejection : Option DefiniteLandingRejection) : Tx Unit :=
  if effort.state.name = .targetMovePending then pure ()
  else ensure (requireTargetMoveAuthority effort rejection)

/-- `prepare_target_recomposition_with_resolution`. -/
def prepareTargetRecompositionWithResolution (effortId targetSha : String)
    (rejection : Option DefiniteLandingRejection) : Tx Unit := do
  let effort ← requiredEffort effortId
  let format ← effortObjectFormat effort
  ensure (format.requireOid targetSha "replacement target SHA")
  requireMoveUnlessPending effort rejection
  let pending ← expect effort.state.targetMovePending?
    (.refused "target recomposition requires durable pending target movement")
  require (pending.targetSha = targetSha ∧ pending.sourceSha = effort.sourceSha ∧
      targetMoveCauseMatches pending.cause rejection = true)
    (.refused "target recomposition differs from pending target authority")
  let oldCandidate ← expect pending.previous.candidateSha
    (.refused "target recomposition has no old candidate cleanup authority")
  let attempt ← lookup (fun db => attemptOf db effort) (.refused "Query returned no rows")
  let item ← lookup (fun db => db.items.find? effort.itemId) (.refused "Query returned no rows")
  require (attempt.mergeCommitSha = some oldCandidate)
    (.refused "old landing-ref candidate differs from exact attempt binding")
  scheduleCleanup ⟨item.repoKey, .landing, effort.attemptId, landingRef effort.attemptId,
    oldCandidate⟩ "old landing-ref cleanup debt differs from recomposition authority"

/-- `complete_target_recomposition`; the conflict text of the queue item has no field. -/
def completeTargetRecomposition (effortId targetSha : String) (composition : CompositionEvidence)
    (stamp : Stamp) : Tx Unit := do
  let effort ← requiredEffort effortId
  let format ← effortObjectFormat effort
  ensure (format.requireOid targetSha "replacement target SHA")
  ensure (composition.validate format false)
  let pending ← expect effort.state.targetMovePending?
    (.refused "target recomposition requires durable pending target movement")
  require (pending.targetSha = targetSha ∧ pending.sourceSha = effort.sourceSha)
    (.refused "target recomposition differs from pending target authority")
  let oldCandidate ← expect pending.previous.candidateSha
    (.refused "target recomposition has no old candidate cleanup authority")
  let attempt ← lookup (fun db => attemptOf db effort) (.refused "Query returned no rows")
  let item ← query fun db => db.items.find? effort.itemId
  let cleanup ← query fun db => db.privateRefDebts.any fun row => row.kind == .landing &&
    row.ownerId == effort.attemptId && row.refName == landingRef effort.attemptId &&
    row.expectedSha == oldCandidate && item.any fun item => item.repoKey == row.repoKey
  require (attempt.mergeCommitSha = some oldCandidate)
    (.refused "old landing-ref candidate differs from exact attempt binding")
  require (cleanup = false) (.refused
    "target recomposition cannot clear candidate authority before landing-ref cleanup")
  let _ ← updateCycles (fun row => row.effortId == effortId && row.status == .resolved)
    .superseded none
  deleteEvidence effortId
  let _ ← updateReviews (fun row => row.effortId == effortId && row.status == .required)
    .superseded none none
  invalidateValidationInvocations effort.attemptId stamp.now
  let _ ← updateAttempts (fun row => row.id == effort.attemptId)
    (fun row => { row.withoutCandidate with
      targetBaseSha := some targetSha
      movedBase := .pending targetSha effort.sourceSha }) fun _ => rfl
  write fun db => ((), { db with
    efforts := db.efforts.update (fun row => row.id == effortId)
      (fun row => { row with targetSha, composition }) fun _ => rfl })
  let next ← nextCycleNumber effortId
  updateStateAndCountWithResolution effort (.agentReady ⟨next⟩) effort.failedCycles none
  moveQueueItem effort targetSha
    "target recomposition projection lost queue item or attempt identity"
  appendEvent effort stamp.eventId "target_moved" (.fields
    [("old_target_sha", .text effort.targetSha), ("target_sha", .text targetSha)]) false

end Iq
