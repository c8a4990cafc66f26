import Iq.Store.Cancel

/-!
# Queue transactions

The transactions of the queue that the control store depends on: claiming an item, recording the
evidence of an attempt, cleaning up a replaced attempt, scheduling and completing the cleanup of
private references, and draining and disabling a repository. The repository lease that guards them
and the queue's own event log are not modelled.
-/

namespace Iq

open Library Library.Transaction

/-! ## Claiming and leaving the queue -/

/-- `claim_next_ready`: claim the oldest unfinished item of a branch when it is ready. The result
tells whether an attempt was started. -/
def claimNextReady (repoKey : String) (targetRef : TargetRef) (withoutValidation : Bool)
    (stamp : Stamp) : Tx Bool := do
  let oldest ← query fun db => db.items.rows.find? fun row =>
    row.repoKey == repoKey && row.targetRef == targetRef && !row.status.isTerminal
  match oldest with
  | none => pure false
  | some item => do
    requireItemObligation item.id
    if item.status ≠ .ready then
      pure false
    else do
      let number ← query fun db =>
        (((db.attempts.select fun row => row.itemId == item.id).map
          Attempt.attemptNumber).max?.getD 0) + 1
      let attempts ← lookup (fun db => db.attempts.insert?
          ⟨stamp.rowId, item.id, number, none, none, none, none, none, none, withoutValidation,
            none, .none, none, none, none⟩)
        (.constraint (.unique "integration_attempts"))
      write fun db => ((), { db with attempts })
      updateQueueItem item.id (fun _ => true) (fun row => { row with
          status := .merging, currentAttemptId := some stamp.rowId, landing := .ready,
          blockedPhase := none, blockedReason := none }) (fun _ => rfl)
        "queue item not found"
      pure true

/-- `cancel_item_without_effort`. -/
def cancelItemWithoutEffort (itemId : String) (stamp : Stamp) : Tx Unit := do
  let item ← lookup (fun db => db.items.find? itemId) (.refused s!"queue item not found: {itemId}")
  let owned ← query fun db => (db.effortOfItem itemId).isSome
  require (owned = false)
    (.refused "queue lifecycle is read-only after integration effort creation")
  require (item.status.isTerminal = false) (.refused "invalid queue transition")
  require (item.landing.containsExternalLandingAuthority = false)
    (.refused s!"item {itemId} has external landing authority and cannot be cancelled")
  let replacing ← query fun db => db.submissions.any fun row =>
    row.replacesItemId == some itemId && row.state == .creating
  require (replacing = false) (.refused
    "item has an incomplete immutable replacement; finish that submission before cancellation")
  cancelLocalSubmission itemId
  match item.currentAttemptId with
  | none => pure ()
  | some attemptId => do
    let _ ← updateAttempts (fun row => row.id == attemptId && row.result.isNone)
      (fun row => { row with result := some .cancelled, finishedAt := some stamp.now })
      (Attempt.id_cancelled stamp.now)
    pure ()
  updateQueueItem itemId (fun _ => true)
    (fun row => { row with status := .cancelled, replacement := .none }) (fun _ => rfl)
    s!"queue item not found: {itemId}"

/-- `block_item_from_status`, for an item without an effort. -/
def blockItemFromStatus (itemId : String) (expected : QueueStatus) (phase : BlockedPhase)
    (reason : BlockedReason) : Tx Unit := do
  let owned ← query fun db => (db.effortOfItem itemId).isSome
  require (owned = false)
    (.refused "queue lifecycle is read-only after integration effort creation")
  updateQueueItem itemId (fun row => row.status == expected)
    (fun row => { row with
      status := .blocked, blockedPhase := some phase, blockedReason := some reason })
    (fun _ => rfl) s!"item {itemId} cannot block from its status"

/-- The status of an item in a phase. -/
def BlockedPhase.status : BlockedPhase → QueueStatus
  | .merging => .merging
  | .validating => .validating
  | .integrating => .integrating

/-- `block_item_owned`. -/
def blockItemOwned (itemId : String) (phase : BlockedPhase) (reason : BlockedReason) : Tx Unit :=
  blockItemFromStatus itemId phase.status phase reason

/-- `block_integrating_recovery_owned`. -/
def blockIntegratingRecoveryOwned (itemId : String) (phase : BlockedPhase)
    (reason : BlockedReason) : Tx Unit := do
  require (phase ≠ .integrating)
    (.refused "integrating recovery may only resume merging or validating")
  blockItemFromStatus itemId .integrating phase reason

/-- Whether an attempt that a replacement cleanup leaves has ended the way the item did. -/
def isTerminalAttemptFor (status : QueueStatus) (attempt : Attempt) : Bool :=
  attempt.finishedAt.isSome &&
    ((status == .integrated && attempt.result == some .integrated) ||
      (status == .cancelled && attempt.result == some .cancelled))

/-- The blocked branch of `finish_replacement_cleanup`. -/
def supersedeAttempt (item : QueueItem) (oldAttemptId : String) (stamp : Stamp) : Tx Unit := do
  let changed ← updateAttempts (fun row => row.id == oldAttemptId && row.itemId == item.id &&
      row.finishedAt.isNone && row.result.isNone)
    (fun row => { row with result := some .superseded, finishedAt := some stamp.now }) fun _ => rfl
  if changed = 0 then do
    let old ← lookup (fun db => (db.attempts.find? oldAttemptId).filter fun row =>
        row.itemId == item.id) (.refused "old integration attempt disappeared after cleanup")
    require (old.finishedAt ≠ none ∧
        (old.result = some .cancelled ∨ old.result = some .superseded))
      (.refused
        "old integration attempt terminal state is incompatible with replacement cleanup")
  let pending ← markEffortReplacementPending item.id oldAttemptId stamp
  let expected := if pending then QueueStatus.ready else .blocked
  updateQueueItem item.id (fun row => row.repoKey == item.repoKey && row.status == expected)
    (fun row => { row with
      status := .ready, currentAttemptId := none, replacement := .none, blockedPhase := none,
      blockedReason := none }) (fun _ => rfl) "replacement cleanup state changed concurrently"

/-- `finish_replacement_cleanup`. -/
def finishReplacementCleanup (itemId oldAttemptId : String) (stamp : Stamp) : Tx Unit := do
  let item ← lookup (fun db => db.items.find? itemId) (.refused s!"queue item not found: {itemId}")
  match item.replacement with
  | .none => abort (.refused "queue item has no replacement cleanup debt")
  | .cleanupPending expected _ => do
    require (expected = oldAttemptId) (.refused "replacement cleanup attempt identity changed")
    if item.status = .blocked then
      supersedeAttempt item oldAttemptId stamp
    else do
      let old ← lookup (fun db => (db.attempts.find? oldAttemptId).filter fun row =>
          row.itemId == itemId) (.refused "old integration attempt disappeared after cleanup")
      require (isTerminalAttemptFor item.status old = true) (.refused
        "old integration attempt terminal state is incompatible with replacement cleanup")
      require (item.currentAttemptId = some oldAttemptId)
        (.refused "replacement cleanup state changed concurrently")
      write fun db => ((), { db with
        items := db.items.update (fun row => row.id == itemId)
          (fun row => { row with replacement := .none }) fun _ => rfl })

/-! ## Attempt evidence -/

/-- `AttemptValidationInvocation`. -/
structure AttemptValidationInvocation where
  command : String
  exitCode : Int
  logPath : String
  candidateSha : String
  deriving DecidableEq, Repr

/-- The shared body of the two functions that record a validation invocation; `retarget` is the
target base that a revalidation writes. -/
def recordInvocation (attemptId : String) (invocation : AttemptValidationInvocation)
    (retarget : Option String) (disappeared without : String) : Tx Nat := do
  let changed ← updateAttempts (fun row => row.id == attemptId)
    (fun row => { row with
      targetBaseSha := retarget.or row.targetBaseSha
      validationCommand := some invocation.command
      validationExitCode := some invocation.exitCode
      validationLogPath := some invocation.logPath
      validatedCommitSha := none }) fun _ => rfl
  require (changed = 1) (.refused disappeared)
  let number ← query fun db =>
    (((db.invocations.select fun row => row.attemptId == attemptId).map
      ValidationInvocation.invocationNumber).max?.getD 0) + 1
  let base ← lookup (fun db => (db.attempts.find? attemptId).bind Attempt.targetBaseSha)
    (.refused without)
  let invocations ← lookup (fun db => db.invocations.insert?
      ⟨attemptId, number, base, invocation.candidateSha, none, none⟩)
    (.constraint (.unique "validation_invocations"))
  write fun db => (number, { db with invocations })

/-- `record_attempt_validation`. -/
def recordAttemptValidation (attemptId : String) (invocation : AttemptValidationInvocation) :
    Tx Nat :=
  recordInvocation attemptId invocation none
    "validation attempt disappeared before invocation recording"
    "validation invocation has no exact target base"

/-- `record_attempt_revalidation`. -/
def recordAttemptRevalidation (attemptId targetBaseSha : String)
    (invocation : AttemptValidationInvocation) : Tx Nat :=
  recordInvocation attemptId invocation (some targetBaseSha)
    "revalidation attempt disappeared before invocation recording"
    "revalidation invocation was not recorded"

/-- Whether an effort is running the validation of a candidate for an attempt. -/
def isRunningValidation (attemptId candidateSha : String) (effort : IntegrationEffort) : Bool :=
  effort.attemptId == attemptId &&
    match effort.state with
    | .validating validating =>
      validating.stage == .running && validating.candidateSha == candidateSha
    | _ => false

/-- `complete_attempt_validation`. -/
def completeAttemptValidation (attemptId : String) (invocationNumber : Nat)
    (validatedCommitSha : String) : Tx Unit := do
  let attempt ← lookup (fun db => db.attempts.find? attemptId) (.refused "Query returned no rows")
  let format ← itemObjectFormat attempt.itemId
  ensure (format.requireOid validatedCommitSha "validated invocation candidate SHA")
  let last ← query fun db =>
    ((db.invocations.select fun row => row.attemptId == attemptId).map
      ValidationInvocation.invocationNumber).max?
  let current (row : ValidationInvocation) : Bool :=
    row.attemptId == attemptId && row.invocationNumber == invocationNumber &&
      row.candidateSha == validatedCommitSha && row.validatedCommitSha.isNone &&
      row.invalidatedAt.isNone && last == some invocationNumber
  let authorized ← query fun db => db.invocations.any current &&
    db.efforts.any (isRunningValidation attemptId validatedCommitSha)
  require (authorized = true)
    (.refused "validation completion differs from invocation candidate authority")
  write fun db => ((), { db with
    invocations := db.invocations.update current
      (fun row => { row with validatedCommitSha := some validatedCommitSha }) fun _ => rfl })
  let changed ← updateAttempts (fun row => row.id == attemptId)
    (fun row => { row with validatedCommitSha := some validatedCommitSha }) fun _ => rfl
  require (changed = 1) (.refused "validation attempt disappeared before success recording")

/-- Whether an attempt carries no validation evidence besides an accepted candidate. -/
def Attempt.hasNoValidationEvidence (attempt : Attempt) : Bool :=
  attempt.validationCommand.isNone && attempt.validationExitCode.isNone &&
    attempt.validationLogPath.isNone && attempt.signoffEvidence.isNone

/-- `accept_candidate_without_validation`. -/
def acceptCandidateWithoutValidation (itemId attemptId targetBaseSha candidateSha : String)
    (expected : QueueStatus) : Tx Unit := do
  require ((GitObjectFormat.sha1.isOid targetBaseSha || GitObjectFormat.sha256.isOid targetBaseSha)
      = true) (.refused "no-validation target must be a full hexadecimal Git object ID")
  require ((GitObjectFormat.sha1.isOid candidateSha || GitObjectFormat.sha256.isOid candidateSha)
      = true) (.refused "no-validation candidate must be a full hexadecimal Git object ID")
  let item ← lookup (fun db => db.items.find? itemId) (.refused s!"queue item not found: {itemId}")
  require (item.status = expected ∧ item.currentAttemptId = some attemptId) (.refused
    "no-validation acceptance does not match the current item attempt and status")
  let attempt ← lookup (fun db => db.attempts.find? attemptId)
    (.refused s!"integration attempt not found: {attemptId}")
  require (attempt.itemId = itemId ∧ attempt.targetBaseSha = some targetBaseSha ∧
      attempt.mergeCommitSha = some candidateSha)
    (.refused "no-validation acceptance does not match the persisted target and candidate")
  require (attempt.withoutValidation = true) (.refused "attempt policy requires validation")
  if attempt.validatedCommitSha = some candidateSha ∧ attempt.hasNoValidationEvidence = true then
    pure ()
  else do
    require (attempt.validatedCommitSha = none ∧ attempt.hasNoValidationEvidence = true)
      (.refused "attempt already has different candidate evidence")
    let running ← query fun db => db.efforts.any fun effort =>
      effort.itemId == itemId && isRunningValidation attemptId candidateSha effort
    require (running = true) (.refused
      "integration attempt identity changed during no-validation acceptance")
    let _ ← updateAttempts (fun row => row.id == attemptId)
      (fun row => { row with validatedCommitSha := some candidateSha }) fun _ => rfl
    pure ()

/-- `update_attempt_signoff`. -/
def updateAttemptSignoff (attemptId evidence : String) : Tx Unit := do
  let changed ← updateAttempts (fun row => row.id == attemptId)
    (fun row => { row with signoffEvidence := some evidence }) fun _ => rfl
  require (changed = 1) (.refused "integration attempt disappeared during signoff")

/-- `begin_initial_target_fetch`. -/
def beginInitialTargetFetch (itemId attemptId targetSha : String) : Tx Unit := do
  let format ← itemObjectFormat itemId
  ensure (format.requireOid targetSha "observed target SHA")
  let unset (row : Attempt) : Bool :=
    row.id == attemptId && row.itemId == itemId && row.targetBaseSha.isNone
  let changed ← updateAttempts unset (fun row => { row with targetBaseSha := some targetSha })
    fun _ => rfl
  let existing ← query fun db => ((db.attempts.find? attemptId).filter fun row =>
    row.itemId == itemId).bind Attempt.targetBaseSha
  require (changed ≠ 0 ∨ existing = some targetSha)
    (.refused "integration attempt target authority changed before fetch")
  let repositories ← requireCheckout itemId targetSha
  require (repositories = 1) (.refused "registered repository disappeared before target fetch")

/-- `set_conflict_metadata`; the conflict text has no field. -/
def setConflictMetadata (itemId attemptId targetSha sourceSha : String) : Tx Unit := do
  let item ← lookup (fun db => db.items.find? itemId) (.refused s!"queue item not found: {itemId}")
  if item.status = .merging ∧ item.currentAttemptId = some attemptId then
    write fun db => ((), { db with
      items := db.items.update (fun row => row.id == itemId)
        (fun row => { row with targetSha := some targetSha, sourceSha := some sourceSha })
        fun _ => rfl })
  else
    require (item.status = .cancelled)
      (.refused "conflict metadata lost exact merging attempt authority")

/-! ## Private references -/

/-- The canonical name of a private reference. -/
def privateRefName (repoKey : String) (kind : PrivateRefKind) (ownerId expectedSha : String) :
    String :=
  match kind with
  | .repositoryTarget => "refs/iq/repository-targets/" ++ repoKey ++ "/" ++ expectedSha
  | .landing => landingRef ownerId

/-- `schedule_private_ref_cleanup`. -/
def schedulePrivateRefCleanup (debt : PrivateRefCleanupDebt) : Tx Unit := do
  let policy ← lookup (fun db => db.policies.find? debt.repoKey)
    (.refused "Query returned no rows")
  ensure (policy.objectFormat.requireOid debt.expectedSha "private-ref cleanup object ID")
  require (debt.refName = privateRefName debt.repoKey debt.kind debt.ownerId debt.expectedSha)
    (.refused "private-ref cleanup identity is not canonical")
  scheduleCleanup debt "private-ref cleanup debt differs from exact authority"

/-- `complete_private_ref_cleanup`. -/
def completePrivateRefCleanup (debt : PrivateRefCleanupDebt) : Tx Unit := do
  let stored ← query fun db => db.privateRefDebts.find? debt.key
  require (stored = some debt)
    (.refused "private-ref cleanup debt authority changed during finalization")
  write fun db => ((), { db with
    privateRefDebts := db.privateRefDebts.delete fun row => row == debt })

/-! ## Draining -/

/-- The obligations that draining a repository captures, without its replication debts. -/
def drainingObligations (db : Database) (repoKey : String) : List Obligation :=
  (db.workspaces.select fun row => row.repoKey == repoKey && row.status != .removed).map
      (fun row => Obligation.workspace row.id) ++
    (db.items.select fun row => row.repoKey == repoKey && !row.status.isTerminal).map
      fun row => Obligation.queueItem row.id

/-- `begin_repository_draining`. -/
def beginRepositoryDraining (repoKey : String) : Tx Unit := do
  let policy ← lookup (fun db => db.policies.find? repoKey) (.refused "Query returned no rows")
  require (policy.operationState = .enabled)
    (.refused "only an enabled repository can enter draining")
  let creating ← query fun db => db.submissions.any fun row =>
    row.repoKey == repoKey && row.state == .creating
  require (creating = false) (.refused "repository has an incomplete local submission intent")
  let obligations ← query fun db => drainingObligations db repoKey
  write fun db => ((), { db with
    policies := db.policies.update (fun row => row.repoKey == repoKey)
      (fun row => { row with operationState := .draining obligations }) fun _ => rfl })

/-- Whether a captured obligation is finished: a workspace removed, an item terminal. The cleanup
and replication debts that the source also waits for are not modelled. -/
def isObligationComplete (db : Database) (repoKey : String) : Obligation → Bool
  | .workspace id => (db.workspaces.find? id).any fun row =>
    row.repoKey == repoKey && row.status == .removed
  | .queueItem id => (db.items.find? id).any fun row =>
    row.repoKey == repoKey && row.status.isTerminal
  | .replication _ => true

/-- `disable_drained_repository`. -/
def disableDrainedRepository (repoKey : String) : Tx Unit := do
  let policy ← lookup (fun db => db.policies.find? repoKey) (.refused "Query returned no rows")
  match policy.operationState with
  | .enabled | .disabled => abort (.refused "only a draining repository can be disabled")
  | .draining obligations => do
    let complete ← query fun db => obligations.all (isObligationComplete db repoKey)
    require (complete = true)
      (.refused "captured draining obligation is not terminal and clean")
    write fun db => ((), { db with
      policies := db.policies.update (fun row => row.repoKey == repoKey)
        (fun row => { row with operationState := .disabled }) fun _ => rfl })

end Iq
