import Iq.Store.Review

/-!
# Cancellation and replacement

Cancelling an effort closes its active cycle, its open guidance and its open review, ends its
attempt, and leaves a termination debt for a runner that may exist. The debt goes only when the
reconciler found its authority unchanged.
-/

namespace Iq

open Library Library.Transaction

/-- `item_contains_external_landing_authority` with the effort at hand. -/
def itemContainsExternalLandingAuthority (item : QueueItem) (state : IntegrationEffortState) :
    Bool :=
  item.landing.containsExternalLandingAuthority || state.containsExternalLandingAuthority

/-- The termination authority that the cancellation of a state needs, if any. -/
def terminationAuthority :
    IntegrationEffortState → Except String (Option RunnerTerminationAuthority)
  | .agentLaunching launch =>
    match launch.spawnAuthority with
    | .open => .ok (some (.launching { launch with spawnAuthority := .closeRequested }))
    | .surrendered => .ok (some (.launching launch))
    | .closeRequested | .closed => .error "active launch has invalid spawn authority"
  | .agentRunning running => .ok (some (.service running.terminationAuthority))
  | _ => .ok none

/-- Record the termination debt of a cancelled launch or runner. -/
def recordTermination (effort : IntegrationEffort) : Tx Unit := do
  let termination ← ensure (terminationAuthority effort.state)
  match termination with
  | none => pure ()
  | some authority => do
    let terminationDebts ← lookup (fun db => db.terminationDebts.insert? ⟨effort.id, authority⟩)
      (.constraint (.unique "runner_termination_debt"))
    write fun db => ((), { db with terminationDebts })

/-- `cancel_local_submission`. -/
def cancelLocalSubmission (itemId : String) : Tx Unit := do
  let submission ← query fun db => ((db.items.find? itemId).bind QueueItem.submissionId).bind
    db.submissions.find?
  match submission with
  | none => pure ()
  | some submission => do
    let queued ← query fun db => db.submissions.any fun row =>
      row.id == submission.id && row.state == .queued
    let submitted ← query fun db => db.workspaces.any fun row =>
      row.id == submission.workspaceId && row.status == .submitted
    require (queued = true ∧ submitted = true)
      (.refused "cancelled local submission cannot return its workspace to active")
    write fun db => ((), { db with
      submissions := db.submissions.update (fun row => row.id == submission.id)
        (fun row => { row with state := .cancelled }) fun _ => rfl
      workspaces := db.workspaces.update (fun row => row.id == submission.workspaceId)
        (fun row => { row with status := .active }) fun _ => rfl })

/-- `cancel_effort_transaction`; the cleanup debt of the workspace is not modelled. -/
def cancelEffortTransaction (effort : IntegrationEffort) (actor reason : String) (stamp : Stamp) :
    Tx Unit := do
  recordTermination effort
  let _ ← updateCycles (fun row => row.effortId == effort.id && row.status.isActive)
    .cancelled none
  let _ ← updateGuidance (fun row => row.effortId == effort.id && row.status == .open) .cancelled
  let _ ← updateReviews (fun row => row.effortId == effort.id && row.status == .required)
    .cancelled none none
  let changed ← updateAttempts (fun row => row.id == effort.attemptId && row.result.isNone)
    (fun row => { row with result := some .cancelled, finishedAt := some stamp.now }) fun _ => rfl
  require (changed = 1) (.refused "cancelled effort attempt is not active")
  cancelLocalSubmission effort.itemId
  let state := .cancelled ⟨actor, reason, stamp.now⟩
  updateStateAndCount effort state 0
  appendEvent effort stamp.eventId "cancelled" (.state state) false

/-- `cancel`. -/
def cancel (effortId actor reason : String) (stamp : Stamp) : Tx Unit := do
  ensure (requireExactText actor "cancellation actor")
  ensure (requireExactText reason "cancellation reason")
  let effort ← requiredEffort effortId
  let item ← lookup (fun db => db.items.find? effort.itemId) (.refused "Query returned no rows")
  require (itemContainsExternalLandingAuthority item effort.state = false)
    (.refused "external landing authority cannot be cancelled")
  if effort.state.name ≠ .cancelled then cancelEffortTransaction effort actor reason stamp

/-- The debt that `reconcile_cancelled_runner_termination` reads: of a cancelled effort only. -/
def cancelledDebt (effortId : String) : Tx (Option RunnerTerminationAuthority) :=
  query fun db => ((db.efforts.find? effortId).filter fun effort =>
    effort.state.name == .cancelled).bind fun _ =>
      (db.terminationDebts.find? effortId).map RunnerTerminationDebt.authority

/-- The final `DELETE` of `reconcile_cancelled_runner_termination`. -/
def deleteTerminationDebt (effortId : String) (authority : RunnerTerminationAuthority) :
    Tx Unit := do
  let stored ← cancelledDebt effortId
  require (stored = some authority)
    (.refused "runner termination debt authority changed during reconciliation")
  write fun db => ((), { db with
    terminationDebts := db.terminationDebts.delete fun row => row.effortId == effortId })

/-! ## Creation -/

/-- `NewEffort`. -/
structure NewEffort where
  itemId : String
  attemptId : String
  targetSha : String
  sourceSha : String
  sourceVariant : SourceVariant
  landingVariant : LandingVariant
  composition : CompositionEvidence
  workspace : WorkspaceIdentity
  runner : RunnerSnapshot
  stateRepository : StateRepositorySnapshot
  deriving DecidableEq, Repr

/-- Whether an attempt of an item is neither finished nor decided. -/
def isActiveAttempt (db : Database) (attemptId itemId : String) : Bool :=
  db.attempts.any fun row => row.id == attemptId && row.itemId == itemId &&
    row.finishedAt.isNone && row.result.isNone

/-- Whether an attempt of an item was superseded. -/
def isSupersededAttempt (db : Database) (attemptId itemId : String) : Bool :=
  db.attempts.any fun row => row.id == attemptId && row.itemId == itemId &&
    row.result == some .superseded && row.finishedAt.isSome

/-- The row that a replacement writes over the effort that awaited it. -/
def NewEffort.replace (new : NewEffort) (next : Nat) (row : IntegrationEffort) :
    IntegrationEffort :=
  { row with
    attemptId := new.attemptId, targetSha := new.targetSha, sourceSha := new.sourceSha,
    sourceVariant := new.sourceVariant, landingVariant := new.landingVariant,
    composition := new.composition, workspace := new.workspace, runner := new.runner,
    stateRepository := new.stateRepository, failedCycles := 0, state := .agentReady ⟨next⟩ }

/-- The row of a first effort. -/
def NewEffort.row (new : NewEffort) (id : String) : IntegrationEffort :=
  ⟨id, new.itemId, new.attemptId, new.targetSha, new.sourceSha, new.sourceVariant,
    new.landingVariant, new.composition, new.workspace, new.runner, new.stateRepository, 0,
    .agentReady ⟨1⟩⟩

/-- Whether an existing effort was created from the same composition. -/
def NewEffort.sameIdentity (new : NewEffort) (existing : IntegrationEffort) : Bool :=
  existing.attemptId == new.attemptId && existing.targetSha == new.targetSha &&
    existing.sourceSha == new.sourceSha && existing.composition == new.composition &&
    existing.workspace == new.workspace && existing.runner == new.runner &&
    existing.stateRepository == new.stateRepository

/-- The replacement branch of `create_effort`. -/
def replaceEffort (new : NewEffort) (existing : IntegrationEffort) (pending : ReplacementPending)
    (stamp : Stamp) : Tx Unit := do
  require (existing.attemptId ≠ new.attemptId)
    (.refused "replacement effort still references its superseded attempt")
  let superseded ← query fun db => isSupersededAttempt db pending.oldAttemptId new.itemId
  require (superseded = true ∧ existing.attemptId = pending.oldAttemptId)
    (.refused "replacement effort does not reference a superseded attempt")
  let next ← query fun db => db.maxCycleNumber existing.id + 1
  require (next ≤ 255) (.refused "Integer is out of range")
  write fun db => ((), { db with
    efforts := db.efforts.update (fun row => row.id == existing.id) (new.replace next)
      fun _ => rfl })
  appendEvent (new.replace next existing) stamp.eventId "agent_ready" (.fields
    [("cycle", .number next), ("replacement_attempt_id", .text new.attemptId)]) false

/-- `create_effort`. -/
def createEffort (new : NewEffort) (stamp : Stamp) : Tx Unit := do
  let format ← itemObjectFormat new.itemId
  ensure (format.requireOid new.targetSha "effort target SHA")
  ensure (format.requireOid new.sourceSha "effort source SHA")
  ensure (new.composition.validate format false)
  let item ← lookup (fun db => db.items.find? new.itemId) (.refused "Query returned no rows")
  let active ← query fun db => isActiveAttempt db new.attemptId new.itemId
  let itemId := new.itemId
  let attemptId := new.attemptId
  require (item.status ≠ .cancelled)
    (.refused s!"queue item {itemId} was cancelled before effort creation")
  require (item.status = .merging ∧ item.currentAttemptId = some new.attemptId ∧ active = true)
    (.refused s!"queue item {itemId} no longer has merging authority for attempt {attemptId}")
  let existing ← query fun db => db.effortOfItem new.itemId
  match existing with
  | some existing => do
    ensure (existing.state.validateForCount existing.failedCycles)
    match existing.state with
    | .replacementPending pending => replaceEffort new existing pending stamp
    | _ =>
      require (new.sameIdentity existing = true)
        (.refused "existing integration effort identity differs from composition")
  | none => do
    let cycles ← query fun db => db.cycles.any fun row =>
      row.effortId == stamp.rowId && row.status.isActive
    require (cycles = false) (.constraint .relatedState)
    let efforts ← lookup (fun db => db.efforts.insert? (new.row stamp.rowId))
      (.constraint (.unique "integration_efforts"))
    write fun db => ((), { db with efforts })
    appendEvent (new.row stamp.rowId) stamp.eventId "agent_ready"
      (.fields [("cycle", .number 1)]) false

/-- `mark_effort_replacement_pending`: `false` when the item has no effort. -/
def markEffortReplacementPending (itemId oldAttemptId : String) (stamp : Stamp) : Tx Bool := do
  let existing ← query fun db => db.effortOfItem itemId
  match existing with
  | none => pure false
  | some effort => do
    ensure (effort.state.validateForCount effort.failedCycles)
    require (effort.attemptId = oldAttemptId ∧ effort.state.name = .cycleLimitBlocked)
      (.refused "replacement cleanup requires the blocked effort for the old attempt")
    let state := .replacementPending ⟨oldAttemptId, stamp.now⟩
    updateStateAndCount effort state 0
    appendEvent effort stamp.eventId "replacement_pending" (.state state) false
    pure true

end Iq
