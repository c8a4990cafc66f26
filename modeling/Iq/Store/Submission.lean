import Iq.Store.Operation

/-!
# Local submissions

The transactions of the composition commands on local submissions and on the development workspaces
that they submit.
-/

namespace Iq

open Library Library.Transaction

/-! ## Policies -/

/-- `repository_object_format`. -/
def repositoryObjectFormat (repoKey : String) : Tx GitObjectFormat :=
  RepositoryPolicy.objectFormat <$> lookup (fun db => db.policies.find? repoKey)
    (.refused "Query returned no rows")

/-- `require_obligation_tx`. -/
def requireObligation (repoKey : String) (obligation : Obligation) : Tx Unit := do
  let policy ← lookup (fun db => db.policies.find? repoKey) (.refused "Query returned no rows")
  ensure (policy.operationState.requireObligation obligation)

/-- `OperationState::require_new_work`. -/
def OperationState.requireNewWork : OperationState → Check
  | .enabled => .ok ()
  | .draining _ => .error "repository is draining and rejects new work"
  | .disabled => .error "repository is disabled"

/-- `require_new_work_tx`. -/
def requireNewWork (repoKey : String) : Tx Unit := do
  let policy ← lookup (fun db => db.policies.find? repoKey) (.refused "Query returned no rows")
  ensure policy.operationState.requireNewWork

/-! ## Development workspaces -/

/-- `UPDATE development_workspaces SET status=...` for one workspace, whose row the condition
selects. -/
def updateWorkspace (chosen : DevelopmentWorkspace → Bool) (status : DevelopmentWorkspaceStatus)
    (lost : String) : Tx Unit := do
  let changed ← query fun db => db.workspaces.count chosen
  require (changed = 1) (.refused lost)
  write fun db => ((), { db with
    workspaces := db.workspaces.update chosen (fun row => { row with status }) fun _ => rfl })

/-! ## Local submissions -/

/-- The statuses in which a workspace can be submitted: first, and for a replacement. -/
def submissionStatus (replacesItemId : Option String) : DevelopmentWorkspaceStatus :=
  if replacesItemId.isSome then .submitted else .active

/-- The check on the item that a submission replaces. -/
def requireReplaceable (repoKey workspaceId itemId : String) : Tx Unit := do
  let item ← lookup (fun db => db.items.find? itemId) (.refused s!"queue item not found: {itemId}")
  let submissionId ← expect item.submissionId
    (.refused "replacement item is not a local submission")
  let submission ← lookup (fun db => db.submissions.find? submissionId)
    (.refused "Query returned no rows")
  require (item.repoKey = repoKey ∧ item.status = .blocked ∧
      item.blockedReason = some .needsAgentFix ∧ submission.workspaceId = workspaceId)
    (.refused "replacement requires the original needs-agent-fix local submission")

/-- The insertion of a submission intent by `begin_local_submission`. -/
def insertSubmission (repoKey workspaceId commitSha : String) (replacesItemId : Option String)
    (submissionId queueItemId : String) : Tx Unit := do
  requireNewWork repoKey
  let workspace ← lookup (fun db => db.workspaces.find? workspaceId)
    (.refused s!"development workspace not found: {workspaceId}")
  require (workspace.repoKey = repoKey ∧ workspace.status = submissionStatus replacesItemId)
    (.refused "development workspace is not in the required submission state")
  let format ← repositoryObjectFormat repoKey
  ensure (format.requireOid workspace.expectedTargetSha "local submission base")
  match replacesItemId with
  | none => pure ()
  | some itemId => requireReplaceable repoKey workspaceId itemId
  let submissions ← lookup (fun db => db.submissions.insert? ⟨submissionId, queueItemId, repoKey,
      workspaceId, workspace.expectedTargetSha, commitSha, replacesItemId, .creating⟩)
    (.constraint (.unique "local_submissions"))
  write fun db => ((), { db with submissions })

/-- `begin_local_submission`. -/
def beginLocalSubmission (repoKey workspaceId commitSha : String) (replacesItemId : Option String)
    (submissionId queueItemId : String) : Tx Unit := do
  let format ← repositoryObjectFormat repoKey
  ensure (format.requireOid commitSha "local submission commit")
  requireObligation repoKey (.workspace workspaceId)
  let existing ← query fun db => db.submissions.rows.find? fun row =>
    row.workspaceId == workspaceId && row.state == .creating
  match existing with
  | some existing =>
    require (existing.repoKey = repoKey ∧ existing.commitSha = commitSha ∧
        existing.replacesItemId = replacesItemId)
      (.refused "workspace has a different incomplete immutable submission intent")
  | none =>
    insertSubmission repoKey workspaceId commitSha replacesItemId submissionId queueItemId

/-- The submission of a replaced item leaves the state `cancelled`. -/
def replaceSubmission (repoKey : String) : Option String → Tx Unit
  | none => pure ()
  | some itemId => do
    let item ← lookup (fun db => (db.items.find? itemId).filter (·.repoKey == repoKey))
      (.refused "Query returned no rows")
    require (item.status = .cancelled) (.refused "superseded queue item is not cancelled")
    write fun db => ((), { db with
      submissions := db.submissions.update
        (fun row => row.queueItemId == itemId && row.state == .cancelled)
        (fun row => { row with state := .replaced }) fun _ => rfl })

/-- The queue item that a submission is admitted as. -/
def LocalSubmission.item (submission : LocalSubmission) (targetRef : TargetRef) : QueueItem where
  id := submission.queueItemId
  repoKey := submission.repoKey
  targetRef := targetRef
  status := .ready
  currentAttemptId := none
  blockedPhase := none
  blockedReason := none
  targetSha := none
  sourceSha := none
  landedCommitSha := none
  landing := .ready
  replacement := .none
  submissionId := some submission.id

/-- Insert a row of `queue_items`. -/
def insertItem (item : QueueItem) : Tx Unit := do
  let items ← lookup (fun db => db.items.insert? item) (.constraint (.unique "queue_items"))
  write fun db => ((), { db with items })

/-- `finalize_local_submission`. -/
def finalizeLocalSubmission (repoKey submissionId : String) : Tx Unit := do
  let submission ← lookup (fun db => db.submissions.find? submissionId)
    (.refused s!"local submission not found: {submissionId}")
  require (submission.repoKey = repoKey ∧ submission.state = .creating)
    (.refused "local submission is not an exact creation intent")
  requireObligation repoKey (.workspace submission.workspaceId)
  let _ ← lookup (fun db => db.repositories.find? repoKey)
    (.refused s!"registered repository not found: {repoKey}")
  let workspace ← lookup
    (fun db => (db.workspaces.find? submission.workspaceId).filter (·.repoKey == repoKey))
    (.refused "development workspace not found")
  replaceSubmission repoKey submission.replacesItemId
  insertItem (submission.item workspace.targetRef)
  updateWorkspace (fun row => row.id == submission.workspaceId && row.repoKey == repoKey &&
    row.status == .active) .submitted "development workspace is not active"
  let queued ← query fun db => db.submissions.any fun row =>
    row.id == submission.id && row.state == .creating
  require (queued = true) (.refused "local submission intent changed before finalization")
  write fun db => ((), { db with
    submissions := db.submissions.update (fun row => row.id == submission.id)
      (fun row => { row with state := .queued }) fun _ => rfl })

end Iq
