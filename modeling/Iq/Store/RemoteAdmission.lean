import Iq.Provider.Gate
import Iq.Store.Admission

/-!
# Admissions from branches and merge requests

`admit_direct` and `admit_merge_request` with the rows of `queue_admissions` that they look up and
write. The machine of the intake interleaves them with local submissions and with every command of
the queue that changes the status of an item.
-/

namespace Iq

open Library Library.Transaction

/-! ## Rows -/

/-- `IntegrationPolicy` of a repository. -/
inductive RepositoryIntegration where
  | direct
  | mergeRequestRequired
  deriving DecidableEq, Repr

/-- The columns of `repository_policies` that only admissions read. -/
structure CanonicalPolicy where
  repoKey : String
  integration : RepositoryIntegration
  provider : Option ProviderRepository
  deriving DecidableEq, Repr

/-- `MergeRequestAdmission`. -/
structure MergeRequestAdmission where
  provider : Provider
  providerHost : String
  repository : String
  repositoryId : String
  targetRef : TargetRef
  identity : String
  url : String
  sourceBranch : String
  headSha : String
  baseSha : Option String
  deriving DecidableEq, Repr

/-- `QueueAdmission`; a historical merge request is admitted by a migration alone. -/
inductive QueueAdmission where
  | localSubmission (sourceRef headSha submissionId : String)
  | direct (sourceBranch headSha : String)
  | mergeRequest (admission : MergeRequestAdmission)
  deriving DecidableEq, Repr

namespace QueueAdmission

/-- The column `source_branch`. -/
def sourceBranch : QueueAdmission → String
  | .localSubmission sourceRef _ _ => sourceRef
  | .direct sourceBranch _ => sourceBranch
  | .mergeRequest admission => admission.sourceBranch

/-- The column `head_sha`. -/
def headSha : QueueAdmission → String
  | .localSubmission _ headSha _ | .direct _ headSha => headSha
  | .mergeRequest admission => admission.headSha

end QueueAdmission

/-- A row of `queue_admissions` with the snapshot that `insert_state_repository_binding` stores for
the same item. -/
structure AdmissionRow where
  itemId : String
  admission : QueueAdmission
  stateRepository : StateRepositorySnapshot
  deriving DecidableEq, Repr

/-- The queue with its admissions. -/
structure Intake where
  queue : Queue
  canonical : Table CanonicalPolicy.repoKey
  admissions : Table AdmissionRow.itemId

/-- `queue_items item JOIN queue_admissions admission ON admission.item_id=item.id`. -/
def Intake.admitted (intake : Intake) : List (QueueItem × AdmissionRow) :=
  intake.queue.db.items.rows.filterMap fun item =>
    (intake.admissions.find? item.id).map fun row => (item, row)

/-! ## Validation -/

/-- The loop of `StateRepositorySnapshot::validate` over the responders. -/
def validateResponders (seen : List (List Char)) : List String → Check
  | [] => .ok ()
  | responder :: rest => do
    requireExactText responder "allowed responder"
    check (!seen.contains (asciiLowercase responder))
      "issue state repository has a duplicate allowed responder"
    validateResponders (asciiLowercase responder :: seen) rest

/-- `StateRepositorySnapshot::validate`. -/
def StateRepositorySnapshot.validate : StateRepositorySnapshot → Check
  | .local => .ok ()
  | .githubIssue issue | .gitlabIssue issue => do
    requireExactText issue.repository "state repository identity"
    check (issue.repository.toList.contains '/' && issue.repository.toList.head? != some '/' &&
        issue.repository.toList.getLast? != some '/')
      "state repository identity must be an exact owner/repository path"
    check (!issue.allowedResponders.isEmpty) "issue state repository requires allowed responders"
    validateResponders [] issue.allowedResponders

/-! ## Transactions -/

/-- A transaction of the intake. -/
abbrev IntakeTx (α : Type) : Type := Transaction Refusal Intake α

/-- The value of a check or a refusal with its message. -/
def demand {α : Type} (passed : Except String α) : IntakeTx α := fun intake =>
  match passed with
  | .ok value => .ok (value, intake)
  | .error message => .error (.refused message)

/-- A transaction on the database of the queue. -/
def onQueue {α : Type} (transaction : Tx α) : IntakeTx α := fun intake =>
  match transaction intake.queue.db with
  | .ok (value, db) => .ok (value, { intake with queue := ⟨db, intake.queue.held⟩ })
  | .error reason => .error reason

/-- Insert a row of `queue_admissions` and the binding of its item. -/
def insertAdmission (row : AdmissionRow) : IntakeTx Unit := do
  let admissions ← lookup (fun intake => intake.admissions.insert? row)
    (.constraint (.unique "queue_admissions"))
  write fun intake => ((), { intake with admissions })

/-- `DirectAdmissionRequest`. -/
structure DirectAdmissionRequest where
  repoKey : String
  sourceBranch : String
  currentHeadSha : String
  stateRepository : StateRepositorySnapshot
  deriving DecidableEq, Repr

/-- The item that `admit_direct` finds for a source. -/
def Intake.trackedBranch (intake : Intake) (repoKey : String) (targetRef : TargetRef)
    (sourceBranch : String) : Option (QueueItem × AdmissionRow) :=
  intake.admitted.find? fun entry => entry.1.repoKey == repoKey && entry.1.targetRef == targetRef &&
    entry.2.admission.sourceBranch == sourceBranch && !entry.1.status.isTerminal

/-- The row of a direct admission. -/
def DirectAdmissionRequest.row (request : DirectAdmissionRequest) (id : String) : AdmissionRow :=
  ⟨id, .direct request.sourceBranch request.currentHeadSha, request.stateRepository⟩

/-- The end of `admit_direct`, with the item that tracks the source. -/
def enrollDirect (request : DirectAdmissionRequest) (targetRef : TargetRef) (id : String) :
    Option (QueueItem × AdmissionRow) → IntakeTx String
  | some (item, row) => do
    let itemId := item.id
    let tracked := row.admission.headSha
    require (tracked = request.currentHeadSha) (.refused
      s!"active queue item {itemId} already tracks {tracked}; update blocked agent work through requeue instead of enqueue")
    require (row.stateRepository = request.stateRepository)
      (.refused "active queue item has a different state-repository binding")
    pure itemId
  | none => do
    onQueue (insertItem (remoteItem id request.repoKey targetRef))
    insertAdmission (request.row id)
    pure id

/-- `admit_direct`, with the identity of the item. -/
def admitDirect (request : DirectAdmissionRequest) (targetRef : TargetRef) (id : String) :
    IntakeTx String := do
  let repoKey := request.repoKey
  let unknown := Refusal.refused s!"cannot enqueue for unknown repository {repoKey}"
  demand request.stateRepository.validate
  let _ ← lookup (fun intake => intake.queue.db.repositories.find? repoKey) unknown
  let policy ← lookup (fun intake => intake.queue.db.policies.find? repoKey) unknown
  let canonical ← lookup (fun intake => intake.canonical.find? repoKey) unknown
  demand (policy.objectFormat.requireOid request.currentHeadSha "direct admission head")
  demand policy.operationState.requireNewWork
  require (canonical.integration = .direct) (.refused "repository policy rejects direct admission")
  let existing ← query fun intake => intake.trackedBranch repoKey targetRef request.sourceBranch
  enrollDirect request targetRef id existing

/-- The reference that a merge request is fetched from. -/
def MergeRequestAdmission.sourceRef (admission : MergeRequestAdmission) : String :=
  match admission.provider with
  | .github => "refs/pull/" ++ admission.identity ++ "/head"
  | .gitlab => "refs/merge-requests/" ++ admission.identity ++ "/head"

/-- What the query of `admit_merge_request` compares. -/
def QueueAdmission.requestKey : QueueAdmission → Option (Provider × String × String)
  | .mergeRequest admission => some (admission.provider, admission.repository, admission.identity)
  | _ => none

/-- The item that `admit_merge_request` finds for a merge request. -/
def Intake.trackedRequest (intake : Intake) (repoKey : String)
    (admission : MergeRequestAdmission) : Option (QueueItem × AdmissionRow) :=
  intake.admitted.find? fun entry => entry.1.repoKey == repoKey &&
    entry.2.admission.requestKey == (QueueAdmission.mergeRequest admission).requestKey &&
      !entry.1.status.isTerminal

/-- The columns of a tracked merge request that must stay: its targets, and its head, base and
URL. -/
def sameRequest (admission : MergeRequestAdmission) (item : QueueItem) :
    QueueAdmission → IntakeTx Unit
  | .mergeRequest stored => do
    require (item.targetRef = admission.targetRef ∧ stored.targetRef = admission.targetRef)
      (.refused "active merge request cannot change its exact target identity")
    require (stored.headSha = admission.headSha ∧ stored.baseSha = admission.baseSha ∧
        stored.url = admission.url)
      (.refused "active merge-request admission has different immutable identity")
  | _ => abort (.refused "Query returned no rows")

/-- The row of the admission of a merge request. -/
def MergeRequestAdmission.row (admission : MergeRequestAdmission)
    (stateRepository : StateRepositorySnapshot) (id : String) : AdmissionRow :=
  ⟨id, .mergeRequest { admission with sourceBranch := admission.sourceRef }, stateRepository⟩

/-- The end of `admit_merge_request`, with the item that tracks the merge request. -/
def enrollRequest (repoKey : String) (admission : MergeRequestAdmission)
    (stateRepository : StateRepositorySnapshot) (id : String) :
    Option (QueueItem × AdmissionRow) → IntakeTx String
  | some (item, row) => do
    sameRequest admission item row.admission
    pure item.id
  | none => do
    onQueue (insertItem (remoteItem id repoKey admission.targetRef))
    insertAdmission (admission.row stateRepository id)
    pure id

/-- `admit_merge_request`, with the identity of the item. -/
def admitMergeRequest (repoKey : String) (admission : MergeRequestAdmission)
    (stateRepository : StateRepositorySnapshot) (id : String) : IntakeTx String := do
  demand stateRepository.validate
  require (admission.sourceRef = admission.sourceBranch)
    (.refused "merge-request source ref differs from exact provider identity")
  let unknown := Refusal.refused "Query returned no rows"
  let _ ← lookup (fun intake => intake.queue.db.repositories.find? repoKey) unknown
  let policy ← lookup (fun intake => intake.queue.db.policies.find? repoKey) unknown
  let canonical ← lookup (fun intake => intake.canonical.find? repoKey) unknown
  demand policy.operationState.requireNewWork
  require (canonical.integration = .mergeRequestRequired)
    (.refused "repository policy rejects merge-request admission")
  demand (policy.objectFormat.requireOid admission.headSha "admitted MR head SHA")
  let baseSha ← expect admission.baseSha
    (.refused "merge-request admission requires exact admitted base SHA")
  demand (policy.objectFormat.requireOid baseSha "admitted MR base SHA")
  let configured ← expect canonical.provider
    (.refused "merge-request policy has no canonical provider identity")
  require (configured = ⟨admission.provider, admission.providerHost, admission.repository,
      admission.repositoryId⟩)
    (.refused "merge request does not belong to canonical provider repository")
  let existing ← query fun intake => intake.trackedRequest repoKey admission
  enrollRequest repoKey admission stateRepository id existing

/-- `finalize_local_submission` with its admission. -/
def admitLocalSubmission (repoKey submissionId : String)
    (stateRepository : StateRepositorySnapshot) : IntakeTx Unit := do
  demand stateRepository.validate
  let submission ← lookup (fun intake => intake.queue.db.submissions.find? submissionId)
    (.refused s!"local submission not found: {submissionId}")
  onQueue (finalizeLocalSubmission repoKey submissionId)
  insertAdmission ⟨submission.queueItemId, .localSubmission ("refs/iq/submissions/" ++ submissionId)
    submission.commitSha submissionId, stateRepository⟩

/-! ## The machine -/

/-- The commands on an intake. -/
inductive IntakeCommand where
  | work (command : QueueCommand)
  | admitDirect (request : DirectAdmissionRequest) (targetRef : TargetRef) (id : String)
  | admitMergeRequest (repoKey : String) (admission : MergeRequestAdmission)
    (stateRepository : StateRepositorySnapshot) (id : String)
  | admitLocalSubmission (repoKey submissionId : String)
    (stateRepository : StateRepositorySnapshot)

/-- A command of the queue other than an admission. -/
def QueueCommand.isWork : QueueCommand → Bool
  | .admitRemote .. | .finalizeLocalSubmission .. => false
  | _ => true

/-- An intake before the first admission. -/
structure Intake.Initial (intake : Intake) : Prop where
  queue : intake.queue.Initial
  admissions : intake.admissions = Table.empty

/-- The machine of the intake. -/
def intake : Machine Intake IntakeCommand where
  Initial := Intake.Initial
  step now command :=
    match command with
    | .work command =>
      if command.isWork then { now with queue := queue.step now.queue command } else now
    | .admitDirect request targetRef id => (Iq.admitDirect request targetRef id).settle now
    | .admitMergeRequest repoKey admission stateRepository id =>
      (Iq.admitMergeRequest repoKey admission stateRepository id).settle now
    | .admitLocalSubmission repoKey submissionId stateRepository =>
      (Iq.admitLocalSubmission repoKey submissionId stateRepository).settle now

end Iq
