import Iq.Store.Submission

/-!
# Admissions and the order of work

The admissions of the queue, the reads that select the oldest item of a branch, and the transitions
that the integrator makes for an item it has read. The machine of the queue interleaves them with
the operations of the store. `created_at` grows from one admission to the next, so the order of the
rows is the order of admission.
-/

namespace Iq

open Library Library.Transaction

/-! ## Admissions -/

/-- The queue item of a remote branch or of a merge request at its admission. -/
def remoteItem (id repoKey : String) (targetRef : TargetRef) : QueueItem where
  id := id
  repoKey := repoKey
  targetRef := targetRef
  status := .ready
  currentAttemptId := none
  blockedPhase := none
  blockedReason := none
  targetSha := none
  sourceSha := none
  landedCommitSha := none
  landing := .ready
  replacement := .none
  submissionId := none

/-- `admit_direct` and `admit_merge_request`, for a source that no unfinished item tracks; for one
that is tracked, the admission returns the item and writes nothing. -/
def admitRemote (repoKey : String) (targetRef : TargetRef) (headSha id : String) : Tx Unit := do
  let _ ← lookup (fun db => db.repositories.find? repoKey)
    (.refused s!"cannot enqueue for unknown repository {repoKey}")
  let format ← repositoryObjectFormat repoKey
  ensure (format.requireOid headSha "direct admission head")
  requireNewWork repoKey
  insertItem (remoteItem id repoKey targetRef)

/-! ## Selection -/

/-- The statuses of an item that is being integrated. -/
def QueueStatus.isInProgress (status : QueueStatus) : Bool :=
  [.merging, .merged, .validating, .validated, .integrating].contains status

namespace Database

/-- `oldest_active_item_for_target`. -/
def oldestActiveItemForTarget (db : Database) (repoKey : String) (targetRef : TargetRef) :
    Option QueueItem :=
  db.items.rows.find? fun row =>
    row.repoKey == repoKey && row.targetRef == targetRef && !row.status.isTerminal

/-- Whether an item is the oldest unfinished item of its branch. -/
def isOldestActive (db : Database) (item : QueueItem) : Bool :=
  (db.oldestActiveItemForTarget item.repoKey item.targetRef).any (·.id == item.id)

/-- `next_resumable_active_item`. -/
def nextResumableActiveItem (db : Database) (repoKey : String) : Option QueueItem :=
  db.items.rows.find? fun row =>
    row.repoKey == repoKey && row.status.isInProgress && db.isOldestActive row

/-- `oldest_active_item`: of the oldest unfinished items of the branches, one that is not blocked
before one that is, and then the oldest. -/
def oldestActiveItem (db : Database) (repoKey : String) : Option QueueItem :=
  let candidates := db.items.rows.filter fun row => row.repoKey == repoKey && db.isOldestActive row
  (candidates.find? (·.status != .blocked)).or candidates.head?

end Database

/-! ## Transitions -/

/-- `StateMachine::transition`. -/
def QueueStatus.canTransition : QueueStatus → QueueStatus → Bool
  | .ready, target => [.merging, .blocked, .cancelled].contains target
  | .merging, target => [.merged, .blocked, .cancelled].contains target
  | .merged, target => [.validating, .blocked, .cancelled].contains target
  | .validating, target => [.validated, .blocked, .cancelled].contains target
  | .validated, target => [.integrating, .blocked, .cancelled].contains target
  | .integrating, target => [.integrated, .blocked, .cancelled].contains target
  | .blocked, target => target == .cancelled
  | .integrated, _ | .cancelled, _ => false

/-- `transition_item_owned`. -/
def transitionItem (itemId : String) (target : QueueStatus) (stamp : Stamp) : Tx Unit :=
  if target = .cancelled then
    cancelItemWithoutEffort itemId stamp
  else do
    let item ← lookup (fun db => db.items.find? itemId)
      (.refused s!"queue item not found: {itemId}")
    let owned ← query fun db => (db.effortOfItem itemId).isSome
    require (owned = false)
      (.refused "queue lifecycle is read-only after integration effort creation")
    requireItemObligation itemId
    require (item.status.canTransition target = true) (.refused "invalid queue transition")
    updateQueueItem itemId (fun _ => true) (fun row => { row with status := target })
      (fun _ => rfl) s!"queue item not found: {itemId}"

/-- The transition of `enforce_item_boundary`, which blocks the item afterwards. -/
def boundaryTarget : QueueStatus → Option QueueStatus
  | .ready => some .merging
  | .merged => some .validating
  | .validated => some .integrating
  | _ => none

/-! ## The queue -/

/-- A database with the items as the integrators have read them. -/
structure Queue where
  db : Database
  held : List QueueItem

/-- The commands on a queue. -/
inductive QueueCommand where
  | store (operation : Operation)
  | admitRemote (repoKey : String) (targetRef : TargetRef) (headSha id : String)
  | beginLocalSubmission (repoKey workspaceId commitSha : String)
    (replacesItemId : Option String) (submissionId queueItemId : String)
  | finalizeLocalSubmission (repoKey submissionId : String)
  | readOldest (repoKey : String)
  | readOldestForTarget (repoKey : String) (targetRef : TargetRef)
  | readResumable (repoKey : String)
  | readAgain (item : QueueItem)
  | enforceBoundary (item : QueueItem) (stamp : Stamp)

/-- The transaction of a command; a read has none. -/
def QueueCommand.transaction : QueueCommand → Tx Unit
  | .store operation => (fun _ => ()) <$> operation.transaction
  | .admitRemote repoKey targetRef headSha id => Iq.admitRemote repoKey targetRef headSha id
  | .beginLocalSubmission repoKey workspaceId commitSha replacesItemId submissionId queueItemId =>
    Iq.beginLocalSubmission repoKey workspaceId commitSha replacesItemId submissionId queueItemId
  | .finalizeLocalSubmission repoKey submissionId => Iq.finalizeLocalSubmission repoKey submissionId
  | .readOldest _ | .readOldestForTarget _ _ | .readResumable _ | .readAgain _ => pure ()
  | .enforceBoundary item stamp =>
    match boundaryTarget item.status with
    | some target => transitionItem item.id target stamp
    | none => pure ()

/-- What a command reads for an integrator. A held item is read again by its identity. -/
def Queue.read (queue : Queue) : QueueCommand → Option QueueItem
  | .readOldest repoKey => queue.db.oldestActiveItem repoKey
  | .readOldestForTarget repoKey targetRef => queue.db.oldestActiveItemForTarget repoKey targetRef
  | .readResumable repoKey => queue.db.nextResumableActiveItem repoKey
  | .readAgain item => if item ∈ queue.held then queue.db.items.find? item.id else none
  | _ => none

/-- Whether a command can run: the boundary of an item is enforced by an integrator that read it. -/
def Queue.enables (queue : Queue) : QueueCommand → Bool
  | .enforceBoundary item _ => queue.held.contains item
  | _ => true

/-- An empty queue: nothing admitted, no local submission and no item read. -/
structure Queue.Initial (queue : Queue) : Prop where
  database : queue.db.Initial
  items : queue.db.items = Table.empty
  submissions : queue.db.submissions = Table.empty
  idle : queue.held = []

/-- The machine of the queue. -/
def queue : Machine Queue QueueCommand where
  Initial := Queue.Initial
  step now command :=
    if now.enables command then
      ⟨command.transaction.settle now.db, (now.read command).toList ++ now.held⟩
    else
      now

end Iq
