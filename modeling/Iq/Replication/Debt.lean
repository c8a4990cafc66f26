import Mathlib.Data.List.Sort
import Iq.Store.Schema

/-!
# Replication debts

The rows of `replication_debt` of one repository with the policy and the items that their
transactions check, and the transactions themselves. A destination is owned by one repository
(`physical_repository_ownership`), so no statement here reads or writes a row of another one; the
lease that every transaction checks is held by the process that runs it.
-/

namespace Iq

open Library

/-- `GitObjectFormat::zero_oid`. -/
def GitObjectFormat.zeroOid (format : GitObjectFormat) : String :=
  String.ofList (List.replicate format.oidLength '0')

/-- The name of a commit; Git gives no object the zero name. -/
structure CommitId where
  text : String
  real : ∀ format : GitObjectFormat, text ≠ format.zeroOid

/-- A replica of `ReplicationPolicy::Replicate` with its `destination_identity_key`. -/
structure Replica where
  destinationKey : String
  objectFormat : GitObjectFormat
  deriving DecidableEq, Repr

/-- The `operation` column. -/
inductive ReplicationOperation where
  | pinSource
  | resolveDestination
  | advanceExactTarget
  deriving DecidableEq, Repr

/-- The `outcome` column. -/
inductive ReplicationOutcome where
  | pinning
  | pending
  | applying
  | uncertain
  | applied
  | succeeded
  | failed
  | supersededCleanupPending
  | superseded
  deriving DecidableEq, Repr

namespace ReplicationOutcome

/-- `outcome IN ('succeeded','superseded')`. -/
def isFinished : ReplicationOutcome → Bool
  | succeeded | superseded => true
  | _ => false

/-- `outcome IN ('applying','uncertain')`. -/
def isInFlight : ReplicationOutcome → Bool
  | applying | uncertain => true
  | _ => false

/-- `outcome IN ('failed','uncertain')`. -/
def hasFailure : ReplicationOutcome → Bool
  | failed | uncertain => true
  | _ => false

/-- `outcome IN ('superseded_cleanup_pending','superseded')`. -/
def isSuperseded : ReplicationOutcome → Bool
  | supersededCleanupPending | superseded => true
  | _ => false

end ReplicationOutcome

/-- The evidence in the `failure` column. Each text begins with a phrase of its own, so none is
empty. -/
inductive ReplicationFailure where
  | sourceUnavailable
  | cannotVerifyReplica (error : String)
  | cannotVerifyApplyingReplica (error : String)
  | cannotObserve (error : String)
  | cannotObserveApplying (error : String)
  | moved (expected actual : String)
  | pushFailed (error : String)
  | resultUncertain (push : Option String) (observed : Option String)
  | cannotVerifyResult (push : Option String) (error : String)
  deriving DecidableEq, Repr

/-- A row of `replication_debt`. -/
structure ReplicationDebt where
  id : String
  itemId : String
  canonicalSourceSha : String
  destinationKey : String
  targetRef : TargetRef
  sequence : Nat
  replica : Replica
  expectedDestinationSha : Option String
  operation : ReplicationOperation
  outcome : ReplicationOutcome
  applicationId : Option String
  failure : Option ReplicationFailure
  supersededById : Option String
  deriving DecidableEq, Repr

namespace ReplicationDebt

/-- The `CHECK` constraints between columns. -/
def isChecked (debt : ReplicationDebt) : Bool :=
  (debt.operation == .advanceExactTarget) == debt.expectedDestinationSha.isSome &&
    debt.outcome.hasFailure == debt.failure.isSome &&
    debt.outcome.isInFlight == debt.applicationId.isSome &&
    (debt.outcome != .pinning || debt.operation == .pinSource) &&
    debt.outcome.isSuperseded == debt.supersededById.isSome

/-- An expected object is stored exactly while the exact target is advanced. -/
theorem expected_of_isChecked {debt : ReplicationDebt} (checked : debt.isChecked = true) :
    debt.expectedDestinationSha.isSome = (debt.operation == .advanceExactTarget) := by
  simp only [isChecked, Bool.and_eq_true, beq_iff_eq] at checked
  exact checked.1.1.1.1.symm

/-- Evidence is stored exactly with a failed or uncertain outcome. -/
theorem failure_of_isChecked {debt : ReplicationDebt} (checked : debt.isChecked = true) :
    debt.failure.isSome = debt.outcome.hasFailure := by
  simp only [isChecked, Bool.and_eq_true, beq_iff_eq] at checked
  exact checked.1.1.1.2.symm

/-- An application is stored exactly while it is in flight. -/
theorem application_of_isChecked {debt : ReplicationDebt} (checked : debt.isChecked = true) :
    debt.applicationId.isSome = debt.outcome.isInFlight := by
  simp only [isChecked, Bool.and_eq_true, beq_iff_eq] at checked
  exact checked.1.1.2.symm

/-- Two debts write to one destination target. -/
def sameTarget (debt other : ReplicationDebt) : Bool :=
  debt.destinationKey == other.destinationKey && debt.targetRef == other.targetRef

end ReplicationDebt

/-- The state of a queue item as far as replication reads it. -/
inductive LandingOutcome where
  | unfinished
  | integrated (landedSha : String)
  | cancelled
  deriving DecidableEq, Repr

/-- A queue item with the columns that replication reads. -/
structure LandedItem where
  id : String
  targetRef : TargetRef
  outcome : LandingOutcome
  deriving DecidableEq, Repr

/-- The policy of the repository. No two replicas are one destination. -/
structure RepositoryReplication where
  operationState : OperationState
  objectFormat : GitObjectFormat
  replicas : List Replica
  distinct : (replicas.map Replica.destinationKey).Nodup
  /-- `RepositoryPolicy::validate`. -/
  formats : ∀ replica ∈ replicas, replica.objectFormat = objectFormat

/-- The tables of replication. -/
structure ReplicationStore where
  policy : RepositoryReplication
  items : Table LandedItem.id
  debts : Table ReplicationDebt.id

/-- The writes of the replication transactions. -/
inductive DebtUpdate where
  | finish (failure : Option ReplicationFailure)
  | completeSourcePin
  | completeSourceCleanup
  | beginApplication (expectedDestinationSha applicationId : String)
  | resumeApplication
  | markUncertain (failure : ReplicationFailure)
  | beginSupersession (newerId : String)
  | completeSupersession
  deriving DecidableEq, Repr

namespace ReplicationStore

/-- The newer debt is completed and writes to the target of the older one. -/
def completes (store : ReplicationStore) (newerId : String) (older : ReplicationDebt) : Bool :=
  (store.debts.find? newerId).any fun newer =>
    newer.sameTarget older && older.sequence < newer.sequence && newer.outcome.isFinished

end ReplicationStore

namespace DebtUpdate

/-- The conditions on the row in the `WHERE` clause of an update. -/
def admits (store : ReplicationStore) (debt : ReplicationDebt) : DebtUpdate → Bool
  | finish _ => [.pinning, .pending, .applying, .uncertain, .failed].contains debt.outcome
  | completeSourcePin =>
    debt.operation == .pinSource && [.pinning, .failed].contains debt.outcome
  | completeSourceCleanup => debt.outcome == .applied
  | beginApplication .. => [.pending, .failed].contains debt.outcome
  | resumeApplication =>
    debt.outcome == .uncertain && debt.applicationId.isSome && debt.expectedDestinationSha.isSome
  | markUncertain _ => debt.outcome.isInFlight && debt.applicationId.isSome
  | beginSupersession newerId =>
    debt.outcome != .succeeded && debt.outcome != .superseded &&
      debt.outcome != .supersededCleanupPending &&
      store.completes newerId debt
  | completeSupersession =>
    debt.outcome == .supersededCleanupPending && debt.supersededById.isSome

/-- The row that an update leaves. -/
def change (debt : ReplicationDebt) : DebtUpdate → ReplicationDebt
  | finish failure =>
    { debt with
      outcome := if failure.isSome then .failed else .applied
      applicationId := none
      failure }
  | completeSourcePin =>
    { debt with operation := .resolveDestination, outcome := .pending, failure := none }
  | completeSourceCleanup => { debt with outcome := .succeeded }
  | beginApplication expected applicationId =>
    { debt with
      expectedDestinationSha := some expected
      operation := .advanceExactTarget
      outcome := .applying
      applicationId := some applicationId
      failure := none }
  | resumeApplication => { debt with outcome := .applying, failure := none }
  | markUncertain failure => { debt with outcome := .uncertain, failure := some failure }
  | beginSupersession newerId =>
    { debt with
      outcome := .supersededCleanupPending
      applicationId := none
      failure := none
      supersededById := some newerId }
  | completeSupersession => { debt with outcome := .superseded }

/-- A changed debt has its id. -/
theorem id_change (update : DebtUpdate) (debt : ReplicationDebt) :
    (update.change debt).id = debt.id := by
  cases update <;> rfl

end DebtUpdate

namespace ReplicationStore

/-- `validate_replication_binding`, on the tables. -/
def isBound (store : ReplicationStore) (debt : ReplicationDebt) : Bool :=
  (store.items.find? debt.itemId).any fun item =>
    item.outcome == .integrated debt.canonicalSourceSha && item.targetRef == debt.targetRef &&
      debt.destinationKey == debt.replica.destinationKey &&
      store.policy.replicas.contains debt.replica

/-- The operation state admits work on a debt: its item or the debt itself is captured. -/
def isObliged (store : ReplicationStore) (debt : ReplicationDebt) : Bool :=
  match store.policy.operationState with
  | .enabled => true
  | .draining obligations =>
    obligations.contains (.queueItem debt.itemId) || obligations.contains (.replication debt.id)
  | .disabled => false

/-- `require_replication_tx`. -/
def requiresReplication (store : ReplicationStore) (debt : ReplicationDebt) : Bool :=
  store.isBound debt && store.isObliged debt

/-- `repository_object_format(..).require_oid(..)`, made when an application begins. -/
def requiresOid (store : ReplicationStore) : DebtUpdate → Bool
  | .beginApplication expected _ => store.policy.objectFormat.isOid expected
  | _ => true

/-- A replication transaction on a debt: refused unless the debt is bound and obliged, the row
meets the condition of the update and the new row its checks. -/
def update (store : ReplicationStore) (debtId : String) (update : DebtUpdate) :
    Option ReplicationStore :=
  match store.debts.find? debtId with
  | none => none
  | some debt =>
    if store.requiresOid update && store.requiresReplication debt && update.admits store debt &&
        (update.change debt).isChecked then
      some { store with
        debts := store.debts.update (fun row => row.id == debtId) update.change update.id_change }
    else none

/-- `older_unfinished_replication`. -/
def olderUnfinished (store : ReplicationStore) (debt : ReplicationDebt) :
    Option ReplicationDebt :=
  ((store.debts.select fun older =>
    older.sameTarget debt && older.sequence < debt.sequence && !older.outcome.isFinished
      ).insertionSort fun first second => first.sequence ≤ second.sequence).head?

/-- `newer_completed_replication`. -/
def newerCompleted (store : ReplicationStore) (debt : ReplicationDebt) :
    Option ReplicationDebt :=
  ((store.debts.select fun newer =>
    newer.sameTarget debt && debt.sequence < newer.sequence && newer.outcome.isFinished
      ).insertionSort fun first second => second.sequence ≤ first.sequence).head?

/-! ## Landings and operation states -/

/-- The sequence number of the next debt for a destination target. -/
def nextSequence (store : ReplicationStore) (destinationKey : String) (targetRef : TargetRef) :
    Nat :=
  ((store.debts.select fun debt =>
    debt.destinationKey == destinationKey && debt.targetRef == targetRef).map
      ReplicationDebt.sequence).max?.getD 0 + 1

/-- The debt that a landing owes a replica. -/
def owed (store : ReplicationStore) (item : LandedItem) (landedSha debtId : String)
    (replica : Replica) : ReplicationDebt where
  id := debtId
  itemId := item.id
  canonicalSourceSha := landedSha
  destinationKey := replica.destinationKey
  targetRef := item.targetRef
  sequence := store.nextSequence replica.destinationKey item.targetRef
  replica
  expectedDestinationSha := none
  operation := .pinSource
  outcome := .pinning
  applicationId := none
  failure := none
  supersededById := none

/-- A row violates one of the two `UNIQUE` constraints beside the primary key. -/
def collides (store : ReplicationStore) (debt : ReplicationDebt) : Bool :=
  store.debts.any fun row =>
    (row.itemId == debt.itemId && row.destinationKey == debt.destinationKey) ||
      (row.sameTarget debt && row.sequence == debt.sequence)

/-- The insertions of `mark_integrated`, one debt for each replica. -/
def insertDebts (item : LandedItem) (landedSha : String) :
    ReplicationStore → List (String × Replica) → Option ReplicationStore
  | store, [] => some store
  | store, (debtId, replica) :: rest =>
    let debt := store.owed item landedSha debtId replica
    if store.collides debt then none
    else
      match store.debts.insert? debt with
      | none => none
      | some debts => insertDebts item landedSha { store with debts } rest

/-- The replication part of `mark_integrated`: an unfinished item lands, and each replica is owed
the landed commit. -/
def markIntegrated (store : ReplicationStore) (itemId : String) (landed : CommitId)
    (debtIds : List String) : Option ReplicationStore :=
  match store.items.find? itemId with
  | none => none
  | some item =>
    if item.outcome ≠ .unfinished ∨ debtIds.length ≠ store.policy.replicas.length then none
    else
      insertDebts item landed.text
        { store with
          items := store.items.update (fun row => row.id == itemId)
            (fun row => { row with outcome := .integrated landed.text }) fun _ => rfl }
        (debtIds.zip store.policy.replicas)

/-- The admission of an item. -/
def admitItem (store : ReplicationStore) (itemId : String) (targetRef : TargetRef) :
    Option ReplicationStore :=
  if store.policy.operationState = .enabled then
    (store.items.insert? ⟨itemId, targetRef, .unfinished⟩).map fun items => { store with items }
  else none

/-- The cancellation of an item. -/
def cancel (store : ReplicationStore) (itemId : String) : ReplicationStore :=
  { store with
    items := store.items.update (fun row => row.id == itemId && row.outcome == .unfinished)
      (fun row => { row with outcome := .cancelled }) fun _ => rfl }

/-- The obligations that draining captures: the unfinished items and the unfinished debts. -/
def obligations (store : ReplicationStore) : List Obligation :=
  ((store.items.select fun item => item.outcome == .unfinished).map fun item =>
    Obligation.queueItem item.id) ++
  (store.debts.select fun debt => !debt.outcome.isFinished).map fun debt =>
    Obligation.replication debt.id

/-- A captured obligation is finished; workspaces are not modelled here. -/
def isComplete (store : ReplicationStore) : Obligation → Bool
  | .workspace _ => true
  | .queueItem id => (store.items.find? id).any fun item => item.outcome != .unfinished &&
    !store.debts.any fun debt => debt.itemId == id && !debt.outcome.isFinished
  | .replication id => (store.debts.find? id).any fun debt => debt.outcome.isFinished

/-- The store with another operation state. -/
def withState (store : ReplicationStore) (operationState : OperationState) : ReplicationStore :=
  { store with policy := { store.policy with operationState } }

/-- `begin_repository_draining`. -/
def beginDraining (store : ReplicationStore) : Option ReplicationStore :=
  if store.policy.operationState = .enabled then
    some (store.withState (.draining store.obligations))
  else none

/-- `disable_drained_repository`. -/
def disableDrained (store : ReplicationStore) : Option ReplicationStore :=
  match store.policy.operationState with
  | .draining obligations =>
    if obligations.all store.isComplete then some (store.withState .disabled) else none
  | _ => none

end ReplicationStore

end Iq
