import Iq.Lifecycle.BranchOrder
import Iq.Lifecycle.Identifiers
import Iq.Store.RemoteAdmission

/-!
# One active item for a source

The admissions of branches and of merge requests find the active item of their source by a query
over the joined rows of items and admissions. No later row of a source is active while an earlier
one is, so the query finds the item of the source, and a repeated admission writes nothing.
-/

namespace Iq

open Library Library.Transaction Database

variable {now later : Intake} {request : DirectAdmissionRequest} {targetRef : TargetRef}
  {id repoKey value : String} {admission : MergeRequestAdmission}
  {stateRepository : StateRepositorySnapshot}

/-! ## Commits -/

section Commits

variable {α β : Type} {result : β}

/-- What follows a demand gets the value that passed. -/
theorem commits_demand_bind {passed : Except String α} {next : α → IntakeTx β} :
    (demand passed >>= next).Commits now result later ↔
      ∃ value, passed = .ok value ∧ (next value).Commits now result later := by
  simp only [commits_bind]
  cases passed <;> simp [Transaction.Commits, demand]

/-- A transaction of the queue changes the queue only. -/
theorem commits_onQueue {transaction : Tx α} {value : α} :
    (onQueue transaction).Commits now value later ↔
      ∃ db, transaction.Commits now.queue.db value db ∧
        later = { now with queue := ⟨db, now.queue.held⟩ } := by
  cases outcome : transaction now.queue.db with
  | error reason => simp [Transaction.Commits, onQueue, outcome]
  | ok committed =>
    obtain ⟨found, db⟩ := committed
    simp [Transaction.Commits, onQueue, outcome, eq_comm]

/-- An admission is inserted under a free key. -/
theorem commits_insertAdmission {row : AdmissionRow} {done : Unit} :
    (insertAdmission row).Commits now done later ↔
      ∃ admissions, now.admissions.insert? row = some admissions ∧
        later = { now with admissions } := by
  simp only [insertAdmission, commits_lookup_bind, commits_write]
  constructor
  · rintro ⟨admissions, inserted, -, rfl⟩
    exact ⟨admissions, inserted, rfl⟩
  · rintro ⟨admissions, inserted, rfl⟩
    exact ⟨admissions, inserted, trivial, rfl⟩

/-- An item is inserted under a free key. -/
theorem commits_insertItem {item : QueueItem} {db after : Database} {done : Unit} :
    (insertItem item).Commits db done after ↔
      ∃ items, db.items.insert? item = some items ∧ after = { db with items } := by
  simp only [insertItem, commits_lookup_bind, commits_write]
  constructor
  · rintro ⟨items, inserted, -, rfl⟩
    exact ⟨items, inserted, rfl⟩
  · rintro ⟨items, inserted, rfl⟩
    exact ⟨items, inserted, trivial, rfl⟩

end Commits

/-- A remote item arrived with its row. -/
structure Intake.Arrival (now : Intake) (item : QueueItem) (row : AdmissionRow) (later : Intake) :
    Prop where
  items : now.queue.db.items.insert? item = some later.queue.db.items
  admissions : now.admissions.insert? row = some later.admissions
  elsewhere : later = { now with
    queue := ⟨{ now.queue.db with items := later.queue.db.items }, now.queue.held⟩
    admissions := later.admissions }

/-- An arrival is an item with its admission. -/
theorem commits_arrival {item : QueueItem} {row : AdmissionRow} :
    (do
      onQueue (insertItem item)
      insertAdmission row
      pure id : IntakeTx String).Commits now value later ↔
        value = id ∧ now.Arrival item row later := by
  simp only [commits_bind, commits_onQueue, commits_insertItem, commits_insertAdmission,
    commits_pure]
  constructor
  · rintro ⟨⟨⟩, _, ⟨_, ⟨items, inserted, rfl⟩, rfl⟩, ⟨⟩, _, ⟨admissions, listed, rfl⟩, rfl, rfl⟩
    exact ⟨rfl, inserted, listed, rfl⟩
  · rintro ⟨rfl, inserted, listed, same⟩
    exact ⟨(), _, ⟨_, ⟨_, inserted, rfl⟩, rfl⟩, (), _, ⟨_, listed, rfl⟩, rfl, same.symm⟩

/-- An enabled and registered repository. -/
structure Intake.Opens (now : Intake) (repoKey : String) : Prop where
  registered : ∃ repository, now.queue.db.repositories.find? repoKey = some repository
  enabled : now.queue.db.Enabled repoKey

/-- The object format of a repository takes an object identifier. -/
def Intake.TakesOid (now : Intake) (repoKey objectId : String) : Prop :=
  ∀ policy, now.queue.db.policies.find? repoKey = some policy →
    policy.objectFormat.isOid objectId = true

/-- What stays of a direct admission that its repository accepts. -/
structure Intake.AcceptsDirect (now : Intake) (request : DirectAdmissionRequest) : Prop where
  valid : request.stateRepository.validate = .ok ()
  head : now.TakesOid request.repoKey request.currentHeadSha
  canonical : ∃ canonical, now.canonical.find? request.repoKey = some canonical ∧
    canonical.integration = .direct

/-- What stays of the admission of a merge request that its repository accepts. -/
structure Intake.AcceptsRequest (now : Intake) (repoKey : String)
    (admission : MergeRequestAdmission) (stateRepository : StateRepositorySnapshot) : Prop where
  valid : stateRepository.validate = .ok ()
  sourceRef : admission.sourceRef = admission.sourceBranch
  head : now.TakesOid repoKey admission.headSha
  base : ∃ baseSha, admission.baseSha = some baseSha ∧ now.TakesOid repoKey baseSha
  canonical : ∃ canonical, now.canonical.find? repoKey = some canonical ∧
    canonical.integration = .mergeRequestRequired ∧ canonical.provider = some
      ⟨admission.provider, admission.providerHost, admission.repository, admission.repositoryId⟩

/-- The outcomes of a direct admission, with the item that tracks the source. -/
def Intake.DirectOutcome (now : Intake) (request : DirectAdmissionRequest) (targetRef : TargetRef)
    (id value : String) (later : Intake) : Option (QueueItem × AdmissionRow) → Prop
  | some (item, row) => row.admission.headSha = request.currentHeadSha ∧
      row.stateRepository = request.stateRepository ∧ value = item.id ∧ later = now
  | none => value = id ∧
      now.Arrival (remoteItem id request.repoKey targetRef) (request.row id) later

/-- The outcomes of the admission of a merge request, with the item that tracks it. -/
def Intake.RequestOutcome (now : Intake) (repoKey : String) (admission : MergeRequestAdmission)
    (stateRepository : StateRepositorySnapshot) (id value : String) (later : Intake) :
    Option (QueueItem × AdmissionRow) → Prop
  | some (item, row) => ∃ stored, row.admission = .mergeRequest stored ∧
      item.targetRef = admission.targetRef ∧ stored.targetRef = admission.targetRef ∧
      stored.headSha = admission.headSha ∧ stored.baseSha = admission.baseSha ∧
      stored.url = admission.url ∧ value = item.id ∧ later = now
  | none => value = id ∧ now.Arrival (remoteItem id repoKey admission.targetRef)
      (admission.row stateRepository id) later

/-- A direct admission returns the item it finds or inserts. -/
theorem commits_enrollDirect {existing : Option (QueueItem × AdmissionRow)} :
    (enrollDirect request targetRef id existing).Commits now value later ↔
      now.DirectOutcome request targetRef id value later existing := by
  cases existing with
  | some entry =>
    show (require _ _ >>= fun _ => require _ _ >>= fun _ => pure _ : IntakeTx String).Commits
      now value later ↔ _
    rw [commits_require_bind, commits_require_bind, commits_pure]
    simp only [Intake.DirectOutcome, eq_comm]
  | none => exact commits_arrival

/-- The admission of a request returns the item it finds or inserts. -/
theorem commits_enrollRequest {existing : Option (QueueItem × AdmissionRow)} :
    (enrollRequest repoKey admission stateRepository id existing).Commits now value later ↔
      now.RequestOutcome repoKey admission stateRepository id value later existing := by
  cases existing with
  | some entry =>
    obtain ⟨item, itemId, admitted, binding⟩ := entry
    show (sameRequest admission item admitted >>= fun _ => pure _ : IntakeTx String).Commits
      now value later ↔ ∃ stored, admitted = .mergeRequest stored ∧ _
    cases admitted with
    | mergeRequest stored =>
      simp only [sameRequest, commits_bind, commits_require, commits_pure,
        QueueAdmission.mergeRequest.injEq, exists_eq_left']
      constructor
      · rintro ⟨-, _, ⟨-, _, ⟨targets, rfl⟩, identity, rfl⟩, rfl, rfl⟩
        exact ⟨targets.1, targets.2, identity.1, identity.2.1, identity.2.2, rfl, rfl⟩
      · rintro ⟨target, stored_target, head, base, url, rfl, rfl⟩
        exact ⟨(), _, ⟨(), _, ⟨⟨target, stored_target⟩, rfl⟩, ⟨head, base, url⟩, rfl⟩, rfl, rfl⟩
    | localSubmission | direct =>
      simp [sameRequest, commits_bind]
  | none => exact commits_arrival

/-- An object id is demanded in the format. -/
theorem commits_requireOid {format : GitObjectFormat} {objectId label : String} {done : Unit} :
    format.requireOid objectId label = .ok done ↔ format.isOid objectId = true := by
  simp [GitObjectFormat.requireOid]

/-- What a direct admission commits. -/
theorem commits_admitDirect :
    (admitDirect request targetRef id).Commits now value later ↔
      now.AcceptsDirect request ∧ now.Opens request.repoKey ∧
        now.DirectOutcome request targetRef id value later
          (now.trackedBranch request.repoKey targetRef request.sourceBranch) := by
  simp only [admitDirect, commits_demand_bind, commits_lookup_bind, commits_require_bind,
    commits_query_bind, commits_enrollDirect, commits_requireOid]
  constructor
  · rintro ⟨⟨⟩, valid, repository, registered, policy, found, canonical, configured, -, head, ⟨⟩,
      enabled, direct, outcome⟩
    have enabled := OperationState.requireNewWork_eq_ok.mp enabled
    refine ⟨⟨valid, fun other same => ?_, canonical, configured, direct⟩,
      ⟨⟨repository, registered⟩, policy, found, enabled⟩, outcome⟩
    obtain rfl := Option.some.inj (found.symm.trans same)
    exact head
  · rintro ⟨⟨valid, head, canonical, configured, direct⟩, ⟨⟨repository, registered⟩, policy, found,
      enabled⟩, outcome⟩
    exact ⟨(), valid, repository, registered, policy, found, canonical, configured, (),
      head policy found, (), OperationState.requireNewWork_eq_ok.mpr enabled, direct, outcome⟩

/-- What the admission of a merge request commits. -/
theorem commits_admitMergeRequest :
    (admitMergeRequest repoKey admission stateRepository id).Commits now value later ↔
      now.AcceptsRequest repoKey admission stateRepository ∧ now.Opens repoKey ∧
        now.RequestOutcome repoKey admission stateRepository id value later
          (now.trackedRequest repoKey admission) := by
  simp only [admitMergeRequest, commits_demand_bind, commits_lookup_bind, commits_require_bind,
    commits_expect_bind, commits_query_bind, commits_enrollRequest, commits_requireOid]
  constructor
  · rintro ⟨⟨⟩, valid, sourceRef, repository, registered, policy, found, canonical, configured, ⟨⟩,
      enabled, required, -, head, baseSha, base, -, baseOid, provider, provided, same, outcome⟩
    have enabled := OperationState.requireNewWork_eq_ok.mp enabled
    have only : ∀ objectId, policy.objectFormat.isOid objectId = true →
        now.TakesOid repoKey objectId := by
      intro objectId oid other stored
      obtain rfl := Option.some.inj (found.symm.trans stored)
      exact oid
    exact ⟨⟨valid, sourceRef, only _ head, ⟨baseSha, base, only _ baseOid⟩,
      ⟨canonical, configured, required, same ▸ provided⟩⟩,
      ⟨⟨repository, registered⟩, policy, found, enabled⟩, outcome⟩
  · rintro ⟨⟨valid, sourceRef, head, ⟨baseSha, base, baseOid⟩, canonical, configured, required,
      provided⟩, ⟨⟨repository, registered⟩, policy, found, enabled⟩, outcome⟩
    exact ⟨(), valid, sourceRef, repository, registered, policy, found, canonical, configured, (),
      OperationState.requireNewWork_eq_ok.mpr enabled, required, (), head policy found, baseSha,
      base, (), baseOid policy found, _, provided, rfl, outcome⟩

end Iq
