import Iq.Lifecycle.Settlement
import Iq.Lifecycle.LinkedRuns
import Iq.Store.Admission

/-!
# Submission transactions

What the two transactions of a local submission commit: the intent, which only adds a submission,
and its finalization, which queues the item and moves the submission and its workspace on.
-/

namespace Iq

open Library Library.Transaction Database

variable {db later : Database} {repoKey workspaceId commitSha submissionId queueItemId : String}
  {replacesItemId : Option String} {α : Type} {value : α} {done : Unit}

/-! ## Policies -/

/-- The repository is enabled. -/
def Database.Enabled (db : Database) (repoKey : String) : Prop :=
  ∃ policy, db.policies.find? repoKey = some policy ∧ policy.operationState = .enabled

/-- New work is admitted by an enabled repository. -/
theorem OperationState.requireNewWork_eq_ok {state : OperationState} :
    state.requireNewWork = .ok () ↔ state = .enabled := by
  cases state <;> simp [requireNewWork]

/-- What follows an obligation runs when the policy admits it. -/
theorem commits_requireObligation_bind {obligation : Obligation} {next : Unit → Tx α} :
    (requireObligation repoKey obligation >>= next).Commits db value later ↔
      (∃ policy, db.policies.find? repoKey = some policy ∧
        policy.operationState.requireObligation obligation = .ok ()) ∧
        (next ()).Commits db value later := by
  simp only [requireObligation, commits_bind, commits_lookup, commits_ensure]
  constructor
  · rintro ⟨_, _, ⟨policy, _, ⟨found, rfl⟩, passed, rfl⟩, rest⟩
    exact ⟨⟨policy, found, passed⟩, rest⟩
  · rintro ⟨⟨policy, found, passed⟩, rest⟩
    exact ⟨(), db, ⟨policy, db, ⟨found, rfl⟩, passed, rfl⟩, rest⟩

/-- What follows a demand for new work runs when the repository is enabled. -/
theorem commits_requireNewWork_bind {next : Unit → Tx α} :
    (requireNewWork repoKey >>= next).Commits db value later ↔
      db.Enabled repoKey ∧ (next ()).Commits db value later := by
  simp only [requireNewWork, commits_bind, commits_lookup, commits_ensure, Enabled]
  constructor
  · rintro ⟨_, _, ⟨policy, _, ⟨found, rfl⟩, passed, rfl⟩, rest⟩
    exact ⟨⟨policy, found, OperationState.requireNewWork_eq_ok.mp passed⟩, rest⟩
  · rintro ⟨⟨policy, found, enabled⟩, rest⟩
    have passed := OperationState.requireNewWork_eq_ok.mpr enabled
    exact ⟨(), db, ⟨policy, db, ⟨found, rfl⟩, passed, rfl⟩, rest⟩

/-- What follows reading the object format gets that of the policy. -/
theorem commits_repositoryObjectFormat_bind {next : GitObjectFormat → Tx α} :
    (repositoryObjectFormat repoKey >>= next).Commits db value later ↔
      ∃ policy, db.policies.find? repoKey = some policy ∧
        (next policy.objectFormat).Commits db value later := by
  simp only [repositoryObjectFormat, commits_bind, commits_map, commits_lookup]
  constructor
  · rintro ⟨_, _, ⟨policy, ⟨found, rfl⟩, rfl⟩, rest⟩
    exact ⟨policy, found, rest⟩
  · rintro ⟨policy, found, rest⟩
    exact ⟨_, db, ⟨policy, ⟨found, rfl⟩, rfl⟩, rest⟩

/-! ## Intents -/

/-- The item waits for an agent's fix, and is the local submission of the workspace. -/
structure Database.Replaceable (db : Database) (repoKey workspaceId itemId : String) : Prop where
  item : ∃ item, db.items.find? itemId = some item ∧ item.repoKey = repoKey ∧
    item.status = .blocked ∧ ∃ submission,
      item.submissionId.bind db.submissions.find? = some submission ∧
        submission.workspaceId = workspaceId

/-- What follows runs when the item can be replaced. -/
theorem commits_requireReplaceable_bind {itemId : String} {next : Unit → Tx α} :
    (requireReplaceable repoKey workspaceId itemId >>= next).Commits db value later →
      db.Replaceable repoKey workspaceId itemId ∧ (next ()).Commits db value later := by
  intro commits
  rw [commits_bind] at commits
  obtain ⟨⟨⟩, middle, checks, rest⟩ := commits
  simp only [requireReplaceable, commits_lookup_bind, commits_expect_bind, commits_require]
    at checks
  obtain ⟨item, found, submissionId, submitted, submission, stored, passes, rfl⟩ := checks
  refine ⟨⟨item, found, passes.1, passes.2.1, submission, ?_, passes.2.2.2⟩, rest⟩
  rw [submitted, Option.bind_some, stored]

/-- What the intent of a submission commits: nothing when it is there, and otherwise a submission
of a workspace in the status that it asks for. -/
theorem commits_beginLocalSubmission
    (commits : (beginLocalSubmission repoKey workspaceId commitSha replacesItemId submissionId
      queueItemId).Commits db done later) :
    later = db ∨ ∃ workspace submissions, db.Enabled repoKey ∧
      (∀ submission ∈ db.submissions, submission.workspaceId = workspaceId →
        submission.state ≠ .creating) ∧
      db.workspaces.find? workspaceId = some workspace ∧ workspace.repoKey = repoKey ∧
      workspace.status = submissionStatus replacesItemId ∧
      (∀ itemId, replacesItemId = some itemId → db.Replaceable repoKey workspaceId itemId) ∧
      db.submissions.insert? ⟨submissionId, queueItemId, repoKey, workspaceId,
        workspace.expectedTargetSha, commitSha, replacesItemId, .creating⟩ = some submissions ∧
      later = { db with submissions } := by
  simp only [beginLocalSubmission, commits_repositoryObjectFormat_bind, commits_ensure_bind,
    commits_requireObligation_bind, commits_query_bind] at commits
  obtain ⟨_, -, ⟨⟩, -, -, commits⟩ := commits
  split at commits
  · exact .inl (commits_require.mp commits).2.symm
  · rename_i missing
    simp only [insertSubmission, commits_requireNewWork_bind, commits_lookup_bind,
      commits_require_bind, commits_repositoryObjectFormat_bind, commits_ensure_bind] at commits
    obtain ⟨enabled, workspace, found, ⟨sameRepo, status⟩, _, -, ⟨⟩, -, commits⟩ := commits
    have fresh : ∀ submission ∈ db.submissions, submission.workspaceId = workspaceId →
        submission.state ≠ .creating := by
      intro submission mem same creating
      have absent := List.find?_eq_none.mp missing submission mem
      simp [same, creating] at absent
    cases replacesItemId with
    | none =>
      simp only [commits_lookup_bind, commits_write] at commits
      obtain ⟨submissions, inserted, -, rfl⟩ := commits
      refine .inr ⟨workspace, submissions, enabled, fresh, found, sameRepo, status, ?_, inserted, rfl⟩
      rintro itemId ⟨⟩
    | some itemId =>
      obtain ⟨replaceable, commits⟩ := commits_requireReplaceable_bind commits
      simp only [commits_lookup_bind, commits_write] at commits
      obtain ⟨submissions, inserted, -, rfl⟩ := commits
      refine .inr ⟨workspace, submissions, enabled, fresh, found, sameRepo, status, ?_, inserted,
        rfl⟩
      intro other same
      cases same
      exact replaceable

/-! ## Arrivals -/

/-- A ready item that is inserted for an enabled repository. -/
structure Database.Arrives (db : Database) (item : QueueItem) (items : Table QueueItem.id) :
    Prop where
  inserted : db.items.insert? item = some items
  ready : item.status = .ready
  vacant : item.currentAttemptId = none
  unlanded : item.Unlanded
  enabled : db.Enabled item.repoKey
  registered : ∃ repository, db.repositories.find? item.repoKey = some repository

section Arrival

variable {item : QueueItem} {items : Table QueueItem.id}

/-- The items after one arrived. -/
theorem Database.Arrives.mem {row : QueueItem} (arrives : db.Arrives item items) :
    row ∈ items ↔ row ∈ db.items ∨ row = item :=
  Table.mem_of_insert? arrives.inserted

/-- The item of an id after one arrived. -/
theorem Database.Arrives.find? (arrives : db.Arrives item items) (itemId : String) :
    items.find? itemId = if item.id = itemId then some item else db.items.find? itemId :=
  Table.find?_of_insert? itemId arrives.inserted

/-- An arrival keeps the database linked. -/
theorem Database.Arrives.linked {submissions : Table LocalSubmission.id}
    {workspaces : Table DevelopmentWorkspace.id} (arrives : db.Arrives item items)
    (linked : db.Linked) : Linked { db with items, submissions, workspaces } := by
  refine ⟨linked.distinct, ?_, ?_, ?_, ?_⟩
  · intro effort mem
    have owns := linked.owned effort mem
    refine ⟨owns.valid, owns.attempt, ?_⟩
    obtain ⟨own, found, rest⟩ := owns.item
    refine ⟨own, ?_, rest⟩
    have apart : item.id ≠ effort.itemId := by
      rw [← (Table.find?_eq_some.mp found).2]
      exact (Table.fresh_of_insert? arrives.inserted (Table.find?_eq_some.mp found).1).symm
    show items.find? effort.itemId = some own
    rw [arrives.find?, if_neg apart, found]
  · intro row mem unowned
    rcases arrives.mem.mp mem with stored | rfl
    · exact linked.free row stored unowned
    · exact arrives.unlanded
  · intro row mem active
    rcases arrives.mem.mp mem with stored | rfl
    · exact linked.admitted row stored active
    · obtain ⟨policy, found, operation⟩ := arrives.enabled
      exact ⟨policy, found, by rw [operation]; rfl⟩
  · intro row mem
    rcases arrives.mem.mp mem with stored | rfl
    · exact linked.registered row stored
    · exact arrives.registered

/-- An arrival brings no ready item with an attempt. -/
theorem Database.Arrives.keepsVacant (arrives : db.Arrives item items)
    (vacant : ∀ item ∈ db.items, item.status = .ready → item.currentAttemptId = none) :
    ∀ item ∈ items, item.status = .ready → item.currentAttemptId = none := by
  intro row mem ready
  rcases arrives.mem.mp mem with stored | rfl
  · exact vacant row stored ready
  · exact arrives.vacant

end Arrival

/-- What the admission of a remote source commits. -/
theorem commits_admitRemote {targetRef : TargetRef} {headSha id : String}
    (commits : (admitRemote repoKey targetRef headSha id).Commits db done later) :
    ∃ items, db.Arrives (remoteItem id repoKey targetRef) items ∧ later = { db with items } := by
  simp only [admitRemote, commits_lookup_bind, commits_repositoryObjectFormat_bind,
    commits_ensure_bind, commits_requireNewWork_bind, insertItem, commits_write] at commits
  obtain ⟨repository, registered, _, -, ⟨⟩, -, enabled, items, inserted, -, rfl⟩ := commits
  have unlanded : (remoteItem id repoKey targetRef).Unlanded := ⟨rfl, rfl, fun _ _ => ⟨rfl, rfl⟩⟩
  exact ⟨items, ⟨inserted, rfl, rfl, unlanded, enabled, repository, registered⟩, rfl⟩

/-! ## Finalization -/

/-- A replaced submission has its id. -/
theorem LocalSubmission.id_replaced (row : LocalSubmission) :
    { row with state := .replaced }.id = row.id :=
  rfl

/-- The submissions after the one that an item replaces was marked. -/
def Database.replacedSubmissions (db : Database) : Option String → Table LocalSubmission.id
  | none => db.submissions
  | some itemId => db.submissions.update
    (fun row => row.queueItemId == itemId && row.state == .cancelled)
    (fun row => { row with state := .replaced }) LocalSubmission.id_replaced

/-- The submission of the replaced item is marked. -/
theorem commits_replaceSubmission
    (commits : (replaceSubmission repoKey replacesItemId).Commits db done later) :
    later = { db with submissions := db.replacedSubmissions replacesItemId } ∧
      ∀ itemId, replacesItemId = some itemId → ∃ item, db.items.find? itemId = some item ∧
        item.status = .cancelled := by
  cases replacesItemId with
  | none =>
    obtain ⟨-, rfl⟩ := commits_pure.mp commits
    exact ⟨rfl, nofun⟩
  | some itemId =>
    simp only [replaceSubmission, commits_lookup_bind, commits_require_bind, commits_write,
      Option.filter_eq_some_iff] at commits
    obtain ⟨item, ⟨found, -⟩, cancelled, -, rfl⟩ := commits
    refine ⟨rfl, fun other same => ?_⟩
    cases same
    exact ⟨item, found, cancelled⟩

/-- What the finalization of a submission commits. -/
theorem commits_finalizeLocalSubmission
    (commits : (finalizeLocalSubmission repoKey submissionId).Commits db done later) :
    ∃ submission workspace repository items,
      db.submissions.find? submissionId = some submission ∧ submission.repoKey = repoKey ∧
      submission.state = .creating ∧
      db.repositories.find? repoKey = some repository ∧
      db.workspaces.find? submission.workspaceId = some workspace ∧
      workspace.repoKey = repoKey ∧ workspace.status = .active ∧
      (∀ itemId, submission.replacesItemId = some itemId → ∃ item,
        db.items.find? itemId = some item ∧ item.status = .cancelled) ∧
      db.items.insert? (submission.item workspace.targetRef) = some items ∧
      later = { db with
        items
        submissions := (db.replacedSubmissions submission.replacesItemId).update
          (fun row => row.id == submission.id) (fun row => { row with state := .queued })
          fun _ => rfl
        workspaces := db.workspaces.update (fun row => row.id == submission.workspaceId &&
          row.repoKey == repoKey && row.status == .active)
          (fun row => { row with status := .submitted }) fun _ => rfl } := by
  simp only [finalizeLocalSubmission, commits_lookup_bind, commits_require_bind,
    commits_requireObligation_bind] at commits
  obtain ⟨submission, found, ⟨sameRepo, creating⟩, -, repository, registered, workspace, home,
    commits⟩ := commits
  rw [commits_bind] at commits
  obtain ⟨⟨⟩, replaced, replace, commits⟩ := commits
  obtain ⟨rfl, cancelled⟩ := commits_replaceSubmission replace
  rw [commits_bind] at commits
  obtain ⟨⟨⟩, queued, insert, commits⟩ := commits
  simp only [insertItem, commits_lookup_bind, commits_write] at insert
  obtain ⟨items, inserted, -, rfl⟩ := insert
  rw [commits_bind] at commits
  obtain ⟨⟨⟩, submitted, update, commits⟩ := commits
  simp only [updateWorkspace, commits_query_bind, commits_require_bind, commits_write] at update
  obtain ⟨single, -, rfl⟩ := update
  simp only [commits_query_bind, commits_require_bind, commits_write] at commits
  obtain ⟨-, -, rfl⟩ := commits
  rw [Option.filter_eq_some_iff, beq_iff_eq] at home
  have active : workspace.status = .active := by
    have positive : 0 < db.workspaces.count fun row => row.id == submission.workspaceId &&
        row.repoKey == repoKey && row.status == .active := by
      rw [single]
      decide
    obtain ⟨row, mem, passes⟩ := Table.count_pos.mp positive
    simp only [Bool.and_eq_true, beq_iff_eq] at passes
    have same : row = workspace := Option.some_inj.mp
      ((Table.find?_eq_some.mpr ⟨mem, passes.1.1⟩).symm.trans home.1)
    rw [← same]
    exact passes.2
  exact ⟨submission, workspace, repository, items, found, sameRepo, creating, registered, home.1,
    home.2, active, cancelled, inserted, rfl⟩

/-! ## Creations -/

/-- A submission is being created only while its repository is enabled. -/
def Database.Closed (db : Database) : Prop :=
  ∀ submission ∈ db.submissions, submission.state = .creating → db.Enabled submission.repoKey

/-- What is settled is no longer being created. -/
theorem Settlement.ended {state : LocalSubmissionState}
    {before after : DevelopmentWorkspaceStatus} (settlement : Settlement state before after) :
    state ≠ .creating := by
  cases settlement <;> nofun

/-- A change of the policy of one repository leaves the others enabled. -/
theorem Database.Enabled.updatePolicies {other : String}
    {change : RepositoryPolicy → RepositoryPolicy} {kept : ∀ row, (change row).repoKey = row.repoKey}
    (enabled : db.Enabled other) (apart : other ≠ repoKey) :
    Enabled { db with
      policies := db.policies.update (fun row => row.repoKey == repoKey) change kept } other := by
  obtain ⟨policy, stored, state⟩ := enabled
  refine ⟨policy, ?_, state⟩
  have miss : policy.repoKey ≠ repoKey := by
    rw [(Table.find?_eq_some.mp stored).2]
    exact apart
  show (db.policies.update _ change kept).find? other = some policy
  rw [Table.find?_update, stored, Option.map_some, Table.rewrite_of_key_ne miss]

/-- A settled submission was not created anew. -/
theorem Database.Settled.creating {submission other : LocalSubmission}
    {state : LocalSubmissionState} (settled : db.Settled later submission state)
    (mem : other ∈ later.submissions) (creating : other.state = .creating) :
    other ∈ db.submissions := by
  obtain ⟨_, _, -, settlement, -⟩ := settled.workspaces
  rw [settled.submissions] at mem
  cases Table.mem_update_key settled.stored mem with
  | inl changed =>
    rw [changed] at creating
    exact absurd creating settlement.ended
  | inr stays => exact stays.1

/-- No operation of the store creates a submission. -/
theorem Operation.creating {operation : Operation} {outcome : Outcome} {submission : LocalSubmission}
    (commits : operation.transaction.Commits db outcome later)
    (mem : submission ∈ later.submissions) (creating : submission.state = .creating) :
    submission ∈ db.submissions := by
  rcases Operation.development commits with same | ⟨_, _, _, -, -, settled⟩
  · rw [same.1] at mem
    exact mem
  · exact settled.creating mem creating

/-- An update to another state leaves no new creation. -/
theorem creating_of_update {submissions : Table LocalSubmission.id} {other : LocalSubmission}
    {chosen : LocalSubmission → Bool} {state : LocalSubmissionState}
    {kept : ∀ row : LocalSubmission, LocalSubmission.id { row with state } = row.id}
    (mem : other ∈ submissions.update chosen (fun row => { row with state }) kept)
    (creating : other.state = .creating) (ended : state ≠ .creating) : other ∈ submissions := by
  obtain ⟨old, stored, rfl⟩ := Table.mem_update.mp mem
  unfold Table.rewrite at creating ⊢
  split at creating
  · exact absurd creating ended
  · rename_i miss
    rw [if_neg miss]
    exact stored

/-- A finalization leaves no new creation. -/
theorem creating_of_finalize {submission other : LocalSubmission}
    (mem : other ∈ (db.replacedSubmissions replacesItemId).update
      (fun row => row.id == submission.id) (fun row => { row with state := .queued }) fun _ => rfl)
    (creating : other.state = .creating) : other ∈ db.submissions := by
  have replaced := creating_of_update mem creating nofun
  cases replacesItemId with
  | none => exact replaced
  | some itemId =>
    unfold replacedSubmissions at replaced
    exact creating_of_update replaced creating nofun

/-- Every operation keeps creations within enabled repositories. -/
theorem Operation.closed {operation : Operation} {outcome : Outcome} (closed : db.Closed)
    (commits : operation.transaction.Commits db outcome later) : later.Closed := by
  intro submission mem creating
  have before := closed submission (Operation.creating commits mem creating) creating
  by_cases policies : TableName.policies ∈ operation.footprint
  · cases operation <;> simp only [footprint, stateTables, List.mem_cons, List.not_mem_nil,
      or_false, reduceCtorEq] at policies
    case beginRepositoryDraining repoKey =>
      obtain ⟨_, commits, -⟩ := commits_map.mp commits
      simp only [Iq.beginRepositoryDraining, commits_lookup_bind, commits_require_bind,
        commits_query_bind, commits_write] at commits
      obtain ⟨policy, found, enabled, none, -, rfl⟩ := commits
      have apart : submission.repoKey ≠ repoKey := by
        intro same
        have absent := Table.any_eq_false.mp none submission mem
        simp [same, creating] at absent
      exact before.updatePolicies apart
    case disableDrainedRepository repoKey =>
      obtain ⟨_, commits, -⟩ := commits_map.mp commits
      simp only [Iq.disableDrainedRepository, commits_lookup_bind] at commits
      obtain ⟨policy, found, commits⟩ := commits
      split at commits
      · exact absurd commits commits_abort
      · exact absurd commits commits_abort
      · rename_i obligations draining
        simp only [commits_query_bind, commits_require_bind, commits_write] at commits
        obtain ⟨-, -, rfl⟩ := commits
        have apart : submission.repoKey ≠ repoKey := by
          intro same
          obtain ⟨own, stored, enabled⟩ := before
          rw [same, found] at stored
          cases stored
          rw [draining] at enabled
          cases enabled
        exact before.updatePolicies apart
  · have kept : later.policies = db.policies := by
      have ignores : ∀ table ∈ operation.footprint,
          Ignores (fun now => now.policies = db.policies) table := by
        intro table mem
        refine ⟨fun now after same kept => ?_⟩
        refine (read_of_without (fun now => ?_) same).trans kept
        cases table <;> first | rfl | exact absurd mem policies
      have preserves : operation.transaction.Preserves fun now => now.policies = db.policies :=
        Operation.preserves fun table mem => .of_ignores (ignores table mem)
      exact preserves.of_commits rfl commits
    obtain ⟨policy, stored, enabled⟩ := before
    exact ⟨policy, by rw [kept]; exact stored, enabled⟩

/-- The item of a finalized submission arrives. -/
theorem Database.Closed.arrives {submission : LocalSubmission} {targetRef : TargetRef}
    {items : Table QueueItem.id} (closed : db.Closed)
    (stored : db.submissions.find? submission.id = some submission)
    (creating : submission.state = .creating)
    (registered : ∃ repository, db.repositories.find? submission.repoKey = some repository)
    (inserted : db.items.insert? (submission.item targetRef) = some items) :
    db.Arrives (submission.item targetRef) items where
  inserted := inserted
  ready := rfl
  vacant := rfl
  unlanded := ⟨rfl, rfl, fun _ _ => ⟨rfl, rfl⟩⟩
  enabled := closed submission (Table.find?_eq_some.mp stored).1 creating
  registered := registered

end Iq
