import Iq.Lifecycle.Footprint

/-!
# Settled submissions

What the operations of the store do to local submissions and their workspaces: nothing, or the one
change that ends the submission of a queue item with the item.
-/

namespace Iq

open Library Library.Transaction

/-- How the end of a queue item ends its submission and moves the workspace on. -/
inductive Settlement :
    LocalSubmissionState → DevelopmentWorkspaceStatus → DevelopmentWorkspaceStatus → Prop where
  | cancelled : Settlement .cancelled .submitted .active
  | integrated {status : DevelopmentWorkspaceStatus}
    (submitted : [.submitted, .cleanupPending, .cleanupFailed].contains status = true) :
    Settlement .integrated status .cleanupPending

namespace Database

/-- The development tables of a database are those of another. -/
def SameDevelopment (db later : Database) : Prop :=
  later.submissions = db.submissions ∧ later.workspaces = db.workspaces

/-- The local submission that a queue item was admitted from. -/
def submissionOf (db : Database) (itemId : String) : Option LocalSubmission :=
  ((db.items.find? itemId).bind QueueItem.submissionId).bind db.submissions.find?

/-- A queued submission left its state, and its workspace moved on. -/
structure Settled (db later : Database) (submission : LocalSubmission)
    (state : LocalSubmissionState) : Prop where
  stored : db.submissions.find? submission.id = some submission
  queued : submission.state = .queued
  submissions : later.submissions = db.submissions.update (fun row => row.id == submission.id)
    (fun row => { row with state }) fun _ => rfl
  workspaces : ∃ workspace status, db.workspaces.find? submission.workspaceId = some workspace ∧
    Settlement state workspace.status status ∧
    later.workspaces = db.workspaces.update (fun row => row.id == submission.workspaceId)
      (fun row => { row with status }) fun _ => rfl

/-- The submission of a queue item was settled, if the item has one. -/
def SettlesItem (db : Database) (itemId : String) (state : LocalSubmissionState)
    (later : Database) : Prop :=
  match db.submissionOf itemId with
  | none => db.SameDevelopment later
  | some submission => db.Settled later submission state

/-- The items are those of another database, as they were admitted. -/
def SameAdmissions (db later : Database) : Prop :=
  ∀ itemId, (later.items.find? itemId).map QueueItem.admission =
    (db.items.find? itemId).map QueueItem.admission

/-- The development tables and the admissions are those of another database. -/
def Unsettled (db later : Database) : Prop := db.SameDevelopment later ∧ db.SameAdmissions later

end Database

open Database

variable {db later : Database} {itemId : String} {stamp : Stamp}

/-! ## Other tables -/

/-- The same development goes on. -/
theorem Database.SameDevelopment.trans {middle : Database} (before : db.SameDevelopment middle)
    (after : middle.SameDevelopment later) : db.SameDevelopment later :=
  ⟨after.1.trans before.1, after.2.trans before.2⟩

/-- A settled item stays settled with the same development. -/
theorem Database.SettlesItem.trans {middle : Database} {state : LocalSubmissionState}
    (settles : db.SettlesItem itemId state middle) (after : middle.SameDevelopment later) :
    db.SettlesItem itemId state later := by
  unfold SettlesItem at settles ⊢
  cases read : db.submissionOf itemId with
  | none =>
    simp only [read] at settles
    exact settles.trans after
  | some submission =>
    simp only [read] at settles
    obtain ⟨workspace, status, home, settlement, same⟩ := settles.workspaces
    exact ⟨settles.stored, settles.queued, after.1.trans settles.submissions,
      workspace, status, home, settlement, after.2.trans same⟩

/-- A table that holds neither queue items nor development rows. -/
class Elsewhere (table : TableName) : Prop where
  items : table ≠ .items
  submissions : table ≠ .submissions
  workspaces : table ≠ .workspaces

section Instances

variable {table : TableName} {state : LocalSubmissionState}

instance : Elsewhere .attempts := ⟨nofun, nofun, nofun⟩

instance : Elsewhere .policies := ⟨nofun, nofun, nofun⟩

instance : Elsewhere .repositories := ⟨nofun, nofun, nofun⟩

instance : Elsewhere .privateRefDebts := ⟨nofun, nofun, nofun⟩

instance : Elsewhere .efforts := ⟨nofun, nofun, nofun⟩

instance : Elsewhere .cycles := ⟨nofun, nofun, nofun⟩

instance : Elsewhere .guidance := ⟨nofun, nofun, nofun⟩

instance : Elsewhere .reviews := ⟨nofun, nofun, nofun⟩

instance : Elsewhere .terminationDebts := ⟨nofun, nofun, nofun⟩

instance : Elsewhere .events := ⟨nofun, nofun, nofun⟩

/-- A change of a table that holds no development rows leaves them. -/
theorem sameDevelopment_of_without (submissions : table ≠ .submissions)
    (workspaces : table ≠ .workspaces) (same : later.without table = db.without table) :
    db.SameDevelopment later := by
  constructor
  · refine read_of_without (fun now => ?_) same
    cases table <;> first | rfl | exact absurd rfl submissions
  · refine read_of_without (fun now => ?_) same
    cases table <;> first | rfl | exact absurd rfl workspaces

instance [elsewhere : Elsewhere table] : Ignores db.SameDevelopment table where
  keep _ _ same kept :=
    kept.trans (sameDevelopment_of_without elsewhere.submissions elsewhere.workspaces same)

instance : Ignores db.SameDevelopment .items where
  keep _ _ same kept := kept.trans (@sameDevelopment_of_without _ _ .items nofun nofun same)

instance [elsewhere : Elsewhere table] : Ignores (db.SettlesItem itemId state) table where
  keep _ _ same kept :=
    SettlesItem.trans kept
      (sameDevelopment_of_without elsewhere.submissions elsewhere.workspaces same)

instance : Ignores (db.SettlesItem itemId state) .items where
  keep _ _ same kept := SettlesItem.trans kept (@sameDevelopment_of_without _ _ .items nofun nofun same)

/-- The admissions are kept with the items. -/
theorem Database.SameAdmissions.ignores (other : table ≠ .items) :
    Ignores db.SameAdmissions table where
  keep now later same kept := by
    have items : later.items = now.items := by
      refine @read_of_without _ Database.items table _ _ (fun now => ?_) same
      cases table <;> first | rfl | exact absurd rfl other
    unfold SameAdmissions
    rw [items]
    exact kept

instance : FramesItems db.SameAdmissions where
  items now chosen change kept same holds itemId := by
    show ((now.items.update chosen change kept).find? itemId).map QueueItem.admission = _
    rw [Table.find?_update, Option.map_map, ← holds itemId]
    refine congrArg (Option.map · (now.items.find? itemId)) (funext fun row => ?_)
    show (Table.rewrite chosen change row).admission = row.admission
    unfold Table.rewrite
    split
    · exact (same row).admission
    · rfl

instance [elsewhere : Elsewhere table] : Ignores db.Unsettled table where
  keep now later same kept :=
    ⟨Ignores.keep now later same kept.1,
      (SameAdmissions.ignores elsewhere.items).keep now later same kept.2⟩

instance : FramesItems db.Unsettled where
  items now chosen change keys same holds :=
    ⟨holds.1, FramesItems.items now chosen change keys same holds.2⟩

end Instances

/-! ## The two settlements -/

/-- The submission of an item that was not settled stays. -/
theorem Database.Unsettled.submissionOf {now : Database} (kept : db.Unsettled now) :
    now.submissionOf itemId = db.submissionOf itemId := by
  have same := congrArg (Option.map fun admission => admission.2.2) (kept.2 itemId)
  rw [Option.map_map, Option.map_map] at same
  unfold Database.submissionOf
  rw [kept.1.1]
  cases after : now.items.find? itemId <;> cases before : db.items.find? itemId <;>
    simp only [after, before, Option.map_some, Option.map_none, reduceCtorEq] at same
  · rfl
  · exact congrArg (Option.bind · db.submissions.find?) (Option.some_inj.mp same)

/-- What the write of a settlement does to the development tables as they were at the start. -/
theorem settled_write {now : Database} {submission : LocalSubmission}
    {state : LocalSubmissionState} {after : DevelopmentWorkspaceStatus} (kept : db.SameDevelopment now)
    (found : db.submissions.find? submission.id = some submission)
    (queued : now.submissions.any (fun row => row.id == submission.id && row.state == .queued) =
      true)
    (home : ∃ workspace ∈ now.workspaces, workspace.id = submission.workspaceId ∧
      Settlement state workspace.status after) :
    db.Settled { now with
      submissions := now.submissions.update (fun row => row.id == submission.id)
        (fun row => { row with state }) fun _ => rfl
      workspaces := now.workspaces.update (fun row => row.id == submission.workspaceId)
        (fun row => { row with status := after }) fun _ => rfl } submission state := by
  obtain ⟨workspace, stored, named, settlement⟩ := home
  rw [kept.1] at queued
  rw [kept.2] at stored
  obtain ⟨row, mem, passes⟩ := Table.any_eq_true.mp queued
  rw [Bool.and_eq_true, beq_iff_eq, beq_iff_eq] at passes
  have same : row = submission := Option.some_inj.mp
    ((Table.find?_eq_some.mpr ⟨mem, passes.1⟩).symm.trans found)
  refine ⟨found, ?_, ?_, workspace, after, Table.find?_eq_some.mpr ⟨stored, named⟩, settlement, ?_⟩
  · rw [← same]
    exact passes.2
  · rw [kept.1]
  · rw [kept.2]

/-- The submission of an item is stored under its key. -/
theorem Database.find?_of_submissionOf {submission : LocalSubmission}
    (read : db.submissionOf itemId = some submission) :
    db.submissions.find? submission.id = some submission := by
  obtain ⟨_, -, found⟩ := Option.bind_eq_some_iff.mp read
  rw [(Table.find?_eq_some.mp found).2]
  exact found

/-- An integrated item settles its submission as integrated. -/
theorem integrateLocalSubmission_settles :
    (integrateLocalSubmission itemId).Takes db.Unsettled (db.SettlesItem itemId .integrated) := by
  intro now kept
  rw [wp_iff]
  refine ⟨fun done later commits => ?_, fun _ _ => trivial⟩
  simp only [integrateLocalSubmission, commits_query_bind] at commits
  have same : _ = db.submissionOf itemId := kept.submissionOf
  unfold Database.submissionOf at same
  rw [same] at commits
  unfold SettlesItem
  cases read : db.submissionOf itemId with
  | none =>
    unfold Database.submissionOf at read
    rw [read] at commits
    obtain ⟨-, rfl⟩ := commits_pure.mp commits
    exact kept.1
  | some submission =>
    have found := find?_of_submissionOf read
    unfold Database.submissionOf at read
    rw [read] at commits
    simp only [commits_query_bind, commits_require_bind, commits_write] at commits
    obtain ⟨⟨queued, submitted⟩, -, rfl⟩ := commits
    obtain ⟨workspace, stored, passes⟩ := Table.any_eq_true.mp submitted
    rw [Bool.and_eq_true, beq_iff_eq] at passes
    exact settled_write kept.1 found queued ⟨workspace, stored, passes.1, .integrated passes.2⟩

/-- A cancelled item settles its submission as cancelled. -/
theorem cancelLocalSubmission_settles :
    (cancelLocalSubmission itemId).Takes db.Unsettled (db.SettlesItem itemId .cancelled) := by
  intro now kept
  rw [wp_iff]
  refine ⟨fun done later commits => ?_, fun _ _ => trivial⟩
  simp only [cancelLocalSubmission, commits_query_bind] at commits
  have same : _ = db.submissionOf itemId := kept.submissionOf
  unfold Database.submissionOf at same
  rw [same] at commits
  unfold SettlesItem
  cases read : db.submissionOf itemId with
  | none =>
    unfold Database.submissionOf at read
    rw [read] at commits
    obtain ⟨-, rfl⟩ := commits_pure.mp commits
    exact kept.1
  | some submission =>
    have found := find?_of_submissionOf read
    unfold Database.submissionOf at read
    rw [read] at commits
    simp only [commits_query_bind, commits_require_bind, commits_write] at commits
    obtain ⟨⟨queued, submitted⟩, -, rfl⟩ := commits
    obtain ⟨workspace, stored, passes⟩ := Table.any_eq_true.mp submitted
    rw [Bool.and_eq_true, beq_iff_eq, beq_iff_eq] at passes
    refine settled_write kept.1 found queued ⟨workspace, stored, passes.1, ?_⟩
    rw [passes.2]
    exact .cancelled

/-! ## Operations -/

/-- The landing of an effort settles the submission of its item. -/
theorem settles_of_markIntegrated {effortId landedSha remoteTargetSha : String} {done : Unit}
    (commits : (markIntegrated effortId landedSha remoteTargetSha stamp).Commits db done later) :
    ∃ effort, db.efforts.find? effortId = some effort ∧
      db.SettlesItem effort.itemId .integrated later := by
  unfold markIntegrated at commits
  obtain ⟨effort, stored, -, commits⟩ := commits_requiredEffort_bind.mp commits
  have start : db.Unsettled db := ⟨⟨rfl, rfl⟩, fun _ => rfl⟩
  refine ⟨effort, stored, Takes.of_commits ?_ start commits⟩
  iterate 6 refine takes_bind_of_preserves (by simp) fun _ => ?_
  refine takes_bind_of_preserves ignores_updateAttempts fun _ => ?_
  iterate 2 refine takes_bind_of_preserves (by simp) fun _ => ?_
  refine takes_bind integrateLocalSubmission_settles fun _ => ?_
  exact preserves_bind (by simp) fun _ => preserves_appendEvent

/-- The cancellation of an effort settles the submission of its item, unless it was cancelled
before. -/
theorem settles_of_cancel {effortId actor reason : String} {done : Unit}
    (commits : (cancel effortId actor reason stamp).Commits db done later) :
    ∃ effort, db.efforts.find? effortId = some effort ∧
      (effort.state.name = .cancelled ∧ later = db ∨
        effort.state.name ≠ .cancelled ∧ db.SettlesItem effort.itemId .cancelled later) := by
  simp only [cancel, commits_ensure_bind, commits_requiredEffort_bind, commits_lookup_bind,
    commits_require_bind, commits_ite] at commits
  obtain ⟨_, -, _, -, effort, stored, -, item, -, -, ⟨active, commits⟩ | ⟨ended, idle⟩⟩ := commits
  · have start : db.Unsettled db := ⟨⟨rfl, rfl⟩, fun _ => rfl⟩
    refine ⟨effort, stored, .inr ⟨active, Takes.of_commits ?_ start commits⟩⟩
    unfold cancelEffortTransaction
    iterate 4 refine takes_bind_of_preserves (by simp) fun _ => ?_
    refine takes_bind_of_preserves ignores_updateAttempts fun _ => ?_
    refine takes_bind_of_preserves (by simp) fun _ => ?_
    refine takes_bind cancelLocalSubmission_settles fun _ => ?_
    exact preserves_bind (by simp) fun _ => preserves_appendEvent
  · obtain ⟨-, same⟩ := commits_pure.mp idle
    exact ⟨effort, stored, .inl ⟨not_not.mp ended, same.symm⟩⟩

/-- The cancellation of an item without an effort settles its submission. -/
theorem settles_of_cancelItemWithoutEffort {done : Unit}
    (commits : (cancelItemWithoutEffort itemId stamp).Commits db done later) :
    db.SettlesItem itemId .cancelled later := by
  have start : db.Unsettled db := ⟨⟨rfl, rfl⟩, fun _ => rfl⟩
  refine Takes.of_commits ?_ start commits
  unfold cancelItemWithoutEffort
  refine takes_bind_of_preserves (by simp) fun item => ?_
  iterate 6 refine takes_bind_of_preserves (by simp) fun _ => ?_
  refine takes_bind cancelLocalSubmission_settles fun _ => ?_
  cases item.currentAttemptId with
  | none => exact preserves_updateQueueItem fun _ => ⟨rfl, .inr rfl⟩
  | some attemptId =>
    refine preserves_bind ignores_updateAttempts fun _ => ?_
    exact preserves_updateQueueItem fun _ => ⟨rfl, .inr rfl⟩

/-- The item whose submission an operation settles when it commits. -/
def Database.endedItem (db : Database) : Operation → Option (String × LocalSubmissionState)
  | .markIntegrated effortId .. =>
    (db.efforts.find? effortId).map fun effort => (effort.itemId, .integrated)
  | .cancel effortId .. =>
    ((db.efforts.find? effortId).filter (·.state.name != .cancelled)).map fun effort =>
      (effort.itemId, .cancelled)
  | .cancelItemWithoutEffort itemId .. => some (itemId, .cancelled)
  | _ => none

/-- A commit of the store settles the submission of the item that it ends, and leaves the
development tables otherwise. -/
theorem Operation.settles {operation : Operation} {outcome : Outcome}
    (commits : operation.transaction.Commits db outcome later) :
    match db.endedItem operation with
    | none => db.SameDevelopment later
    | some (itemId, state) => db.SettlesItem itemId state later := by
  by_cases development : TableName.submissions ∈ operation.footprint
  · cases operation <;> simp only [footprint, stateTables, List.mem_cons, List.not_mem_nil,
      or_false, reduceCtorEq] at development
    case markIntegrated =>
      obtain ⟨_, commits, -⟩ := commits_map.mp commits
      obtain ⟨effort, stored, settles⟩ := settles_of_markIntegrated commits
      simp only [endedItem, stored, Option.map_some]
      exact settles
    case cancel =>
      obtain ⟨_, commits, -⟩ := commits_map.mp commits
      obtain ⟨effort, stored, ⟨ended, same⟩ | ⟨active, settles⟩⟩ := settles_of_cancel commits
      · simp only [endedItem, stored, Option.filter_some, ended, bne_self_eq_false,
          Bool.false_eq_true, if_false, Option.map_none, same]
        exact ⟨rfl, rfl⟩
      · simp only [endedItem, stored, Option.filter_some, bne_iff_ne.mpr active, if_true,
          Option.map_some]
        exact settles
    case cancelItemWithoutEffort =>
      obtain ⟨_, commits, -⟩ := commits_map.mp commits
      exact settles_of_cancelItemWithoutEffort commits
  · have nothing : db.endedItem operation = none := by
      cases operation <;> first | rfl | exact absurd (by simp [footprint]) development
    have elsewhere : ∀ table ∈ operation.footprint, Ignores db.SameDevelopment table := by
      intro table mem
      have submissions : table ≠ .submissions := fun same => development (same ▸ mem)
      have workspaces : table ≠ .workspaces := by
        intro same
        subst same
        refine development ?_
        cases operation <;> simp [footprint, stateTables] at mem ⊢
      exact ⟨fun _ _ same kept => kept.trans (sameDevelopment_of_without submissions workspaces same)⟩
    rw [nothing]
    exact (Operation.preserves fun table mem => .of_ignores (elsewhere table mem)).of_commits
      ⟨rfl, rfl⟩ commits

/-- What a commit of the store does to the development tables: nothing, or one settlement. -/
theorem Operation.development {operation : Operation} {outcome : Outcome}
    (commits : operation.transaction.Commits db outcome later) :
    db.SameDevelopment later ∨ ∃ itemId state submission,
      db.endedItem operation = some (itemId, state) ∧ db.submissionOf itemId = some submission ∧
        db.Settled later submission state := by
  have settles := Operation.settles commits
  cases ended : db.endedItem operation with
  | none =>
    simp only [ended] at settles
    exact .inl settles
  | some ending =>
    simp only [ended, SettlesItem] at settles
    cases read : db.submissionOf ending.1 with
    | none =>
      simp only [read] at settles
      exact .inl settles
    | some submission =>
      simp only [read] at settles
      exact .inr ⟨ending.1, ending.2, submission, rfl, read, settles⟩

end Iq
