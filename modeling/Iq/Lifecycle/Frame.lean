import Iq.Library.Hoare
import Iq.Lifecycle.Write

/-!
# Frames

Most writes of the store touch tables that a property of the queue does not read. A property is
`Framed` when the writes to those tables keep it; every routine that makes no other write then
preserves it, and what is left to show about an operation is what it does to efforts, items and
policies.
-/

namespace Iq

open Library Library.Transaction

/-! ## Tables -/

/-- The tables of the database. -/
inductive TableName where
  | items
  | attempts
  | invocations
  | policies
  | repositories
  | submissions
  | workspaces
  | privateRefDebts
  | efforts
  | cycles
  | guidance
  | evidence
  | reviews
  | reviewReceipts
  | answers
  | terminationDebts
  | events
  deriving DecidableEq, Repr

/-- A database with one table emptied. -/
def Database.without (db : Database) : TableName → Database
  | .items => { db with items := Table.empty }
  | .attempts => { db with attempts := Table.empty }
  | .invocations => { db with invocations := Table.empty }
  | .policies => { db with policies := Table.empty }
  | .repositories => { db with repositories := Table.empty }
  | .submissions => { db with submissions := Table.empty }
  | .workspaces => { db with workspaces := Table.empty }
  | .privateRefDebts => { db with privateRefDebts := Table.empty }
  | .efforts => { db with efforts := Table.empty }
  | .cycles => { db with cycles := Table.empty }
  | .guidance => { db with guidance := Table.empty }
  | .evidence => { db with evidence := Table.empty }
  | .reviews => { db with reviews := Table.empty }
  | .reviewReceipts => { db with reviewReceipts := Table.empty }
  | .answers => { db with answers := Table.empty }
  | .terminationDebts => { db with terminationDebts := Table.empty }
  | .events => { db with events := [] }

/-- What a reading of the other tables gives does not depend on the table that was emptied. -/
theorem Database.read_of_without {γ : Type} {read : Database → γ} {table : TableName}
    {db later : Database} (elsewhere : ∀ now : Database, read (now.without table) = read now)
    (same : later.without table = db.without table) : read later = read db := by
  rw [← elsewhere later, same, elsewhere db]

/-- A property that does not read a table. -/
class Ignores (property : Database → Prop) (table : TableName) : Prop where
  keep : ∀ db later, later.without table = db.without table → property db → property later

variable {property : Database → Prop} {id : String} {effort : IntegrationEffort} {stamp : Stamp}

/-- A change of one table keeps what ignores it. -/
theorem keep_without (table : TableName) [ignores : Ignores property table] {db later : Database}
    (holds : property db) (same : later.without table = db.without table) : property later :=
  ignores.keep db later same holds

/-- A write to one table keeps what ignores it. -/
theorem preserves_table {α : Type} (table : TableName) [Ignores property table]
    {change : Database → α × Database}
    (same : ∀ db, (change db).2.without table = db.without table) :
    (write change : Tx α).Preserves property :=
  preserves_write fun db holds => keep_without table holds (same db)

/-- The columns of a queue item that its admission fixed. -/
def QueueItem.admission (item : QueueItem) : String × TargetRef × Option String :=
  (item.repoKey, item.targetRef, item.submissionId)

/-- A rewritten queue item has the columns that its admission fixed, and begins no replacement. -/
structure QueueItem.Persists (row changed : QueueItem) : Prop where
  admission : changed.admission = row.admission
  replacement : changed.replacement = row.replacement ∨ changed.replacement = .none

/-- A property that the rewrites of queue items keep. -/
class FramesItems (property : Database → Prop) : Prop where
  items : ∀ db chosen change kept, (∀ row : QueueItem, row.Persists (change row)) →
    property db → property { db with items := db.items.update chosen change kept }

/-- A property that reads of a policy at most what registration fixed. -/
class FramesPolicies (property : Database → Prop) : Prop where
  policies : ∀ db chosen state, property db → property { db with
    policies := db.policies.update chosen (fun row => { row with operationState := state })
      fun _ => rfl }

instance [Ignores property .items] : FramesItems property where
  items _ _ _ _ _ holds := keep_without .items holds rfl

instance [Ignores property .policies] : FramesPolicies property where
  policies _ _ _ holds := keep_without .policies holds rfl

/-- What a commit that writes a table keeps: of items and policies, the columns that stay. -/
def Tolerates (property : Database → Prop) : TableName → Prop
  | .items => FramesItems property
  | .policies => FramesPolicies property
  | table => Ignores property table

/-- A property that ignores a table tolerates every change of it. -/
theorem Tolerates.of_ignores {table : TableName} (ignores : Ignores property table) :
    Tolerates property table := by
  cases table with
  | items => exact inferInstanceAs (FramesItems property)
  | policies => exact inferInstanceAs (FramesPolicies property)
  | _ => exact ignores

/-! ## Lifecycles -/

/-- Two versions of a queue item with the same lifecycle columns. -/
structure QueueItem.SameLifecycle (row other : QueueItem) : Prop where
  repoKey : row.repoKey = other.repoKey
  targetRef : row.targetRef = other.targetRef
  status : row.status = other.status
  currentAttemptId : row.currentAttemptId = other.currentAttemptId
  blockedPhase : row.blockedPhase = other.blockedPhase
  blockedReason : row.blockedReason = other.blockedReason
  landedCommitSha : row.landedCommitSha = other.landedCommitSha
  landing : row.landing = other.landing

/-- Two databases with the same efforts, items, attempts, policies and repositories. -/
structure Database.SameQueue (db later : Database) : Prop where
  efforts : later.efforts = db.efforts
  items : later.items = db.items
  attempts : later.attempts = db.attempts
  policies : later.policies = db.policies
  repositories : later.repositories = db.repositories

/-- A property that the writes outside efforts, queue lifecycles and policies keep. An attempt may
be rewritten as long as it stays with its item and keeps the result it has, an item as long as its
lifecycle columns stay. -/
class Framed (property : Database → Prop) : Prop where
  control : ∀ db later, db.SameQueue later → property db → property later
  repositories : ∀ db chosen change kept, property db →
    property { db with repositories := db.repositories.update chosen change kept }
  attempts : ∀ db chosen change kept,
    (∀ row, (change row).itemId = row.itemId ∧
      (row.result.isSome = true → (change row).result.isSome = true)) → property db →
    property { db with attempts := db.attempts.update chosen change kept }
  items : ∀ db chosen change kept, (∀ row, (change row).SameLifecycle row) → property db →
    property { db with items := db.items.update chosen change kept }

/-- What is framed ignores the tables outside efforts, queue lifecycles and policies. -/
theorem Framed.ignores [framed : Framed property] {table : TableName}
    (outside : ∀ now : Database, (now.without table).SameQueue now) : Ignores property table where
  keep db later same := by
    have before := outside db
    have after := outside later
    rw [same] at after
    exact framed.control db later ⟨after.efforts.trans before.efforts.symm,
      after.items.trans before.items.symm, after.attempts.trans before.attempts.symm,
      after.policies.trans before.policies.symm,
      after.repositories.trans before.repositories.symm⟩

section Instances

variable [Framed property]

instance : Ignores property .invocations := Framed.ignores fun _ => ⟨rfl, rfl, rfl, rfl, rfl⟩

instance : Ignores property .submissions := Framed.ignores fun _ => ⟨rfl, rfl, rfl, rfl, rfl⟩

instance : Ignores property .workspaces := Framed.ignores fun _ => ⟨rfl, rfl, rfl, rfl, rfl⟩

instance : Ignores property .privateRefDebts :=
  Framed.ignores fun _ => ⟨rfl, rfl, rfl, rfl, rfl⟩

instance : Ignores property .cycles := Framed.ignores fun _ => ⟨rfl, rfl, rfl, rfl, rfl⟩

instance : Ignores property .guidance := Framed.ignores fun _ => ⟨rfl, rfl, rfl, rfl, rfl⟩

instance : Ignores property .evidence := Framed.ignores fun _ => ⟨rfl, rfl, rfl, rfl, rfl⟩

instance : Ignores property .reviews := Framed.ignores fun _ => ⟨rfl, rfl, rfl, rfl, rfl⟩

instance : Ignores property .reviewReceipts := Framed.ignores fun _ => ⟨rfl, rfl, rfl, rfl, rfl⟩

instance : Ignores property .answers := Framed.ignores fun _ => ⟨rfl, rfl, rfl, rfl, rfl⟩

instance : Ignores property .terminationDebts :=
  Framed.ignores fun _ => ⟨rfl, rfl, rfl, rfl, rfl⟩

instance : Ignores property .events := Framed.ignores fun _ => ⟨rfl, rfl, rfl, rfl, rfl⟩

end Instances

/-! ## Routines that write nothing -/

/-- A check keeps every property. -/
@[simp] theorem preserves_ensure {α : Type} {passed : Except String α} :
    (ensure passed).Preserves property := by
  intro db holds
  unfold ensure wp
  cases passed <;> simp [holds]

/-- To read an effort keeps every property. -/
@[simp] theorem preserves_requiredEffort : (requiredEffort id).Preserves property := by
  unfold requiredEffort
  repeat refine preserves_bind (by simp) fun _ => ?_
  simp

/-- To read the object format of an item keeps every property. -/
@[simp] theorem preserves_itemObjectFormat : (itemObjectFormat id).Preserves property := by
  simp [itemObjectFormat]

/-- To read the object format of an effort keeps every property. -/
@[simp] theorem preserves_effortObjectFormat :
    (effortObjectFormat effort).Preserves property := preserves_itemObjectFormat

/-- To ask for the obligation keeps every property. -/
@[simp] theorem preserves_requireItemObligation :
    (requireItemObligation id).Preserves property := by
  simp [requireItemObligation]

/-- To compute the next cycle number keeps every property. -/
@[simp] theorem preserves_nextCycleNumber : (nextCycleNumber id).Preserves property := by
  unfold nextCycleNumber
  repeat refine preserves_bind (by simp) fun _ => ?_
  simp

/-- To read the cycle of a rejected candidate keeps every property. -/
@[simp] theorem preserves_readRejectedCycle : (readRejectedCycle effort).Preserves property := by
  intro db holds
  rw [wp_iff]
  refine ⟨fun cycleId later commits => ?_, fun _ _ => trivial⟩
  unfold Commits readRejectedCycle at commits
  split at commits
  · cases commits
    exact holds
  · cases commits

/-- To compute the number after a rejection keeps every property. -/
@[simp] theorem preserves_rejectedNextCycle {count : Nat} :
    (rejectedNextCycle id count).Preserves property := by
  unfold rejectedNextCycle
  split <;> simp

/-- To compare a cancelled authority keeps every property. -/
@[simp] theorem preserves_requireCancelledLauncherAuthority {identity : LaunchIdentity}
    {expected : SpawnAuthority} :
    (requireCancelledLauncherAuthority id identity expected).Preserves property := by
  unfold requireCancelledLauncherAuthority
  repeat refine preserves_bind (by simp) fun _ => ?_
  simp

/-- To compare the authority of a move keeps every property. -/
@[simp] theorem preserves_requireMoveUnlessPending
    {rejection : Option DefiniteLandingRejection} :
    (requireMoveUnlessPending effort rejection).Preserves property := by
  unfold requireMoveUnlessPending
  split <;> simp

/-- To read the debt of a cancelled runner keeps every property. -/
@[simp] theorem preserves_cancelledDebt : (cancelledDebt id).Preserves property := preserves_query

/-! ## Routines that write one table -/

/-- An appended event is tolerated with its table. -/
@[simp] theorem preserves_appendEvent [Ignores property .events] {eventId eventType : String}
    {payload : EventPayload} {alert : Bool} :
    (appendEvent effort eventId eventType payload alert).Preserves property :=
  preserves_table .events fun _ => rfl

/-- The event at the limit is tolerated with its table. -/
@[simp] theorem preserves_reportLimit [Ignores property .events] {state : IntegrationEffortState}
    {count : Nat} : (reportLimit effort state count stamp).Preserves property := by
  unfold reportLimit
  split <;> simp

/-- The event of a failure is tolerated with its table. -/
@[simp] theorem preserves_reportFailure [Ignores property .events] {eventType : String}
    {failure : CycleFailure} {count : Nat} :
    (reportFailure effort eventType failure count stamp).Preserves property := by
  unfold reportFailure
  split <;> simp

/-- An update of cycles is tolerated with their table. -/
@[simp] theorem preserves_updateCycles [Ignores property .cycles] {chosen : IntegrationCycle → Bool}
    {status : CycleStatus} {failure : Option CycleFailure} :
    (updateCycles chosen status failure).Preserves property :=
  preserves_table .cycles fun _ => rfl

/-- An update of reviews is tolerated with their table. -/
@[simp] theorem preserves_updateReviews [Ignores property .reviews]
    {chosen : CandidateReviewRow → Bool} {status : ReviewStatus}
    {responder : Option ResponderIdentity} {reviewText : Option String} :
    (updateReviews chosen status responder reviewText).Preserves property :=
  preserves_table .reviews fun _ => rfl

/-- An update of requests is tolerated with their table. -/
@[simp] theorem preserves_updateGuidance [Ignores property .guidance]
    {chosen : GuidanceRequest → Bool} {status : GuidanceStatus} :
    (updateGuidance chosen status).Preserves property :=
  preserves_table .guidance fun _ => rfl

/-- Invalidated invocations are tolerated with their table. -/
@[simp] theorem preserves_invalidateValidationInvocations [Ignores property .invocations]
    {now : String} : (invalidateValidationInvocations id now).Preserves property :=
  preserves_table .invocations fun _ => rfl

/-- Deleted evidence is tolerated with its table. -/
@[simp] theorem preserves_deleteEvidence [Ignores property .evidence] :
    (deleteEvidence id).Preserves property := by
  unfold deleteEvidence
  repeat refine preserves_bind (by simp) fun _ => ?_
  exact preserves_table .evidence fun _ => rfl

/-- A cleanup debt is tolerated with its table. -/
@[simp] theorem preserves_scheduleCleanup [Ignores property .privateRefDebts]
    {debt : PrivateRefCleanupDebt} {differs : String} : (scheduleCleanup debt differs).Preserves
    property := by
  unfold scheduleCleanup
  refine preserves_bind (by simp) fun present => ?_
  cases present with
  | some stored => exact preserves_require
  | none =>
    repeat refine preserves_bind (by simp) fun _ => ?_
    exact preserves_table .privateRefDebts fun _ => rfl

/-- An inserted cycle is tolerated with its table. -/
@[simp] theorem preserves_insertCycle [Ignores property .cycles] {row : IntegrationCycle} :
    (insertCycle row).Preserves property := by
  unfold insertCycle
  repeat refine preserves_bind (by simp) fun _ => ?_
  exact preserves_table .cycles fun _ => rfl

/-- A cancelled authority is tolerated with its table. -/
@[simp] theorem preserves_updateCancelledSpawnAuthority [Ignores property .terminationDebts]
    {identity : LaunchIdentity} {expected : SpawnAuthority} :
    (updateCancelledSpawnAuthority id identity expected).Preserves property := by
  unfold updateCancelledSpawnAuthority
  refine preserves_bind (by simp) fun stored => ?_
  cases stored with
  | none => exact preserves_pure
  | some launch =>
    exact preserves_bind (preserves_table .terminationDebts fun _ => rfl)
      fun _ => preserves_pure

/-- An inserted review is tolerated with its table. -/
@[simp] theorem preserves_insertReview [Ignores property .reviews] {row : CandidateReviewRow} :
    (insertReview row).Preserves property := by
  unfold insertReview
  repeat refine preserves_bind (by simp) fun _ => ?_
  exact preserves_table .reviews fun _ => rfl

/-- Replaced evidence is tolerated with its table. -/
@[simp] theorem preserves_upsertEvidence [Ignores property .evidence] {row : CandidateEvidence} :
    (upsertEvidence row).Preserves property := by
  unfold upsertEvidence
  repeat refine preserves_bind (by simp) fun _ => ?_
  exact preserves_table .evidence fun _ => rfl

/-- An inserted request is tolerated with its table. -/
@[simp] theorem preserves_insertGuidance [Ignores property .guidance] {row : GuidanceRequest} :
    (insertGuidance row).Preserves property := by
  unfold insertGuidance
  repeat refine preserves_bind (by simp) fun _ => ?_
  exact preserves_table .guidance fun _ => rfl

/-- The receipt of an answer is tolerated with its table. -/
@[simp] theorem preserves_insertAnswerReceipt [Ignores property .answers] {command : AnswerCommand}
    {responder : ResponderIdentity} {disposition : AnswerDisposition} :
    (insertAnswerReceipt command effort responder disposition stamp).Preserves property := by
  unfold insertAnswerReceipt
  repeat refine preserves_bind (by simp) fun _ => ?_
  exact preserves_table .answers fun _ => rfl

/-- The receipt of a review is tolerated with its table. -/
@[simp] theorem preserves_insertReviewReceipt [Ignores property .reviewReceipts]
    {command : CandidateReviewCommand} {responder : ResponderIdentity}
    {receipt : CandidateReviewReceipt} : (insertReviewReceipt command responder receipt).Preserves
    property := by
  unfold insertReviewReceipt
  repeat refine preserves_bind (by simp) fun _ => ?_
  exact preserves_table .reviewReceipts fun _ => rfl

/-- A termination debt is tolerated with its table. -/
@[simp] theorem preserves_recordTermination [Ignores property .terminationDebts] :
    (recordTermination effort).Preserves property := by
  unfold recordTermination
  refine preserves_bind (by simp) fun termination => ?_
  cases termination with
  | none => exact preserves_pure
  | some authority =>
    repeat refine preserves_bind (by simp) fun _ => ?_
    exact preserves_table .terminationDebts fun _ => rfl

/-- A write to the submissions and their workspaces keeps what ignores both. -/
theorem preserves_submissions {α : Type} [Ignores property .submissions]
    [Ignores property .workspaces] {value : Database → α}
    {submissions : Database → Table LocalSubmission.id}
    {workspaces : Database → Table DevelopmentWorkspace.id} :
    (write fun db => (value db, { db with
      submissions := submissions db, workspaces := workspaces db }) : Tx α).Preserves
      property := by
  refine preserves_write fun db holds => ?_
  have first : property { db with submissions := submissions db } :=
    keep_without .submissions holds rfl
  exact keep_without .workspaces first rfl

/-- An integrated submission is tolerated with its tables. -/
@[simp] theorem preserves_integrateLocalSubmission [Ignores property .submissions]
    [Ignores property .workspaces] : (integrateLocalSubmission id).Preserves property := by
  unfold integrateLocalSubmission
  refine preserves_bind (by simp) fun submission => ?_
  cases submission with
  | none => exact preserves_pure
  | some submission =>
    repeat refine preserves_bind (by simp) fun _ => ?_
    exact preserves_submissions

/-- A cancelled submission is tolerated with its tables. -/
@[simp] theorem preserves_cancelLocalSubmission [Ignores property .submissions]
    [Ignores property .workspaces] : (cancelLocalSubmission id).Preserves property := by
  unfold cancelLocalSubmission
  refine preserves_bind (by simp) fun submission => ?_
  cases submission with
  | none => exact preserves_pure
  | some submission =>
    repeat refine preserves_bind (by simp) fun _ => ?_
    exact preserves_submissions

/-! ## Routines that write framed columns -/

section Framed

variable [framed : Framed property]

/-- Attempts that keep their item and their result are tolerated. -/
@[simp] theorem preserves_updateAttempts {chosen : Attempt → Bool} {change : Attempt → Attempt}
    {kept : ∀ row, (change row).id = row.id}
    (keeps : ∀ row, (change row).itemId = row.itemId ∧
      (row.result.isSome = true → (change row).result.isSome = true)) :
    (updateAttempts chosen change kept).Preserves property :=
  preserves_write fun db => framed.attempts db chosen change kept keeps

/-- A recorded target is tolerated with the repositories. -/
@[simp] theorem preserves_requireCheckout {targetSha : String} :
    (requireCheckout id targetSha).Preserves property := by
  unfold requireCheckout
  refine preserves_bind (by simp) fun item => ?_
  cases item with
  | none => exact preserves_pure
  | some item => exact preserves_write fun db => framed.repositories db _ _ _

/-- A moved item keeps what the frame asks of items. -/
@[simp] theorem preserves_moveQueueItem {targetSha lost : String} :
    (moveQueueItem effort targetSha lost).Preserves property := by
  unfold moveQueueItem
  repeat refine preserves_bind (by simp) fun _ => ?_
  exact preserves_write fun db => framed.items db _ _ _
    fun _ => ⟨rfl, rfl, rfl, rfl, rfl, rfl, rfl, rfl⟩

/-- A superseded review is tolerated with its tables. -/
@[simp] theorem preserves_supersedeOpenReview {targetSha now : String} :
    (supersedeOpenReview effort targetSha now).Preserves property := by
  unfold supersedeOpenReview
  split
  · unfold Iq.supersedeReview
    repeat refine preserves_bind (by simp) fun _ => ?_
    simp
  · exact preserves_pure

/-- A recorded invocation is tolerated with its tables. -/
@[simp] theorem preserves_recordInvocation {invocation : AttemptValidationInvocation}
    {retarget : Option String} {disappeared without : String} :
    (recordInvocation id invocation retarget disappeared without).Preserves property := by
  unfold recordInvocation
  repeat refine preserves_bind (by simp) fun _ => ?_
  exact preserves_table .invocations fun _ => rfl

end Framed

end Iq