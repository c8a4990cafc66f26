import Iq.Lifecycle.LinkedRuns

/-!
# Silent routines

The two constraints of the schema on the state machine of an effort fire in one statement only, the
write of its state. Every other routine aborts for other reasons, and the write itself does so too
when the constraints admit it.
-/

namespace Iq

open Library Library.Transaction Database

/-- The two constraints on the state machine of an effort. -/
def Refusal.IsTransition (reason : Refusal) : Prop :=
  reason = .constraint .legalTransition ∨ reason = .constraint .cycleLimit

/-- A refusal of the code is none of the two constraints. -/
theorem not_isTransition_refused {message : String} :
    ¬(Refusal.refused message).IsTransition := by
  rintro (refusal | refusal) <;> cases refusal

/-- Nor is a duplicate key. -/
theorem not_isTransition_unique {table : String} :
    ¬(Refusal.constraint (.unique table)).IsTransition := by
  rintro (refusal | refusal) <;> cases refusal

variable {db later : Database} {effort : IntegrationEffort} {id : String} {stamp : Stamp}

/-! ## Routines -/

/-- Routines that do not write the state of an effort abort for other reasons. -/
abbrev Silent {α : Type} (transaction : Tx α) : Prop := transaction.Excludes Refusal.IsTransition

/-- A check of a value refuses, and no constraint fires. -/
theorem silent_ensure {α : Type} {passed : Except String α} : Silent (ensure passed) := by
  intro db
  unfold ensure Avoids wp
  cases passed <;> simp [Refusal.IsTransition]

/-- A required condition refuses with its message. -/
theorem silent_require {condition : Prop} [Decidable condition] {message : String} :
    Silent (require condition (.refused message) : Tx Unit) :=
  excludes_require not_isTransition_refused

/-- A missing value refuses with its message. -/
theorem silent_expect {α : Type} {found : Option α} {message : String} :
    Silent (expect found (.refused message) : Tx α) :=
  excludes_expect not_isTransition_refused

/-- A missing row refuses with its message. -/
theorem silent_lookup {α : Type} {look : Database → Option α} {message : String} :
    Silent (lookup look (.refused message) : Tx α) :=
  excludes_lookup not_isTransition_refused

attribute [local simp] Avoids Refusal.IsTransition silent_ensure silent_require silent_expect
  silent_lookup

/-- An effort is read and checked. -/
theorem silent_requiredEffort : Silent (requiredEffort id) := by
  unfold requiredEffort
  exact excludes_bind silent_lookup fun _ => excludes_bind silent_ensure fun _ => excludes_pure

/-- The object format is read with the repository of the item. -/
theorem silent_itemObjectFormat : Silent (itemObjectFormat id) := by
  intro db
  simp [itemObjectFormat]

/-- The obligation of an item is read. -/
theorem silent_requireItemObligation : Silent (requireItemObligation id) := by
  unfold requireItemObligation
  exact excludes_bind silent_lookup fun _ => silent_ensure

/-- The next cycle number is computed from the cycles. -/
theorem silent_nextCycleNumber : Silent (nextCycleNumber id) := by
  intro db
  simp [nextCycleNumber]

/-- The cycle of a rejected candidate is read from its evidence. -/
theorem silent_readRejectedCycle : Silent (readRejectedCycle effort) := by
  intro db
  unfold Avoids wp readRejectedCycle rejectedCycle
  dsimp only
  cases effort.state <;> simp <;> cases db.evidence.find? effort.id <;> grind

/-- The cycle number after a rejection is computed from the count. -/
theorem silent_rejectedNextCycle {count : Nat} : Silent (rejectedNextCycle id count) :=
  excludes_ite (fun _ => silent_nextCycleNumber) fun _ => excludes_pure

/-- The authority of a cancelled launcher is compared. -/
theorem silent_requireCancelledLauncherAuthority {identity : LaunchIdentity}
    {expected : SpawnAuthority} :
    Silent (requireCancelledLauncherAuthority id identity expected) := by
  intro db
  simp [requireCancelledLauncherAuthority]

/-- The authority to move the target is compared, unless a move is pending. -/
theorem silent_requireMoveUnlessPending {rejection : Option DefiniteLandingRejection} :
    Silent (requireMoveUnlessPending effort rejection) :=
  excludes_ite (fun _ => excludes_pure) fun _ => silent_ensure

/-- Attempts have no constraint on states of efforts. -/
theorem silent_updateAttempts {chosen : Attempt → Bool} {change : Attempt → Attempt}
    {kept : ∀ row, (change row).id = row.id} : Silent (updateAttempts chosen change kept) :=
  excludes_write

/-- An event is appended to the log. -/
theorem silent_appendEvent {eventId eventType : String} {payload : EventPayload} {alert : Bool} :
    Silent (appendEvent effort eventId eventType payload alert) := excludes_write

/-- The event at the limit is appended to the log. -/
theorem silent_reportLimit {state : IntegrationEffortState} {count : Nat} :
    Silent (reportLimit effort state count stamp) :=
  excludes_ite (fun _ => silent_appendEvent) fun _ => excludes_pure

/-- The event of a failure is appended to the log. -/
theorem silent_reportFailure {eventType : String} {failure : CycleFailure} {count : Nat} :
    Silent (reportFailure effort eventType failure count stamp) :=
  excludes_ite (fun _ => silent_appendEvent) fun _ => excludes_pure

/-- Cycles have no constraint on states of efforts. -/
theorem silent_updateCycles {chosen : IntegrationCycle → Bool} {status : CycleStatus}
    {failure : Option CycleFailure} : Silent (updateCycles chosen status failure) := excludes_write

/-- Reviews have no constraint on states of efforts. -/
theorem silent_updateReviews {chosen : CandidateReviewRow → Bool} {status : ReviewStatus}
    {responder : Option ResponderIdentity} {reviewText : Option String} :
    Silent (updateReviews chosen status responder reviewText) := excludes_write

/-- Requests for guidance have no constraint on states of efforts. -/
theorem silent_updateGuidance {chosen : GuidanceRequest → Bool} {status : GuidanceStatus} :
    Silent (updateGuidance chosen status) := excludes_write

/-- Invocations have no constraint on states of efforts. -/
theorem silent_invalidateValidationInvocations {now : String} :
    Silent (invalidateValidationInvocations id now) := excludes_write

/-- Evidence is deleted freely. -/
theorem silent_deleteEvidence : Silent (deleteEvidence id) := by
  intro db
  simp [deleteEvidence]

/-- A cleanup debt that differs from the recorded one is refused by the code. -/
theorem silent_scheduleCleanup {debt : PrivateRefCleanupDebt} {differs : String} :
    Silent (scheduleCleanup debt differs) := by
  intro db
  simp only [scheduleCleanup, Avoids, wp_bind, wp_query]
  split <;> simp

/-- A cycle with a number that is taken violates a key. -/
theorem silent_insertCycle {row : IntegrationCycle} : Silent (insertCycle row) := by
  intro db
  simp [insertCycle]

/-- A cancelled authority that has changed is refused by the code. -/
theorem silent_updateCancelledSpawnAuthority {identity : LaunchIdentity}
    {expected : SpawnAuthority} : Silent (updateCancelledSpawnAuthority id identity expected) := by
  intro db
  simp only [updateCancelledSpawnAuthority, Avoids, wp_bind, wp_query]
  split <;> simp

/-- A second review violates a key. -/
theorem silent_insertReview {row : CandidateReviewRow} : Silent (insertReview row) := by
  intro db
  simp [insertReview]

/-- Evidence replaces evidence. -/
theorem silent_upsertEvidence {row : CandidateEvidence} : Silent (upsertEvidence row) := by
  intro db
  simp [upsertEvidence]

/-- A second request violates a key. -/
theorem silent_insertGuidance {row : GuidanceRequest} : Silent (insertGuidance row) := by
  intro db
  simp [insertGuidance]

/-- A second receipt of an answer violates a key. -/
theorem silent_insertAnswerReceipt {command : AnswerCommand} {responder : ResponderIdentity}
    {disposition : AnswerDisposition} :
    Silent (insertAnswerReceipt command effort responder disposition stamp) := by
  intro db
  simp [insertAnswerReceipt]

/-- A second receipt of a review violates a key. -/
theorem silent_insertReviewReceipt {command : CandidateReviewCommand}
    {responder : ResponderIdentity} {receipt : CandidateReviewReceipt} :
    Silent (insertReviewReceipt command responder receipt) := by
  intro db
  simp [insertReviewReceipt]

/-- The debt of a running agent is inserted or violates a key. -/
theorem silent_recordTermination : Silent (recordTermination effort) := by
  refine excludes_bind silent_ensure fun termination => ?_
  cases termination with
  | none => exact excludes_pure
  | some authority =>
    exact excludes_bind (excludes_lookup not_isTransition_unique) fun _ => excludes_write

/-- The submission of an item and its workspace are updated. -/
theorem silent_integrateLocalSubmission : Silent (integrateLocalSubmission id) := by
  intro db
  simp only [integrateLocalSubmission, Avoids, wp_bind, wp_query]
  split <;> simp

/-- The submission of an item and its workspace are updated. -/
theorem silent_cancelLocalSubmission : Silent (cancelLocalSubmission id) := by
  intro db
  simp only [cancelLocalSubmission, Avoids, wp_bind, wp_query]
  split <;> simp

/-- A checkout at another target is refused by the code. -/
theorem silent_requireCheckout {targetSha : String} : Silent (requireCheckout id targetSha) := by
  intro db
  simp only [requireCheckout, Avoids, wp_bind, wp_query]
  split <;> simp

/-- An item that has changed is refused by the code. -/
theorem silent_moveQueueItem {targetSha lost : String} :
    Silent (moveQueueItem effort targetSha lost) := by
  intro db
  simp [moveQueueItem]

/-- The rows of an open review are updated. -/
theorem silent_supersedeOpenReview {targetSha now : String} :
    Silent (supersedeOpenReview effort targetSha now) := by
  unfold supersedeOpenReview
  split
  · refine excludes_bind silent_updateReviews fun _ => excludes_bind silent_require fun _ => ?_
    refine excludes_bind silent_updateCycles fun _ => excludes_bind silent_require fun _ => ?_
    refine excludes_bind silent_invalidateValidationInvocations fun _ => ?_
    exact excludes_bind silent_requireCheckout fun _ => silent_require
  · exact excludes_pure

/-- An invocation that is not the next one is refused by the code. -/
theorem silent_recordInvocation {invocation : AttemptValidationInvocation}
    {retarget : Option String} {disappeared without : String} :
    Silent (recordInvocation id invocation retarget disappeared without) := by
  refine excludes_bind silent_updateAttempts fun _ => excludes_bind silent_require fun _ => ?_
  refine excludes_bind excludes_query fun _ => excludes_bind silent_lookup fun _ => ?_
  exact excludes_bind (excludes_lookup not_isTransition_unique) fun _ => excludes_write

/-- An item that has changed is refused by the code. -/
theorem silent_updateQueueItem {expected : QueueItem → Bool} {change : QueueItem → QueueItem}
    {kept : ∀ row, (change row).id = row.id} {lost : String} :
    Silent (updateQueueItem id expected change kept lost) := by
  intro db
  simp [updateQueueItem]

/-- An item that has changed is refused by the code. -/
theorem silent_projectQueueState {state : IntegrationEffortState} :
    Silent (projectQueueState effort state) := by
  unfold projectQueueState
  split <;> exact silent_updateQueueItem

/-! ## State updates -/

/-- After a check its result holds. -/
theorem silent_ensure_bind {α β : Type} {passed : Except String α} {next : α → Tx β}
    (after : ∀ value, passed = .ok value → Silent (next value)) :
    Silent (ensure passed >>= next) := by
  intro db
  refine avoids_bind (silent_ensure db) fun value later commits => ?_
  exact after value (commits_ensure.mp commits).1 later

/-- The write of a state that the two constraints admit is not aborted by them. -/
theorem silent_writeEffortState {state : IntegrationEffortState} {failedCycles : Nat}
    (allowed : transitionAllowed effort.state.name state.name = true)
    (within : cycleLimitCheck state.name failedCycles = true) :
    Silent (writeEffortState effort state failedCycles) := by
  intro db
  simp only [writeEffortState, Avoids, wp_bind, wp_lookup, wp_require, wp_write, wp_query]
  refine ⟨fun old found => ?_, fun _ => not_isTransition_refused⟩
  have same : old.state.name = effort.state.name := by
    simpa using (Option.filter_eq_some_iff.mp found).2
  rw [same]
  simp [allowed, within]

/-- A state update that the two constraints admit, as far as the state is valid, is not aborted by
them. -/
theorem silent_updateStateAndCountWithResolution {state : IntegrationEffortState}
    {failedCycles : Nat} {rejection : Option DefiniteLandingRejection}
    (allowed : state.validateForCount failedCycles = .ok () →
      transitionAllowed effort.state.name state.name = true)
    (within : cycleLimitCheck state.name failedCycles = true) :
    Silent (updateStateAndCountWithResolution effort state failedCycles rejection) := by
  refine excludes_bind silent_ensure fun _ => silent_ensure_bind fun _ valid => ?_
  have write := silent_writeEffortState (allowed valid) within
  refine excludes_ite (fun _ => ?_) fun _ => ?_
  · refine excludes_bind silent_requireItemObligation fun _ => ?_
    exact excludes_bind write fun _ => silent_projectQueueState
  · exact excludes_bind write fun _ => silent_projectQueueState

end Iq
