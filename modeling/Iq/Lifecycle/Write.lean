import Iq.Lifecycle.View

/-!
# What the shared routines do to a view

One lemma for each routine of the control store that operations are made of: the reads leave every
view as it is, and each write changes the views of the rows it names. `Writes` collects what a
committed state update establishes.
-/

namespace Iq

open Library Library.Transaction

variable {db later : Database} {effortId itemId : String}

/-! ## Reads -/

/-- The effort is read when it is stored and its state fits its count. -/
@[simp] theorem commits_requiredEffort {effort : IntegrationEffort} :
    (requiredEffort effortId).Commits db effort later ↔
      (db.view effortId).effort = some effort ∧
        effort.state.validateForCount effort.failedCycles = .ok () ∧ db = later := by
  simp only [requiredEffort, commits_bind, commits_lookup, commits_ensure, commits_pure]
  constructor
  · rintro ⟨found, _, ⟨stored, rfl⟩, ⟨⟩, _, ⟨valid, rfl⟩, rfl, rfl⟩
    exact ⟨stored, valid, rfl⟩
  · rintro ⟨stored, valid, rfl⟩
    exact ⟨effort, db, ⟨stored, rfl⟩, (), db, ⟨valid, rfl⟩, rfl, rfl⟩

/-- The object format is that of the item's repository. -/
@[simp] theorem commits_itemObjectFormat {format : GitObjectFormat} :
    (itemObjectFormat itemId).Commits db format later ↔
      (∃ policy, db.policyOf itemId = some policy ∧ policy.objectFormat = format) ∧ db = later := by
  simp only [itemObjectFormat, commits_bind, commits_lookup, commits_pure]
  constructor
  · rintro ⟨policy, _, ⟨found, rfl⟩, same, rfl⟩
    exact ⟨⟨policy, found, same⟩, rfl⟩
  · rintro ⟨⟨policy, found, same⟩, rfl⟩
    exact ⟨policy, db, ⟨found, rfl⟩, same, rfl⟩

/-- The obligation is admitted by the state of the item's repository. -/
@[simp] theorem commits_requireItemObligation {done : Unit} :
    (requireItemObligation itemId).Commits db done later ↔
      (∃ policy, db.policyOf itemId = some policy ∧
        policy.operationState.requireObligation (.queueItem itemId) = .ok ()) ∧ db = later := by
  simp only [requireItemObligation, commits_bind, commits_lookup, commits_ensure]
  constructor
  · rintro ⟨policy, _, ⟨found, rfl⟩, admitted, rfl⟩
    exact ⟨⟨policy, found, admitted⟩, rfl⟩
  · rintro ⟨⟨policy, found, admitted⟩, rfl⟩
    exact ⟨policy, db, ⟨found, rfl⟩, admitted, rfl⟩

/-- The next cycle number is one more than the highest, within a byte. -/
@[simp] theorem commits_nextCycleNumber {next : Nat} :
    (nextCycleNumber effortId).Commits db next later ↔
      (db.view effortId).maxCycle + 1 = next ∧ next ≤ 255 ∧ db = later := by
  simp only [nextCycleNumber, commits_bind, commits_query, commits_require, commits_pure,
    Database.maxCycleNumber_eq]
  constructor
  · rintro ⟨found, _, ⟨rfl, rfl⟩, ⟨⟩, _, ⟨bound, rfl⟩, rfl, rfl⟩
    exact ⟨rfl, bound, rfl⟩
  · rintro ⟨rfl, bound, rfl⟩
    exact ⟨_, db, ⟨rfl, rfl⟩, (), db, ⟨bound, rfl⟩, rfl, rfl⟩

section Sequencing

variable {α : Type} {value : α}

/-- What follows a check gets the value that passed. -/
theorem commits_ensure_bind {β : Type} {passed : Except String β} {next : β → Tx α} :
    (ensure passed >>= next).Commits db value later ↔
      ∃ first, passed = .ok first ∧ (next first).Commits db value later := by
  simp [and_assoc]

/-- What follows reading an effort gets the stored row. -/
theorem commits_requiredEffort_bind {next : IntegrationEffort → Tx α} :
    (requiredEffort effortId >>= next).Commits db value later ↔
      ∃ effort, (db.view effortId).effort = some effort ∧
        effort.state.validateForCount effort.failedCycles = .ok () ∧
          (next effort).Commits db value later := by
  simp [and_assoc]

/-- What follows reading the object format gets that of the repository. -/
theorem commits_itemObjectFormat_bind {next : GitObjectFormat → Tx α} :
    (itemObjectFormat itemId >>= next).Commits db value later ↔
      ∃ policy, db.policyOf itemId = some policy ∧
        (next policy.objectFormat).Commits db value later := by
  simp only [commits_bind, commits_itemObjectFormat]
  constructor
  · rintro ⟨_, _, ⟨⟨policy, found, rfl⟩, rfl⟩, rest⟩
    exact ⟨policy, found, rest⟩
  · rintro ⟨policy, found, rest⟩
    exact ⟨_, _, ⟨⟨policy, found, rfl⟩, rfl⟩, rest⟩

/-- What follows the obligation runs when it is admitted. -/
theorem commits_requireItemObligation_bind {next : Unit → Tx α} :
    (requireItemObligation itemId >>= next).Commits db value later ↔
      (∃ policy, db.policyOf itemId = some policy ∧
        policy.operationState.requireObligation (.queueItem itemId) = .ok ()) ∧
        (next ()).Commits db value later := by
  simp only [commits_bind, commits_requireItemObligation]
  constructor
  · rintro ⟨_, _, ⟨admitted, rfl⟩, rest⟩
    exact ⟨admitted, rest⟩
  · rintro ⟨admitted, rest⟩
    exact ⟨(), _, ⟨admitted, rfl⟩, rest⟩

/-- What follows the next cycle number gets it within a byte. -/
theorem commits_nextCycleNumber_bind {next : Nat → Tx α} :
    (nextCycleNumber effortId >>= next).Commits db value later ↔
      (db.view effortId).maxCycle + 1 ≤ 255 ∧
        (next ((db.view effortId).maxCycle + 1)).Commits db value later := by
  simp only [commits_bind, commits_nextCycleNumber]
  constructor
  · rintro ⟨_, _, ⟨rfl, bound, rfl⟩, rest⟩
    exact ⟨bound, rest⟩
  · rintro ⟨bound, rest⟩
    exact ⟨_, _, ⟨rfl, bound, rfl⟩, rest⟩

end Sequencing

section Reads

variable {γ : Type} {observe : Database → γ}

/-- A check changes nothing. -/
theorem keeps_ensure {α : Type} {passed : Except String α} :
    (ensure passed).Keeps observe := by
  intro db value later commits
  rw [(commits_ensure.mp commits).2]

/-- To read an effort changes nothing. -/
theorem keeps_requiredEffort : (requiredEffort effortId).Keeps observe := by
  intro db value later commits
  rw [(commits_requiredEffort.mp commits).2.2]

/-- To read the object format changes nothing. -/
theorem keeps_itemObjectFormat : (itemObjectFormat itemId).Keeps observe := by
  intro db value later commits
  rw [(commits_itemObjectFormat.mp commits).2]

/-- To ask for the obligation changes nothing. -/
theorem keeps_requireItemObligation : (requireItemObligation itemId).Keeps observe := by
  intro db value later commits
  rw [(commits_requireItemObligation.mp commits).2]

end Reads

/-! ## Writes that no view shows -/

/-- Attempts are no part of the view. -/
theorem view_updateAttempts {chosen : Attempt → Bool} {change : Attempt → Attempt}
    {kept : ∀ row, (change row).id = row.id} :
    (updateAttempts chosen change kept).Keeps Database.view :=
  keeps_write fun _ => rfl

/-- Validation invocations are no part of the view. -/
theorem view_invalidateValidationInvocations {attemptId now : String} :
    (invalidateValidationInvocations attemptId now).Keeps Database.view :=
  keeps_write fun _ => rfl

/-- Cleanup debts are no part of the view. -/
theorem view_scheduleCleanup {debt : PrivateRefCleanupDebt} {differs : String} :
    (scheduleCleanup debt differs).Keeps Database.view := by
  refine keeps_bind keeps_query fun _ present _ _ => ?_
  cases present with
  | some stored => exact keeps_require
  | none => exact keeps_bind keeps_lookup fun _ _ _ _ => keeps_write fun _ => rfl

/-- Queue items are no part of the view. -/
theorem view_updateQueueItem {expected : QueueItem → Bool} {change : QueueItem → QueueItem}
    {kept : ∀ row, (change row).id = row.id} {lost : String} :
    (updateQueueItem itemId expected change kept lost).Keeps Database.view :=
  keeps_bind keeps_lookup fun _ _ _ _ => keeps_bind keeps_query fun _ _ _ _ =>
    keeps_bind keeps_require fun _ _ _ _ => keeps_write fun _ => rfl

/-- The projection to the queue item leaves the view. -/
theorem view_projectQueueState {effort : IntegrationEffort} {state : IntegrationEffortState} :
    (projectQueueState effort state).Keeps Database.view := by
  cases state <;> exact view_updateQueueItem

/-- Repositories are no part of the view. -/
theorem view_requireCheckout {targetSha : String} :
    (requireCheckout itemId targetSha).Keeps Database.view := by
  refine keeps_bind keeps_query fun _ item _ _ => ?_
  cases item with
  | none => exact keeps_pure
  | some item => exact keeps_write fun _ => rfl

/-- A moved item leaves the view. -/
theorem view_moveQueueItem {effort : IntegrationEffort} {targetSha lost : String} :
    (moveQueueItem effort targetSha lost).Keeps Database.view :=
  keeps_bind keeps_query fun _ _ _ _ => keeps_bind keeps_require fun _ _ _ _ =>
    keeps_write fun _ => rfl

/-- An integrated submission leaves the view. -/
theorem view_integrateLocalSubmission :
    (integrateLocalSubmission itemId).Keeps Database.view := by
  refine keeps_bind keeps_query fun _ submission _ _ => ?_
  cases submission with
  | none => exact keeps_pure
  | some submission =>
    exact keeps_bind keeps_query fun _ _ _ _ => keeps_bind keeps_query fun _ _ _ _ =>
      keeps_bind keeps_require fun _ _ _ _ => keeps_write fun _ => rfl

/-- A cancelled submission leaves the view. -/
theorem view_cancelLocalSubmission :
    (cancelLocalSubmission itemId).Keeps Database.view := by
  refine keeps_bind keeps_query fun _ submission _ _ => ?_
  cases submission with
  | none => exact keeps_pure
  | some submission =>
    exact keeps_bind keeps_query fun _ _ _ _ => keeps_bind keeps_query fun _ _ _ _ =>
      keeps_bind keeps_require fun _ _ _ _ => keeps_write fun _ => rfl

/-- Receipts of reviews are no part of the view. -/
theorem view_insertReviewReceipt {command : CandidateReviewCommand}
    {responder : ResponderIdentity} {receipt : CandidateReviewReceipt} :
    (insertReviewReceipt command responder receipt).Keeps Database.view :=
  keeps_bind keeps_lookup fun _ _ _ _ => keeps_write fun _ => rfl

/-- Receipts of answers are no part of the view. -/
theorem view_insertAnswerReceipt {command : AnswerCommand} {effort : IntegrationEffort}
    {responder : ResponderIdentity} {disposition : AnswerDisposition} {stamp : Stamp} :
    (insertAnswerReceipt command effort responder disposition stamp).Keeps Database.view :=
  keeps_bind keeps_lookup fun _ _ _ _ => keeps_write fun _ => rfl

/-! ## Row changes -/

/-- Nothing but the views of one effort changes. -/
def Confined (effortId : String) (db later : Database) : Prop :=
  ∀ other, other ≠ effortId → later.view other = db.view other

/-- What changes no view is confined to any effort. -/
theorem Confined.of_view (same : later.view = db.view) : Confined effortId db later :=
  fun other _ => congrFun same other

/-- Confined changes follow one another. -/
theorem Confined.trans {middle : Database} (first : Confined effortId db middle)
    (second : Confined effortId middle later) : Confined effortId db later :=
  fun other apart => (second other apart).trans (first other apart)

/-- The view has no events but recorded intents. -/
theorem view_appendEvent {effort : IntegrationEffort} {eventId eventType : String}
    {payload : EventPayload} {alert : Bool} (plain : ∀ intent, payload ≠ .intent intent) :
    (appendEvent effort eventId eventType payload alert).Keeps Database.view := by
  refine keeps_write fun state => ?_
  funext other
  cases payload with
  | intent intent => exact absurd rfl (plain intent)
  | fields | state | failure | responder =>
    simp [Database.view, Database.cyclesOf, DurableEvent.intentOf?]

/-- The event at the limit leaves the view. -/
theorem view_reportLimit {effort : IntegrationEffort} {state : IntegrationEffortState}
    {count : Nat} {stamp : Stamp} :
    (reportLimit effort state count stamp).Keeps Database.view :=
  keeps_ite (fun _ => view_appendEvent (by simp)) fun _ => keeps_pure

/-- The event of a failure leaves the view. -/
theorem view_reportFailure {effort : IntegrationEffort} {eventType : String}
    {failure : CycleFailure} {count : Nat} {stamp : Stamp} :
    (reportFailure effort eventType failure count stamp).Keeps Database.view :=
  keeps_ite (fun _ => view_appendEvent (by simp)) fun _ => keeps_pure

/-- The event of an accepted result adds its intent to the view of its effort. -/
theorem view_appendIntent {effort : IntegrationEffort} {eventId eventType : String}
    {intent : CandidateIntent} {alert : Bool} {done : Unit}
    (commits : (appendEvent effort eventId eventType (.intent intent) alert).Commits db done later) :
    Confined effort.id db later ∧ later.view effort.id =
      { db.view effort.id with intents := (db.view effort.id).intents ++ [intent] } := by
  obtain ⟨-, rfl⟩ := commits_write.mp commits
  constructor
  · intro other apart
    simp [Database.view, Database.cyclesOf, DurableEvent.intentOf?, apart.symm]
  · simp [Database.view, Database.cyclesOf, DurableEvent.intentOf?]

/-- Updating cycles shows in every view that has a chosen cycle. -/
theorem view_updateCycles {chosen : IntegrationCycle → Bool} {status : CycleStatus}
    {failure : Option CycleFailure} {changed : Nat}
    (commits : (updateCycles chosen status failure).Commits db changed later) (other : String) :
    later.view other = (db.view other).setCycles chosen status failure := by
  obtain ⟨-, rfl⟩ := commits_write.mp commits
  simp only [Database.view, Database.cyclesOf, EffortView.setCycles]
  rw [Table.select_update]
  exact fun _ => rfl

/-- An update of reviews is an update of those in the view. -/
theorem view_updateReviews {chosen : CandidateReviewRow → Bool} {status : ReviewStatus}
    {responder : Option ResponderIdentity} {reviewText : Option String} {changed : Nat}
    (commits : (updateReviews chosen status responder reviewText).Commits db changed later)
    (other : String) :
    later.view other = (db.view other).setReviews chosen status responder reviewText := by
  obtain ⟨-, rfl⟩ := commits_write.mp commits
  simp only [Database.view, Database.cyclesOf, EffortView.setReviews]
  rw [Table.select_update]
  exact fun _ => rfl

/-- An update of requests is an update of those in the view. -/
theorem view_updateGuidance {chosen : GuidanceRequest → Bool} {status : GuidanceStatus}
    {changed : Nat} (commits : (updateGuidance chosen status).Commits db changed later)
    (other : String) :
    later.view other = (db.view other).setGuidance chosen status := by
  obtain ⟨-, rfl⟩ := commits_write.mp commits
  simp only [Database.view, Database.cyclesOf, EffortView.setGuidance]
  rw [Table.select_update]
  exact fun _ => rfl

/-- A change of cycles that misses every cycle of an effort leaves its view. -/
theorem EffortView.setCycles_of_disjoint {view : EffortView} {chosen : IntegrationCycle → Bool}
    {status : CycleStatus} {failure : Option CycleFailure}
    (apart : ∀ row ∈ view.cycles, chosen row = false) :
    view.setCycles chosen status failure = view := by
  have same : view.cycles.map (Table.rewrite chosen fun row =>
      { row with status, failure := failure.or row.failure }) = view.cycles := by
    refine (List.map_congr_left fun row mem => ?_).trans (List.map_id _)
    exact Table.rewrite_of_not_chosen (by rw [apart row mem]; decide)
  unfold setCycles
  rw [same]

/-- An update that chooses no review of the view leaves it. -/
theorem EffortView.setReviews_of_disjoint {view : EffortView}
    {chosen : CandidateReviewRow → Bool} {status : ReviewStatus}
    {responder : Option ResponderIdentity} {reviewText : Option String}
    (apart : ∀ row ∈ view.reviews, chosen row = false) :
    view.setReviews chosen status responder reviewText = view := by
  have same : view.reviews.map (Table.rewrite chosen fun row => { row with
      status, responder := responder.or row.responder, reviewText := reviewText.or row.reviewText })
      = view.reviews := by
    refine (List.map_congr_left fun row mem => ?_).trans (List.map_id _)
    exact Table.rewrite_of_not_chosen (by rw [apart row mem]; decide)
  unfold setReviews
  rw [same]

/-- An update that chooses no request of the view leaves it. -/
theorem EffortView.setGuidance_of_disjoint {view : EffortView} {chosen : GuidanceRequest → Bool}
    {status : GuidanceStatus} (apart : ∀ row ∈ view.guidance, chosen row = false) :
    view.setGuidance chosen status = view := by
  have same : view.guidance.map (Table.rewrite chosen fun row => { row with status })
      = view.guidance := by
    refine (List.map_congr_left fun row mem => ?_).trans (List.map_id _)
    exact Table.rewrite_of_not_chosen (by rw [apart row mem]; decide)
  unfold setGuidance
  rw [same]

/-- Updating cycles that all belong to one effort is confined to it. -/
theorem confined_updateCycles {chosen : IntegrationCycle → Bool} {status : CycleStatus}
    {failure : Option CycleFailure} {changed : Nat}
    (commits : (updateCycles chosen status failure).Commits db changed later)
    (owned : ∀ row ∈ db.cycles, chosen row = true → row.effortId = effortId) :
    Confined effortId db later := by
  intro other apart
  rw [view_updateCycles commits, EffortView.setCycles_of_disjoint]
  intro row mem
  obtain ⟨stored, same⟩ := Database.mem_view_cycles.mp mem
  by_contra hit
  exact apart (same.symm.trans (owned row stored (by simpa using hit)))

/-- An update of the reviews of one effort is confined to it. -/
theorem confined_updateReviews {chosen : CandidateReviewRow → Bool} {status : ReviewStatus}
    {responder : Option ResponderIdentity} {reviewText : Option String} {changed : Nat}
    (commits : (updateReviews chosen status responder reviewText).Commits db changed later)
    (owned : ∀ row, chosen row = true → row.effortId = effortId) : Confined effortId db later := by
  intro other apart
  rw [view_updateReviews commits, EffortView.setReviews_of_disjoint]
  intro row mem
  obtain ⟨-, same⟩ := Database.mem_view_reviews.mp mem
  by_contra hit
  exact apart (same.symm.trans (owned row (by simpa using hit)))

/-- An update of the requests of one effort is confined to it. -/
theorem confined_updateGuidance {chosen : GuidanceRequest → Bool} {status : GuidanceStatus}
    {changed : Nat} (commits : (updateGuidance chosen status).Commits db changed later)
    (owned : ∀ row, chosen row = true → row.effortId = effortId) : Confined effortId db later := by
  intro other apart
  rw [view_updateGuidance commits, EffortView.setGuidance_of_disjoint]
  intro row mem
  obtain ⟨-, same⟩ := Database.mem_view_guidance.mp mem
  by_contra hit
  exact apart (same.symm.trans (owned row (by simpa using hit)))

/-- The cycles that `isCycleOf` chooses belong to its effort. -/
theorem effortId_of_isCycleOf {cycleId : String} {status : CycleStatus} {row : IntegrationCycle}
    (chosen : isCycleOf effortId cycleId status row = true) : row.effortId = effortId := by
  simp only [isCycleOf, Bool.and_eq_true, beq_iff_eq] at chosen
  exact chosen.1.2

/-- A new cycle joins the view of its effort, which had no active cycle and none of its number. -/
theorem spec_insertCycle {row : IntegrationCycle} {done : Unit}
    (commits : (insertCycle row).Commits db done later) :
    Confined row.effortId db later ∧ later.view row.effortId =
        { db.view row.effortId with cycles := (db.view row.effortId).cycles ++ [row] } ∧
      (∀ other ∈ (db.view row.effortId).cycles, other.cycleNumber ≠ row.cycleNumber ∧
        other.status.isActive = false) ∧
      ∀ other ∈ db.cycles, other.id ≠ row.id := by
  simp only [insertCycle, commits_query_bind, commits_require_bind, commits_lookup_bind,
    commits_write, Table.any_eq_false] at commits
  obtain ⟨numbered, active, cycles, inserted, -, rfl⟩ := commits
  refine ⟨?_, ?_, ?_, fun other mem => Table.fresh_of_insert? inserted mem⟩
  · intro other apart
    simp [Database.view, Database.cyclesOf, Table.select_of_insert? _ inserted, apart.symm]
  · simp [Database.view, Database.cyclesOf, Table.select_of_insert? _ inserted]
  · intro other mem
    obtain ⟨stored, same⟩ := Database.mem_view_cycles.mp mem
    have unnumbered := numbered other stored
    have idle := active other stored
    simp only [same, beq_self_eq_true, Bool.true_and] at unnumbered idle
    exact ⟨by simpa using unnumbered, idle⟩

/-- An inserted request is confined to its effort and appears in its view. -/
theorem spec_insertGuidance {row : GuidanceRequest} {done : Unit}
    (commits : (insertGuidance row).Commits db done later) :
    Confined row.effortId db later ∧ later.view row.effortId =
        { db.view row.effortId with guidance := (db.view row.effortId).guidance ++ [row] } ∧
      ∀ other ∈ (db.view row.effortId).guidance, other.status ≠ .open := by
  simp only [insertGuidance, commits_query_bind, commits_require_bind, commits_lookup_bind,
    commits_write, Table.any_eq_false] at commits
  obtain ⟨-, unopened, guidance, inserted, -, rfl⟩ := commits
  refine ⟨?_, ?_, ?_⟩
  · intro other apart
    simp [Database.view, Database.cyclesOf, Table.select_of_insert? _ inserted, apart.symm]
  · simp [Database.view, Database.cyclesOf, Table.select_of_insert? _ inserted]
  · intro other mem
    obtain ⟨stored, same⟩ := Database.mem_view_guidance.mp mem
    simpa [same] using unopened other stored

/-- An inserted review is confined to its effort and appears in its view. -/
theorem spec_insertReview {row : CandidateReviewRow} {done : Unit}
    (commits : (insertReview row).Commits db done later) :
    Confined row.effortId db later ∧ later.view row.effortId =
        { db.view row.effortId with reviews := (db.view row.effortId).reviews ++ [row] } ∧
      (∀ other ∈ (db.view row.effortId).reviews, other.status ≠ .required) ∧
      ∀ other ∈ db.reviews, other.id ≠ row.id := by
  simp only [insertReview, commits_query_bind, commits_require_bind, commits_lookup_bind,
    commits_write, Table.any_eq_false] at commits
  obtain ⟨-, unopened, reviews, inserted, -, rfl⟩ := commits
  refine ⟨?_, ?_, ?_, fun other mem => Table.fresh_of_insert? inserted mem⟩
  · intro other apart
    simp [Database.view, Database.cyclesOf, Table.select_of_insert? _ inserted, apart.symm]
  · simp [Database.view, Database.cyclesOf, Table.select_of_insert? _ inserted]
  · intro other mem
    obtain ⟨stored, same⟩ := Database.mem_view_reviews.mp mem
    simpa [same] using unopened other stored

/-- Recorded evidence replaces the evidence of its effort. -/
theorem spec_upsertEvidence {row : CandidateEvidence} {done : Unit}
    (commits : (upsertEvidence row).Commits db done later) :
    Confined row.effortId db later ∧
      later.view row.effortId = { db.view row.effortId with evidence := some row } := by
  simp only [upsertEvidence, commits_query_bind, commits_require_bind, commits_expect_bind,
    commits_write] at commits
  obtain ⟨-, -, -, evidence, inserted, -, rfl⟩ := commits
  constructor
  · intro other apart
    simp only [Database.view, Database.cyclesOf, EffortView.mk.injEq, true_and, and_true,
      Table.find?_of_insert? _ inserted, if_neg apart.symm, Table.find?_delete]
    cases found : db.evidence.find? other with
    | none => rfl
    | some stored =>
      have same : stored.effortId = other := (Table.find?_eq_some.mp found).2
      simp [Option.filter, same, apart]
  · simp [Database.view, Database.cyclesOf, Table.find?_of_insert? _ inserted]

/-- Deleted evidence is confined to its effort and gone from its view. -/
theorem spec_deleteEvidence {done : Unit} (commits : (deleteEvidence effortId).Commits db done later) :
    Confined effortId db later ∧
      later.view effortId = { db.view effortId with evidence := none } := by
  simp only [deleteEvidence, commits_query_bind, commits_require_bind, commits_write] at commits
  obtain ⟨-, -, rfl⟩ := commits
  constructor
  · intro other apart
    simp only [Database.view, Database.cyclesOf, EffortView.mk.injEq, true_and, and_true,
      Table.find?_delete]
    cases found : db.evidence.find? other with
    | none => rfl
    | some stored =>
      have same : stored.effortId = other := (Table.find?_eq_some.mp found).2
      simp [Option.filter, same, apart]
  · simp only [Database.view, Database.cyclesOf, EffortView.mk.injEq, true_and, and_true,
      Table.find?_delete]
    cases found : db.evidence.find? effortId with
    | none => rfl
    | some stored =>
      have same : stored.effortId = effortId := (Table.find?_eq_some.mp found).2
      simp [Option.filter, same]

/-- A definite rejection names the landing command that a direct effort released. -/
structure DefiniteLandingRejection.Names (rejection : DefiniteLandingRejection)
    (effort : IntegrationEffort) (landing : LandingUncertain) : Prop where
  uncertain : effort.state = .landingUncertain landing
  direct : effort.landingVariant = .direct
  effortId : rejection.effortId = effort.id
  commandId : rejection.commandId = landing.commandId
  expectedTargetSha : rejection.expectedTargetSha = landing.expectedTargetSha

/-- Landing authority is given up only to a definite rejection that names the landing. -/
theorem requireTargetMoveAuthority_eq_ok {effort : IntegrationEffort}
    {rejection : Option DefiniteLandingRejection}
    (held : effort.state.containsExternalLandingAuthority = true) :
    requireTargetMoveAuthority effort rejection = .ok () ↔
      ∃ released landing, rejection = some released ∧ released.Names effort landing := by
  unfold requireTargetMoveAuthority
  rw [if_neg (by rw [held]; decide)]
  constructor
  · intro passed
    split at passed
    · cases passed
    · rename_i released landing uncertain
      simp only [check_eq_ok, Bool.and_eq_true, beq_iff_eq] at passed
      obtain ⟨⟨⟨direct, same⟩, command⟩, target⟩ := passed
      exact ⟨released, landing, rfl, uncertain, direct, same, command, target⟩
    · cases passed
  · rintro ⟨released, landing, rfl, names⟩
    simp [names.uncertain, names.direct, names.effortId, names.commandId, names.expectedTargetSha]

/-- Without landing authority a target move takes no rejection. -/
theorem requireTargetMoveAuthority_of_free {effort : IntegrationEffort}
    {rejection : Option DefiniteLandingRejection}
    (free : effort.state.containsExternalLandingAuthority = false) :
    requireTargetMoveAuthority effort rejection = .ok () ↔ rejection = none := by
  unfold requireTargetMoveAuthority
  rw [if_pos free, check_eq_ok, Option.isNone_iff_eq_none]

/-- What a committed state update establishes about the view of its effort. -/
structure Writes (rejection : Option DefiniteLandingRejection) (before : EffortView)
    (row : IntegrationEffort) (state : IntegrationEffortState) (failedCycles : Nat)
    (after : EffortView) : Prop where
  stored : before.effort = some row
  written : after = before.setState state failedCycles
  authority : row.state.containsExternalLandingAuthority = true →
    state.containsExternalLandingAuthority = false →
      ∃ released landing, rejection = some released ∧ released.Names row landing
  valid : state.validateForCount failedCycles = .ok ()
  transition : transitionAllowed row.state.name state.name = true
  range : failedCycles ≤ 10
  limit : cycleLimitCheck state.name failedCycles = true
  payload : payloadCheck { row with state, failedCycles } = true
  related : after.Related { row with state, failedCycles }

/-- The row after a write. -/
theorem Writes.effort {rejection : Option DefiniteLandingRejection} {before after : EffortView}
    {row : IntegrationEffort} {state : IntegrationEffortState} {failedCycles : Nat}
    (writes : Writes rejection before row state failedCycles after) :
    after.effort = some { row with state, failedCycles } := by
  rw [writes.written, EffortView.setState, writes.stored, Option.map_some]

/-- The view of an effort whose row was rewritten. -/
theorem view_updateEffort {change : IntegrationEffort → IntegrationEffort}
    {kept : ∀ row, (change row).id = row.id} :
    ({ db with efforts := db.efforts.update (fun row => row.id == effortId) change kept } :
        Database).view effortId =
      { db.view effortId with effort := (db.view effortId).effort.map change } := by
  simp only [Database.view, Database.cyclesOf, Table.find?_update, EffortView.mk.injEq, and_true]
  cases found : db.efforts.find? effortId with
  | none => rfl
  | some row =>
    have same : row.id = effortId := (Table.find?_eq_some.mp found).2
    simp [same]

/-- Rewriting one effort leaves the views of the others. -/
theorem confined_updateEffort {change : IntegrationEffort → IntegrationEffort}
    {kept : ∀ row, (change row).id = row.id} :
    Confined effortId db
      { db with efforts := db.efforts.update (fun row => row.id == effortId) change kept } := by
  intro other apart
  simp only [Database.view, Database.cyclesOf, Table.find?_update, EffortView.mk.injEq, and_true]
  cases found : db.efforts.find? other with
  | none => rfl
  | some row =>
    have same : row.id = other := (Table.find?_eq_some.mp found).2
    simp [same, apart]

/-- The write of a state with the triggers and checks that it passed. -/
theorem writes_of_writeEffortState {effort row : IntegrationEffort} {state : IntegrationEffortState}
    {failedCycles : Nat} {done : Unit}
    (commits : (writeEffortState effort state failedCycles).Commits db done later)
    (stored : (db.view effort.id).effort = some row) :
    Confined effort.id db later ∧ later.view effort.id =
        (db.view effort.id).setState state failedCycles ∧
      transitionAllowed row.state.name state.name = true ∧ failedCycles ≤ 10 ∧
      cycleLimitCheck state.name failedCycles = true ∧
      payloadCheck { row with state, failedCycles } = true ∧
      (later.view effort.id).Related { row with state, failedCycles } := by
  have owned : row.id = effort.id := Database.id_of_view_effort stored
  simp only [writeEffortState, commits_lookup_bind, commits_require_bind, commits_write_bind,
    commits_query_bind, commits_require] at commits
  obtain ⟨old, found, transition, range, -, limit, payload, related, rfl⟩ := commits
  rw [Option.filter_eq_some_iff] at found
  obtain rfl : old = row := Option.some_inj.mp (found.1.symm.trans stored)
  exact ⟨confined_updateEffort, view_updateEffort, transition, range, limit, payload,
    (@Database.relatedState_iff _ _ { old with state, failedCycles } owned).mp related⟩

/-- The writes of a state update, with the checks before them. -/
theorem parts_of_updateState {effort : IntegrationEffort} {state : IntegrationEffortState}
    {failedCycles : Nat} {rejection : Option DefiniteLandingRejection} {done : Unit}
    (commits : (updateStateAndCountWithResolution effort state failedCycles rejection).Commits db
      done later) :
    (releasesLandingAuthority effort state = true →
      requireTargetMoveAuthority effort rejection = .ok ()) ∧
    state.validateForCount failedCycles = .ok () ∧
    (state.name ≠ .cancelled → ∃ policy, db.policyOf effort.itemId = some policy ∧
      policy.operationState.requireObligation (.queueItem effort.itemId) = .ok ()) ∧
    ∃ middle, (writeEffortState effort state failedCycles).Commits db () middle ∧
      (projectQueueState effort state).Commits middle done later := by
  simp only [updateStateAndCountWithResolution, commits_ensure_bind, commits_ite] at commits
  obtain ⟨⟨⟩, authority, ⟨⟩, valid, rest⟩ := commits
  refine ⟨fun releases => by rwa [if_pos releases] at authority, valid, ?_⟩
  obtain ⟨active, rest⟩ | ⟨ended, rest⟩ := rest
  · rw [commits_requireItemObligation_bind, commits_bind] at rest
    obtain ⟨admits, ⟨⟩, middle, write, project⟩ := rest
    exact ⟨fun _ => admits, middle, write, project⟩
  · rw [commits_bind] at rest
    obtain ⟨⟨⟩, middle, write, project⟩ := rest
    exact ⟨fun active => absurd active ended, middle, write, project⟩

/-- The state update of every operation: what it establishes about its effort. The row that is
written may differ from the effort that was read in columns other than its state and landing. -/
theorem writes_of_updateState {effort row : IntegrationEffort} {state : IntegrationEffortState}
    {failedCycles : Nat} {rejection : Option DefiniteLandingRejection} {done : Unit}
    (commits : (updateStateAndCountWithResolution effort state failedCycles rejection).Commits db
      done later)
    (stored : (db.view effort.id).effort = some row) (same : row.state = effort.state)
    (variant : row.landingVariant = effort.landingVariant) :
    Confined effort.id db later ∧
      Writes rejection (db.view effort.id) row state failedCycles (later.view effort.id) := by
  have owned : row.id = effort.id := Database.id_of_view_effort stored
  obtain ⟨authority, valid, -, middle, write, project⟩ := parts_of_updateState commits
  have projected : later.view = middle.view := view_projectQueueState project
  obtain ⟨confined, stateWritten, transition, range, limit, payload, related⟩ :=
    writes_of_writeEffortState write stored
  refine ⟨confined.trans (.of_view projected), ?_⟩
  rw [projected]
  refine ⟨stored, stateWritten, ?_, valid, transition, range, limit, payload, related⟩
  intro held released
  rw [same] at held
  obtain ⟨rejected, landing, given, names⟩ := (requireTargetMoveAuthority_eq_ok held).mp
    (authority (by rw [releasesLandingAuthority, held, released]; rfl))
  exact ⟨rejected, landing, given, same.trans names.uncertain, variant.trans names.direct,
    names.effortId.trans owned.symm, names.commandId, names.expectedTargetSha⟩

end Iq
