import Iq.Store.Operation

/-!
# The view of one effort

The control rows of one effort, read out of the database. The lifecycle of an effort is a
transition system on these views: what an operation does to the other tables, or to other efforts,
does not show. Each kind of row change has a lemma that says what it does to a view.
-/

namespace Iq

open Library

/-- What the control tables hold about one effort. -/
@[ext] structure EffortView where
  effort : Option IntegrationEffort
  cycles : List IntegrationCycle
  guidance : List GuidanceRequest
  evidence : Option CandidateEvidence
  reviews : List CandidateReviewRow
  debt : Option RunnerTerminationDebt
  /-- The builder intents of the event log, oldest first. -/
  intents : List CandidateIntent

/-- The builder intent that an event of an effort records. -/
def DurableEvent.intentOf? (effortId : String) (event : DurableEvent) : Option CandidateIntent :=
  match event.payload with
  | .intent intent => if event.effortId = effortId then some intent else none
  | _ => none

/-- The view of an effort in a database. -/
def Database.view (db : Database) (effortId : String) : EffortView where
  effort := db.efforts.find? effortId
  cycles := db.cyclesOf effortId
  guidance := db.guidance.select fun row => row.effortId == effortId
  evidence := db.evidence.find? effortId
  reviews := db.reviews.select fun row => row.effortId == effortId
  debt := db.terminationDebts.find? effortId
  intents := db.events.filterMap (DurableEvent.intentOf? effortId)

namespace EffortView

/-- The greatest cycle number of an effort, or zero. -/
def maxCycle (view : EffortView) : Nat :=
  (view.cycles.map IntegrationCycle.cycleNumber).max?.getD 0

/-- The view with another state and count written. -/
def setState (view : EffortView) (state : IntegrationEffortState) (failedCycles : Nat) :
    EffortView :=
  { view with effort := view.effort.map fun row => { row with state, failedCycles } }

/-- The view with the chosen cycles moved to a status. -/
def setCycles (view : EffortView) (chosen : IntegrationCycle → Bool) (status : CycleStatus)
    (failure : Option CycleFailure) : EffortView :=
  { view with
    cycles := view.cycles.map <| Table.rewrite chosen fun row =>
      { row with status, failure := failure.or row.failure } }

/-- The view with the chosen reviews moved to a status. -/
def setReviews (view : EffortView) (chosen : CandidateReviewRow → Bool) (status : ReviewStatus)
    (responder : Option ResponderIdentity) (reviewText : Option String) : EffortView :=
  { view with
    reviews := view.reviews.map <| Table.rewrite chosen fun row => { row with
      status, responder := responder.or row.responder, reviewText := reviewText.or row.reviewText } }

/-- The view with the chosen guidance requests moved to a status. -/
def setGuidance (view : EffortView) (chosen : GuidanceRequest → Bool) (status : GuidanceStatus) :
    EffortView :=
  { view with
    guidance := view.guidance.map <| Table.rewrite chosen fun row => { row with status } }

/-- The evidence that a released candidate needs: mechanical, migrated, or approved. -/
def Gated (view : EffortView) (row : IntegrationEffort) : Prop :=
  ∃ candidate, view.evidence = some candidate ∧
    Database.gatedCandidate? row.state = some candidate.candidateSha ∧
    (candidate.classification = .mechanical ∨
      (∃ schema, row.composition = .migratedPostRelease schema) ∨
      ∃ review ∈ view.reviews, Database.isApprovedReview row candidate review = true)

/-- The rows that a new state needs: `integration_effort_related_state_update` on a view. -/
def Related (view : EffortView) (row : IntegrationEffort) : Prop :=
  match row.state with
  | .agentLaunching value =>
    ∃ cycle ∈ view.cycles, cycle.id = value.cycleId ∧ cycle.status = .starting
  | .agentRunning value =>
    ∃ cycle ∈ view.cycles, cycle.id = value.cycleId ∧ cycle.status = .running
  | .candidateBuilding value =>
    (∃ cycle ∈ view.cycles, cycle.id = value.cycleId ∧ cycle.status = .resolved) ∧
      value.classification = row.composition.candidateClassification value.treeSha
  | .reviewRequired value =>
    (∃ candidate, view.evidence = some candidate ∧ candidate.candidateSha = value.candidateSha ∧
      candidate.classification = .semantic) ∧
    ∃ review ∈ view.reviews, review.id = value.reviewId ∧ review.attemptId = row.attemptId ∧
      review.cycleId = value.cycleId ∧ review.targetSha = row.targetSha ∧
      review.sourceSha = row.sourceSha ∧ review.candidateSha = value.candidateSha ∧
      review.status = .required
  | .candidateReady value =>
    ∃ candidate, view.evidence = some candidate ∧ candidate.candidateSha = value.candidateSha ∧
      match value.review with
      | .mechanical => candidate.classification = .mechanical
      | .approved reviewId => candidate.classification = .semantic ∧
        ∃ review ∈ view.reviews, review.id = reviewId ∧
          Database.isApprovedReview row candidate review = true
  | .validating _ | .landing _ | .landingUncertain _ | .integrated _ | .providerBlocked _ =>
    view.Gated row
  | .targetMovePending value =>
    ∃ candidate, view.evidence = some candidate ∧
      value.previous.candidateSha = some candidate.candidateSha
  | .guidanceRequired _ => ∃ request ∈ view.guidance, request.status = .open
  | .replacementPending _ | .agentReady _ | .infrastructureBlocked _ | .cycleLimitBlocked _
  | .cancelled _ => True

/-- The rows of a view carry the keys that the tables give them. -/
structure Keyed (view : EffortView) (effortId : String) : Prop where
  effort : ∀ row, view.effort = some row → row.id = effortId
  cycles : ∀ row ∈ view.cycles, row.effortId = effortId
  cycleIds : ∀ row ∈ view.cycles, ∀ other ∈ view.cycles, row.id = other.id → row = other
  guidance : ∀ row ∈ view.guidance, row.effortId = effortId
  evidence : ∀ row, view.evidence = some row → row.effortId = effortId
  reviews : ∀ row ∈ view.reviews, row.effortId = effortId
  reviewIds : ∀ row ∈ view.reviews, ∀ other ∈ view.reviews, row.id = other.id → row = other
  debt : ∀ row, view.debt = some row → row.effortId = effortId

end EffortView

namespace Database

variable {db : Database} {effortId : String}

/-- The effort of a view is the row of its id. -/
theorem view_effort : (db.view effortId).effort = db.efforts.find? effortId := rfl

/-- The evidence of a view is the row of its effort. -/
theorem view_evidence : (db.view effortId).evidence = db.evidence.find? effortId := rfl

/-- The debt of a view is the row of its effort. -/
theorem view_debt : (db.view effortId).debt = db.terminationDebts.find? effortId := rfl

/-- The highest cycle number is read off the view. -/
theorem maxCycleNumber_eq : db.maxCycleNumber effortId = (db.view effortId).maxCycle := rfl

/-- The cycles of a view are those of its effort. -/
theorem mem_view_cycles {row : IntegrationCycle} :
    row ∈ (db.view effortId).cycles ↔ row ∈ db.cycles ∧ row.effortId = effortId := by
  simp [view, cyclesOf]

/-- The requests of a view are those of its effort. -/
theorem mem_view_guidance {row : GuidanceRequest} :
    row ∈ (db.view effortId).guidance ↔ row ∈ db.guidance ∧ row.effortId = effortId := by
  simp [view]

/-- The reviews of a view are those of its effort. -/
theorem mem_view_reviews {row : CandidateReviewRow} :
    row ∈ (db.view effortId).reviews ↔ row ∈ db.reviews ∧ row.effortId = effortId := by
  simp [view]

/-- The effort of a view is stored. -/
theorem view_effort_eq_some {row : IntegrationEffort} :
    (db.view effortId).effort = some row ↔ row ∈ db.efforts ∧ row.id = effortId :=
  Table.find?_eq_some

/-- The effort of a view has its id. -/
theorem id_of_view_effort {row : IntegrationEffort}
    (stored : (db.view effortId).effort = some row) : row.id = effortId :=
  (view_effort_eq_some.mp stored).2

/-- All rows of a view are of its effort. -/
theorem view_keyed (db : Database) (effortId : String) : (db.view effortId).Keyed effortId where
  effort _ stored := id_of_view_effort stored
  cycles _ mem := (mem_view_cycles.mp mem).2
  cycleIds _ mem _ mem' same :=
    Table.eq_of_key (mem_view_cycles.mp mem).1 (mem_view_cycles.mp mem').1 same
  guidance _ mem := (mem_view_guidance.mp mem).2
  evidence _ stored := (Table.find?_eq_some.mp stored).2
  reviews _ mem := (mem_view_reviews.mp mem).2
  reviewIds _ mem _ mem' same :=
    Table.eq_of_key (mem_view_reviews.mp mem).1 (mem_view_reviews.mp mem').1 same
  debt _ stored := (Table.find?_eq_some.mp stored).2

/-- An approved review is of the effort it is read for. -/
theorem effortId_of_isApprovedReview {row : IntegrationEffort} {candidate : CandidateEvidence}
    {review : CandidateReviewRow} (approved : isApprovedReview row candidate review = true) :
    review.effortId = row.id := by
  simp only [isApprovedReview, Bool.and_eq_true, beq_iff_eq] at approved
  exact approved.1.1.1.1.1.1

/-- A search for an approved review finds one in the view of its effort. -/
theorem any_approved_iff {row : IntegrationEffort} {candidate : CandidateEvidence} :
    db.reviews.any (isApprovedReview row candidate) = true ↔
      ∃ review ∈ (db.view row.id).reviews, isApprovedReview row candidate review = true := by
  simp only [Table.any_eq_true, mem_view_reviews]
  constructor
  · rintro ⟨review, mem, approved⟩
    exact ⟨review, ⟨mem, effortId_of_isApprovedReview approved⟩, approved⟩
  · rintro ⟨review, ⟨mem, -⟩, approved⟩
    exact ⟨review, mem, approved⟩

/-- A search for a cycle of an effort in a status finds one in the view of the effort. -/
theorem any_cycle_iff {cycleId : String} {status : CycleStatus} :
    (db.cycles.any fun cycle => cycle.effortId == effortId && cycle.id == cycleId &&
        cycle.status == status) = true ↔
      ∃ cycle ∈ (db.view effortId).cycles, cycle.id = cycleId ∧ cycle.status = status := by
  simp only [Table.any_eq_true, mem_view_cycles, Bool.and_eq_true, beq_iff_eq]
  constructor
  · rintro ⟨cycle, mem, ⟨owned, same⟩, active⟩
    exact ⟨cycle, ⟨mem, owned⟩, same, active⟩
  · rintro ⟨cycle, ⟨mem, owned⟩, same, active⟩
    exact ⟨cycle, mem, ⟨owned, same⟩, active⟩

/-- The evidence check on a released candidate reads the view of its effort. -/
theorem gated_iff {row : IntegrationEffort} :
    ((db.evidence.find? row.id).any fun candidate =>
      some candidate.candidateSha == gatedCandidate? row.state &&
        (candidate.classification == .mechanical ||
          (match row.composition with
            | .migratedPostRelease _ => true
            | _ => false) ||
          db.reviews.any (isApprovedReview row candidate))) = true ↔
      (db.view row.id).Gated row := by
  have migrated : (match row.composition with
      | .migratedPostRelease _ => true
      | _ => false) = true ↔ ∃ schema, row.composition = .migratedPostRelease schema := by
    cases row.composition <;> simp
  simp only [Option.any_eq_true, Bool.and_eq_true, Bool.or_eq_true, beq_iff_eq, migrated,
    any_approved_iff, EffortView.Gated, or_assoc, eq_comm (a := some _) (b := gatedCandidate? _)]
  rfl

/-- The trigger on related rows reads the view of the effort only. -/
theorem relatedState_iff {row : IntegrationEffort} (owned : row.id = effortId) :
    db.relatedState row = true ↔ (db.view effortId).Related row := by
  subst owned
  unfold relatedState EffortView.Related
  cases same : row.state with
  | agentLaunching | agentRunning => exact any_cycle_iff
  | candidateBuilding => simp only [Bool.and_eq_true, any_cycle_iff, beq_iff_eq]
  | validating | landing | landingUncertain | integrated | providerBlocked =>
    have gated := @gated_iff db row
    rw [same] at gated
    exact gated
  | replacementPending | agentReady | infrastructureBlocked | cycleLimitBlocked | cancelled =>
    simp only
  | guidanceRequired =>
    simp only [Table.any_eq_true, mem_view_guidance, Bool.and_eq_true, beq_iff_eq, and_assoc]
  | targetMovePending =>
    simp only [Option.any_eq_true, beq_iff_eq, view_evidence,
      eq_comm (a := some _) (b := ResumeState.candidateSha _)]
  | reviewRequired =>
    simp only [Bool.and_eq_true, Option.any_eq_true, Table.any_eq_true, mem_view_reviews,
      beq_iff_eq, view_evidence]
    grind
  | candidateReady value =>
    obtain ⟨cycleId, candidateSha, review⟩ := value
    cases review with
    | mechanical => simp only [Bool.and_eq_true, Option.any_eq_true, beq_iff_eq, view_evidence]
    | approved reviewId =>
      simp only [Bool.and_eq_true, Option.any_eq_true, Table.any_eq_true, mem_view_reviews,
        beq_iff_eq, view_evidence]
      grind [effortId_of_isApprovedReview]

end Database

end Iq
