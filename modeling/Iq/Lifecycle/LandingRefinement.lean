import Iq.Lifecycle.Refinement

/-!
# Landing, review and cancellation refine the lifecycle

The operations that move a candidate to its target or away from it, decide its review, end an
effort, create one, or replace its attempt.
-/

namespace Iq

open Library Library.Transaction

variable {db later : Database} {effortId : String} {effort row : IntegrationEffort}
  {state : IntegrationEffortState} {stamp : Stamp}

/-! ## Landing -/

/-- A committed integration is a step of the effort. -/
theorem markIntegrated_refines {landedSha remoteTargetSha : String} {done : Unit}
    (commits : (markIntegrated effortId landedSha remoteTargetSha stamp).Commits db done later) :
    Refines (.markIntegrated effortId landedSha remoteTargetSha stamp) effortId db later := by
  simp only [markIntegrated, effortObjectFormat, commits_requiredEffort_bind,
    commits_itemObjectFormat_bind, commits_ensure_bind, commits_lookup_bind,
    commits_requireItemObligation_bind, commits_expect_bind] at commits
  obtain ⟨effort, stored, -, -, -, ⟨⟩, -, ⟨⟩, -, item, -, -, candidateSha, landed, rest⟩ := commits
  obtain rfl := Database.id_of_view_effort stored
  obtain ⟨_, first, attempts, rest⟩ := commits_bind.mp rest
  obtain ⟨⟨⟩, second, update, rest⟩ := commits_bind.mp rest
  obtain ⟨⟨⟩, third, cleanup, rest⟩ := commits_bind.mp rest
  obtain ⟨⟨⟩, fourth, submission, rest⟩ := commits_bind.mp rest
  obtain ⟨_, fifth, checkout, event⟩ := commits_bind.mp rest
  have before : first.view = db.view := view_updateAttempts attempts
  have after : later.view = second.view :=
    (((view_appendEvent (by simp) event).trans (view_requireCheckout checkout)).trans
      (view_integrateLocalSubmission submission)).trans (view_scheduleCleanup cleanup)
  obtain ⟨confined, writes⟩ := writes_of_updateState update (by rw [before]; exact stored) rfl rfl
  rw [before, ← after] at writes
  exact ⟨((Confined.of_view before).trans confined).trans (.of_view after),
    .inr (.integrate landed writes)⟩

/-! ## Target movement -/

/-- Superseding the open review of a moving effort. -/
theorem spec_supersedeReview {review : CandidateReviewRequired} {targetSha now : String}
    {done : Unit} (commits : (supersedeReview effort review targetSha now).Commits db done later)
    (waiting : effort.state = .reviewRequired review) :
    Confined effort.id db later ∧
      later.view effort.id = (db.view effort.id).supersedeReview effort := by
  obtain ⟨_, first, reviews, rest⟩ := commits_bind.mp commits
  rw [commits_require_bind] at rest
  obtain ⟨_, second, cycles, rest⟩ := commits_bind.mp rest.2
  rw [commits_require_bind] at rest
  obtain ⟨⟨⟩, third, invalidate, rest⟩ := commits_bind.mp rest.2
  obtain ⟨_, fourth, checkout, rest⟩ := commits_bind.mp rest
  obtain ⟨-, rfl⟩ := commits_require.mp rest
  have same : fourth.view = second.view :=
    (view_requireCheckout checkout).trans (view_invalidateValidationInvocations invalidate)
  constructor
  · refine ((confined_updateReviews reviews ?_).trans
      (confined_updateCycles cycles fun _ _ => effortId_of_isCycleOf)).trans (.of_view same)
    intro row chosen
    simp only [Bool.and_eq_true, beq_iff_eq] at chosen
    exact chosen.1.1.1.2
  · rw [same, view_updateCycles cycles, view_updateReviews reviews, EffortView.supersedeReview,
      waiting]

/-- An open review is superseded with its cycle, in the view of its effort. -/
theorem spec_supersedeOpenReview {targetSha now : String} {done : Unit}
    (commits : (supersedeOpenReview effort targetSha now).Commits db done later) :
    Confined effort.id db later ∧
      later.view effort.id = (db.view effort.id).supersedeReview effort := by
  unfold supersedeOpenReview at commits
  split at commits
  · exact spec_supersedeReview commits ‹_›
  · rename_i other
    obtain ⟨-, rfl⟩ := commits_pure.mp commits
    refine ⟨.of_view rfl, ?_⟩
    unfold EffortView.supersedeReview
    split
    · exact absurd ‹_› (other _)
    · rfl

/-- A committed move of the target is a step of the effort. -/
theorem beginTargetMoveWithResolution_refines {targetSha : String}
    {rejection : Option DefiniteLandingRejection} {done : Unit}
    (commits : (beginTargetMoveWithResolution effortId targetSha rejection stamp).Commits db done
      later) :
    Refines (.beginTargetMove effortId targetSha rejection stamp) effortId db later := by
  simp only [beginTargetMoveWithResolution, effortObjectFormat, commits_requiredEffort_bind,
    commits_itemObjectFormat_bind, commits_ensure_bind] at commits
  obtain ⟨effort, stored, -, -, -, ⟨⟩, -, rest⟩ := commits
  obtain rfl := Database.id_of_view_effort stored
  split at rest
  · obtain ⟨-, rfl⟩ := commits_require.mp rest
    exact .of_view rfl
  · simp only [commits_ensure_bind, commits_require_bind, commits_expect_bind,
      ResumeState.capture?_eq_some] at rest
    obtain ⟨⟨⟩, -, movable, previous, captured, rest⟩ := rest
    obtain ⟨⟨⟩, first, supersede, rest⟩ := commits_bind.mp rest
    obtain ⟨_, second, attempts, rest⟩ := commits_bind.mp rest
    rw [commits_require_bind] at rest
    obtain ⟨⟨⟩, third, update, rest⟩ := commits_bind.mp rest.2
    obtain ⟨⟨⟩, fourth, move, event⟩ := commits_bind.mp rest
    obtain ⟨supersedeConfined, superseded⟩ := spec_supersedeOpenReview supersede
    have before : second.view = first.view := view_updateAttempts attempts
    have after : later.view = third.view :=
      (view_appendEvent (by simp) event).trans (view_moveQueueItem move)
    obtain ⟨confined, writes⟩ := writes_of_updateState update
      (by rw [before, superseded, EffortView.supersedeReview_effort]; exact stored) rfl rfl
    rw [before, superseded, ← after] at writes
    exact ⟨((supersedeConfined.trans (.of_view before)).trans confined).trans (.of_view after),
      .inr (.moveTarget movable captured.symm writes)⟩

/-- Before a recomposition the view stays. -/
theorem prepareTargetRecomposition_keeps {targetSha : String}
    {rejection : Option DefiniteLandingRejection} :
    (prepareTargetRecompositionWithResolution effortId targetSha rejection).Keeps
      Database.view := by
  refine keeps_bind keeps_requiredEffort fun _ effort _ _ => keeps_bind keeps_itemObjectFormat
    fun _ _ _ _ => keeps_bind keeps_ensure fun _ _ _ _ => keeps_bind ?_ fun _ _ _ _ => ?_
  · exact keeps_ite (fun _ => keeps_pure) fun _ => keeps_ensure
  · exact keeps_bind keeps_expect fun _ _ _ _ => keeps_bind keeps_require fun _ _ _ _ =>
      keeps_bind keeps_expect fun _ _ _ _ => keeps_bind keeps_lookup fun _ _ _ _ =>
        keeps_bind keeps_lookup fun _ _ _ _ => keeps_bind keeps_require fun _ _ _ _ =>
          view_scheduleCleanup

/-- A committed recomposition is confined to its effort and a step of it. -/
theorem completeTargetRecomposition_steps {targetSha : String}
    {composition : CompositionEvidence} {done : Unit}
    (commits : (completeTargetRecomposition effortId targetSha composition stamp).Commits db done
      later) :
    Confined effortId db later ∧ (db.view effortId).maxCycle + 1 ≤ 255 ∧
      EffortStep (.completeTargetRecomposition effortId targetSha composition stamp)
        (db.view effortId) (later.view effortId) := by
  simp only [completeTargetRecomposition, effortObjectFormat, commits_requiredEffort_bind,
    commits_itemObjectFormat_bind, commits_ensure_bind, commits_expect_bind, commits_require_bind,
    commits_lookup_bind, commits_query_bind, IntegrationEffortState.targetMovePending?_eq_some]
    at commits
  obtain ⟨effort, stored, -, policy, -, ⟨⟩, -, ⟨⟩, composed, pending, moving, -, -, -, -, -, -, -,
    rest⟩ := commits
  obtain rfl := Database.id_of_view_effort stored
  obtain ⟨_, first, cycles, rest⟩ := commits_bind.mp rest
  obtain ⟨⟨⟩, second, delete, rest⟩ := commits_bind.mp rest
  obtain ⟨_, third, reviews, rest⟩ := commits_bind.mp rest
  obtain ⟨⟨⟩, fourth, invalidate, rest⟩ := commits_bind.mp rest
  obtain ⟨_, fifth, attempts, rest⟩ := commits_bind.mp rest
  obtain ⟨⟨⟩, sixth, rewrite, rest⟩ := commits_bind.mp rest
  rw [commits_nextCycleNumber_bind] at rest
  obtain ⟨room, rest⟩ := rest
  obtain ⟨⟨⟩, seventh, update, rest⟩ := commits_bind.mp rest
  obtain ⟨⟨⟩, eighth, move, event⟩ := commits_bind.mp rest
  obtain ⟨deleteConfined, deleted⟩ := spec_deleteEvidence delete
  have cleared : fifth.view = third.view :=
    (view_updateAttempts attempts).trans (view_invalidateValidationInvocations invalidate)
  have after : later.view = seventh.view :=
    (view_appendEvent (by simp) event).trans (view_moveQueueItem move)
  have recomposed : sixth.view effort.id =
      (db.view effort.id).recompose effort.id targetSha composition := by
    rw [← (commits_write.mp rewrite).2, view_updateEffort, cleared, view_updateReviews reviews,
      deleted, view_updateCycles cycles]
    rfl
  have rewritten : Confined effort.id fifth sixth := by
    rw [← (commits_write.mp rewrite).2]
    exact confined_updateEffort
  have number : (sixth.view effort.id).maxCycle = (db.view effort.id).maxCycle := by
    rw [recomposed]
    exact EffortView.maxCycle_setCycles
  have current : (sixth.view effort.id).effort = some { effort with targetSha, composition } := by
    rw [recomposed, EffortView.recompose, stored]
    rfl
  obtain ⟨confined, writes⟩ := writes_of_updateState update current rfl rfl
  rw [number, recomposed, ← after] at writes
  rw [number] at room
  refine ⟨?_, room, .recompose stored moving composed writes⟩
  have owned : ∀ row : CandidateReviewRow,
      (row.effortId == effort.id && row.status == .required) = true → row.effortId = effort.id := by
    intro row chosen
    simp only [Bool.and_eq_true, beq_iff_eq] at chosen
    exact chosen.1
  have ownedCycle : ∀ row ∈ db.cycles,
      (row.effortId == effort.id && row.status == .resolved) = true → row.effortId = effort.id := by
    intro row _ chosen
    simp only [Bool.and_eq_true, beq_iff_eq] at chosen
    exact chosen.1
  exact ((((((confined_updateCycles cycles ownedCycle).trans deleteConfined).trans
    (confined_updateReviews reviews owned)).trans (.of_view cleared)).trans rewritten).trans
    confined).trans (.of_view after)

/-- A committed recomposition is a step of the effort. -/
theorem completeTargetRecomposition_refines {targetSha : String}
    {composition : CompositionEvidence} {done : Unit}
    (commits : (completeTargetRecomposition effortId targetSha composition stamp).Commits db done
      later) :
    Refines (.completeTargetRecomposition effortId targetSha composition stamp) effortId db
      later := by
  have steps := completeTargetRecomposition_steps commits
  exact ⟨steps.1, .inr steps.2.2⟩

/-- To authorize a definite rejection leaves the view. -/
theorem authorizeDefiniteLandingRejection_keeps {commandId expectedTargetSha : String} :
    (authorizeDefiniteLandingRejection effortId commandId expectedTargetSha).Keeps Database.view :=
  keeps_bind keeps_ensure fun _ _ _ _ => keeps_bind keeps_requiredEffort fun _ _ _ _ =>
    keeps_bind keeps_itemObjectFormat fun _ _ _ _ => keeps_bind keeps_ensure fun _ _ _ _ =>
      keeps_bind keeps_ensure fun _ _ _ _ => keeps_pure

/-! ## Review -/

/-- A review command is applied exactly when its responder is authorised, its texts are well
formed and it names the open review. -/
theorem CandidateReviewCommand.disposition_eq_applied {command : CandidateReviewCommand}
    {targetRef : TargetRef} {format : GitObjectFormat} {responder : ResponderIdentity}
    {daemonUid : Nat} :
    command.disposition effort targetRef format responder daemonUid = .applied ↔
      isAuthorizedResponder effort responder daemonUid = true ∧
        candidateReviewCommandIsMalformed command format = false ∧
        command.decision.text?.any isReviewTextMalformed = false ∧
        ∃ review, effort.state = .reviewRequired review ∧
          command.matchesReview effort targetRef review = true := by
  have named : effort.state.reviewRequired?.any (command.matchesReview effort targetRef) = true ↔
      ∃ review, effort.state = .reviewRequired review ∧
        command.matchesReview effort targetRef review = true := by
    simp only [Option.any_eq_true, IntegrationEffortState.reviewRequired?_eq_some]
  rw [← named]
  unfold disposition
  split_ifs <;> grind

/-- The choice of a decided review belongs to its effort. -/
theorem effortId_of_isOpenReview {reviewId : String} (row : CandidateReviewRow)
    (chosen : EffortView.isOpenReview effortId reviewId row = true) : row.effortId = effortId := by
  simp only [EffortView.isOpenReview, Bool.and_eq_true, beq_iff_eq] at chosen
  exact chosen.1.2

/-- An applied decision is confined to its effort and a step of it. -/
theorem applyReview_steps {command : CandidateReviewCommand} {review : CandidateReviewRequired}
    {responder : ResponderIdentity} {daemonUid : Nat} {next : IntegrationEffortState}
    (decides : Decides command effort review responder daemonUid)
    (stored : (db.view effort.id).effort = some effort)
    (commits : (applyReview command effort review responder stamp).Commits db next later) :
    Confined effort.id db later ∧
      EffortStep (.reviewCandidate command effort.id responder daemonUid stamp)
        (db.view effort.id) (later.view effort.id) := by
  cases decision : command.decision with
  | approve text =>
    simp only [applyReview, decision, commits_pure_bind] at commits
    obtain ⟨_, first, reviews, rest⟩ := commits_bind.mp commits
    rw [commits_require_bind] at rest
    simp only [reduceCtorEq, if_false] at rest
    obtain ⟨⟨⟩, second, update, rest⟩ := commits_bind.mp rest.2
    obtain ⟨⟨⟩, third, event, rest⟩ := commits_bind.mp rest
    obtain ⟨-, rfl⟩ := commits_pure.mp rest
    have reviewsView := view_updateReviews reviews effort.id
    have same : third.view = second.view := view_appendEvent (by simp) event
    obtain ⟨confined, writes⟩ :=
      writes_of_updateState update (by rw [reviewsView]; exact stored) rfl rfl
    rw [reviewsView, ← same] at writes
    exact ⟨((confined_updateReviews reviews effortId_of_isOpenReview).trans confined).trans
      (.of_view same), .approve decides decision writes⟩
  | requestChanges text =>
    simp only [applyReview, decision, commits_nextCycleNumber_bind, if_true] at commits
    obtain ⟨_, first, reviews, rest⟩ := commits_bind.mp commits.2
    rw [commits_require_bind] at rest
    obtain ⟨⟨⟩, second, delete, rest⟩ := commits_bind.mp rest.2
    obtain ⟨⟨⟩, third, invalidate, rest⟩ := commits_bind.mp rest
    obtain ⟨_, fourth, attempts, rest⟩ := commits_bind.mp rest
    obtain ⟨⟨⟩, fifth, update, rest⟩ := commits_bind.mp rest
    obtain ⟨⟨⟩, sixth, event, rest⟩ := commits_bind.mp rest
    obtain ⟨-, rfl⟩ := commits_pure.mp rest
    have reviewsView := view_updateReviews reviews effort.id
    obtain ⟨deleteConfined, deleted⟩ := spec_deleteEvidence delete
    have cleared : fourth.view = second.view :=
      (view_updateAttempts attempts).trans (view_invalidateValidationInvocations invalidate)
    have same : sixth.view = fifth.view := view_appendEvent (by simp) event
    obtain ⟨confined, writes⟩ := writes_of_updateState update
      (by rw [cleared, deleted, reviewsView]; exact stored) rfl rfl
    rw [cleared, deleted, reviewsView, ← same] at writes
    refine ⟨?_, .requestChanges decides decision writes⟩
    exact ((((confined_updateReviews reviews effortId_of_isOpenReview).trans
      deleteConfined).trans (.of_view cleared)).trans confined).trans (.of_view same)

/-- A committed review is a step of the effort. -/
theorem reviewCandidateForEffort_refines {command : CandidateReviewCommand}
    {responder : ResponderIdentity} {daemonUid : Nat} {receipt : CandidateReviewReceipt}
    (commits : (reviewCandidateForEffort command effortId responder daemonUid stamp).Commits db
      receipt later) :
    Refines (.reviewCandidate command effortId responder daemonUid stamp) effortId db later := by
  simp only [reviewCandidateForEffort, commits_query_bind] at commits
  split at commits
  · simp only [commits_ite, commits_pure] at commits
    obtain ⟨-, -, rfl⟩ | ⟨-, -, rfl⟩ := commits <;> exact .of_view rfl
  · simp only [effortObjectFormat, commits_requiredEffort_bind, commits_lookup_bind,
      commits_itemObjectFormat_bind, commits_ite, commits_expect_bind,
      IntegrationEffortState.reviewRequired?_eq_some] at commits
    obtain ⟨effort, stored, -, item, -, policy, -, ⟨applies, review, waiting, rest⟩ | ⟨-, rest⟩⟩ :=
      commits
    · obtain rfl := Database.id_of_view_effort stored
      obtain ⟨next, middle, apply, insert⟩ := commits_bind.mp rest
      have same : later.view = middle.view := view_insertReviewReceipt insert
      obtain ⟨authorized, -, wellFormed, named, open', matching⟩ :=
        CandidateReviewCommand.disposition_eq_applied.mp applies
      obtain rfl : review = named := by
        rw [waiting] at open'
        cases open'
        rfl
      have steps := applyReview_steps ⟨waiting, authorized, wellFormed, _, matching⟩ stored apply
      exact ⟨steps.1.trans (.of_view same), .inr (same ▸ steps.2)⟩
    · exact .of_view (view_insertReviewReceipt rest)

/-! ## Cancellation -/

/-- The runner of an effort is recorded as its debt, if it has one. -/
theorem spec_recordTermination {done : Unit}
    (commits : (recordTermination effort).Commits db done later) :
    Confined effort.id db later ∧ ∃ authority debt, terminationAuthority effort.state = .ok authority ∧
      (authority = none ∧ debt = (db.view effort.id).debt ∨
        (db.view effort.id).debt = none ∧ ∃ runner, authority = some runner ∧
          debt = some ⟨effort.id, runner⟩) ∧
      later.view effort.id = { db.view effort.id with debt } := by
  simp only [recordTermination, commits_ensure_bind] at commits
  obtain ⟨authority, given, rest⟩ := commits
  split at rest
  · obtain ⟨-, rfl⟩ := commits_pure.mp rest
    exact ⟨.of_view rfl, none, _, given, .inl ⟨rfl, rfl⟩, rfl⟩
  · rename_i runner
    simp only [commits_lookup_bind, commits_write] at rest
    obtain ⟨debts, inserted, -, rfl⟩ := rest
    refine ⟨?_, some runner, some ⟨effort.id, runner⟩, given, .inr ⟨?_, runner, rfl, rfl⟩, ?_⟩
    · intro other apart
      simp [Database.view, Database.cyclesOf, Table.find?_of_insert? _ inserted, apart.symm]
    · rw [Database.view_debt, Table.find?_eq_none]
      exact fun row mem => Table.fresh_of_insert? inserted mem
    · simp [Database.view, Database.cyclesOf, Table.find?_of_insert? _ inserted]

/-- A committed cancellation is a step of the effort. -/
theorem cancel_refines {actor reason : String} {done : Unit}
    (commits : (cancel effortId actor reason stamp).Commits db done later) :
    Refines (.cancel effortId actor reason stamp) effortId db later := by
  simp only [cancel, commits_ensure_bind, commits_requiredEffort_bind, commits_lookup_bind,
    commits_require_bind, commits_ite, commits_pure] at commits
  obtain ⟨⟨⟩, -, ⟨⟩, -, effort, stored, -, item, -, free, ⟨active, rest⟩ | ⟨-, -, rfl⟩⟩ := commits
  · obtain rfl := Database.id_of_view_effort stored
    obtain ⟨⟨⟩, first, terminate, rest⟩ := commits_bind.mp rest
    obtain ⟨_, second, cycles, rest⟩ := commits_bind.mp rest
    obtain ⟨_, third, guidance, rest⟩ := commits_bind.mp rest
    obtain ⟨_, fourth, reviews, rest⟩ := commits_bind.mp rest
    obtain ⟨_, fifth, attempts, rest⟩ := commits_bind.mp rest
    rw [commits_require_bind] at rest
    obtain ⟨⟨⟩, sixth, submission, rest⟩ := commits_bind.mp rest.2
    obtain ⟨terminateConfined, authority, debt, given, owed, terminated⟩ :=
      spec_recordTermination terminate
    have ended : sixth.view = fourth.view :=
      (view_cancelLocalSubmission submission).trans (view_updateAttempts attempts)
    have closed : sixth.view effort.id =
        { (db.view effort.id).closeRows effort.id with debt } := by
      rw [ended, view_updateReviews reviews, view_updateGuidance guidance,
        view_updateCycles cycles, terminated]
      rfl
    obtain ⟨confined, writes⟩ := writes_then_event rest (by rw [closed]; exact stored) (by simp)
    rw [closed] at writes
    simp only [itemContainsExternalLandingAuthority, Bool.or_eq_false_iff] at free
    refine ⟨?_, .inr (.cancel free.2 active ⟨authority, given, owed⟩ writes)⟩
    have ownedCycle : ∀ row ∈ first.cycles,
        (row.effortId == effort.id && row.status.isActive) = true → row.effortId = effort.id := by
      intro row _ chosen
      simp only [Bool.and_eq_true, beq_iff_eq] at chosen
      exact chosen.1
    have ownedGuidance : ∀ row : GuidanceRequest,
        (row.effortId == effort.id && row.status == .open) = true → row.effortId = effort.id := by
      intro row chosen
      simp only [Bool.and_eq_true, beq_iff_eq] at chosen
      exact chosen.1
    have ownedReview : ∀ row : CandidateReviewRow,
        (row.effortId == effort.id && row.status == .required) = true →
          row.effortId = effort.id := by
      intro row chosen
      simp only [Bool.and_eq_true, beq_iff_eq] at chosen
      exact chosen.1
    exact (((((terminateConfined.trans (confined_updateCycles cycles ownedCycle)).trans
      (confined_updateGuidance guidance ownedGuidance)).trans
      (confined_updateReviews reviews ownedReview)).trans (.of_view ended)).trans confined)
  · exact .of_view rfl

/-- The debt that a reconciliation reads belongs to a cancelled effort. -/
theorem commits_cancelledDebt {found : Option RunnerTerminationAuthority}
    {authority : RunnerTerminationAuthority}
    (commits : (cancelledDebt effortId).Commits db found later) (owed : found = some authority) :
    db = later ∧ ∃ effort cancelled, (db.view effortId).effort = some effort ∧
      effort.state = .cancelled cancelled ∧ (db.view effortId).debt = some ⟨effortId, authority⟩ := by
  obtain ⟨rfl, rfl⟩ := commits_query.mp commits
  simp only [Option.bind_eq_some_iff, Option.filter_eq_some_iff, Option.map_eq_some_iff,
    beq_iff_eq] at owed
  obtain ⟨effort, ⟨stored, named⟩, ⟨owner, _⟩, debt, rfl⟩ := owed
  obtain rfl : owner = effortId := (Table.find?_eq_some.mp debt).2
  refine ⟨rfl, effort, ?_⟩
  cases same : effort.state with
  | cancelled value => exact ⟨value, stored, rfl, debt⟩
  | _ => simp [same, IntegrationEffortState.name] at named

/-- A deleted debt is a step of the effort. -/
theorem deleteTerminationDebt_refines {authority : RunnerTerminationAuthority} {done : Unit}
    (commits : (deleteTerminationDebt effortId authority).Commits db done later) :
    Refines (.deleteTerminationDebt effortId authority) effortId db later := by
  obtain ⟨found, middle, read, rest⟩ := commits_bind.mp commits
  simp only [commits_require_bind, commits_write] at rest
  obtain ⟨owed, -, rfl⟩ := rest
  obtain ⟨rfl, effort, cancelled, stored, ended, debt⟩ := commits_cancelledDebt read owed
  obtain rfl := Database.id_of_view_effort stored
  constructor
  · intro other apart
    simp only [Database.view, Database.cyclesOf, EffortView.mk.injEq, true_and, and_true,
      Table.find?_delete]
    cases found : db.terminationDebts.find? other with
    | none => rfl
    | some stored =>
      have same : stored.effortId = other := (Table.find?_eq_some.mp found).2
      simp [Option.filter, same, apart]
  · right
    have deleted : ({ db with terminationDebts :=
        db.terminationDebts.delete fun row => row.effortId == effort.id } : Database).view effort.id =
          { db.view effort.id with debt := none } := by
      simp only [Database.view, Database.cyclesOf, EffortView.mk.injEq, true_and, and_true,
        Table.find?_delete]
      rw [Database.view_debt] at debt
      simp [debt, Option.filter]
    rw [deleted]
    exact .deleteDebt stored ended debt

end Iq
