import Iq.Lifecycle.CandidateEvidence
import Iq.Lifecycle.LandingAuthority
import Iq.Lifecycle.LandingEvidence

/-!
# The candidate of an effort and of its attempt

The candidate of an effort stands in two rows that are written at different places: the state of
the effort carries it from the review to the landing, also while it is suspended or its target
moves, and the attempt records it for everything that acts on Git alone: the landing reference, the
cleanup of a private reference, and the checks of a recomposition. An attempt loses its candidate
only in an operation that takes the candidate away from the effort in the same commit.
-/

namespace Iq

open Library Library.Transaction Database

variable {db later : Database} {effort row : IntegrationEffort} {view after : EffortView}
  {id attemptId candidateSha : String} {operation : Operation} {stamp : Stamp}

/-! ## What operations do to the candidate of an attempt -/

/-- The candidate that an attempt records. -/
def Database.recordedCandidate (db : Database) (attemptId : String) : Option String :=
  (db.attempts.find? attemptId).bind Attempt.mergeCommitSha

/-- An attempt records a candidate. -/
def Database.Binds (attemptId candidateSha : String) (db : Database) : Prop :=
  db.recordedCandidate attemptId = some candidateSha

instance : OfAttempts (Binds attemptId candidateSha) where
  same db later same bound := by
    unfold Binds recordedCandidate
    rw [same]
    exact bound

/-- What a change of attempts does to the candidate of one. -/
theorem recordedCandidate_of_updateAttempts {chosen : Attempt → Bool} {change : Attempt → Attempt}
    {kept : ∀ row, (change row).id = row.id} {changed : Nat}
    (commits : (updateAttempts chosen change kept).Commits db changed later) :
    later.recordedCandidate attemptId = (db.attempts.find? attemptId).bind fun row =>
      (Table.rewrite chosen change row).mergeCommitSha := by
  rw [← (commits_write.mp commits).2]
  unfold recordedCandidate
  rw [Table.find?_update, Option.bind_map]
  rfl

/-- A change of attempts that leaves the candidate of the chosen row of an attempt. -/
theorem preserves_binds {chosen : Attempt → Bool} {change : Attempt → Attempt}
    {kept : ∀ row, (change row).id = row.id}
    (same : ∀ row, chosen row = true → row.id = attemptId →
      (change row).mergeCommitSha = row.mergeCommitSha) :
    (updateAttempts chosen change kept).Preserves (Binds attemptId candidateSha) := by
  refine preserves_write fun db bound => ?_
  unfold Binds recordedCandidate at bound ⊢
  obtain ⟨attempt, found, recorded⟩ := Option.bind_eq_some_iff.mp bound
  have named : attempt.id = attemptId := (Table.find?_eq_some.mp found).2
  rw [Table.find?_update, found, Option.map_some, Option.bind_some, ← recorded]
  by_cases hit : chosen attempt = true
  · rw [Table.rewrite_of_chosen hit]
    exact same attempt hit named
  · rw [Table.rewrite_of_not_chosen hit]

/-- A change of other columns. -/
theorem binds_updateAttempts {chosen : Attempt → Bool} {change : Attempt → Attempt}
    {kept : ∀ row, (change row).id = row.id}
    (same : ∀ row, (change row).mergeCommitSha = row.mergeCommitSha) :
    (updateAttempts chosen change kept).Preserves (Binds attemptId candidateSha) :=
  preserves_binds fun row _ _ => same row

/-- A change of the attempt of an effort, seen from another attempt. -/
theorem binds_updateAttempts_of_ne {chosen : Attempt → Bool} {change : Attempt → Attempt}
    {kept : ∀ row, (change row).id = row.id} (apart : effort.attemptId ≠ attemptId)
    (own : ∀ row, chosen row = true → row.id = effort.attemptId) :
    (updateAttempts chosen change kept).Preserves (Binds attemptId candidateSha) :=
  preserves_binds fun row hit named => absurd ((own row hit).symm.trans named) apart

/-- A recorded invocation leaves the candidate of the attempt. -/
theorem recordInvocation_binds {invocation : AttemptValidationInvocation}
    {retarget : Option String} {disappeared without : String} :
    (recordInvocation id invocation retarget disappeared without).Preserves
      (Binds attemptId candidateSha) := by
  unfold recordInvocation
  refine preserves_bind (binds_updateAttempts fun _ => rfl) fun _ => ?_
  iterate 4 refine preserves_bind (by simp) fun _ => ?_
  exact preserves_table .invocations fun _ => rfl

/-- A signoff leaves the commits of the attempt. -/
theorem updateAttemptSignoff_binds {evidence : String} :
    (updateAttemptSignoff id evidence).Preserves (Binds attemptId candidateSha) := by
  unfold updateAttemptSignoff
  exact preserves_bind (binds_updateAttempts fun _ => rfl) fun _ => preserves_require

/-- A first fetch leaves the candidate of the attempt. -/
theorem beginInitialTargetFetch_binds {itemId targetSha : String} :
    (beginInitialTargetFetch itemId id targetSha).Preserves (Binds attemptId candidateSha) := by
  unfold beginInitialTargetFetch
  iterate 2 refine preserves_bind (by simp) fun _ => ?_
  refine preserves_bind (binds_updateAttempts fun _ => rfl) fun _ => ?_
  iterate 3 refine preserves_bind (by simp) fun _ => ?_
  exact preserves_require

/-- A completed validation leaves the candidate of the attempt. -/
theorem completeAttemptValidation_binds {invocationNumber : Nat} {value : String} :
    (completeAttemptValidation id invocationNumber value).Preserves
      (Binds attemptId candidateSha) := by
  unfold completeAttemptValidation
  iterate 6 refine preserves_bind (by simp) fun _ => ?_
  refine preserves_bind (preserves_table .invocations fun _ => rfl) fun _ => ?_
  exact preserves_bind (binds_updateAttempts fun _ => rfl) fun _ => preserves_require

/-- An accepted candidate leaves the one that is recorded. -/
theorem acceptCandidateWithoutValidation_binds {itemId targetBaseSha value : String}
    {expected : QueueStatus} :
    (acceptCandidateWithoutValidation itemId id targetBaseSha value expected).Preserves
      (Binds attemptId candidateSha) := by
  unfold acceptCandidateWithoutValidation
  iterate 7 refine preserves_bind (by simp) fun _ => ?_
  refine preserves_ite preserves_pure ?_
  iterate 3 refine preserves_bind (by simp) fun _ => ?_
  exact preserves_bind (binds_updateAttempts fun _ => rfl) fun _ => preserves_pure

/-- A landed attempt keeps its candidate. -/
theorem markIntegrated_binds {landedSha remoteTargetSha : String} :
    (markIntegrated id landedSha remoteTargetSha stamp).Preserves
      (Binds attemptId candidateSha) := by
  unfold markIntegrated
  iterate 7 refine preserves_bind (by simp) fun _ => ?_
  refine preserves_bind (binds_updateAttempts fun _ => rfl) fun _ => ?_
  iterate 4 refine preserves_bind (by simp) fun _ => ?_
  exact preserves_appendEvent

/-- A moved target leaves the recorded candidate. -/
theorem beginTargetMove_binds {targetSha : String} {rejection : Option DefiniteLandingRejection} :
    (beginTargetMoveWithResolution id targetSha rejection stamp).Preserves
      (Binds attemptId candidateSha) := by
  unfold beginTargetMoveWithResolution
  iterate 3 refine preserves_bind (by simp) fun _ => ?_
  split
  · exact preserves_require
  · iterate 4 refine preserves_bind (by simp) fun _ => ?_
    refine preserves_bind (binds_updateAttempts fun _ => rfl) fun _ => ?_
    iterate 3 refine preserves_bind (by simp) fun _ => ?_
    exact preserves_appendEvent

/-- A cancelled attempt keeps its candidate. -/
theorem cancel_binds {actor reason : String} :
    (cancel id actor reason stamp).Preserves (Binds attemptId candidateSha) := by
  unfold cancel
  iterate 5 refine preserves_bind (by simp) fun _ => ?_
  refine preserves_ite ?_ preserves_pure
  unfold cancelEffortTransaction
  iterate 4 refine preserves_bind (by simp) fun _ => ?_
  refine preserves_bind (binds_updateAttempts fun _ => rfl) fun _ => ?_
  iterate 3 refine preserves_bind (by simp) fun _ => ?_
  exact preserves_appendEvent

/-- The attempt of a cancelled item keeps its candidate. -/
theorem cancelItemWithoutEffort_binds :
    (cancelItemWithoutEffort id stamp).Preserves (Binds attemptId candidateSha) := by
  unfold cancelItemWithoutEffort
  refine preserves_bind (by simp) fun item => ?_
  iterate 7 refine preserves_bind (by simp) fun _ => ?_
  split
  · exact preserves_updateQueueItem fun _ => ⟨rfl, .inr rfl⟩
  · refine preserves_bind (binds_updateAttempts fun _ => rfl) fun _ => ?_
    exact preserves_updateQueueItem fun _ => ⟨rfl, .inr rfl⟩

/-- A superseded attempt keeps its candidate. -/
theorem supersedeAttempt_binds {item : QueueItem} {oldAttemptId : String} :
    (supersedeAttempt item oldAttemptId stamp).Preserves (Binds attemptId candidateSha) := by
  unfold supersedeAttempt
  refine preserves_bind (binds_updateAttempts fun _ => rfl) fun _ => ?_
  have rest : (do
      let pending ← markEffortReplacementPending item.id oldAttemptId stamp
      let expected := if pending then QueueStatus.ready else .blocked
      updateQueueItem item.id (fun row => row.repoKey == item.repoKey && row.status == expected)
        (fun row => { row with
          status := .ready, currentAttemptId := none, replacement := .none, blockedPhase := none,
          blockedReason := none }) (fun _ => rfl)
        "replacement cleanup state changed concurrently").Preserves
          (Binds attemptId candidateSha) :=
    preserves_bind preserves_markEffortReplacementPending fun _ =>
      preserves_updateQueueItem fun _ => ⟨rfl, .inr rfl⟩
  exact preserves_ite (preserves_bind (by simp) fun _ => preserves_bind (by simp) fun _ => rest) rest

/-- The cleanup before a replacement leaves the candidate of the attempt. -/
theorem finishReplacementCleanup_binds {itemId oldAttemptId : String} :
    (finishReplacementCleanup itemId oldAttemptId stamp).Preserves
      (Binds attemptId candidateSha) := by
  unfold finishReplacementCleanup
  refine preserves_bind (by simp) fun item => ?_
  split
  · exact preserves_abort
  · refine preserves_bind (by simp) fun _ => preserves_ite supersedeAttempt_binds ?_
    iterate 3 refine preserves_bind (by simp) fun _ => ?_
    exact preserves_table .items fun _ => rfl

/-- A claimed attempt has no candidate yet. -/
theorem claimNextReady_binds {repoKey : String} {targetRef : TargetRef} {withoutValidation : Bool} :
    (claimNextReady repoKey targetRef withoutValidation stamp).Preserves
      (Binds attemptId candidateSha) := by
  unfold claimNextReady
  refine preserves_bind (by simp) fun oldest => ?_
  split
  · exact preserves_pure
  · refine preserves_bind (by simp) fun _ => preserves_ite preserves_pure ?_
    refine preserves_bind (by simp) fun number => ?_
    intro db bound
    rw [wp_bind, wp_lookup]
    refine ⟨fun attempts inserted => ?_, fun _ => trivial⟩
    rw [wp_bind, wp_write]
    have bound' : Binds attemptId candidateSha { db with attempts } := by
      unfold Binds recordedCandidate at bound ⊢
      obtain ⟨attempt, found, recorded⟩ := Option.bind_eq_some_iff.mp bound
      have mem := (Table.find?_eq_some.mp found)
      have fresh := Table.fresh_of_insert? inserted mem.1
      rw [Table.find?_of_insert? _ inserted, if_neg, found]
      · exact recorded
      · rintro rfl
        exact fresh mem.2
    refine (preserves_bind ?_ fun _ => preserves_pure) _ bound'
    exact preserves_updateQueueItem fun _ => ⟨rfl, .inl rfl⟩

/-! ## Operations that rewrite a candidate -/

/-- The operations that rewrite the candidate of the attempt of an effort. -/
def Operation.Rebinds : Operation → Prop
  | .recordCandidate .. | .rejectCandidate .. | .completeTargetRecomposition .. => True
  | .reviewCandidate command .. => ∃ text, command.decision = .requestChanges text
  | _ => False

/-- A candidate of another attempt leaves the binding. -/
theorem publishCandidate_binds {building : CandidateBuilding} {item : QueueItem}
    {observation : CandidateObservation} (apart : effort.attemptId ≠ attemptId) :
    (publishCandidate effort building item observation stamp).Preserves
      (Binds attemptId candidateSha) := by
  unfold publishCandidate
  iterate 3 refine preserves_bind (by simp) fun _ => ?_
  refine preserves_bind (binds_updateAttempts_of_ne apart ?_) fun _ => ?_
  · intro row hit
    simp only [Bool.and_eq_true, beq_iff_eq] at hit
    exact hit.1
  · iterate 2 refine preserves_bind (by simp) fun _ => ?_
    exact preserves_appendEvent

/-- A review of another attempt leaves the binding. -/
theorem applyReview_binds {command : CandidateReviewCommand} {review : CandidateReviewRequired}
    {responder : ResponderIdentity} (apart : effort.attemptId ≠ attemptId) :
    (applyReview command effort review responder stamp).Preserves
      (Binds attemptId candidateSha) := by
  unfold applyReview
  cases command.decision with
  | approve text =>
    iterate 5 refine preserves_bind (by simp) fun _ => ?_
    exact preserves_pure
  | requestChanges text =>
    iterate 5 refine preserves_bind (by simp) fun _ => ?_
    refine preserves_bind (binds_updateAttempts_of_ne apart ?_) fun _ => ?_
    · intro row hit
      simp only [Bool.and_eq_true, beq_iff_eq] at hit
      exact hit.1
    · iterate 2 refine preserves_bind (by simp) fun _ => ?_
      exact preserves_pure

/-- An approval leaves the binding. -/
theorem applyReview_binds_of_approve {command : CandidateReviewCommand}
    {review : CandidateReviewRequired} {responder : ResponderIdentity} {text : Option String}
    (decision : command.decision = .approve text) :
    (applyReview command effort review responder stamp).Preserves
      (Binds attemptId candidateSha) := by
  unfold applyReview
  rw [decision]
  iterate 5 refine preserves_bind (by simp) fun _ => ?_
  exact preserves_pure

/-- A step of the effort that owns an attempt rewrites the candidate of the attempt. -/
def Database.Rebound (operation : Operation) (attemptId : String) (db later : Database) : Prop :=
  ∃ effort, (db.view effort.id).effort = some effort ∧ effort.attemptId = attemptId ∧
    operation.Rebinds ∧ EffortStep operation (db.view effort.id) (later.view effort.id)

/-- A recorded candidate keeps the binding or rewrites its own attempt. -/
theorem recordCandidate_binds {observation : CandidateObservation} {done : Unit}
    (commits : (recordCandidate id observation stamp).Commits db done later)
    (bound : db.Binds attemptId candidateSha) :
    later.Binds attemptId candidateSha ∨
      db.Rebound (.recordCandidate id observation stamp) attemptId later := by
  have steps := recordCandidate_steps commits
  simp only [recordCandidate, commits_requiredEffort_bind] at commits
  obtain ⟨effort, found, -, rest⟩ := commits
  obtain rfl := Database.id_of_view_effort found
  by_cases own : effort.attemptId = attemptId
  · exact .inr ⟨effort, found, own, trivial, steps.2⟩
  · refine .inl (Preserves.of_commits ?_ bound rest)
    iterate 9 refine preserves_bind (by simp) fun _ => ?_
    exact preserves_ite (preserves_bind (by simp) fun _ => publishCandidate_binds own)
      (publishCandidate_binds own)

/-- A rejection keeps the binding or rewrites its own attempt. -/
theorem rejectCandidate_binds {evidence : String} {done : Unit}
    (commits : (rejectCandidate id evidence stamp).Commits db done later)
    (bound : db.Binds attemptId candidateSha) :
    later.Binds attemptId candidateSha ∨
      db.Rebound (.rejectCandidate id evidence stamp) attemptId later := by
  have steps := rejectCandidate_steps commits
  simp only [rejectCandidate, commits_ensure_bind, commits_requiredEffort_bind] at commits
  obtain ⟨-, -, effort, found, -, rest⟩ := commits
  obtain rfl := Database.id_of_view_effort found
  by_cases own : effort.attemptId = attemptId
  · exact .inr ⟨effort, found, own, trivial, steps.2⟩
  · refine .inl (Preserves.of_commits ?_ bound rest)
    iterate 10 refine preserves_bind (by simp) fun _ => ?_
    refine preserves_bind (binds_updateAttempts_of_ne own ?_) fun _ => ?_
    · exact fun row hit => beq_iff_eq.mp hit
    · exact preserves_bind (by simp) fun _ => preserves_reportFailure

/-- A recomposition keeps the binding or rewrites its own attempt. -/
theorem completeTargetRecomposition_binds {targetSha : String} {composition : CompositionEvidence}
    {done : Unit}
    (commits : (completeTargetRecomposition id targetSha composition stamp).Commits db done later)
    (bound : db.Binds attemptId candidateSha) :
    later.Binds attemptId candidateSha ∨
      db.Rebound (.completeTargetRecomposition id targetSha composition stamp) attemptId later := by
  have steps := completeTargetRecomposition_steps commits
  simp only [completeTargetRecomposition, commits_requiredEffort_bind] at commits
  obtain ⟨effort, found, -, rest⟩ := commits
  obtain rfl := Database.id_of_view_effort found
  by_cases own : effort.attemptId = attemptId
  · exact .inr ⟨effort, found, own, trivial, steps.2.2⟩
  · refine .inl (Preserves.of_commits ?_ bound rest)
    iterate 15 refine preserves_bind (by simp) fun _ => ?_
    refine preserves_bind (binds_updateAttempts_of_ne own ?_) fun _ => ?_
    · exact fun row hit => beq_iff_eq.mp hit
    · refine preserves_bind (preserves_table .efforts fun _ => rfl) fun _ => ?_
      iterate 3 refine preserves_bind (by simp) fun _ => ?_
      exact preserves_appendEvent

/-- A review keeps the binding or rewrites the attempt it is about. -/
theorem reviewCandidateForEffort_binds {command : CandidateReviewCommand}
    {responder : ResponderIdentity} {daemonUid : Nat} {receipt : CandidateReviewReceipt}
    (commits : (reviewCandidateForEffort command id responder daemonUid stamp).Commits db receipt
      later) (bound : db.Binds attemptId candidateSha) :
    later.Binds attemptId candidateSha ∨
      db.Rebound (.reviewCandidate command id responder daemonUid stamp) attemptId later := by
  simp only [reviewCandidateForEffort, commits_query_bind] at commits
  split at commits
  · simp only [commits_ite, commits_pure] at commits
    obtain ⟨-, -, rfl⟩ | ⟨-, -, rfl⟩ := commits <;> exact .inl bound
  · simp only [effortObjectFormat, commits_requiredEffort_bind, commits_lookup_bind,
      commits_itemObjectFormat_bind, commits_ite, commits_expect_bind,
      IntegrationEffortState.reviewRequired?_eq_some] at commits
    obtain ⟨effort, stored, -, item, -, policy, -, ⟨applies, review, waiting, rest⟩ | ⟨-, rest⟩⟩ :=
      commits
    · obtain rfl := Database.id_of_view_effort stored
      obtain ⟨next, middle, apply, insert⟩ := commits_bind.mp rest
      have same : later.view = middle.view := view_insertReviewReceipt insert
      have kept : middle.Binds attemptId candidateSha → later.Binds attemptId candidateSha :=
        fun held => preserves_insertReviewReceipt.of_commits held insert
      obtain ⟨authorized, -, wellFormed, named, open', matching⟩ :=
        CandidateReviewCommand.disposition_eq_applied.mp applies
      obtain rfl : review = named := by
        rw [waiting] at open'
        cases open'
        rfl
      have decides : Decides command effort review responder daemonUid :=
        ⟨waiting, authorized, wellFormed, _, matching⟩
      cases decision : command.decision with
      | approve text =>
        exact .inl (kept ((applyReview_binds_of_approve decision).of_commits bound apply))
      | requestChanges text =>
        by_cases own : effort.attemptId = attemptId
        · have steps := applyReview_steps decides stored apply
          exact .inr ⟨effort, stored, own, ⟨text, decision⟩, same ▸ steps.2⟩
        · exact .inl (kept ((applyReview_binds own).of_commits bound apply))
    · exact .inl (preserves_insertReviewReceipt.of_commits bound rest)

/-- An attempt loses or changes its candidate only in a step of its effort that rewrites it. -/
theorem Operation.binds {outcome : Outcome}
    (commits : operation.transaction.Commits db outcome later)
    (bound : db.Binds attemptId candidateSha) :
    later.Binds attemptId candidateSha ∨ db.Rebound operation attemptId later := by
  cases operation
  case recordCandidate =>
    obtain ⟨_, commits, -⟩ := commits_map.mp commits
    exact recordCandidate_binds commits bound
  case rejectCandidate =>
    obtain ⟨_, commits, -⟩ := commits_map.mp commits
    exact rejectCandidate_binds commits bound
  case completeTargetRecomposition =>
    obtain ⟨_, commits, -⟩ := commits_map.mp commits
    exact completeTargetRecomposition_binds commits bound
  case reviewCandidate =>
    obtain ⟨_, commits, -⟩ := commits_map.mp commits
    exact reviewCandidateForEffort_binds commits bound
  all_goals refine .inl (Preserves.of_commits ?_ bound commits)
  case markIntegrated => exact preserves_map markIntegrated_binds
  case beginTargetMove => exact preserves_map beginTargetMove_binds
  case cancel => exact preserves_map cancel_binds
  case claimNextReady => exact preserves_map claimNextReady_binds
  case cancelItemWithoutEffort => exact preserves_map cancelItemWithoutEffort_binds
  case finishReplacementCleanup => exact preserves_map finishReplacementCleanup_binds
  case recordAttemptValidation => exact preserves_map recordInvocation_binds
  case recordAttemptRevalidation => exact preserves_map recordInvocation_binds
  case completeAttemptValidation => exact preserves_map completeAttemptValidation_binds
  case acceptCandidateWithoutValidation =>
    exact preserves_map acceptCandidateWithoutValidation_binds
  case updateAttemptSignoff => exact preserves_map updateAttemptSignoff_binds
  case beginInitialTargetFetch => exact preserves_map beginInitialTargetFetch_binds
  all_goals
    refine Operation.preserves fun table mem => .of_ignores (OfAttempts.ignores ?_)
    rintro rfl
    simp [Operation.footprint, stateTables] at mem

/-! ## The candidate that a step leaves -/

/-- Where the candidate of a state comes from: the state before an operation that does not rewrite
it, or the recording. -/
def FollowsCandidate (operation : Operation) (view : EffortView) (row : IntegrationEffort)
    (candidateSha : String) : Prop :=
  ∃ effort, view.effort = some effort ∧ effort.attemptId = row.attemptId ∧
    (¬operation.Rebinds ∧ effort.state.candidateSha = some candidateSha ∨
      ∃ observation stamp, operation = .recordCandidate effort.id observation stamp ∧
        observation.candidateSha = candidateSha)

/-- Writing a state with the candidate of the state before it. -/
theorem Writes.followsCandidate {before : EffortView} {state : IntegrationEffortState}
    {failedCycles : Nat} {rejection : Option DefiniteLandingRejection}
    (writes : Writes rejection before effort state failedCycles after)
    (stored : view.effort = some effort) (found : after.effort = some row)
    (carried : row.state.candidateSha = some candidateSha) (keeps : ¬operation.Rebinds)
    (same : state.candidateSha = some candidateSha →
      effort.state.candidateSha = some candidateSha) :
    FollowsCandidate operation view row candidateSha := by
  rw [writes.row_eq found] at carried ⊢
  exact ⟨effort, stored, rfl, .inl ⟨keeps, same carried⟩⟩

/-- The state after a failure has no candidate. -/
theorem EffortView.candidateSha_failedState {cycleId eventId : String} {failure : CycleFailure}
    {count next : Nat} :
    (view.failedState cycleId failure count next eventId).candidateSha = none := by
  unfold EffortView.failedState
  split <;> rfl

/-- The state of a built candidate has its commit. -/
theorem CandidateBuilding.candidateSha_candidateState (building : CandidateBuilding)
    {reviewId : String} :
    (building.candidateState candidateSha reviewId).candidateSha = some candidateSha := by
  unfold candidateState
  split <;> rfl

/-- A step leaves an effort with a candidate only if it had it, or by recording it. -/
theorem EffortStep.followsCandidate (step : EffortStep operation view after)
    (found : after.effort = some row) (carried : row.state.candidateSha = some candidateSha) :
    FollowsCandidate operation view row candidateSha := by
  cases step with
  | create | replace =>
    cases found
    cases carried
  | surrenderCancelled stored | acknowledgeCancelled stored =>
    obtain rfl := Option.some_inj.mp (stored.symm.trans found)
    exact ⟨_, stored, rfl, .inl ⟨id, carried⟩⟩
  | deleteDebt => exact ⟨row, found, rfl, .inl ⟨id, carried⟩⟩
  | prepare _ _ _ _ writes | surrender _ _ writes | started _ _ _ _ _ _ _ writes
  | result _ writes | resetBuild _ writes | requireGuidance _ _ _ writes | answer _ _ writes
  | retryLimit _ writes | requestChanges _ _ writes | cancel _ _ _ writes
  | markReplacement _ writes | recompose _ _ _ writes | accept _ _ writes =>
    rw [writes.row_eq found] at carried
    cases carried
  | acknowledgeLaunching _ _ fails | acknowledgeRunning _ fails | reset _ fails =>
    rw [fails.writes.row_eq found] at carried
    cases carried
  | consume _ writes | reject _ _ _ writes =>
    rw [writes.row_eq found] at carried
    cases EffortView.candidateSha_failedState.symm.trans carried
  | @record view after effort building observation stamp _ built same opened unopened writes =>
    have stored : view.effort = some effort := writes.stored
    rw [writes.row_eq found] at carried ⊢
    have recorded := building.candidateSha_candidateState.symm.trans carried
    exact ⟨effort, stored, rfl, .inr ⟨observation, stamp, rfl, Option.some_inj.mp recorded⟩⟩
  | startValidation ready writes | beginLanding ready writes | release ready writes
  | completeValidation ready writes =>
    refine writes.followsCandidate writes.stored found carried id fun same => ?_
    rw [ready]
    exact same
  | blockInfrastructure captured writes | blockProvider captured writes =>
    refine writes.followsCandidate writes.stored found carried id fun same => ?_
    rw [captured, ResumeState.candidateSha_restore]
    exact same
  | retry suspended writes =>
    refine writes.followsCandidate writes.stored found carried id fun same => ?_
    rw [ResumeState.candidateSha_restore] at same
    obtain suspended | suspended := suspended <;> rw [suspended] <;> exact same
  | resumeProvider suspended writes =>
    refine writes.followsCandidate writes.stored found carried id fun same => ?_
    rw [ResumeState.candidateSha_restore] at same
    rw [suspended]
    exact same
  | integrate landed writes =>
    refine writes.followsCandidate writes.stored found carried id fun same => ?_
    exact (IntegrationEffortState.candidateSha_of_landingCandidate? landed).trans same
  | @moveTarget view _ effort _ _ _ _ movable captured writes =>
    have stored : view.effort = some effort :=
      EffortView.supersedeReview_effort.symm.trans writes.stored
    refine writes.followsCandidate stored found carried id fun same => ?_
    rw [captured, ResumeState.candidateSha_restore]
    exact same
  | approve decides decision writes =>
    refine writes.followsCandidate writes.stored found carried ?_ fun same => ?_
    · rintro ⟨text, other⟩
      cases decision.symm.trans other
    · rw [decides.waiting]
      exact same

/-! ## The binding over runs -/

/-- A published candidate is recorded in the attempt. -/
theorem publishCandidate_bound {building : CandidateBuilding} {item : QueueItem}
    {observation : CandidateObservation} {done : Unit}
    (commits : (publishCandidate effort building item observation stamp).Commits db done later) :
    later.Binds effort.attemptId observation.candidateSha := by
  rw [publishCandidate, commits_bind] at commits
  obtain ⟨_, first, -, commits⟩ := commits
  rw [commits_lookup_bind] at commits
  obtain ⟨attempt, found, commits⟩ := commits
  rw [commits_bind] at commits
  obtain ⟨_, second, invalidated, commits⟩ := commits
  rw [commits_bind] at commits
  obtain ⟨projected, third, updated, commits⟩ := commits
  obtain ⟨stored, owned⟩ := Option.filter_eq_some_iff.mp found
  have same : second.attempts = first.attempts := by
    rw [← (commits_write.mp invalidated).2]
  have bound : third.Binds effort.attemptId observation.candidateSha := by
    unfold Binds
    rw [recordedCandidate_of_updateAttempts updated, same, stored, Option.bind_some,
      Table.rewrite_of_chosen]
    rw [(Table.find?_eq_some.mp stored).2, owned]
    simp
  refine Preserves.of_commits ?_ bound commits
  iterate 2 refine preserves_bind (by simp) fun _ => ?_
  exact preserves_appendEvent

/-- A recorded candidate is recorded in the attempt. -/
theorem recordCandidate_bound {observation : CandidateObservation} {done : Unit}
    (stored : (db.view id).effort = some effort)
    (commits : (recordCandidate id observation stamp).Commits db done later) :
    later.Binds effort.attemptId observation.candidateSha := by
  simp only [recordCandidate, effortObjectFormat, commits_requiredEffort_bind,
    commits_lookup_bind, commits_itemObjectFormat_bind, commits_ensure_bind, commits_expect_bind,
    commits_query_bind, commits_require_bind, commits_ite] at commits
  obtain ⟨other, found, -, item, -, -, -, _, -, _, -, _, -, building, -, -, -, rest⟩ := commits
  obtain rfl : other = effort := Option.some_inj.mp (found.symm.trans stored)
  obtain ⟨-, rest⟩ | ⟨-, rest⟩ := rest
  · rw [commits_bind] at rest
    obtain ⟨_, middle, -, rest⟩ := rest
    exact publishCandidate_bound rest
  · exact publishCandidate_bound rest

namespace Database

/-- The attempt of every effort records the candidate that the state of the effort carries. -/
def Bound (db : Database) : Prop :=
  ∀ effort ∈ db.efforts, ∀ candidateSha, effort.state.candidateSha = some candidateSha →
    db.Binds effort.attemptId candidateSha

/-- An effort whose step rewrites the candidate of its attempt has it from a recording. -/
theorem Rebound.binds (linked : db.Linked) {outcome : Outcome} (mem : effort ∈ db.efforts)
    (commits : operation.transaction.Commits db outcome later)
    (rebound : db.Rebound operation effort.attemptId later)
    (found : (later.view effort.id).effort = some row) (same : row.attemptId = effort.attemptId)
    (carried : row.state.candidateSha = some candidateSha) :
    later.Binds row.attemptId candidateSha := by
  obtain ⟨other, stored, own, rebinds, step⟩ := rebound
  obtain rfl : other = effort := linked.eq_of_attemptId (view_effort_eq_some.mp stored).1 mem own
  obtain ⟨origin, before, -, ⟨keeps, -⟩ | ⟨observation, stamp, rfl, rfl⟩⟩ :=
    step.followsCandidate found carried
  · exact absurd rebinds keeps
  · obtain rfl : origin = other := Option.some_inj.mp (before.symm.trans stored)
    obtain ⟨_, commits, -⟩ := commits_map.mp commits
    rw [same]
    exact recordCandidate_bound stored commits

end Database

/-- Every committed operation keeps the candidates of efforts and attempts together. -/
theorem Operation.bound {outcome : Outcome} (linked : db.Linked) (sound : db.Sound)
    (bound : db.Bound) (commits : operation.transaction.Commits db outcome later) :
    later.Bound := by
  intro row mem candidateSha carried
  have found : (later.view row.id).effort = some row := view_effort_eq_some.mpr ⟨mem, rfl⟩
  -- The effort before the operation has the attempt and the candidate, unless it was recorded.
  have origin : FollowsCandidate operation (db.view row.id) row candidateSha ∨
      row ∈ db.efforts := by
    obtain same | step := operation.stepped sound commits row.id
    · rw [same] at found
      exact .inr (view_effort_eq_some.mp found).1
    · exact .inl (step.followsCandidate found carried)
  obtain ⟨effort, stored, same, ⟨-, held⟩ | ⟨observation, stamp, rfl, rfl⟩⟩ | stored := origin
  · have before := (view_effort_eq_some.mp stored)
    obtain kept | rebound := operation.binds commits (bound effort before.1 candidateSha held)
    · rw [← same]
      exact kept
    · exact rebound.binds linked before.1 commits (by rw [before.2]; exact found) same.symm carried
  · obtain ⟨_, commits, -⟩ := commits_map.mp commits
    rw [← same]
    exact recordCandidate_bound (by rw [id_of_view_effort stored]; exact stored) commits
  · obtain kept | rebound := operation.binds commits (bound row stored candidateSha carried)
    · exact kept
    · exact rebound.binds linked stored commits found rfl carried

/-- In every reachable database the attempts record the candidates of their efforts. -/
theorem bound_of_reachable (reachable : store.Reachable db) : db.Bound := by
  have rule := @Machine.Reachable.invariant_of_reachable _ _ store Database.Bound
  refine rule ?_ ?_ reachable
  · intro start initial effort mem
    rw [initial.efforts] at mem
    exact absurd mem (Table.not_mem_empty effort)
  · intro now operation reached bound
    obtain same | ⟨outcome, commits⟩ := settle_cases operation.transaction now
    · rw [store_step, same]
      exact bound
    · exact operation.bound (linked_of_reachable reached) (sound_of_reachable reached) bound commits

/-- In every reachable database the candidate that an effort carries, also while it is suspended or
its target moves, is the one that its attempt records, and the attempt is of no other effort. -/
theorem candidate_is_recorded {effortId : String} (reachable : store.Reachable db)
    (stored : db.efforts.find? effortId = some effort)
    (carried : effort.state.candidateSha = some candidateSha) :
    (∃ attempt, db.attempts.find? effort.attemptId = some attempt ∧
        attempt.itemId = effort.itemId ∧ attempt.mergeCommitSha = some candidateSha) ∧
      ∀ other ∈ db.efforts, other.attemptId = effort.attemptId → other = effort := by
  have linked := linked_of_reachable reachable
  have mem := (Table.find?_eq_some.mp stored).1
  obtain ⟨attempt, found, owner, -⟩ := (linked.owned effort mem).attempt
  obtain ⟨recorded, there, same⟩ := Option.bind_eq_some_iff.mp
    (bound_of_reachable reachable effort mem candidateSha carried)
  obtain rfl : recorded = attempt := Option.some_inj.mp (there.symm.trans found)
  exact ⟨⟨recorded, found, owner, same⟩, fun other mem' own =>
    linked.eq_of_attemptId mem' mem own⟩

/-- The candidate that the sample run builds, blocks and retries stands in its attempt. -/
theorem candidate_is_recorded_blocked :
    let blocked := Sample.after (Sample.candidate ++ [.blockInfrastructure "effort"
      ⟨.runner, "validate", .interrupted "signal"⟩ (Sample.stampOf "block")])
    ∃ effort, blocked.efforts.find? "effort" = some effort ∧
      (∃ attempt, blocked.attempts.find? effort.attemptId = some attempt ∧
        attempt.itemId = effort.itemId ∧ attempt.mergeCommitSha = some Sample.candidateSha) ∧
      ∀ other ∈ blocked.efforts, other.attemptId = effort.attemptId → other = effort := by
  intro blocked
  have shape : (blocked.efforts.find? "effort").map (fun row => row.state.candidateSha) =
      some (some Sample.candidateSha) := by
    decide +kernel
  obtain ⟨effort, stored, carried⟩ := Option.map_eq_some_iff.mp shape
  exact ⟨effort, stored, candidate_is_recorded (Sample.reachable _) stored carried⟩

end Iq
