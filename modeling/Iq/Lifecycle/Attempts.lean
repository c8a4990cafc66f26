import Iq.Lifecycle.Footprint
import Iq.Lifecycle.LinkedRuns

/-!
# What operations do to attempts

Most operations leave every attempt as it is; the ones that write an attempt clear its validated
commit or leave it. Only the two operations that record validation evidence set it, and they do so
for an effort that is running the validation of exactly that commit.
-/

namespace Iq

open Library Library.Transaction Database

/-- A property of the attempts alone. -/
class OfAttempts (property : Database → Prop) : Prop where
  same : ∀ db later, later.attempts = db.attempts → property db → property later

variable {property : Database → Prop} {db later : Database} {effort : IntegrationEffort}
  {id : String} {stamp : Stamp}

/-- A property of the attempts ignores the other tables. -/
theorem OfAttempts.ignores [quiet : OfAttempts property] {table : TableName}
    (apart : table ≠ .attempts) : Ignores property table where
  keep db later same := by
    have elsewhere : ∀ now : Database, (now.without table).attempts = now.attempts := by
      cases table <;> first | exact absurd rfl apart | exact fun _ => rfl
    exact quiet.same db later (Database.read_of_without elsewhere same)

section Instances

variable [OfAttempts property]

instance OfAttempts.ignoresItems : Ignores property .items := OfAttempts.ignores nofun

instance OfAttempts.ignoresInvocations : Ignores property .invocations :=
  OfAttempts.ignores nofun

instance OfAttempts.ignoresPolicies : Ignores property .policies := OfAttempts.ignores nofun

instance OfAttempts.ignoresRepositories : Ignores property .repositories :=
  OfAttempts.ignores nofun

instance OfAttempts.ignoresSubmissions : Ignores property .submissions :=
  OfAttempts.ignores nofun

instance OfAttempts.ignoresWorkspaces : Ignores property .workspaces :=
  OfAttempts.ignores nofun

instance OfAttempts.ignoresPrivateRefDebts : Ignores property .privateRefDebts :=
  OfAttempts.ignores nofun

instance OfAttempts.ignoresEfforts : Ignores property .efforts := OfAttempts.ignores nofun

instance OfAttempts.ignoresCycles : Ignores property .cycles := OfAttempts.ignores nofun

instance OfAttempts.ignoresGuidance : Ignores property .guidance := OfAttempts.ignores nofun

instance OfAttempts.ignoresEvidence : Ignores property .evidence := OfAttempts.ignores nofun

instance OfAttempts.ignoresReviews : Ignores property .reviews := OfAttempts.ignores nofun

instance OfAttempts.ignoresReviewReceipts : Ignores property .reviewReceipts :=
  OfAttempts.ignores nofun

instance OfAttempts.ignoresAnswers : Ignores property .answers := OfAttempts.ignores nofun

instance OfAttempts.ignoresTerminationDebts : Ignores property .terminationDebts :=
  OfAttempts.ignores nofun

instance OfAttempts.ignoresEvents : Ignores property .events := OfAttempts.ignores nofun

end Instances

/-! ## Operations that write attempts -/

/-- The commit that the evidence of an attempt validates. -/
def Database.validated (db : Database) (attemptId : String) : Option String :=
  (db.attempts.find? attemptId).bind Attempt.validatedCommitSha

/-- The evidence of an attempt does not validate a commit. -/
def Database.Lacks (attemptId commit : String) (db : Database) : Prop :=
  db.validated attemptId ≠ some commit

variable {attemptId commit : String}

instance : OfAttempts (Lacks attemptId commit) where
  same db later same lacks := by
    unfold Lacks validated
    rw [same]
    exact lacks

/-- A change of an attempt that records no evidence. -/
def Attempt.Clears (row changed : Attempt) : Prop :=
  changed.validatedCommitSha = row.validatedCommitSha ∨ changed.validatedCommitSha = none

/-- A change of attempts that leaves the chosen row of an attempt without a commit. -/
theorem preserves_lacks {chosen : Attempt → Bool} {change : Attempt → Attempt}
    {kept : ∀ row, (change row).id = row.id}
    (lacking : ∀ row, chosen row = true → row.id = attemptId →
      row.validatedCommitSha ≠ some commit → (change row).validatedCommitSha ≠ some commit) :
    (updateAttempts chosen change kept).Preserves (Lacks attemptId commit) := by
  refine preserves_write fun db lacks => ?_
  unfold Lacks validated
  rw [Table.find?_update]
  cases found : db.attempts.find? attemptId with
  | none => nofun
  | some row =>
    have lacked : row.validatedCommitSha ≠ some commit := by
      unfold Lacks validated at lacks
      rw [found] at lacks
      exact lacks
    by_cases hit : chosen row = true
    · rw [Option.map_some, Table.rewrite_of_chosen hit]
      exact lacking row hit (Table.find?_eq_some.mp found).2 lacked
    · rw [Option.map_some, Table.rewrite_of_not_chosen hit]
      exact lacked

/-- An update that only clears commits gives no attempt one. -/
theorem lacks_updateAttempts {chosen : Attempt → Bool} {change : Attempt → Attempt}
    {kept : ∀ row, (change row).id = row.id} (clears : ∀ row : Attempt, row.Clears (change row)) :
    (updateAttempts chosen change kept).Preserves (Lacks attemptId commit) := by
  refine preserves_lacks fun row _ _ lacked => ?_
  rcases clears row with same | cleared
  · exact fun validated => lacked (same.symm.trans validated)
  · exact fun validated => nomatch cleared.symm.trans validated

/-- An attempt without its candidate is cleared. -/
theorem Attempt.clears_withoutCandidate (row : Attempt) : row.Clears row.withoutCandidate :=
  .inr rfl

/-- A recorded invocation validates nothing yet. -/
theorem recordInvocation_lacks {invocation : AttemptValidationInvocation}
    {retarget : Option String} {disappeared without : String} :
    (recordInvocation id invocation retarget disappeared without).Preserves
      (Lacks attemptId commit) := by
  unfold recordInvocation
  refine preserves_bind (lacks_updateAttempts fun _ => .inr rfl) fun _ => ?_
  iterate 4 refine preserves_bind (by simp) fun _ => ?_
  exact preserves_table .invocations fun _ => rfl

/-- A signoff validates nothing. -/
theorem updateAttemptSignoff_lacks {evidence : String} :
    (updateAttemptSignoff id evidence).Preserves (Lacks attemptId commit) := by
  unfold updateAttemptSignoff
  exact preserves_bind (lacks_updateAttempts fun _ => .inl rfl) fun _ => preserves_require

/-- A first fetch validates nothing. -/
theorem beginInitialTargetFetch_lacks {itemId targetSha : String} :
    (beginInitialTargetFetch itemId id targetSha).Preserves (Lacks attemptId commit) := by
  unfold beginInitialTargetFetch
  iterate 2 refine preserves_bind (by simp) fun _ => ?_
  refine preserves_bind (lacks_updateAttempts fun _ => .inl rfl) fun _ => ?_
  iterate 3 refine preserves_bind (by simp) fun _ => ?_
  exact preserves_require

/-- A new candidate is not validated. -/
theorem publishCandidate_lacks {building : CandidateBuilding} {item : QueueItem}
    {observation : CandidateObservation} :
    (publishCandidate effort building item observation stamp).Preserves
      (Lacks attemptId commit) := by
  unfold publishCandidate
  iterate 3 refine preserves_bind (by simp) fun _ => ?_
  refine preserves_bind (lacks_updateAttempts fun _ => .inr rfl) fun _ => ?_
  iterate 2 refine preserves_bind (by simp) fun _ => ?_
  exact preserves_appendEvent

/-- A recorded candidate is not validated. -/
theorem recordCandidate_lacks {observation : CandidateObservation} :
    (recordCandidate id observation stamp).Preserves (Lacks attemptId commit) := by
  unfold recordCandidate
  iterate 10 refine preserves_bind (by simp) fun _ => ?_
  exact preserves_ite (preserves_bind (by simp) fun _ => publishCandidate_lacks)
    publishCandidate_lacks

/-- A rejected candidate is not validated. -/
theorem rejectCandidate_lacks {evidence : String} :
    (rejectCandidate id evidence stamp).Preserves (Lacks attemptId commit) := by
  unfold rejectCandidate
  iterate 12 refine preserves_bind (by simp) fun _ => ?_
  refine preserves_bind (lacks_updateAttempts Attempt.clears_withoutCandidate) fun _ => ?_
  exact preserves_bind (by simp) fun _ => preserves_reportFailure

/-- A landing validates nothing. -/
theorem markIntegrated_lacks {landedSha remoteTargetSha : String} :
    (markIntegrated id landedSha remoteTargetSha stamp).Preserves (Lacks attemptId commit) := by
  unfold markIntegrated
  iterate 7 refine preserves_bind (by simp) fun _ => ?_
  refine preserves_bind (lacks_updateAttempts fun _ => .inl rfl) fun _ => ?_
  iterate 4 refine preserves_bind (by simp) fun _ => ?_
  exact preserves_appendEvent

/-- A moved target clears what was validated. -/
theorem beginTargetMove_lacks {targetSha : String} {rejection : Option DefiniteLandingRejection} :
    (beginTargetMoveWithResolution id targetSha rejection stamp).Preserves
      (Lacks attemptId commit) := by
  unfold beginTargetMoveWithResolution
  iterate 3 refine preserves_bind (by simp) fun _ => ?_
  split
  · exact preserves_require
  · iterate 4 refine preserves_bind (by simp) fun _ => ?_
    refine preserves_bind (lacks_updateAttempts fun _ => .inl rfl) fun _ => ?_
    iterate 3 refine preserves_bind (by simp) fun _ => ?_
    exact preserves_appendEvent

/-- A recomposed candidate is not validated. -/
theorem completeTargetRecomposition_lacks {targetSha : String}
    {composition : CompositionEvidence} :
    (completeTargetRecomposition id targetSha composition stamp).Preserves
      (Lacks attemptId commit) := by
  unfold completeTargetRecomposition
  iterate 16 refine preserves_bind (by simp) fun _ => ?_
  refine preserves_bind (lacks_updateAttempts fun _ => .inr rfl) fun _ => ?_
  refine preserves_bind (preserves_table .efforts fun _ => rfl) fun _ => ?_
  iterate 3 refine preserves_bind (by simp) fun _ => ?_
  exact preserves_appendEvent

/-- A review validates nothing. -/
theorem applyReview_lacks {command : CandidateReviewCommand} {review : CandidateReviewRequired}
    {responder : ResponderIdentity} :
    (applyReview command effort review responder stamp).Preserves (Lacks attemptId commit) := by
  unfold applyReview
  cases command.decision with
  | approve text =>
    iterate 5 refine preserves_bind (by simp) fun _ => ?_
    exact preserves_pure
  | requestChanges text =>
    iterate 5 refine preserves_bind (by simp) fun _ => ?_
    refine preserves_bind (lacks_updateAttempts Attempt.clears_withoutCandidate) fun _ => ?_
    iterate 2 refine preserves_bind (by simp) fun _ => ?_
    exact preserves_pure

/-- A review command validates nothing. -/
theorem reviewCandidateForEffort_lacks {command : CandidateReviewCommand}
    {responder : ResponderIdentity} {daemonUid : Nat} :
    (reviewCandidateForEffort command id responder daemonUid stamp).Preserves
      (Lacks attemptId commit) := by
  unfold reviewCandidateForEffort
  refine preserves_bind (by simp) fun existing => ?_
  split
  · exact preserves_ite preserves_pure preserves_pure
  · iterate 3 refine preserves_bind (by simp) fun _ => ?_
    refine preserves_ite (preserves_bind (by simp) fun _ => ?_) preserves_insertReviewReceipt
    exact preserves_bind applyReview_lacks fun _ => preserves_insertReviewReceipt

/-- A cancellation validates nothing. -/
theorem cancel_lacks {actor reason : String} :
    (cancel id actor reason stamp).Preserves (Lacks attemptId commit) := by
  unfold cancel
  iterate 5 refine preserves_bind (by simp) fun _ => ?_
  refine preserves_ite ?_ preserves_pure
  unfold cancelEffortTransaction
  iterate 4 refine preserves_bind (by simp) fun _ => ?_
  refine preserves_bind (lacks_updateAttempts fun _ => .inl rfl) fun _ => ?_
  iterate 3 refine preserves_bind (by simp) fun _ => ?_
  exact preserves_appendEvent

/-- The cancellation of an item validates nothing. -/
theorem cancelItemWithoutEffort_lacks :
    (cancelItemWithoutEffort id stamp).Preserves (Lacks attemptId commit) := by
  unfold cancelItemWithoutEffort
  refine preserves_bind (by simp) fun item => ?_
  iterate 7 refine preserves_bind (by simp) fun _ => ?_
  split
  · exact preserves_updateQueueItem fun _ => ⟨rfl, .inr rfl⟩
  · refine preserves_bind (lacks_updateAttempts fun _ => .inl rfl) fun _ => ?_
    exact preserves_updateQueueItem fun _ => ⟨rfl, .inr rfl⟩

/-- A superseded attempt is not validated by it. -/
theorem supersedeAttempt_lacks {item : QueueItem} {oldAttemptId : String} :
    (supersedeAttempt item oldAttemptId stamp).Preserves (Lacks attemptId commit) := by
  unfold supersedeAttempt
  refine preserves_bind (lacks_updateAttempts fun _ => .inl rfl) fun _ => ?_
  have rest : (do
      let pending ← markEffortReplacementPending item.id oldAttemptId stamp
      let expected := if pending then QueueStatus.ready else .blocked
      updateQueueItem item.id (fun row => row.repoKey == item.repoKey && row.status == expected)
        (fun row => { row with
          status := .ready, currentAttemptId := none, replacement := .none, blockedPhase := none,
          blockedReason := none }) (fun _ => rfl)
        "replacement cleanup state changed concurrently").Preserves (Lacks attemptId commit) :=
    preserves_bind preserves_markEffortReplacementPending fun _ =>
      preserves_updateQueueItem fun _ => ⟨rfl, .inr rfl⟩
  exact preserves_ite (preserves_bind (by simp) fun _ => preserves_bind (by simp) fun _ => rest) rest

/-- The cleanup before a replacement validates nothing. -/
theorem finishReplacementCleanup_lacks {itemId oldAttemptId : String} :
    (finishReplacementCleanup itemId oldAttemptId stamp).Preserves (Lacks attemptId commit) := by
  unfold finishReplacementCleanup
  refine preserves_bind (by simp) fun item => ?_
  split
  · exact preserves_abort
  · refine preserves_bind (by simp) fun _ => preserves_ite supersedeAttempt_lacks ?_
    iterate 3 refine preserves_bind (by simp) fun _ => ?_
    exact preserves_table .items fun _ => rfl

/-- A claimed attempt is not validated. -/
theorem claimNextReady_lacks {repoKey : String} {targetRef : TargetRef}
    {withoutValidation : Bool} :
    (claimNextReady repoKey targetRef withoutValidation stamp).Preserves
      (Lacks attemptId commit) := by
  unfold claimNextReady
  refine preserves_bind (by simp) fun oldest => ?_
  split
  · exact preserves_pure
  · refine preserves_bind (by simp) fun _ => preserves_ite preserves_pure ?_
    refine preserves_bind (by simp) fun number => ?_
    intro db lacks
    rw [wp_bind, wp_lookup]
    refine ⟨fun attempts inserted => ?_, fun _ => trivial⟩
    rw [wp_bind, wp_write]
    have lacks' : Lacks attemptId commit { db with attempts } := by
      unfold Lacks validated
      rw [Table.find?_of_insert? _ inserted]
      split
      · rintro ⟨⟩
      · exact lacks
    refine (preserves_bind ?_ fun _ => preserves_pure) _ lacks'
    exact preserves_updateQueueItem fun _ => ⟨rfl, .inl rfl⟩

/-! ## Recording evidence -/

/-- The operation that records a commit as validated for an attempt. -/
def Operation.Records (attemptId commit : String) : Operation → Prop
  | .completeAttemptValidation id _ validated => id = attemptId ∧ validated = commit
  | .acceptCandidateWithoutValidation _ id _ candidate _ => id = attemptId ∧ candidate = commit
  | _ => False

/-- Evidence recorded for another attempt or commit. -/
theorem lacks_recordEvidence {value : String} (apart : ¬(id = attemptId ∧ value = commit)) :
    (updateAttempts (fun row => row.id == id)
      (fun row => { row with validatedCommitSha := some value }) fun _ => rfl).Preserves
        (Lacks attemptId commit) := by
  refine preserves_lacks fun row chosen named _ recorded => ?_
  have same : value = commit := Option.some_inj.mp recorded
  exact apart ⟨(beq_iff_eq.mp chosen).symm.trans named, same⟩

/-- Only the completed validation of the attempt gives it the commit. -/
theorem completeAttemptValidation_lacks {invocationNumber : Nat} {value : String}
    (apart : ¬(id = attemptId ∧ value = commit)) :
    (completeAttemptValidation id invocationNumber value).Preserves (Lacks attemptId commit) := by
  unfold completeAttemptValidation
  iterate 6 refine preserves_bind (by simp) fun _ => ?_
  refine preserves_bind (preserves_table .invocations fun _ => rfl) fun _ => ?_
  exact preserves_bind (lacks_recordEvidence apart) fun _ => preserves_require

/-- Only the accepted candidate of the attempt gives it the commit. -/
theorem acceptCandidateWithoutValidation_lacks {itemId targetBaseSha value : String}
    {expected : QueueStatus} (apart : ¬(id = attemptId ∧ value = commit)) :
    (acceptCandidateWithoutValidation itemId id targetBaseSha value expected).Preserves
      (Lacks attemptId commit) := by
  unfold acceptCandidateWithoutValidation
  iterate 7 refine preserves_bind (by simp) fun _ => ?_
  refine preserves_ite preserves_pure ?_
  iterate 3 refine preserves_bind (by simp) fun _ => ?_
  exact preserves_bind (lacks_recordEvidence apart) fun _ => preserves_pure

/-- Every operation that does not record a commit leaves an attempt without it. -/
theorem Operation.lacks {operation : Operation} (apart : ¬operation.Records attemptId commit) :
    operation.transaction.Preserves (Lacks attemptId commit) := by
  cases operation
  case recordCandidate => exact preserves_map recordCandidate_lacks
  case rejectCandidate => exact preserves_map rejectCandidate_lacks
  case markIntegrated => exact preserves_map markIntegrated_lacks
  case beginTargetMove => exact preserves_map beginTargetMove_lacks
  case completeTargetRecomposition => exact preserves_map completeTargetRecomposition_lacks
  case reviewCandidate => exact preserves_map reviewCandidateForEffort_lacks
  case cancel => exact preserves_map cancel_lacks
  case claimNextReady => exact preserves_map claimNextReady_lacks
  case cancelItemWithoutEffort => exact preserves_map cancelItemWithoutEffort_lacks
  case finishReplacementCleanup => exact preserves_map finishReplacementCleanup_lacks
  case recordAttemptValidation => exact preserves_map recordInvocation_lacks
  case recordAttemptRevalidation => exact preserves_map recordInvocation_lacks
  case completeAttemptValidation => exact preserves_map (completeAttemptValidation_lacks apart)
  case acceptCandidateWithoutValidation => exact preserves_map (acceptCandidateWithoutValidation_lacks apart)
  case updateAttemptSignoff => exact preserves_map updateAttemptSignoff_lacks
  case beginInitialTargetFetch => exact preserves_map beginInitialTargetFetch_lacks
  all_goals
    refine Operation.preserves fun table mem => .of_ignores (OfAttempts.ignores ?_)
    rintro rfl
    simp [Operation.footprint, stateTables] at mem

/-- Evidence appears only where an effort runs the validation of its commit. -/
theorem Operation.running_of_validated {operation : Operation} {outcome : Outcome}
    (commits : operation.transaction.Commits db outcome later) (lacked : db.Lacks attemptId commit)
    (validated : later.validated attemptId = some commit) :
    operation.Records attemptId commit ∧
      ∃ effort ∈ db.efforts, isRunningValidation attemptId commit effort = true := by
  have records : operation.Records attemptId commit := by
    by_contra apart
    exact (Operation.lacks apart).of_commits lacked commits validated
  refine ⟨records, ?_⟩
  cases operation with
  | completeAttemptValidation id number value =>
    rcases records with ⟨rfl, rfl⟩
    simp only [Operation.transaction, commits_map, Iq.completeAttemptValidation,
      commits_lookup_bind, commits_itemObjectFormat_bind, commits_ensure_bind, commits_query_bind,
      commits_require_bind, Bool.and_eq_true, Table.any_eq_true] at commits
    rcases commits with ⟨done, ⟨attempt, -, policy, -, checked, -, ⟨-, running⟩, -⟩, -⟩
    exact running
  | acceptCandidateWithoutValidation itemId id targetBaseSha value expected =>
    rcases records with ⟨rfl, rfl⟩
    simp only [Operation.transaction, commits_map, Iq.acceptCandidateWithoutValidation,
      commits_lookup_bind, commits_require_bind, commits_ite, commits_pure, commits_query_bind,
      Bool.and_eq_true, Table.any_eq_true] at commits
    rcases commits with ⟨done, ⟨-, -, item, -, -, attempt, -, -, -, ⟨-, -, rfl⟩ | ⟨-, -, ⟨effort,
      mem, -, running⟩, -⟩⟩, -⟩
    · exact absurd validated lacked
    · exact ⟨effort, mem, running⟩
  | _ => exact absurd records id

end Iq
