import Iq.Lifecycle.Links

/-!
# What the control store keeps

Most operations of the control store end in one state update, and their other writes are framed; a
recomposition also rewrites columns that no link reads. So a property of linked databases that every
state update keeps is kept by all of them. Being linked is such a property.
-/

namespace Iq

open Library Library.Transaction Database

variable {db later : Database} {effort : IntegrationEffort} {item other : QueueItem}
  {effortId itemId attemptId : String} {stamp : Stamp}

/-! ## Recomposition of efforts -/

/-- Two versions of an effort row with the same lifecycle. -/
structure IntegrationEffort.SameLifecycle (row other : IntegrationEffort) : Prop where
  itemId : row.itemId = other.itemId
  attemptId : row.attemptId = other.attemptId
  failedCycles : row.failedCycles = other.failedCycles
  state : row.state = other.state

section Retarget

variable {chosen : IntegrationEffort → Bool} {change : IntegrationEffort → IntegrationEffort}
  {kept : ∀ row, (change row).id = row.id}

/-- A rewrite that keeps the lifecycle of every row keeps that of the one. -/
theorem rewrite_sameLifecycle (same : ∀ row, (change row).SameLifecycle row) :
    (Table.rewrite chosen change effort).SameLifecycle effort := by
  unfold Table.rewrite
  split
  · exact same effort
  · exact ⟨rfl, rfl, rfl, rfl⟩

/-- Rewriting efforts without their lifecycle keeps the database linked. -/
theorem Database.Linked.updateEfforts (same : ∀ row, (change row).SameLifecycle row)
    (linked : db.Linked) :
    Linked { db with efforts := db.efforts.update chosen change kept } := by
  refine ⟨OneEffortAnItem.update kept linked.distinct fun row => (same row).itemId, ?_, ?_,
    linked.admitted, linked.registered⟩
  · intro effort mem
    change effort ∈ db.efforts.update chosen change kept at mem
    rcases Table.mem_update.mp mem with ⟨old, stored, rfl⟩
    have owns := linked.owned old stored
    have like := @rewrite_sameLifecycle old chosen change same
    refine ⟨?_, ?_, ?_⟩
    · rw [like.state, like.failedCycles]
      exact owns.valid
    · rw [like.itemId, like.attemptId, like.state]
      exact owns.attempt
    · unfold projectionMatches
      rw [like.itemId, like.attemptId, like.state]
      exact owns.item
  · intro item mem unowned
    apply linked.free item mem
    intro effort stored owner
    have stays : Table.rewrite chosen change effort ∈ db.efforts.update chosen change kept :=
      Table.mem_update.mpr ⟨effort, stored, rfl⟩
    exact unowned _ stays ((rewrite_sameLifecycle same).itemId.trans owner)

/-- An effort is still named after a rewrite that keeps lifecycles. -/
theorem Database.Names.updateEfforts (same : ∀ row, (change row).SameLifecycle row)
    (named : db.Names effort) :
    Names effort { db with efforts := db.efforts.update chosen change kept } := by
  rcases named with ⟨row, stored, sameItem, sameAttempt⟩
  have like := @rewrite_sameLifecycle row chosen change same
  refine ⟨Table.rewrite chosen change row, ?_, like.itemId.trans sameItem,
    like.attemptId.trans sameAttempt⟩
  show (db.efforts.update chosen change kept).find? effort.id = _
  rw [Table.find?_update, stored, Option.map_some]

end Retarget

/-! ## What a state update keeps -/

/-- A property of linked databases that every state update keeps, unless the update starts to wait
for a replacement, and that a recomposition keeps. -/
class Updated (property : Database → Prop) : Prop extends Framed property where
  linked : ∀ db, property db → db.Linked
  states : ∀ db later (effort : IntegrationEffort) state failedCycles rejection,
    state.name ≠ .replacementPending → property db → db.Names effort →
    (updateStateAndCountWithResolution effort state failedCycles rejection).Commits db () later →
    property later
  efforts : ∀ db chosen change kept, (∀ row, (change row).SameLifecycle row) → property db →
    property { db with efforts := db.efforts.update chosen change kept }

instance : Updated Linked where
  linked _ linked := linked
  states _ _ _ _ _ _ present linked named commits :=
    (linked.updateState named (fun waits => absurd waits present) commits).1
  efforts _ _ _ _ same linked := linked.updateEfforts same

variable {property : Database → Prop}

/-- After an effort was read, its row is stored. -/
theorem preserves_requiredEffort_bind {β : Type} {next : IntegrationEffort → Tx β}
    (rest : ∀ effort, (next effort).Preserves fun db => property db ∧ db.Names effort) :
    (requiredEffort effortId >>= next).Preserves property := by
  intro db linked
  rw [wp_iff]
  refine ⟨fun value later commits => ?_, fun _ _ => trivial⟩
  rw [commits_requiredEffort_bind] at commits
  rcases commits with ⟨effort, stored, valid, commits⟩
  have named : db.Names effort :=
    ⟨effort, by rw [(Table.find?_eq_some.mp stored).2]; exact stored, rfl, rfl⟩
  exact ((rest effort).of_commits ⟨linked, named⟩ commits).1

variable [Updated property]

/-! ## Rules -/

/-- A state update keeps the property unless it starts to wait for a replacement. -/
theorem preserves_updateStateAndCountWithResolution {state : IntegrationEffortState}
    {failedCycles : Nat} {rejection : Option DefiniteLandingRejection}
    (present : state.name ≠ .replacementPending) :
    (updateStateAndCountWithResolution effort state failedCycles rejection).Preserves
      fun db => property db ∧ db.Names effort := by
  intro db holds
  rw [wp_iff]
  refine ⟨fun done later commits => ?_, fun _ _ => trivial⟩
  have linked : db.Linked := Updated.linked db holds.1
  have kept := linked.updateState holds.2 (fun waits => absurd waits present) commits
  exact ⟨Updated.states db later effort _ _ _ present holds.1 holds.2 commits, kept.2⟩

/-- The end of most operations: a state update and what follows it. -/
theorem preserves_updateState_bind {β : Type} {state : IntegrationEffortState} {failedCycles : Nat}
    {next : Unit → Tx β} (present : state.name ≠ .replacementPending)
    (rest : (next ()).Preserves fun db => property db ∧ db.Names effort) :
    (updateStateAndCount effort state failedCycles >>= next).Preserves
      fun db => property db ∧ db.Names effort :=
  preserves_bind (preserves_updateStateAndCountWithResolution present) fun _ => rest

/-- No suspended state waits for a replacement. -/
theorem ResumeState.restore_present (resume : ResumeState) :
    resume.restore.name ≠ .replacementPending := by
  intro waits
  cases resume <;> cases waits

/-- The state after a failure waits for no replacement. -/
theorem failedState_present {cycleId eventId : String} {failure : CycleFailure}
    {count next : Nat} :
    (failedState db effortId cycleId failure count next eventId).name ≠ .replacementPending := by
  unfold failedState
  split <;> nofun

/-- The state of a built candidate waits for no replacement. -/
theorem CandidateBuilding.candidateState_present {building : CandidateBuilding}
    {candidateSha reviewId : String} :
    (building.candidateState candidateSha reviewId).name ≠ .replacementPending := by
  unfold candidateState
  split <;> nofun

/-! ## Operations of the control store -/

/-- A launch ends in the update to the launching state. -/
theorem prepareCycleLaunch_updated {launch : AgentLaunching} :
    (prepareCycleLaunch effortId launch stamp).Preserves property := by
  unfold prepareCycleLaunch
  refine preserves_bind (by simp) fun _ => ?_
  refine preserves_requiredEffort_bind fun effort => ?_
  repeat refine preserves_bind (by simp) fun _ => ?_
  exact preserves_updateState_bind (by rintro ⟨⟩) preserves_appendEvent

/-- A spawn that is given up ends in an update within the launching state. -/
theorem surrenderCycleSpawnAuthority_updated {identity : LaunchIdentity} {alive : Bool} :
    (surrenderCycleSpawnAuthority effortId identity alive stamp).Preserves property := by
  unfold surrenderCycleSpawnAuthority
  refine preserves_bind (by simp) fun _ => ?_
  refine preserves_requiredEffort_bind fun effort => ?_
  split
  · refine preserves_bind (by simp) fun _ => preserves_updateState_bind (by rintro ⟨⟩) ?_
    repeat refine preserves_bind (by simp) fun _ => ?_
    exact preserves_pure
  · repeat refine preserves_bind (by simp) fun _ => ?_
    exact preserves_pure
  · exact preserves_abort

omit [Updated property] in
/-- To authorize a spawn updates nothing. -/
theorem authorizeCycleSpawn_updated {identity : LaunchIdentity} {alive : Bool} :
    (authorizeCycleSpawn effortId identity alive).Preserves property := by
  unfold authorizeCycleSpawn
  refine preserves_bind (by simp) fun effort => ?_
  split
  · exact preserves_bind (by simp) fun _ => preserves_pure
  · exact preserves_bind (by simp) fun _ => preserves_pure
  · exact preserves_abort

/-- A failed launch ends in the update to a ready agent. -/
theorem failLaunchedCycle_updated {cycleId changed : String} {status : CycleStatus} :
    (failLaunchedCycle effort cycleId status changed).Preserves
      fun db => property db ∧ db.Names effort := by
  unfold failLaunchedCycle
  iterate 3 refine preserves_bind (by simp) fun _ => ?_
  exact preserves_updateStateAndCountWithResolution (by rintro ⟨⟩)

/-- A terminated spawn ends in the update to a ready agent. -/
theorem acknowledgeTerminatedCycleSpawn_updated {identity : LaunchIdentity} :
    (acknowledgeTerminatedCycleSpawn effortId identity).Preserves property := by
  unfold acknowledgeTerminatedCycleSpawn
  refine preserves_requiredEffort_bind fun effort => ?_
  split
  · exact preserves_bind (by simp) fun _ => failLaunchedCycle_updated
  · exact preserves_bind (by simp) fun _ => failLaunchedCycle_updated
  · repeat refine preserves_bind (by simp) fun _ => ?_
    exact preserves_ite (preserves_bind (by simp) fun _ => preserves_require) preserves_pure
  · exact preserves_abort

/-- A start ends in the update to the running state. -/
theorem recordCycleStarted_updated {running : AgentRunning} {authorityLeaseId : String}
    {launcher : LauncherAuthority} :
    (recordCycleStarted effortId running authorityLeaseId launcher stamp).Preserves property := by
  unfold recordCycleStarted
  refine preserves_requiredEffort_bind fun effort => ?_
  split
  · repeat refine preserves_bind (by simp) fun _ => ?_
    refine preserves_updateState_bind (by rintro ⟨⟩) ?_
    exact preserves_bind (by simp) fun _ => preserves_pure
  · exact preserves_bind (by simp) fun _ => preserves_pure
  · exact preserves_abort

/-- A launch that is put back ends in the update to a ready agent. -/
theorem resetPreparedLaunch_updated {cycleId : String} {alive : Bool} :
    (resetPreparedLaunch effortId cycleId alive stamp).Preserves property := by
  unfold resetPreparedLaunch
  refine preserves_requiredEffort_bind fun effort => ?_
  repeat refine preserves_bind (by simp) fun _ => ?_
  exact preserves_bind failLaunchedCycle_updated fun _ => by simp

/-- A result is an update within the running state. -/
theorem recordResultState_updated {cycleId : String} {result : AtomicResultState} :
    (recordResultState effortId cycleId result).Preserves property := by
  unfold recordResultState
  refine preserves_bind (by simp) fun _ => ?_
  refine preserves_requiredEffort_bind fun effort => ?_
  iterate 5 refine preserves_bind (by simp) fun _ => ?_
  exact preserves_updateStateAndCountWithResolution (by rintro ⟨⟩)

/-- A build begins with the update to its state. -/
theorem startCandidateBuild_updated {intent : CandidateIntent} :
    (startCandidateBuild effortId intent stamp).Preserves property := by
  unfold startCandidateBuild
  refine preserves_requiredEffort_bind fun effort => ?_
  repeat refine preserves_bind (by simp) fun _ => ?_
  exact preserves_updateState_bind (by rintro ⟨⟩) preserves_appendEvent

/-- A resolved cycle ends in the update to the building state. -/
theorem acceptResolvedCycle_updated {intent : CandidateIntent} :
    (acceptResolvedCycle effortId intent stamp).Preserves property := by
  unfold acceptResolvedCycle
  refine preserves_requiredEffort_bind fun effort => ?_
  repeat refine preserves_bind (by simp) fun _ => ?_
  exact preserves_updateState_bind (by rintro ⟨⟩) preserves_appendEvent

/-- A published candidate ends in the update to the ready or the review state. -/
theorem publishCandidate_updated {building : CandidateBuilding}
    {observation : CandidateObservation} :
    (publishCandidate effort building item observation stamp).Preserves
      fun db => property db ∧ db.Names effort := by
  unfold publishCandidate
  iterate 3 refine preserves_bind (by simp) fun _ => ?_
  refine preserves_bind (preserves_updateAttempts fun _ => ⟨rfl, id⟩) fun _ => ?_
  refine preserves_bind (by simp) fun _ => ?_
  exact preserves_updateState_bind CandidateBuilding.candidateState_present preserves_appendEvent

/-- The candidate of a build is checked, then published. -/
theorem recordCandidate_updated {observation : CandidateObservation} :
    (recordCandidate effortId observation stamp).Preserves property := by
  unfold recordCandidate
  refine preserves_requiredEffort_bind fun effort => ?_
  iterate 9 refine preserves_bind (by simp) fun _ => ?_
  refine preserves_ite (preserves_bind (by simp) fun _ => ?_) ?_
  · exact publishCandidate_updated
  · exact publishCandidate_updated

/-- An interrupted build ends in the update to a ready agent. -/
theorem resetInterruptedCandidateBuild_updated :
    (resetInterruptedCandidateBuild effortId stamp).Preserves property := by
  unfold resetInterruptedCandidateBuild
  refine preserves_requiredEffort_bind fun effort => ?_
  repeat refine preserves_bind (by simp) fun _ => ?_
  exact preserves_updateState_bind (by rintro ⟨⟩) preserves_appendEvent

/-- A validation begins with the update to its state. -/
theorem startValidation_updated {policyDigest : String} :
    (startValidation effortId policyDigest stamp).Preserves property := by
  unfold startValidation
  refine preserves_bind (by simp) fun _ => ?_
  refine preserves_requiredEffort_bind fun effort => ?_
  repeat refine preserves_bind (by simp) fun _ => ?_
  exact preserves_updateState_bind (by rintro ⟨⟩) preserves_appendEvent

/-- A validation ends in an update within its state. -/
theorem completeValidation_updated {candidateSha : String} :
    (completeValidation effortId candidateSha stamp).Preserves property := by
  unfold completeValidation
  refine preserves_requiredEffort_bind fun effort => ?_
  repeat refine preserves_bind (by simp) fun _ => ?_
  exact preserves_updateState_bind (by rintro ⟨⟩) preserves_appendEvent

/-- A question for guidance ends in the update to the waiting state. -/
theorem requireGuidance_updated {guidance : SemanticGuidanceBlocker} :
    (requireGuidance effortId guidance stamp).Preserves property := by
  unfold requireGuidance
  refine preserves_requiredEffort_bind fun effort => ?_
  repeat refine preserves_bind (by simp) fun _ => ?_
  exact preserves_updateState_bind (by rintro ⟨⟩) preserves_appendEvent

/-- An applied answer ends in the update to a ready agent. -/
theorem applyAnswer_updated {command : AnswerCommand} :
    (applyAnswer command effort stamp).Preserves fun db => property db ∧ db.Names effort := by
  unfold applyAnswer
  repeat refine preserves_bind (by simp) fun _ => ?_
  exact preserves_updateState_bind (by rintro ⟨⟩) preserves_appendEvent

/-- The receipt of an answer is framed. -/
theorem answerForEffort_updated {command : AnswerCommand} {responder : ResponderIdentity}
    {daemonUid : Nat} :
    (answerForEffort command effortId responder daemonUid stamp).Preserves property := by
  unfold answerForEffort
  refine preserves_bind (by simp) fun existing => preserves_ite preserves_pure ?_
  refine preserves_requiredEffort_bind fun effort => ?_
  refine preserves_bind (by simp) fun _ => preserves_ite ?_ (by simp)
  exact preserves_bind applyAnswer_updated fun _ => by simp

/-- A block by the infrastructure ends in the update to its state. -/
theorem blockInfrastructure_updated {blocker : InfrastructureBlocker} :
    (blockInfrastructure effortId blocker stamp).Preserves property := by
  unfold blockInfrastructure
  refine preserves_requiredEffort_bind fun effort => ?_
  refine preserves_bind (by simp) fun resume => ?_
  exact preserves_updateState_bind nofun preserves_appendEvent

/-- A block by the provider ends in the update to its state. -/
theorem blockProvider_updated {blocker : ProviderSignoffBlocker} :
    (blockProvider effortId blocker stamp).Preserves property := by
  unfold blockProvider
  refine preserves_requiredEffort_bind fun effort => ?_
  refine preserves_bind (by simp) fun resume => ?_
  exact preserves_updateState_bind nofun preserves_appendEvent

/-- A consumed failure ends in the update of state and count. -/
theorem consumeCycleFailure_updated {cycleId : String} {failure : CycleFailure} :
    (consumeCycleFailure effortId cycleId failure stamp).Preserves property := by
  unfold consumeCycleFailure
  refine preserves_requiredEffort_bind fun effort => ?_
  iterate 2 refine preserves_bind (by simp) fun _ => ?_
  intro db holds
  rw [wp_bind, wp_query]
  refine preserves_bind (by simp) (fun _ => ?_) db holds
  iterate 2 refine preserves_bind (by simp) fun _ => ?_
  exact preserves_updateState_bind failedState_present preserves_reportFailure

/-- A rejected candidate ends in the update of state and count. -/
theorem rejectCandidate_updated {evidence : String} :
    (rejectCandidate effortId evidence stamp).Preserves property := by
  unfold rejectCandidate
  refine preserves_bind (by simp) fun _ => ?_
  refine preserves_requiredEffort_bind fun effort => ?_
  iterate 4 refine preserves_bind (by simp) fun _ => ?_
  intro db holds
  rw [wp_bind, wp_query]
  refine preserves_bind (by simp) (fun _ => ?_) db holds
  iterate 4 refine preserves_bind (by simp) fun _ => ?_
  refine preserves_bind (preserves_updateAttempts fun _ => ⟨rfl, id⟩) fun _ => ?_
  exact preserves_updateState_bind failedState_present preserves_reportFailure

/-- A retry ends in the update to the suspended state. -/
theorem retryBlocked_updated {responder : ResponderIdentity} {daemonUid : Nat} :
    (retryBlocked effortId responder daemonUid stamp).Preserves property := by
  unfold retryBlocked
  refine preserves_requiredEffort_bind fun effort => ?_
  iterate 3 refine preserves_bind (by simp) fun _ => ?_
  split
  · refine preserves_bind (by simp) fun _ => ?_
    exact preserves_updateState_bind (by rintro ⟨⟩) preserves_appendEvent
  · exact preserves_updateState_bind (ResumeState.restore_present _) preserves_appendEvent
  · exact preserves_updateState_bind (ResumeState.restore_present _) preserves_appendEvent
  · exact preserves_abort

/-- A resumed reconciliation ends in the update to the suspended state. -/
theorem resumeProviderReconciliation_updated :
    (resumeProviderReconciliation effortId stamp).Preserves property := by
  unfold resumeProviderReconciliation
  refine preserves_requiredEffort_bind fun effort => ?_
  refine preserves_bind (by simp) fun _ => ?_
  exact preserves_updateState_bind (ResumeState.restore_present _) preserves_appendEvent

/-- A landing begins with the update to its state. -/
theorem beginLanding_updated {expectedTargetSha leaseId commandId : String}
    {signoff : SignoffDisposition} :
    (beginLanding effortId expectedTargetSha leaseId commandId signoff stamp).Preserves
      property := by
  unfold beginLanding
  iterate 2 refine preserves_bind (by simp) fun _ => ?_
  refine preserves_requiredEffort_bind fun effort => ?_
  repeat refine preserves_bind (by simp) fun _ => ?_
  exact preserves_updateState_bind (by rintro ⟨⟩) preserves_appendEvent

/-- A released landing ends in the update to the uncertain state. -/
theorem releaseLanding_updated {commandId : String} :
    (releaseLanding effortId commandId stamp).Preserves property := by
  unfold releaseLanding
  refine preserves_bind (by simp) fun _ => ?_
  refine preserves_requiredEffort_bind fun effort => ?_
  refine preserves_bind (by simp) fun _ => ?_
  exact preserves_updateState_bind nofun preserves_appendEvent

/-- A landed candidate ends in the update to the integrated state. -/
theorem markIntegrated_updated {landedSha remoteTargetSha : String} :
    (markIntegrated effortId landedSha remoteTargetSha stamp).Preserves property := by
  unfold markIntegrated
  refine preserves_requiredEffort_bind fun effort => ?_
  repeat refine preserves_bind (by simp) fun _ => ?_
  refine preserves_updateState_bind (by rintro ⟨⟩) ?_
  repeat refine preserves_bind (by simp) fun _ => ?_
  exact preserves_appendEvent

omit [Updated property] in
/-- To authorize a definite rejection updates nothing. -/
theorem authorizeDefiniteLandingRejection_updated {commandId expectedTargetSha : String} :
    (authorizeDefiniteLandingRejection effortId commandId expectedTargetSha).Preserves
      property := by
  unfold authorizeDefiniteLandingRejection
  repeat refine preserves_bind (by simp) fun _ => ?_
  exact preserves_pure

/-- A moved target ends in the update to the waiting state. -/
theorem beginTargetMove_updated {targetSha : String}
    {rejection : Option DefiniteLandingRejection} :
    (beginTargetMoveWithResolution effortId targetSha rejection stamp).Preserves property := by
  unfold beginTargetMoveWithResolution
  refine preserves_requiredEffort_bind fun effort => ?_
  iterate 2 refine preserves_bind (by simp) fun _ => ?_
  split
  · exact preserves_require
  · repeat refine preserves_bind (by simp) fun _ => ?_
    refine preserves_bind (preserves_updateStateAndCountWithResolution (by rintro ⟨⟩)) fun _ => ?_
    exact preserves_bind (by simp) fun _ => preserves_appendEvent

/-- Before a recomposition nothing is updated. -/
theorem prepareTargetRecomposition_updated {targetSha : String}
    {rejection : Option DefiniteLandingRejection} :
    (prepareTargetRecompositionWithResolution effortId targetSha rejection).Preserves property := by
  unfold prepareTargetRecompositionWithResolution
  iterate 10 refine preserves_bind (by simp) fun _ => ?_
  exact preserves_scheduleCleanup

/-- An applied review ends in the update to the state of its decision. -/
theorem applyReview_updated {command : CandidateReviewCommand} {review : CandidateReviewRequired}
    {responder : ResponderIdentity} :
    (applyReview command effort review responder stamp).Preserves
      fun db => property db ∧ db.Names effort := by
  unfold applyReview
  cases command.decision with
  | approve text =>
    iterate 3 refine preserves_bind (by simp) fun _ => ?_
    refine preserves_updateState_bind (by rintro ⟨⟩) ?_
    exact preserves_bind (by simp) fun _ => preserves_pure
  | requestChanges text =>
    iterate 5 refine preserves_bind (by simp) fun _ => ?_
    refine preserves_bind (preserves_updateAttempts fun _ => ⟨rfl, id⟩) fun _ => ?_
    refine preserves_updateState_bind (by rintro ⟨⟩) ?_
    exact preserves_bind (by simp) fun _ => preserves_pure

/-- The receipt of a review is framed. -/
theorem reviewCandidateForEffort_updated {command : CandidateReviewCommand}
    {responder : ResponderIdentity} {daemonUid : Nat} :
    (reviewCandidateForEffort command effortId responder daemonUid stamp).Preserves property := by
  unfold reviewCandidateForEffort
  refine preserves_bind (by simp) fun existing => ?_
  split
  · exact preserves_ite preserves_pure preserves_pure
  · refine preserves_requiredEffort_bind fun effort => ?_
    iterate 2 refine preserves_bind (by simp) fun _ => ?_
    refine preserves_ite ?_ (by simp)
    refine preserves_bind (by simp) fun review => ?_
    exact preserves_bind applyReview_updated fun _ => by simp

/-- A cancellation ends in the update to its state. -/
theorem cancel_updated {actor reason : String} :
    (cancel effortId actor reason stamp).Preserves property := by
  unfold cancel
  iterate 2 refine preserves_bind (by simp) fun _ => ?_
  refine preserves_requiredEffort_bind fun effort => ?_
  iterate 2 refine preserves_bind (by simp) fun _ => ?_
  refine preserves_ite ?_ preserves_pure
  unfold cancelEffortTransaction
  repeat refine preserves_bind (by simp) fun _ => ?_
  exact preserves_updateState_bind (by rintro ⟨⟩) preserves_appendEvent

/-- A termination debt is framed. -/
theorem deleteTerminationDebt_updated {authority : RunnerTerminationAuthority} :
    (deleteTerminationDebt effortId authority).Preserves property := by
  unfold deleteTerminationDebt
  repeat refine preserves_bind (by simp) fun _ => ?_
  exact preserves_write fun db => Framed.control db _ ⟨rfl, rfl, rfl, rfl, rfl⟩

/-- A recomposition rewrites columns that no link reads, then updates the state. -/
theorem completeTargetRecomposition_updated {targetSha : String}
    {composition : CompositionEvidence} :
    (completeTargetRecomposition effortId targetSha composition stamp).Preserves property := by
  unfold completeTargetRecomposition
  refine preserves_requiredEffort_bind fun effort => ?_
  iterate 15 refine preserves_bind (by simp) fun _ => ?_
  refine preserves_bind (preserves_updateAttempts fun _ => ⟨rfl, id⟩) fun _ => ?_
  refine preserves_bind (preserves_write fun db holds => ?_) fun _ => ?_
  · have same : ∀ row : IntegrationEffort,
        IntegrationEffort.SameLifecycle { row with targetSha, composition } row :=
      fun _ => ⟨rfl, rfl, rfl, rfl⟩
    exact ⟨Updated.efforts db _ _ _ same holds.1, holds.2.updateEfforts same⟩
  · refine preserves_bind (by simp) fun _ => ?_
    refine preserves_updateState_bind (by rintro ⟨⟩) ?_
    exact preserves_bind (by simp) fun _ => preserves_appendEvent

end Iq
