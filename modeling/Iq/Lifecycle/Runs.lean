import Iq.Lifecycle.LandingRefinement

/-!
# Runs of the lifecycle

Creation, replacement and the operations of the queue complete the refinement: every committed
operation of the store is a step of the lifecycle at one effort and nothing elsewhere. An invariant
of views that holds before the first effort and that every lifecycle step keeps therefore holds of
every effort in every reachable database.
-/

namespace Iq

open Library Library.Transaction

variable {db later : Database} {effortId itemId : String} {effort row : IntegrationEffort}
  {state : IntegrationEffortState} {stamp : Stamp}

/-! ## Creation and replacement -/

/-- A committed replacement starts the effort anew. -/
theorem replaceEffort_refines {new : NewEffort} {pending : ReplacementPending}
    {format : GitObjectFormat} {done : Unit} (waiting : effort.state = .replacementPending pending)
    (stored : (db.view effort.id).effort = some effort)
    (composed : new.composition.validate format false = .ok ())
    (commits : (replaceEffort new effort pending stamp).Commits db done later) :
    Refines (.createEffort new stamp) effort.id db later := by
  simp only [replaceEffort, commits_require_bind, commits_query_bind] at commits
  obtain ⟨another, -, -, rest⟩ := commits
  obtain ⟨⟨⟩, middle, rewrite, event⟩ := commits_bind.mp rest
  have same : later.view = middle.view := view_appendEvent (by simp) event
  simp only [commits_write, true_and] at rewrite
  subst rewrite
  refine ⟨confined_updateEffort.trans (.of_view same), .inr ?_⟩
  have replaced : later.view effort.id = { db.view effort.id with
      effort := some (new.replace ((db.view effort.id).maxCycle + 1) effort) } := by
    rw [same]
    refine view_updateEffort.trans ?_
    rw [stored]
    rfl
  rw [replaced]
  exact .replace stored waiting another composed

/-- The effort found for an item is the effort of its own view. -/
theorem stored_of_effortOfItem (found : db.effortOfItem itemId = some effort) :
    (db.view effort.id).effort = some effort ∧ effort.itemId = itemId := by
  have mem : effort ∈ db.efforts := List.mem_of_find?_eq_some found
  exact ⟨Database.view_effort_eq_some.mpr ⟨mem, rfl⟩, by simpa using List.find?_some found⟩

/-- A committed creation is a step of the effort it creates. -/
theorem createEffort_refines {new : NewEffort} {done : Unit}
    (commits : (createEffort new stamp).Commits db done later) :
    ∃ effortId, Refines (.createEffort new stamp) effortId db later := by
  simp only [createEffort, commits_itemObjectFormat_bind, commits_ensure_bind,
    commits_lookup_bind, commits_query_bind, commits_require_bind] at commits
  obtain ⟨policy, -, ⟨⟩, -, ⟨⟩, -, ⟨⟩, composed, item, -, -, -, rest⟩ := commits
  split at rest
  · rename_i existing found
    obtain ⟨stored, -⟩ := stored_of_effortOfItem found
    simp only [commits_ensure_bind] at rest
    obtain ⟨⟨⟩, -, rest⟩ := rest
    split at rest
    · exact ⟨_, replaceEffort_refines ‹_› stored composed rest⟩
    · obtain ⟨-, rfl⟩ := commits_require.mp rest
      exact ⟨existing.id, .of_view rfl⟩
  · simp only [commits_query_bind, commits_require_bind, commits_lookup_bind] at rest
    obtain ⟨idle, efforts, inserted, rest⟩ := rest
    obtain ⟨⟨⟩, middle, insert, event⟩ := commits_bind.mp rest
    have same : later.view = middle.view := view_appendEvent (by simp) event
    obtain ⟨-, rfl⟩ := commits_write.mp insert
    refine ⟨stamp.rowId, ?_, .inr ?_⟩
    · intro other apart
      rw [same]
      simp [Database.view, Database.cyclesOf, Table.find?_of_insert? _ inserted, NewEffort.row,
        apart.symm]
    · have created : later.view stamp.rowId =
          { db.view stamp.rowId with effort := some (new.row stamp.rowId) } := by
        rw [same]
        simp [Database.view, Database.cyclesOf, Table.find?_of_insert? _ inserted, NewEffort.row]
      rw [created]
      refine .create ?_ ?_ composed
      · rw [Database.view_effort, Table.find?_eq_none]
        exact fun row mem => Table.fresh_of_insert? inserted mem
      · intro cycle mem
        obtain ⟨stored, owned⟩ := Database.mem_view_cycles.mp mem
        simpa [owned] using Table.any_eq_false.mp idle cycle stored

/-- A committed mark is a step of the effort that is to be replaced. -/
theorem markEffortReplacementPending_refines {oldAttemptId : String} {marked : Bool}
    (commits : (markEffortReplacementPending itemId oldAttemptId stamp).Commits db marked later) :
    ∃ effortId, Refines (.finishReplacementCleanup itemId oldAttemptId stamp) effortId db
      later := by
  simp only [markEffortReplacementPending, commits_query_bind] at commits
  split at commits
  · obtain ⟨-, rfl⟩ := commits_pure.mp commits
    exact ⟨itemId, .of_view rfl⟩
  · rename_i effort found
    obtain ⟨stored, -⟩ := stored_of_effortOfItem found
    simp only [commits_ensure_bind, commits_require_bind] at commits
    obtain ⟨⟨⟩, -, ⟨rfl, limited⟩, rest⟩ := commits
    obtain ⟨⟨⟩, first, update, rest⟩ := commits_bind.mp rest
    obtain ⟨⟨⟩, second, event, rest⟩ := commits_bind.mp rest
    obtain ⟨-, rfl⟩ := commits_pure.mp rest
    have same : second.view = first.view := view_appendEvent (by simp) event
    obtain ⟨confined, writes⟩ := writes_of_updateState update stored rfl rfl
    rw [← same] at writes
    refine ⟨effort.id, confined.trans (.of_view same), .inr ?_⟩
    cases named : effort.state with
    | cycleLimitBlocked blocked => exact .markReplacement named writes
    | _ => simp [named, IntegrationEffortState.name] at limited

/-- A superseded attempt is a step of its effort at most. -/
theorem supersedeAttempt_refines {item : QueueItem} {oldAttemptId : String} {done : Unit}
    (commits : (supersedeAttempt item oldAttemptId stamp).Commits db done later) :
    ∃ effortId, Refines (.finishReplacementCleanup item.id oldAttemptId stamp) effortId db
      later := by
  obtain ⟨changed, first, attempts, rest⟩ := commits_bind.mp commits
  have before : first.view = db.view := view_updateAttempts attempts
  have marked : ∃ pending middle, (markEffortReplacementPending item.id oldAttemptId stamp).Commits
      first pending middle ∧ later.view = middle.view := by
    simp only [commits_ite, commits_lookup_bind, commits_require_bind] at rest
    obtain ⟨-, -, -, -, rest⟩ | ⟨-, rest⟩ := rest
    · obtain ⟨pending, middle, mark, project⟩ := commits_bind.mp rest
      exact ⟨pending, middle, mark, view_updateQueueItem project⟩
    · obtain ⟨pending, middle, mark, project⟩ := commits_bind.mp rest
      exact ⟨pending, middle, mark, view_updateQueueItem project⟩
  obtain ⟨pending, middle, mark, after⟩ := marked
  obtain ⟨effortId, refined⟩ := markEffortReplacementPending_refines mark
  refine ⟨effortId, ((Confined.of_view before).trans refined.confined).trans (.of_view after), ?_⟩
  rw [after, ← before]
  exact refined.stepped

/-- A committed cleanup is a step of the effort that is to be replaced. -/
theorem finishReplacementCleanup_refines {oldAttemptId : String} {done : Unit}
    (commits : (finishReplacementCleanup itemId oldAttemptId stamp).Commits db done later) :
    ∃ effortId, Refines (.finishReplacementCleanup itemId oldAttemptId stamp) effortId db
      later := by
  simp only [finishReplacementCleanup, commits_lookup_bind] at commits
  obtain ⟨item, found, rest⟩ := commits
  obtain rfl : item.id = itemId := (Table.find?_eq_some.mp found).2
  split at rest
  · exact absurd rest commits_abort
  · simp only [commits_require_bind, commits_ite] at rest
    obtain ⟨rfl, ⟨-, rest⟩ | ⟨-, rest⟩⟩ := rest
    · exact supersedeAttempt_refines rest
    · simp only [commits_lookup_bind, commits_require_bind, commits_write] at rest
      obtain ⟨-, -, -, -, -, rfl⟩ := rest
      exact ⟨item.id, .of_view rfl⟩

/-! ## The queue -/

/-- A claim leaves every view. -/
theorem view_claimNextReady {repoKey : String} {targetRef : TargetRef} {withoutValidation : Bool} :
    (claimNextReady repoKey targetRef withoutValidation stamp).Keeps Database.view := by
  refine keeps_bind keeps_query fun _ oldest _ _ => ?_
  cases oldest with
  | none => exact keeps_pure
  | some item =>
    refine keeps_bind keeps_requireItemObligation fun _ _ _ _ => keeps_ite (fun _ => keeps_pure)
      fun _ => keeps_bind keeps_query fun _ _ _ _ => keeps_bind keeps_lookup fun _ _ _ _ =>
        keeps_bind (keeps_write fun _ => rfl) fun _ _ _ _ => keeps_bind view_updateQueueItem
          fun _ _ _ _ => keeps_pure

/-- A cancelled item without an effort leaves every view. -/
theorem view_cancelItemWithoutEffort :
    (cancelItemWithoutEffort itemId stamp).Keeps Database.view := by
  refine keeps_bind keeps_lookup fun _ item _ _ => keeps_bind keeps_query fun _ _ _ _ =>
    keeps_bind keeps_require fun _ _ _ _ => keeps_bind keeps_require fun _ _ _ _ =>
      keeps_bind keeps_require fun _ _ _ _ => keeps_bind keeps_query fun _ _ _ _ =>
        keeps_bind keeps_require fun _ _ _ _ => keeps_bind view_cancelLocalSubmission
          fun _ _ _ _ => ?_
  cases item.currentAttemptId with
  | none => exact view_updateQueueItem
  | some attemptId =>
    exact keeps_bind view_updateAttempts fun _ _ _ _ => view_updateQueueItem

/-- A blocked item leaves every view. -/
theorem view_blockItemFromStatus {expected : QueueStatus} {phase : BlockedPhase}
    {reason : BlockedReason} :
    (blockItemFromStatus itemId expected phase reason).Keeps Database.view :=
  keeps_bind keeps_query fun _ _ _ _ => keeps_bind keeps_require fun _ _ _ _ =>
    view_updateQueueItem

/-- A recorded invocation leaves every view. -/
theorem view_recordInvocation {attemptId disappeared without : String}
    {invocation : AttemptValidationInvocation} {retarget : Option String} :
    (recordInvocation attemptId invocation retarget disappeared without).Keeps Database.view :=
  keeps_bind view_updateAttempts fun _ _ _ _ => keeps_bind keeps_require fun _ _ _ _ =>
    keeps_bind keeps_query fun _ _ _ _ => keeps_bind keeps_lookup fun _ _ _ _ =>
      keeps_bind keeps_lookup fun _ _ _ _ => keeps_write fun _ => rfl

/-- A completed validation of an attempt leaves every view. -/
theorem view_completeAttemptValidation {attemptId validatedCommitSha : String}
    {invocationNumber : Nat} :
    (completeAttemptValidation attemptId invocationNumber validatedCommitSha).Keeps
      Database.view :=
  keeps_bind keeps_lookup fun _ _ _ _ => keeps_bind keeps_itemObjectFormat fun _ _ _ _ =>
    keeps_bind keeps_ensure fun _ _ _ _ => keeps_bind keeps_query fun _ _ _ _ =>
      keeps_bind keeps_query fun _ _ _ _ => keeps_bind keeps_require fun _ _ _ _ =>
        keeps_bind (keeps_write fun _ => rfl) fun _ _ _ _ => keeps_bind view_updateAttempts
          fun _ _ _ _ => keeps_require

/-- An accepted candidate of an attempt leaves every view. -/
theorem view_acceptCandidateWithoutValidation {attemptId targetBaseSha candidateSha : String}
    {expected : QueueStatus} :
    (acceptCandidateWithoutValidation itemId attemptId targetBaseSha candidateSha expected).Keeps
      Database.view :=
  keeps_bind keeps_require fun _ _ _ _ => keeps_bind keeps_require fun _ _ _ _ =>
    keeps_bind keeps_lookup fun _ _ _ _ => keeps_bind keeps_require fun _ _ _ _ =>
      keeps_bind keeps_lookup fun _ _ _ _ => keeps_bind keeps_require fun _ _ _ _ =>
        keeps_bind keeps_require fun _ _ _ _ => keeps_ite (fun _ => keeps_pure) fun _ =>
          keeps_bind keeps_require fun _ _ _ _ => keeps_bind keeps_query fun _ _ _ _ =>
            keeps_bind keeps_require fun _ _ _ _ => keeps_bind view_updateAttempts
              fun _ _ _ _ => keeps_pure

/-- The signoff of an attempt leaves every view. -/
theorem view_updateAttemptSignoff {attemptId evidence : String} :
    (updateAttemptSignoff attemptId evidence).Keeps Database.view :=
  keeps_bind view_updateAttempts fun _ _ _ _ => keeps_require

/-- A first fetch leaves every view. -/
theorem view_beginInitialTargetFetch {attemptId targetSha : String} :
    (beginInitialTargetFetch itemId attemptId targetSha).Keeps Database.view :=
  keeps_bind keeps_itemObjectFormat fun _ _ _ _ => keeps_bind keeps_ensure fun _ _ _ _ =>
    keeps_bind view_updateAttempts fun _ _ _ _ => keeps_bind keeps_query fun _ _ _ _ =>
      keeps_bind keeps_require fun _ _ _ _ => keeps_bind view_requireCheckout fun _ _ _ _ =>
        keeps_require

/-- The commits of a conflict leave every view. -/
theorem view_setConflictMetadata {attemptId targetSha sourceSha : String} :
    (setConflictMetadata itemId attemptId targetSha sourceSha).Keeps Database.view :=
  keeps_bind keeps_lookup fun _ _ _ _ => keeps_ite (fun _ => keeps_write fun _ => rfl)
    fun _ => keeps_require

/-- A scheduled cleanup leaves every view. -/
theorem view_schedulePrivateRefCleanup {debt : PrivateRefCleanupDebt} :
    (schedulePrivateRefCleanup debt).Keeps Database.view :=
  keeps_bind keeps_lookup fun _ _ _ _ => keeps_bind keeps_ensure fun _ _ _ _ =>
    keeps_bind keeps_require fun _ _ _ _ => view_scheduleCleanup

/-- A completed cleanup leaves every view. -/
theorem view_completePrivateRefCleanup {debt : PrivateRefCleanupDebt} :
    (completePrivateRefCleanup debt).Keeps Database.view :=
  keeps_bind keeps_query fun _ _ _ _ => keeps_bind keeps_require fun _ _ _ _ =>
    keeps_write fun _ => rfl

/-- A draining repository leaves every view. -/
theorem view_beginRepositoryDraining {repoKey : String} :
    (beginRepositoryDraining repoKey).Keeps Database.view :=
  keeps_bind keeps_lookup fun _ _ _ _ => keeps_bind keeps_require fun _ _ _ _ =>
    keeps_bind keeps_query fun _ _ _ _ => keeps_bind keeps_require fun _ _ _ _ =>
      keeps_bind keeps_query fun _ _ _ _ => keeps_write fun _ => rfl

/-- A disabled repository leaves every view. -/
theorem view_disableDrainedRepository {repoKey : String} :
    (disableDrainedRepository repoKey).Keeps Database.view := by
  refine keeps_bind keeps_lookup fun _ policy _ _ => ?_
  cases policy.operationState with
  | enabled => exact keeps_abort
  | disabled => exact keeps_abort
  | draining obligations =>
    exact keeps_bind keeps_query fun _ _ _ _ => keeps_bind keeps_require fun _ _ _ _ =>
      keeps_write fun _ => rfl

/-! ## The refinement -/

/-- Every view of a database is sound. -/
def Database.Sound (db : Database) : Prop := ∀ effortId, (db.view effortId).Sound

/-- An operation that keeps every view takes no step anywhere. -/
theorem refines_of_view {operation : Operation} (same : later.view = db.view) :
    ∃ effortId, Refines operation effortId db later := ⟨"", .of_view same⟩

/-- Every committed operation is a step of the lifecycle at one effort and nothing elsewhere. -/
theorem Operation.refines {operation : Operation} {outcome : Outcome} (sound : db.Sound)
    (commits : operation.transaction.Commits db outcome later) :
    ∃ effortId, Refines operation effortId db later := by
  cases operation <;> simp only [Operation.transaction, commits_map] at commits <;>
    obtain ⟨_, commits, -⟩ := commits
  case createEffort => exact createEffort_refines commits
  case prepareCycleLaunch => exact ⟨_, prepareCycleLaunch_refines commits⟩
  case surrenderCycleSpawnAuthority => exact ⟨_, surrenderCycleSpawnAuthority_refines commits⟩
  case authorizeCycleSpawn => exact refines_of_view (authorizeCycleSpawn_keeps commits)
  case acknowledgeTerminatedCycleSpawn =>
    exact ⟨_, acknowledgeTerminatedCycleSpawn_refines commits⟩
  case recordCycleStarted => exact ⟨_, recordCycleStarted_refines commits⟩
  case resetPreparedLaunch => exact ⟨_, resetPreparedLaunch_refines commits⟩
  case recordResultState => exact ⟨_, recordResultState_refines commits⟩
  case startCandidateBuild => exact absurd commits (startCandidateBuild_never_commits (sound _))
  case acceptResolvedCycle => exact ⟨_, acceptResolvedCycle_refines (sound _) commits⟩
  case recordCandidate => exact ⟨_, recordCandidate_refines commits⟩
  case resetInterruptedCandidateBuild =>
    exact ⟨_, resetInterruptedCandidateBuild_refines commits⟩
  case startValidation => exact ⟨_, startValidation_refines commits⟩
  case completeValidation => exact ⟨_, completeValidation_refines commits⟩
  case requireGuidance => exact ⟨_, requireGuidance_refines (sound _) commits⟩
  case answer => exact ⟨_, answerForEffort_refines commits⟩
  case blockInfrastructure => exact ⟨_, blockInfrastructure_refines commits⟩
  case blockProvider => exact ⟨_, blockProvider_refines commits⟩
  case consumeCycleFailure => exact ⟨_, consumeCycleFailure_refines commits⟩
  case rejectCandidate => exact ⟨_, rejectCandidate_refines commits⟩
  case retryBlocked => exact ⟨_, retryBlocked_refines commits⟩
  case resumeProviderReconciliation => exact ⟨_, resumeProviderReconciliation_refines commits⟩
  case beginLanding => exact ⟨_, beginLanding_refines commits⟩
  case releaseLanding => exact ⟨_, releaseLanding_refines commits⟩
  case markIntegrated => exact ⟨_, markIntegrated_refines commits⟩
  case authorizeDefiniteLandingRejection =>
    exact refines_of_view (authorizeDefiniteLandingRejection_keeps commits)
  case beginTargetMove => exact ⟨_, beginTargetMoveWithResolution_refines commits⟩
  case prepareTargetRecomposition =>
    exact refines_of_view (prepareTargetRecomposition_keeps commits)
  case completeTargetRecomposition => exact ⟨_, completeTargetRecomposition_refines commits⟩
  case reviewCandidate => exact ⟨_, reviewCandidateForEffort_refines commits⟩
  case cancel => exact ⟨_, cancel_refines commits⟩
  case deleteTerminationDebt => exact ⟨_, deleteTerminationDebt_refines commits⟩
  case claimNextReady => exact refines_of_view (view_claimNextReady commits)
  case cancelItemWithoutEffort => exact refines_of_view (view_cancelItemWithoutEffort commits)
  case blockItemOwned => exact refines_of_view (view_blockItemFromStatus commits)
  case blockIntegratingRecoveryOwned =>
    exact refines_of_view (keeps_bind keeps_require (fun _ _ _ _ => view_blockItemFromStatus) commits)
  case finishReplacementCleanup => exact finishReplacementCleanup_refines commits
  case recordAttemptValidation => exact refines_of_view (view_recordInvocation commits)
  case recordAttemptRevalidation => exact refines_of_view (view_recordInvocation commits)
  case completeAttemptValidation => exact refines_of_view (view_completeAttemptValidation commits)
  case acceptCandidateWithoutValidation => exact refines_of_view (view_acceptCandidateWithoutValidation commits)
  case updateAttemptSignoff => exact refines_of_view (view_updateAttemptSignoff commits)
  case beginInitialTargetFetch => exact refines_of_view (view_beginInitialTargetFetch commits)
  case setConflictMetadata => exact refines_of_view (view_setConflictMetadata commits)
  case schedulePrivateRefCleanup => exact refines_of_view (view_schedulePrivateRefCleanup commits)
  case completePrivateRefCleanup => exact refines_of_view (view_completePrivateRefCleanup commits)
  case beginRepositoryDraining => exact refines_of_view (view_beginRepositoryDraining commits)
  case disableDrainedRepository => exact refines_of_view (view_disableDrainedRepository commits)

/-- At every effort a committed operation changes nothing or takes a lifecycle step. -/
theorem Operation.stepped {operation : Operation} {outcome : Outcome} (sound : db.Sound)
    (commits : operation.transaction.Commits db outcome later) (effortId : String) :
    later.view effortId = db.view effortId ∨
      EffortStep operation (db.view effortId) (later.view effortId) := by
  obtain ⟨owner, confined, step⟩ := operation.refines sound commits
  by_cases same : effortId = owner
  · rw [same]
    exact step
  · exact .inl (confined effortId same)

/-! ## Invariants of views -/

/-- The view of an effort before the first operation. -/
def EffortView.blank : EffortView := ⟨none, [], [], none, [], none, []⟩

/-- At first every view is blank. -/
theorem Database.Initial.view_eq_blank (initial : db.Initial) (effortId : String) :
    db.view effortId = .blank := by
  simp [Database.view, Database.cyclesOf, initial.efforts, initial.cycles, initial.guidance,
    initial.evidence, initial.reviews, initial.terminationDebts, initial.events, Table.select,
    Table.find?, Table.empty, EffortView.blank]

/-- A blank view is sound. -/
theorem EffortView.sound_blank : EffortView.blank.Sound where
  only _ mem := absurd mem List.not_mem_nil
  there _ _ named := by cases named

/-- Committing an operation keeps every view sound. -/
theorem Database.Sound.commits {operation : Operation} {outcome : Outcome} (sound : db.Sound)
    (commits : operation.transaction.Commits db outcome later) : later.Sound := by
  intro effortId
  obtain same | step := operation.stepped sound commits effortId
  · rw [same]
    exact sound effortId
  · exact step.sound (db.view_keyed effortId) (sound effortId)

/-- Every reachable database is sound. -/
theorem sound_of_reachable (reachable : store.Reachable db) : db.Sound := by
  refine reachable.invariant ?_ ?_
  · intro start initial effortId
    rw [Database.Initial.view_eq_blank initial]
    exact EffortView.sound_blank
  · intro now operation sound
    obtain same | ⟨outcome, commits⟩ := settle_cases operation.transaction now
    · rwa [store_step, same]
    · exact sound.commits commits

/-- The invariant rule of the lifecycle: what holds of a blank view and is kept by every step holds
of every view of every reachable database. -/
theorem view_invariant {Invariant : EffortView → Prop} (blank : Invariant .blank)
    (kept : ∀ {operation view after}, EffortStep operation view after → view.Sound →
      (∃ effortId, view.Keyed effortId) → Invariant view → Invariant after)
    (reachable : store.Reachable db) (effortId : String) : Invariant (db.view effortId) := by
  have all : ∀ effortId, Invariant (db.view effortId) := by
    have rule := @Machine.Reachable.invariant_of_reachable _ _ store
      fun now => ∀ effortId, Invariant (now.view effortId)
    refine rule ?_ ?_ reachable
    · intro start initial effortId
      rw [Database.Initial.view_eq_blank initial]
      exact blank
    · intro now operation reached holds effortId
      obtain same | ⟨outcome, commits⟩ := settle_cases operation.transaction now
      · rw [store_step, same]
        exact holds effortId
      · obtain same | step := operation.stepped (sound_of_reachable reached) commits effortId
        · rw [store_step, same]
          exact holds effortId
        · exact kept step (sound_of_reachable reached effortId) ⟨_, now.view_keyed effortId⟩
            (holds effortId)
  exact all effortId

/-! ## A sample installation

One repository with one ready item, and the operations that take it through a cycle. The results
below are instantiated at its runs. -/

namespace Sample

/-- The branch of the sample's item. -/
def targetRef : TargetRef := ⟨"refs/heads/main", TargetRef.valid_main⟩

/-- The commit of the branch. -/
def targetSha : String := "1111111111111111111111111111111111111111"

/-- The commit of the source. -/
def sourceSha : String := "2222222222222222222222222222222222222222"

/-- The tree of the candidate. -/
def treeSha : String := "3333333333333333333333333333333333333333"

/-- The commit of the candidate. -/
def candidateSha : String := "4444444444444444444444444444444444444444"

/-- A digest where any will do. -/
def digest : String := "5555555555555555555555555555555555555555555555555555555555555555"

/-- The stamp of an operation, by a name for it. -/
def stampOf (name : String) : Stamp := ⟨"now", "event-" ++ name, name⟩

/-- The repository and its item before the first operation. -/
def database : Database where
  items := ⟨[⟨"item", "repo", targetRef, .ready, none, none, none, none, none, none, .ready, .none,
    none⟩], List.nodup_singleton _⟩
  attempts := .empty
  invocations := .empty
  policies := ⟨[⟨"repo", .enabled, .sha1⟩], List.nodup_singleton _⟩
  repositories := ⟨[⟨"repo", .ready targetRef targetSha⟩], List.nodup_singleton _⟩
  submissions := .empty
  workspaces := .empty
  privateRefDebts := .empty
  efforts := .empty
  cycles := .empty
  guidance := .empty
  evidence := .empty
  reviews := .empty
  reviewReceipts := .empty
  answers := .empty
  terminationDebts := .empty
  events := []

/-- The sample's first database is one. -/
theorem database_initial : database.Initial where
  efforts := rfl
  cycles := rfl
  guidance := rfl
  evidence := rfl
  reviews := rfl
  reviewReceipts := rfl
  answers := rfl
  terminationDebts := rfl
  events := rfl
  unlanded item mem := by
    obtain rfl := List.mem_singleton.mp mem
    exact ⟨rfl, rfl, fun _ _ => ⟨rfl, rfl⟩⟩
  admitted item mem _ := by
    obtain rfl := List.mem_singleton.mp mem
    exact ⟨_, rfl, rfl⟩
  registered item mem := by
    obtain rfl := List.mem_singleton.mp mem
    exact ⟨_, rfl⟩

/-- A configured runner. -/
def runner : RunnerSnapshot :=
  let executable : ExecutableIdentity := ⟨"/usr/bin/tool", 1, 1, digest⟩
  ⟨executable, "build", "model", 60, ⟨1, 1, 1, 1, 1, 1, 1⟩,
    ⟨"bubblewrap", executable, executable, executable, executable⟩, "TOKEN"⟩

/-- The effort of the item for an attempt, with a composition and a landing variant. -/
def newEffort (attemptId : String) (composition : CompositionEvidence)
    (landingVariant : LandingVariant) : NewEffort where
  itemId := "item"
  attemptId := attemptId
  targetSha := targetSha
  sourceSha := sourceSha
  sourceVariant := .remoteBranch
  landingVariant := landingVariant
  composition := composition
  workspace := ⟨"/work", "rift", "source"⟩
  runner := runner
  stateRepository := .local

/-- A process that launches cycles. -/
def launcher : LauncherAuthority := ⟨10, 20, "0123456789abcdef0123456789abcdef"⟩

/-- The identity of a cycle, by its number. -/
def cycleId (number : Nat) : String := "cycle-" ++ toString number

/-- The launch of a cycle. -/
def launch (number : Nat) : AgentLaunching where
  launchOperationId := "launch"
  unitName := systemdUnitName (cycleId number)
  cycleId := cycleId number
  cycleNumber := number
  authorityLeaseId := "lease"
  launcher := launcher
  inputSha256 := digest
  protocolDirectory := "/run"
  preparedAt := "now"
  spawnAuthority := .open

/-- The cycle as it runs. -/
def running (number : Nat) : AgentRunning where
  launchOperationId := "launch"
  unitName := systemdUnitName (cycleId number)
  cycleId := cycleId number
  cycleNumber := number
  pid := 30
  processStartTicks := 40
  controlGroup := "/user.slice/" ++ systemdUnitName (cycleId number)
  authorityLeaseId := "lease"
  launcher := launcher
  sandboxId := "sandbox"
  inputSha256 := digest
  result := .absent
  startedAt := "now"

/-- The candidate that a cycle intends. -/
def intent (number : Nat) : CandidateIntent where
  operationId := "build-" ++ toString number
  cycleId := cycleId number
  stagedTreeSha256 := digest
  treeSha := treeSha
  parents := [targetSha]
  authorName := "author"
  authorEmail := "author"
  authorTimestamp := "now"
  committerName := "committer"
  committerEmail := "committer"
  committerTimestamp := "now"
  message := "message"
  operationRef := "ref"

/-- The commit that was built for a cycle. -/
def observation (number : Nat) : CandidateObservation where
  operationId := "build-" ++ toString number
  candidateSha := candidateSha
  treeSha := treeSha
  parentShas := [targetSha]
  authorName := "author"
  authorEmail := "author"
  authorTimestamp := "now"
  committerName := "committer"
  committerEmail := "committer"
  committerTimestamp := "now"
  message := "message"
  operationRef := "ref"

/-- Claim the item and create its effort. -/
def created (composition : CompositionEvidence) (landingVariant : LandingVariant) :
    List Operation :=
  [.claimNextReady "repo" targetRef true (stampOf "attempt"),
    .beginInitialTargetFetch "item" "attempt" targetSha,
    .createEffort (newEffort "attempt" composition landingVariant) (stampOf "effort")]

/-- Launch a cycle and record its runner. -/
def started (number : Nat) : List Operation :=
  [.prepareCycleLaunch "effort" (launch number) (stampOf "prepare"),
    .surrenderCycleSpawnAuthority "effort" (launch number).identity true (stampOf "surrender"),
    .recordCycleStarted "effort" (running number) "lease" launcher (stampOf "start")]

/-- Run a cycle that fails. -/
def failed (number : Nat) : List Operation :=
  started number ++
    [.consumeCycleFailure "effort" (cycleId number) .interrupted (stampOf "failed")]

/-- Create the effort and fail nine cycles. -/
def nineFailed : List Operation :=
  created (.clean treeSha) .direct ++ (List.range 9).flatMap fun number => failed (number + 1)

/-- Run a cycle to a candidate. -/
def built (number : Nat) : List Operation :=
  started number ++
    [.acceptResolvedCycle "effort" (intent number) (stampOf "accept"),
      .recordCandidate "effort" (observation number) (stampOf ("review-" ++ toString number))]

/-- A decision on the review of the candidate of a cycle. -/
def reviewCommand (number : Nat) (externalId : String) (decision : CandidateReviewDecision) :
    CandidateReviewCommand where
  externalId := externalId
  reviewId := "review-" ++ toString number
  effortId := "effort"
  attemptId := "attempt"
  cycleId := cycleId number
  targetRef := targetRef
  targetSha := targetSha
  sourceSha := sourceSha
  candidateSha := candidateSha
  decision := decision

/-- The owner of the daemon decides on the candidate of a cycle. -/
def decided (number : Nat) (externalId : String) (decision : CandidateReviewDecision) : Operation :=
  .reviewCandidate (reviewCommand number externalId decision) "effort" (.localPeer 0) 0
    (stampOf externalId)

/-- Validate the candidate and release its landing. -/
def released : List Operation :=
  [.startValidation "effort" digest (stampOf "validate"),
    .acceptCandidateWithoutValidation "item" "attempt" targetSha candidateSha .validating,
    .completeValidation "effort" candidateSha (stampOf "validated"),
    .beginLanding "effort" targetSha "lease" "command" (.noValidation digest) (stampOf "prepared"),
    .releaseLanding "effort" "command" (stampOf "released")]

/-- The database after a list of operations. -/
def after (operations : List Operation) : Database := store.run database operations

/-- The sample's databases are reachable. -/
theorem reachable (operations : List Operation) : store.Reachable (after operations) :=
  ⟨database, operations, database_initial, rfl⟩

end Sample

end Iq
