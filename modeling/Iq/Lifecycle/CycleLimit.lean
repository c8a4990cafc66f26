import Iq.Lifecycle.Transitions

/-!
# The cycle limit

The program and the schema each say which state changes an effort may make, and that a tenth failed
cycle blocks it. An operation that passes its own checks is aborted by the schema's trigger or its
`CHECK` on the limit in two places only, both at the tenth failed cycle: guidance, which counts the
cycle but never blocks, and the rejection of a candidate that is not being validated, which blocks
from a state that has no such transition.
-/

namespace Iq

open Library Library.Transaction Database

variable {db later : Database} {effort : IntegrationEffort} {stamp : Stamp}

/-- The operations that the constraints refuse although the program accepts them: guidance for the
tenth failed cycle, and the rejection of the tenth candidate before or after its validation. -/
def Operation.OverrunsLimit (operation : Operation) (db : Database) : Prop :=
  ∃ effort ∈ db.efforts, effort.failedCycles + 1 = automaticCycleLimit ∧
    ((∃ guidance stamp, operation = .requireGuidance effort.id guidance stamp) ∨
      (∃ evidence stamp, operation = .rejectCandidate effort.id evidence stamp) ∧
        (effort.state.name = .candidateReady ∨ effort.state.name = .landing))

/-- An operation that does not overrun the limit is not aborted by the constraints. -/
theorem Operation.avoids {operation : Operation} (reachable : store.Reachable db)
    (within : ¬operation.OverrunsLimit db) :
    operation.transaction.Avoids Refusal.IsTransition db := by
  cases operation <;> refine wp_map.mpr ?_
  case createEffort => exact createEffort_silent db
  case prepareCycleLaunch => exact prepareCycleLaunch_avoids reachable
  case surrenderCycleSpawnAuthority => exact surrenderCycleSpawnAuthority_avoids reachable
  case authorizeCycleSpawn => exact authorizeCycleSpawn_silent db
  case acknowledgeTerminatedCycleSpawn => exact acknowledgeTerminatedCycleSpawn_avoids reachable
  case recordCycleStarted => exact recordCycleStarted_avoids reachable
  case resetPreparedLaunch => exact resetPreparedLaunch_avoids reachable
  case recordResultState => exact recordResultState_avoids reachable
  case startCandidateBuild => exact startCandidateBuild_avoids reachable
  case acceptResolvedCycle => exact acceptResolvedCycle_avoids reachable
  case recordCandidate => exact recordCandidate_avoids reachable
  case resetInterruptedCandidateBuild => exact resetInterruptedCandidateBuild_avoids reachable
  case startValidation => exact startValidation_avoids reachable
  case completeValidation => exact completeValidation_avoids reachable
  case requireGuidance effortId guidance stamp =>
    refine requireGuidance_avoids reachable fun effort stored limit => within ?_
    have found := Table.find?_eq_some.mp stored
    exact ⟨effort, found.1, limit, .inl ⟨guidance, stamp, by rw [found.2]⟩⟩
  case answer => exact answerForEffort_avoids reachable
  case blockInfrastructure => exact blockInfrastructure_avoids reachable
  case blockProvider => exact blockProvider_avoids reachable
  case consumeCycleFailure => exact consumeCycleFailure_avoids reachable
  case rejectCandidate effortId evidence stamp =>
    refine rejectCandidate_avoids reachable fun effort stored limit => ?_
    have found := Table.find?_eq_some.mp stored
    have overruns : effort.state.name = .candidateReady ∨ effort.state.name = .landing → False :=
      fun name => within
        ⟨effort, found.1, limit, .inr ⟨⟨evidence, stamp, by rw [found.2]⟩, name⟩⟩
    exact ⟨fun ready => overruns (.inl ready), fun landing => overruns (.inr landing)⟩
  case retryBlocked => exact retryBlocked_avoids reachable
  case resumeProviderReconciliation => exact resumeProviderReconciliation_avoids reachable
  case beginLanding => exact beginLanding_avoids reachable
  case releaseLanding => exact releaseLanding_avoids reachable
  case markIntegrated => exact markIntegrated_avoids reachable
  case authorizeDefiniteLandingRejection => exact authorizeDefiniteLandingRejection_silent db
  case beginTargetMove => exact beginTargetMove_avoids reachable
  case prepareTargetRecomposition => exact prepareTargetRecomposition_silent db
  case completeTargetRecomposition => exact completeTargetRecomposition_avoids reachable
  case reviewCandidate => exact reviewCandidateForEffort_avoids reachable
  case cancel => exact cancel_avoids reachable
  case deleteTerminationDebt => exact deleteTerminationDebt_silent db
  case claimNextReady => exact claimNextReady_silent db
  case cancelItemWithoutEffort => exact cancelItemWithoutEffort_silent db
  case blockItemOwned => exact blockItemFromStatus_silent db
  case blockIntegratingRecoveryOwned =>
    exact excludes_bind silent_require (fun _ => blockItemFromStatus_silent) db
  case finishReplacementCleanup => exact finishReplacementCleanup_silent db
  case recordAttemptValidation => exact silent_recordInvocation db
  case recordAttemptRevalidation => exact silent_recordInvocation db
  case completeAttemptValidation => exact completeAttemptValidation_silent db
  case acceptCandidateWithoutValidation => exact acceptCandidateWithoutValidation_silent db
  case updateAttemptSignoff =>
    exact excludes_bind silent_updateAttempts (fun _ => silent_require) db
  case beginInitialTargetFetch => exact beginInitialTargetFetch_silent db
  case setConflictMetadata => exact setConflictMetadata_silent db
  case schedulePrivateRefCleanup => exact schedulePrivateRefCleanup_silent db
  case completePrivateRefCleanup => exact completePrivateRefCleanup_silent db
  case beginRepositoryDraining => exact beginRepositoryDraining_silent db
  case disableDrainedRepository => exact disableDrainedRepository_silent db

section Refused

variable {view after : EffortView} {effortId : String}

/-- Guidance that was accepted did not reach the limit. -/
theorem EffortStep.below_of_guidance {guidance : SemanticGuidanceBlocker}
    (step : EffortStep (.requireGuidance effortId guidance stamp) view after)
    (stored : view.effort = some effort) :
    effort.failedCycles + 1 ≠ automaticCycleLimit := by
  cases step with
  | @requireGuidance _ _ found _ _ _ started same unopened writes =>
    have same : found = effort := Option.some_inj.mp (writes.stored.symm.trans stored)
    subst same
    intro limit
    have within := writes.limit
    rw [limit] at within
    cases within

/-- A rejection that was accepted at the limit rejects a candidate that is being validated. -/
theorem EffortStep.validating_of_reject {evidence : String}
    (step : EffortStep (.rejectCandidate effortId evidence stamp) view after)
    (stored : view.effort = some effort)
    (limit : effort.failedCycles + 1 = automaticCycleLimit) : effort.state.name = .validating := by
  cases step with
  | @reject _ _ found cycleId _ _ candidate exact active writes =>
    have same : found = effort := Option.some_inj.mp (writes.stored.symm.trans stored)
    subst same
    have allowed := writes.transition
    rw [EffortView.failedState, if_pos limit] at allowed
    have names : found.state.name = .candidateReady ∨ found.state.name = .validating ∨
        found.state.name = .landing := by simpa using candidate
    rcases names with name | name | name
    · rw [name] at allowed
      cases allowed
    · exact name
    · rw [name] at allowed
      cases allowed

end Refused

/-- An operation that overruns the limit never commits. -/
theorem Operation.OverrunsLimit.refused {operation : Operation} {outcome : Outcome}
    (reachable : store.Reachable db) (overruns : operation.OverrunsLimit db) :
    ¬operation.transaction.Commits db outcome later := by
  rcases overruns with ⟨effort, mem, limit, reached⟩
  have stored : (db.view effort.id).effort = some effort := view_effort_eq_some.mpr ⟨mem, rfl⟩
  intro commits
  rcases reached with ⟨guidance, stamp, rfl⟩ | ⟨⟨evidence, stamp, rfl⟩, name⟩
  · rcases commits_map.mp commits with ⟨_, commits, -⟩
    have step := (requireGuidance_steps (sound_of_reachable reachable effort.id) commits).2
    exact step.below_of_guidance stored limit
  · rcases commits_map.mp commits with ⟨_, commits, -⟩
    have validating := (rejectCandidate_steps commits).2.validating_of_reject stored limit
    rcases name with name | name <;> cases name.symm.trans validating

/-- The checks of the program and the constraints of the schema agree on an operation exactly when
it does not overrun the limit. Short of that no operation is aborted by the constraints; an
operation that nothing else aborts commits if it does not overrun the limit, and only then. -/
theorem constraints_agree_iff (operation : Operation) (reachable : store.Reachable db) :
    (¬operation.OverrunsLimit db →
        ∀ reason, operation.transaction.Aborts db reason → ¬reason.IsTransition) ∧
      ((∀ reason, operation.transaction.Aborts db reason → reason.IsTransition) →
        ((∃ outcome later, operation.transaction.Commits db outcome later) ↔
          ¬operation.OverrunsLimit db)) := by
  have avoids : ¬operation.OverrunsLimit db →
      ∀ reason, operation.transaction.Aborts db reason → ¬reason.IsTransition :=
    fun within => avoids_iff.mp (operation.avoids reachable within)
  refine ⟨avoids, fun accepted => ⟨?_, fun within => ?_⟩⟩
  · rintro ⟨outcome, later, commits⟩ overruns
    exact overruns.refused reachable commits
  · rcases commits_or_aborts operation.transaction db with
      ⟨outcome, later, commits⟩ | ⟨reason, aborts⟩
    · exact ⟨outcome, later, commits⟩
    · exact absurd (accepted reason aborts) (avoids within reason aborts)

/-- The tenth failure of a running cycle commits. -/
theorem constraints_agree_iff_tenth :
    ∃ outcome later, (Operation.consumeCycleFailure "effort" (Sample.cycleId 10) .interrupted
      (Sample.stampOf "tenth")).transaction.Commits
        (Sample.after (Sample.nineFailed ++ Sample.started 10)) outcome later := by
  refine ((constraints_agree_iff _ (Sample.reachable _)).2 ?_).mpr ?_
  · intro reason aborts
    have none : (Operation.consumeCycleFailure "effort" (Sample.cycleId 10) .interrupted
        (Sample.stampOf "tenth")).transaction.reason?
          (Sample.after (Sample.nineFailed ++ Sample.started 10)) = none := by decide +kernel
    rw [reason?_eq_some.mpr aborts] at none
    cases none
  · rintro ⟨effort, mem, limit, ⟨guidance, stamp, same⟩ | ⟨⟨evidence, stamp, same⟩, name⟩⟩
    · cases same
    · cases same

/-- The guidance that asks for the tenth failed cycle to be counted. -/
def Sample.guidance (number : Nat) : SemanticGuidanceBlocker where
  requestId := "request"
  question := "question"
  affectedContracts := ["contract"]
  affectedPaths := []
  alternatives := .freeText
  evidence := "evidence"
  identity := ⟨"effort", "item", "attempt", cycleId number, targetSha, sourceSha, none⟩

/-- After nine failed cycles the schema refuses both guidance for the tenth cycle and the rejection
of its candidate, which the program accepts. -/
theorem tenth_failure_refused :
    (Operation.requireGuidance "effort" (Sample.guidance 10)
        (Sample.stampOf "guidance")).transaction.Aborts
      (Sample.after (Sample.nineFailed ++ Sample.started 10)) (.constraint .cycleLimit) ∧
    (Operation.rejectCandidate "effort" "defect" (Sample.stampOf "reject")).transaction.Aborts
      (Sample.after (Sample.nineFailed ++ Sample.built 10)) (.constraint .legalTransition) ∧
    store.Reachable (Sample.after (Sample.nineFailed ++ Sample.started 10)) ∧
    store.Reachable (Sample.after (Sample.nineFailed ++ Sample.built 10)) := by
  refine ⟨reason?_eq_some.mp ?_, reason?_eq_some.mp ?_, Sample.reachable _, Sample.reachable _⟩
  · decide +kernel
  · decide +kernel

end Iq
