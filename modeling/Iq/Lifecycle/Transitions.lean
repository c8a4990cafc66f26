import Iq.Lifecycle.Silent

/-!
# Transitions of the operations

Every operation but two writes only state changes that the schema allows, with a count within the
limit of the new state. Most go from one named state to another; the others rely on what the store
guarantees of a stored effort: its state is valid, its count fits it, only the running cycle of an
effort is running, and an effort that awaits a replacement has a decided attempt.
-/

namespace Iq

open Library Library.Transaction Database

variable {db later : Database} {effort : IntegrationEffort} {id : String} {stamp : Stamp}

/-! ## Stored efforts -/

/-- A stored count within the limit of its state. -/
def EffortView.Within (view : EffortView) : Prop :=
  ∀ effort, view.effort = some effort →
    cycleLimitCheck effort.state.name effort.failedCycles = true

/-- A state that is written stays within the cycle limit. -/
theorem Writes.within {rejection : Option DefiniteLandingRejection} {before after : EffortView}
    {row : IntegrationEffort} {state : IntegrationEffortState} {failedCycles : Nat}
    (writes : Writes rejection before row state failedCycles after) : after.Within := by
  intro effort stored
  cases writes.effort.symm.trans stored
  exact writes.limit

/-- Every step leaves a count within the limit of its state. -/
theorem EffortStep.within {operation : Operation} {view after : EffortView}
    (step : EffortStep operation view after) (within : view.Within) : after.Within := by
  cases step with
  | create absent idle composed =>
    rintro effort ⟨⟩
    rfl
  | replace stored waiting another composed =>
    rintro effort ⟨⟩
    rfl
  | surrenderCancelled | acknowledgeCancelled | deleteDebt => exact within
  | acknowledgeLaunching launching surrendered fails => exact fails.writes.within
  | acknowledgeRunning started fails => exact fails.writes.within
  | reset launching fails => exact fails.writes.within
  | accept started same writes => exact writes.within
  | prepare fresh ready within' unused writes => exact writes.within
  | _ => exact Writes.within ‹_›

/-- Every stored effort is within the cycle limit. -/
theorem within_of_reachable (reachable : store.Reachable db)
    (stored : db.efforts.find? id = some effort) :
    cycleLimitCheck effort.state.name effort.failedCycles = true := by
  have rule := @view_invariant db EffortView.Within (fun _ missing => by cases missing)
  exact rule (fun step _ _ within => step.within within) reachable id effort stored

/-! ## Operations -/

/-- Away from the limit, one count is within both or neither of two states. -/
theorem within_of_open {old new : StateName} {failedCycles : Nat}
    (within : cycleLimitCheck old failedCycles = true) (before : old ≠ .cycleLimitBlocked)
    (after : new ≠ .cycleLimitBlocked) : cycleLimitCheck new failedCycles = true := by
  have apart : (old == .cycleLimitBlocked) = false := beq_eq_false_iff_ne.mpr before
  have apart' : (new == .cycleLimitBlocked) = false := beq_eq_false_iff_ne.mpr after
  rw [cycleLimitCheck, apart] at within
  rw [cycleLimitCheck, apart', within]

/-- An effort as an operation reads it: stored, with a count within the limit of its state. -/
structure Database.Reads (db : Database) (effortId : String) (effort : IntegrationEffort) :
    Prop where
  stored : db.efforts.find? effortId = some effort
  valid : effort.state.validateForCount effort.failedCycles = .ok ()
  within : cycleLimitCheck effort.state.name effort.failedCycles = true

/-- What follows on reading an effort may use the row that was read. -/
theorem avoids_requiredEffort_bind {β : Type} {next : IntegrationEffort → Tx β}
    (reachable : store.Reachable db)
    (rest : ∀ effort, db.Reads id effort → (next effort).Avoids Refusal.IsTransition db) :
    (requiredEffort id >>= next).Avoids Refusal.IsTransition db := by
  refine avoids_bind (silent_requiredEffort db) fun effort later commits => ?_
  rcases commits_requiredEffort.mp commits with ⟨stored, valid, rfl⟩
  exact rest effort ⟨stored, valid, within_of_reachable reachable stored⟩

/-- A check of a value may be passed over. -/
theorem avoids_ensure_bind {α β : Type} {passed : Except String α} {next : α → Tx β}
    (rest : ∀ value, (next value).Avoids Refusal.IsTransition db) :
    (ensure passed >>= next).Avoids Refusal.IsTransition db := by
  refine avoids_bind (silent_ensure db) fun value later commits => ?_
  rcases commits_ensure.mp commits with ⟨-, rfl⟩
  exact rest value

/-- A required condition may be passed over. -/
theorem avoids_require_bind {β : Type} {condition : Prop} [Decidable condition] {message : String}
    {next : Unit → Tx β} (rest : (next ()).Avoids Refusal.IsTransition db) :
    (require condition (.refused message) >>= next).Avoids Refusal.IsTransition db := by
  refine avoids_bind (silent_require db) fun value later commits => ?_
  rcases commits_require.mp commits with ⟨-, rfl⟩
  exact rest

/-- A state update between two states away from the limit. -/
theorem silent_updateState {state : IntegrationEffortState} {old : StateName}
    (reads : db.Reads id effort) (name : effort.state.name = old)
    (allowed : transitionAllowed old state.name = true) (before : old ≠ .cycleLimitBlocked)
    (after : state.name ≠ .cycleLimitBlocked) : Silent (updateState effort state) := by
  apply silent_updateStateAndCountWithResolution
  · intro _
    rw [name]
    exact allowed
  · exact within_of_open reads.within (by rw [name]; exact before) after

variable {effortId itemId attemptId : String}

/-- A launch is prepared from a ready agent. -/
theorem prepareCycleLaunch_avoids {launch : AgentLaunching} (reachable : store.Reachable db) :
    (prepareCycleLaunch effortId launch stamp).Avoids Refusal.IsTransition db := by
  refine avoids_require_bind (avoids_requiredEffort_bind reachable fun effort reads => ?_)
  suffices silent : Silent _ from silent db
  refine excludes_bind silent_requireItemObligation fun _ => ?_
  refine excludes_expect_bind not_isTransition_refused fun ready found => ?_
  refine excludes_bind silent_require fun _ => excludes_bind silent_insertCycle fun _ => ?_
  refine excludes_bind ?_ fun _ => silent_appendEvent
  exact silent_updateState reads (congrArg _ (IntegrationEffortState.agentReady?_eq_some.mp found))
    rfl nofun nofun

/-- A spawn is given up within the launching state. -/
theorem surrenderCycleSpawnAuthority_avoids {identity : LaunchIdentity} {alive : Bool}
    (reachable : store.Reachable db) :
    (surrenderCycleSpawnAuthority effortId identity alive stamp).Avoids Refusal.IsTransition
      db := by
  refine avoids_require_bind (avoids_requiredEffort_bind reachable fun effort reads => ?_)
  suffices silent : Silent _ from silent db
  split
  · rename_i launch launching
    refine excludes_bind silent_require fun _ => excludes_bind ?_ fun _ => ?_
    · exact silent_updateState reads (congrArg _ launching) rfl nofun nofun
    · refine excludes_bind excludes_query fun _ => excludes_bind silent_require fun _ => ?_
      exact excludes_bind silent_appendEvent fun _ => excludes_pure
  · refine excludes_bind silent_updateCancelledSpawnAuthority fun _ => ?_
    exact excludes_bind silent_require fun _ => excludes_pure
  · exact fun _ => not_isTransition_refused

/-- To authorize a spawn writes nothing. -/
theorem authorizeCycleSpawn_silent {identity : LaunchIdentity} {alive : Bool} :
    Silent (authorizeCycleSpawn effortId identity alive) := by
  refine excludes_bind silent_requiredEffort fun effort => ?_
  split
  · exact excludes_bind silent_require fun _ => excludes_pure
  · exact excludes_bind silent_requireCancelledLauncherAuthority fun _ => excludes_pure
  · exact fun _ => not_isTransition_refused

/-- A failed launch makes the agent ready again. -/
theorem failLaunchedCycle_silent {cycleId changed : String} {status : CycleStatus}
    {old : StateName} (reads : db.Reads id effort) (name : effort.state.name = old)
    (allowed : transitionAllowed old .agentReady = true) (before : old ≠ .cycleLimitBlocked) :
    Silent (failLaunchedCycle effort cycleId status changed) := by
  refine excludes_bind silent_updateCycles fun _ => excludes_bind silent_require fun _ => ?_
  refine excludes_bind silent_nextCycleNumber fun _ => ?_
  exact silent_updateState reads name allowed before nofun

/-- A terminated spawn makes the agent ready again. -/
theorem acknowledgeTerminatedCycleSpawn_avoids {identity : LaunchIdentity}
    (reachable : store.Reachable db) :
    (acknowledgeTerminatedCycleSpawn effortId identity).Avoids Refusal.IsTransition db := by
  refine avoids_requiredEffort_bind reachable fun effort reads => ?_
  suffices silent : Silent _ from silent db
  split
  · rename_i launch launching
    refine excludes_bind silent_require fun _ => ?_
    exact failLaunchedCycle_silent reads (congrArg _ launching) rfl nofun
  · rename_i running started
    refine excludes_bind silent_require fun _ => ?_
    exact failLaunchedCycle_silent reads (congrArg _ started) rfl nofun
  · refine excludes_bind silent_lookup fun _ => excludes_bind silent_expect fun _ => ?_
    refine excludes_bind silent_require fun _ => excludes_ite (fun _ => ?_) fun _ => excludes_pure
    exact excludes_bind silent_updateCancelledSpawnAuthority fun _ => silent_require
  · exact fun _ => not_isTransition_refused

/-- A launching agent starts to run. -/
theorem recordCycleStarted_avoids {running : AgentRunning} {authorityLeaseId : String}
    {launcher : LauncherAuthority} (reachable : store.Reachable db) :
    (recordCycleStarted effortId running authorityLeaseId launcher stamp).Avoids
      Refusal.IsTransition db := by
  refine avoids_requiredEffort_bind reachable fun effort reads => ?_
  suffices silent : Silent _ from silent db
  split
  · rename_i launch launching
    refine excludes_bind silent_require fun _ => excludes_bind silent_updateCycles fun _ => ?_
    refine excludes_bind silent_require fun _ => excludes_bind ?_ fun _ => ?_
    · exact silent_updateState reads (congrArg _ launching) rfl nofun nofun
    · exact excludes_bind silent_appendEvent fun _ => excludes_pure
  · exact excludes_bind silent_requireCancelledLauncherAuthority fun _ => excludes_pure
  · exact fun _ => not_isTransition_refused

/-- A launch that is put back makes the agent ready again. -/
theorem resetPreparedLaunch_avoids {cycleId : String} {alive : Bool}
    (reachable : store.Reachable db) :
    (resetPreparedLaunch effortId cycleId alive stamp).Avoids Refusal.IsTransition db := by
  refine avoids_requiredEffort_bind reachable fun effort reads => ?_
  suffices silent : Silent _ from silent db
  refine excludes_expect_bind not_isTransition_refused fun launch found => ?_
  refine excludes_bind silent_require fun _ => excludes_bind silent_require fun _ => ?_
  refine excludes_bind ?_ fun _ => silent_appendEvent
  exact failLaunchedCycle_silent reads
    (congrArg _ (IntegrationEffortState.agentLaunching?_eq_some.mp found)) rfl nofun

/-- A result is recorded within the running state. -/
theorem recordResultState_avoids {cycleId : String} {result : AtomicResultState}
    (reachable : store.Reachable db) :
    (recordResultState effortId cycleId result).Avoids Refusal.IsTransition db := by
  refine avoids_require_bind (avoids_requiredEffort_bind reachable fun effort reads => ?_)
  suffices silent : Silent _ from silent db
  refine excludes_expect_bind not_isTransition_refused fun running found => ?_
  refine excludes_bind silent_require fun _ => excludes_bind silent_require fun _ => ?_
  refine excludes_bind excludes_query fun _ => excludes_bind silent_require fun _ => ?_
  exact silent_updateState reads
    (congrArg _ (IntegrationEffortState.agentRunning?_eq_some.mp found)) rfl nofun nofun

/-- A build begins from a ready agent. -/
theorem startCandidateBuild_avoids {intent : CandidateIntent} (reachable : store.Reachable db) :
    (startCandidateBuild effortId intent stamp).Avoids Refusal.IsTransition db := by
  refine avoids_requiredEffort_bind reachable fun effort reads => ?_
  suffices silent : Silent _ from silent db
  refine excludes_expect_bind not_isTransition_refused fun running found => ?_
  refine excludes_bind silent_require fun _ => excludes_bind ?_ fun _ => silent_appendEvent
  exact silent_updateState reads
    (congrArg _ (IntegrationEffortState.agentRunning?_eq_some.mp found)) rfl nofun nofun

/-- A build begins from a running agent. -/
theorem acceptResolvedCycle_avoids {intent : CandidateIntent} (reachable : store.Reachable db) :
    (acceptResolvedCycle effortId intent stamp).Avoids Refusal.IsTransition db := by
  refine avoids_requiredEffort_bind reachable fun effort reads => ?_
  suffices silent : Silent _ from silent db
  refine excludes_expect_bind not_isTransition_refused fun running found => ?_
  refine excludes_bind silent_require fun _ => excludes_bind silent_updateCycles fun _ => ?_
  refine excludes_bind silent_require fun _ => excludes_bind ?_ fun _ => silent_appendEvent
  exact silent_updateState reads
    (congrArg _ (IntegrationEffortState.agentRunning?_eq_some.mp found)) rfl nofun nofun

/-- A built candidate is ready, or waits for review. -/
theorem publishCandidate_silent {building : CandidateBuilding} {item : QueueItem}
    {observation : CandidateObservation} (reads : db.Reads id effort)
    (built : effort.state = .candidateBuilding building) :
    Silent (publishCandidate effort building item observation stamp) := by
  refine excludes_bind silent_upsertEvidence fun _ => excludes_bind silent_lookup fun _ => ?_
  refine excludes_bind silent_invalidateValidationInvocations fun _ => ?_
  refine excludes_bind silent_updateAttempts fun _ => excludes_bind silent_require fun _ => ?_
  refine excludes_bind ?_ fun _ => silent_appendEvent
  unfold CandidateBuilding.candidateState
  split
  · exact silent_updateState reads (congrArg _ built) rfl nofun nofun
  · exact silent_updateState reads (congrArg _ built) rfl nofun nofun

/-- A candidate is recorded from its build. -/
theorem recordCandidate_avoids {observation : CandidateObservation}
    (reachable : store.Reachable db) :
    (recordCandidate effortId observation stamp).Avoids Refusal.IsTransition db := by
  refine avoids_requiredEffort_bind reachable fun effort reads => ?_
  suffices silent : Silent _ from silent db
  refine excludes_bind silent_lookup fun _ => excludes_bind silent_itemObjectFormat fun _ => ?_
  refine excludes_bind silent_ensure fun _ => excludes_bind silent_ensure fun _ => ?_
  refine excludes_bind silent_ensure fun _ => ?_
  refine excludes_expect_bind not_isTransition_refused fun building found => ?_
  refine excludes_bind excludes_query fun _ => excludes_bind silent_require fun _ => ?_
  refine excludes_bind silent_require fun _ => ?_
  have built := IntegrationEffortState.candidateBuilding?_eq_some.mp found
  refine excludes_ite (fun _ => ?_) fun _ => publishCandidate_silent reads built
  exact excludes_bind silent_insertReview fun _ => publishCandidate_silent reads built

/-- An interrupted build makes the agent ready again. -/
theorem resetInterruptedCandidateBuild_avoids (reachable : store.Reachable db) :
    (resetInterruptedCandidateBuild effortId stamp).Avoids Refusal.IsTransition db := by
  refine avoids_requiredEffort_bind reachable fun effort reads => ?_
  suffices silent : Silent _ from silent db
  refine excludes_require_bind not_isTransition_refused fun built => ?_
  refine excludes_bind silent_nextCycleNumber fun _ => ?_
  refine excludes_bind ?_ fun _ => silent_appendEvent
  exact silent_updateState reads built rfl nofun nofun

/-- A ready candidate is validated. -/
theorem startValidation_avoids {policyDigest : String} (reachable : store.Reachable db) :
    (startValidation effortId policyDigest stamp).Avoids Refusal.IsTransition db := by
  refine avoids_require_bind (avoids_requiredEffort_bind reachable fun effort reads => ?_)
  suffices silent : Silent _ from silent db
  refine excludes_expect_bind not_isTransition_refused fun candidate found => ?_
  refine excludes_bind ?_ fun _ => silent_appendEvent
  exact silent_updateState reads
    (congrArg _ (IntegrationEffortState.candidateReady?_eq_some.mp found)) rfl nofun nofun

/-- A validation is completed within the validating state. -/
theorem completeValidation_avoids {candidateSha : String} (reachable : store.Reachable db) :
    (completeValidation effortId candidateSha stamp).Avoids Refusal.IsTransition db := by
  refine avoids_requiredEffort_bind reachable fun effort reads => ?_
  suffices silent : Silent _ from silent db
  refine excludes_bind silent_itemObjectFormat fun _ => excludes_bind silent_ensure fun _ => ?_
  refine excludes_expect_bind not_isTransition_refused fun validating found => ?_
  refine excludes_bind silent_require fun _ => excludes_bind excludes_query fun _ => ?_
  refine excludes_bind silent_require fun _ => excludes_bind ?_ fun _ => silent_appendEvent
  exact silent_updateState reads
    (congrArg _ (IntegrationEffortState.validating?_eq_some.mp found)) rfl nofun nofun

/-- An answer makes the agent ready again. -/
theorem applyAnswer_silent {command : AnswerCommand} (reads : db.Reads id effort)
    (waiting : effort.state.name = .guidanceRequired) :
    Silent (applyAnswer command effort stamp) := by
  refine excludes_bind silent_nextCycleNumber fun _ => ?_
  refine excludes_bind silent_updateGuidance fun _ => excludes_bind silent_require fun _ => ?_
  refine excludes_bind ?_ fun _ => silent_appendEvent
  exact silent_updateState reads waiting rfl nofun nofun

/-- An answer is applied in the state that asks for it. -/
theorem answerForEffort_avoids {command : AnswerCommand} {responder : ResponderIdentity}
    {daemonUid : Nat} (reachable : store.Reachable db) :
    (answerForEffort command effortId responder daemonUid stamp).Avoids
      Refusal.IsTransition db := by
  unfold answerForEffort
  rw [Avoids, wp_bind, wp_query, wp_ite]
  refine ⟨fun _ => trivial, fun _ => ?_⟩
  refine avoids_requiredEffort_bind reachable fun effort reads => ?_
  suffices silent : Silent _ from silent db
  refine excludes_bind silent_requireItemObligation fun _ => ?_
  refine excludes_ite (fun applied => ?_) fun _ => silent_insertAnswerReceipt
  refine excludes_bind (applyAnswer_silent reads ?_) fun _ => silent_insertAnswerReceipt
  rcases AnswerCommand.disposition_eq_applied.mp applied with ⟨-, -, -, guidance, waiting, -⟩
  rcases IntegrationEffortState.guidance?_eq_some waiting with ⟨resume, is_waiting⟩
  rw [is_waiting]
  rfl

/-- A captured state can be suspended for repair and resumed. -/
theorem ResumeState.suspends (resume : ResumeState) :
    transitionAllowed resume.restore.name .infrastructureBlocked = true ∧
      transitionAllowed .infrastructureBlocked resume.restore.name = true ∧
      resume.restore.name ≠ .cycleLimitBlocked := by
  cases resume <;> exact ⟨rfl, rfl, nofun⟩

/-- A landing gate can be suspended for its provider and resumed. -/
theorem ResumeState.suspendsProvider {resume : ResumeState} {blocker : ProviderSignoffBlocker}
    (gate : resume.validateProvider blocker = .ok ()) :
    transitionAllowed resume.restore.name .providerBlocked = true ∧
      transitionAllowed .providerBlocked resume.restore.name = true := by
  cases resume with
  | validating => exact ⟨rfl, rfl⟩
  | landing => exact ⟨rfl, rfl⟩
  | landingUncertain => exact ⟨rfl, rfl⟩
  | _ => cases gate

/-- Every active state can be blocked by the infrastructure. -/
theorem blockInfrastructure_avoids {blocker : InfrastructureBlocker}
    (reachable : store.Reachable db) :
    (blockInfrastructure effortId blocker stamp).Avoids Refusal.IsTransition db := by
  refine avoids_requiredEffort_bind reachable fun effort reads => ?_
  suffices silent : Silent _ from silent db
  refine excludes_expect_bind not_isTransition_refused fun resume captured => ?_
  refine excludes_bind ?_ fun _ => silent_appendEvent
  have name : effort.state.name = resume.restore.name := by
    rw [ResumeState.capture?_eq_some.mp captured]
  exact silent_updateState reads name resume.suspends.1 resume.suspends.2.2 nofun

/-- A validated candidate can be blocked by the provider. -/
theorem blockProvider_avoids {blocker : ProviderSignoffBlocker} (reachable : store.Reachable db) :
    (blockProvider effortId blocker stamp).Avoids Refusal.IsTransition db := by
  refine avoids_requiredEffort_bind reachable fun effort reads => ?_
  suffices silent : Silent _ from silent db
  refine excludes_expect_bind not_isTransition_refused fun resume captured => ?_
  refine excludes_bind ?_ fun _ => silent_appendEvent
  have name : effort.state.name = resume.restore.name := by
    rw [ResumeState.capture?_eq_some.mp captured]
  apply silent_updateStateAndCountWithResolution
  · intro gate
    rw [name]
    exact (ResumeState.suspendsProvider gate).1
  · have apart : StateName.providerBlocked ≠ .cycleLimitBlocked := nofun
    exact within_of_open reads.within (by rw [name]; exact resume.suspends.2.2) apart

/-! ### Failed cycles -/

/-- A failure leads to a ready agent below the limit and to the limit state at it. -/
theorem name_failedState {cycleId eventId : String} {failure : CycleFailure} {count next : Nat} :
    (failedState db id cycleId failure count next eventId).name =
      if count = automaticCycleLimit then .cycleLimitBlocked else .agentReady := by
  unfold failedState
  split <;> rfl

/-- The state after a failed cycle blocks exactly at the limit. -/
theorem within_failedState {cycleId eventId : String} {failure : CycleFailure}
    {count next : Nat} :
    cycleLimitCheck (failedState db id cycleId failure count next eventId).name count = true := by
  rw [name_failedState, cycleLimitCheck]
  have limit : automaticCycleLimit = 10 := rfl
  split
  · rename_i reached
    rw [reached, limit]
    rfl
  · rename_i below
    rw [limit] at below
    rw [beq_eq_false_iff_ne.mpr below]
    rfl

/-- A failure is consumed from a running agent. -/
theorem consumeCycleFailure_avoids {cycleId : String} {failure : CycleFailure}
    (reachable : store.Reachable db) :
    (consumeCycleFailure effortId cycleId failure stamp).Avoids Refusal.IsTransition db := by
  refine avoids_requiredEffort_bind reachable fun effort reads => ?_
  by_cases running : effort.state.name = .agentRunning
  · suffices silent : Silent _ from silent db
    refine excludes_bind silent_require fun _ => excludes_bind silent_nextCycleNumber fun _ => ?_
    refine excludes_query_bind fun now => excludes_bind silent_reportLimit fun _ => ?_
    refine excludes_bind silent_updateCycles fun _ => excludes_bind silent_require fun _ => ?_
    refine excludes_bind ?_ fun _ => silent_reportFailure
    apply silent_updateStateAndCountWithResolution
    · intro _
      rw [running, name_failedState]
      split <;> rfl
    · exact within_failedState
  · -- No cycle of an effort that is not running has the status that the failure needs.
    refine avoids_require_bind (avoids_bind (silent_nextCycleNumber db) fun next now read => ?_)
    rcases commits_nextCycleNumber.mp read with ⟨-, -, rfl⟩
    rw [Avoids, wp_bind, wp_query]
    refine avoids_bind (silent_reportLimit db) fun _ first report => ?_
    refine avoids_bind (silent_updateCycles first) fun rows second cycles => ?_
    refine avoids_bind (silent_require second) fun _ third one => ?_
    exfalso
    have view : first.view = db.view := view_reportLimit report
    have active := hasCycle_of_count (commits_write.mp cycles).1 (commits_require.mp one).1
      fun cycle => effortId_of_isCycleOf
    rw [view] at active
    have stored := reads.stored
    have same := (Table.find?_eq_some.mp stored).2
    subst same
    rcases (sound_of_reachable reachable effort.id).running_of_hasCycle stored active with
      ⟨value, started, -⟩
    exact running (congrArg _ started)

/-- The schema lets a candidate be rejected, at the limit only while it is being validated. -/
theorem rejection_allowed {name : StateName} {count : Nat}
    (candidate : [.candidateReady, .validating, .landing].contains name = true)
    (below : count = automaticCycleLimit → name ≠ .candidateReady ∧ name ≠ .landing) :
    transitionAllowed name
      (if count = automaticCycleLimit then .cycleLimitBlocked else .agentReady) = true := by
  have names : name = .candidateReady ∨ name = .validating ∨ name = .landing := by
    simpa using candidate
  split
  · rename_i limit
    rcases names with rfl | rfl | rfl
    · exact absurd rfl (below limit).1
    · rfl
    · exact absurd rfl (below limit).2
  · rcases names with rfl | rfl | rfl <;> rfl

/-- A rejection is aborted by the constraints only at the limit, and only when its candidate is not
being validated. -/
theorem rejectCandidate_avoids {evidence : String} (reachable : store.Reachable db)
    (below : ∀ effort, db.efforts.find? effortId = some effort →
      effort.failedCycles + 1 = automaticCycleLimit →
        effort.state.name ≠ .candidateReady ∧ effort.state.name ≠ .landing) :
    (rejectCandidate effortId evidence stamp).Avoids Refusal.IsTransition db := by
  refine avoids_ensure_bind fun _ => avoids_requiredEffort_bind reachable fun effort reads => ?_
  refine avoids_require_bind (avoids_bind (silent_readRejectedCycle db) ?_)
  intro cycleId now read
  rcases commits_readRejectedCycle.mp read with ⟨found, rfl⟩
  have allowed := rejection_allowed (name_of_rejectedCycle found) (below effort reads.stored)
  suffices silent : Silent _ from silent db
  refine excludes_bind silent_require fun _ => excludes_bind silent_rejectedNextCycle fun _ => ?_
  refine excludes_query_bind fun now => excludes_bind silent_reportLimit fun _ => ?_
  refine excludes_bind silent_updateCycles fun _ => excludes_bind silent_require fun _ => ?_
  refine excludes_bind silent_deleteEvidence fun _ => ?_
  refine excludes_bind silent_invalidateValidationInvocations fun _ => ?_
  refine excludes_bind silent_updateAttempts fun _ => excludes_bind ?_ fun _ => silent_reportFailure
  apply silent_updateStateAndCountWithResolution
  · intro _
    rw [name_failedState]
    exact allowed
  · exact within_failedState

/-- Guidance is aborted by the constraints only at the limit. -/
theorem requireGuidance_avoids {guidance : SemanticGuidanceBlocker}
    (reachable : store.Reachable db)
    (below : ∀ effort, db.efforts.find? effortId = some effort →
      effort.failedCycles + 1 ≠ automaticCycleLimit) :
    (requireGuidance effortId guidance stamp).Avoids Refusal.IsTransition db := by
  refine avoids_requiredEffort_bind reachable fun effort reads => ?_
  have apart : effort.failedCycles + 1 ≠ 10 := below effort reads.stored
  suffices silent : Silent _ from silent db
  refine excludes_expect_bind not_isTransition_refused fun running found => ?_
  refine excludes_bind silent_require fun _ => excludes_bind silent_updateCycles fun _ => ?_
  refine excludes_bind silent_insertGuidance fun _ => ?_
  refine excludes_bind silent_nextCycleNumber fun _ => excludes_bind ?_ fun _ => silent_appendEvent
  apply silent_updateStateAndCountWithResolution
  · intro _
    rw [IntegrationEffortState.agentRunning?_eq_some.mp found]
    rfl
  · show cycleLimitCheck .guidanceRequired (effort.failedCycles + 1) = true
    rw [cycleLimitCheck, beq_eq_false_iff_ne.mpr apart]
    rfl

/-! ### Retry -/

/-- A stored provider block resumes a landing gate. -/
theorem suspendsProvider_of_reads {blocked : BlockedEffort} (reads : db.Reads id effort)
    (suspended : effort.state = .providerBlocked blocked) :
    transitionAllowed .providerBlocked blocked.resume.restore.name = true := by
  have valid := reads.valid
  rcases blocked with ⟨blocker, resume⟩
  rw [suspended] at valid
  cases blocker with
  | providerSignoff blocker => exact (ResumeState.suspendsProvider valid).2
  | _ => cases valid

/-- A retry restores the state that was suspended. -/
theorem retryBlocked_avoids {responder : ResponderIdentity} {daemonUid : Nat}
    (reachable : store.Reachable db) :
    (retryBlocked effortId responder daemonUid stamp).Avoids Refusal.IsTransition db := by
  refine avoids_requiredEffort_bind reachable fun effort reads => ?_
  suffices silent : Silent _ from silent db
  refine excludes_bind silent_require fun _ => excludes_bind silent_lookup fun _ => ?_
  refine excludes_bind silent_ensure fun _ => ?_
  split
  · rename_i blocked limited
    refine excludes_bind silent_nextCycleNumber fun _ => ?_
    refine excludes_bind ?_ fun _ => silent_appendEvent
    apply silent_updateStateAndCountWithResolution _ rfl
    intro _
    rw [limited]
    rfl
  · rename_i blocked suspended
    refine excludes_bind ?_ fun _ => silent_appendEvent
    exact silent_updateState reads (congrArg _ suspended) blocked.resume.suspends.2.1 nofun
      blocked.resume.suspends.2.2
  · rename_i blocked suspended
    refine excludes_bind ?_ fun _ => silent_appendEvent
    exact silent_updateState reads (congrArg _ suspended)
      (suspendsProvider_of_reads reads suspended) nofun blocked.resume.suspends.2.2
  · exact fun _ => not_isTransition_refused

/-- A resumed reconciliation restores the state that was suspended. -/
theorem resumeProviderReconciliation_avoids (reachable : store.Reachable db) :
    (resumeProviderReconciliation effortId stamp).Avoids Refusal.IsTransition db := by
  refine avoids_requiredEffort_bind reachable fun effort reads => ?_
  suffices silent : Silent _ from silent db
  refine excludes_expect_bind not_isTransition_refused fun blocked found => ?_
  have suspended := IntegrationEffortState.providerBlocked?_eq_some.mp found
  refine excludes_bind ?_ fun _ => silent_appendEvent
  exact silent_updateState reads (congrArg _ suspended) (suspendsProvider_of_reads reads suspended)
    nofun blocked.resume.suspends.2.2

/-! ### Landing and target movement -/

/-- A validated candidate is landed. -/
theorem beginLanding_avoids {expectedTargetSha leaseId commandId : String}
    {signoff : SignoffDisposition} (reachable : store.Reachable db) :
    (beginLanding effortId expectedTargetSha leaseId commandId signoff stamp).Avoids
      Refusal.IsTransition db := by
  refine avoids_ensure_bind fun _ => avoids_ensure_bind fun _ => ?_
  refine avoids_requiredEffort_bind reachable fun effort reads => ?_
  suffices silent : Silent _ from silent db
  refine excludes_bind silent_itemObjectFormat fun _ => excludes_bind silent_ensure fun _ => ?_
  refine excludes_expect_bind not_isTransition_refused fun validating found => ?_
  refine excludes_bind silent_require fun _ => excludes_bind silent_require fun _ => ?_
  refine excludes_bind silent_require fun _ => excludes_bind ?_ fun _ => silent_appendEvent
  exact silent_updateState reads
    (congrArg _ (IntegrationEffortState.validating?_eq_some.mp found)) rfl nofun nofun

/-- A landing becomes uncertain. -/
theorem releaseLanding_avoids {commandId : String} (reachable : store.Reachable db) :
    (releaseLanding effortId commandId stamp).Avoids Refusal.IsTransition db := by
  refine avoids_ensure_bind fun _ => avoids_requiredEffort_bind reachable fun effort reads => ?_
  suffices silent : Silent _ from silent db
  refine excludes_expect_bind not_isTransition_refused fun landing found => ?_
  refine excludes_bind ?_ fun _ => silent_appendEvent
  exact silent_updateState reads
    (congrArg _ (IntegrationEffortState.landing?_eq_some.mp found)) rfl nofun nofun

/-- Only a prepared or released landing can complete. -/
theorem name_of_landingCandidate? {state : IntegrationEffortState} {candidateSha : String}
    (found : state.landingCandidate? = some candidateSha) :
    transitionAllowed state.name .integrated = true ∧ state.name ≠ .cycleLimitBlocked := by
  cases state with
  | landing => exact ⟨rfl, nofun⟩
  | landingUncertain => exact ⟨rfl, nofun⟩
  | _ => cases found

/-- A landing or an uncertain one is integrated. -/
theorem markIntegrated_avoids {landedSha remoteTargetSha : String}
    (reachable : store.Reachable db) :
    (markIntegrated effortId landedSha remoteTargetSha stamp).Avoids Refusal.IsTransition db := by
  refine avoids_requiredEffort_bind reachable fun effort reads => ?_
  suffices silent : Silent _ from silent db
  refine excludes_bind silent_itemObjectFormat fun _ => excludes_bind silent_ensure fun _ => ?_
  refine excludes_bind silent_ensure fun _ => excludes_bind silent_lookup fun _ => ?_
  refine excludes_bind silent_requireItemObligation fun _ => ?_
  refine excludes_expect_bind not_isTransition_refused fun candidateSha found => ?_
  have landing := name_of_landingCandidate? found
  refine excludes_bind silent_updateAttempts fun _ => excludes_bind ?_ fun _ => ?_
  · exact silent_updateState reads rfl landing.1 landing.2 nofun
  · refine excludes_bind silent_scheduleCleanup fun _ => ?_
    refine excludes_bind silent_integrateLocalSubmission fun _ => ?_
    exact excludes_bind silent_requireCheckout fun _ => silent_appendEvent

/-- To authorize a definite rejection writes nothing. -/
theorem authorizeDefiniteLandingRejection_silent {commandId expectedTargetSha : String} :
    Silent (authorizeDefiniteLandingRejection effortId commandId expectedTargetSha) := by
  refine excludes_bind silent_ensure fun _ => excludes_bind silent_requiredEffort fun _ => ?_
  refine excludes_bind silent_itemObjectFormat fun _ => excludes_bind silent_ensure fun _ => ?_
  exact excludes_bind silent_ensure fun _ => excludes_pure

/-- Every movable state may wait for a moved target. -/
theorem name_of_isMovable {state : IntegrationEffortState} (movable : isMovable state = true) :
    transitionAllowed state.name .targetMovePending = true ∧ state.name ≠ .cycleLimitBlocked := by
  cases state <;> first | exact ⟨rfl, nofun⟩ | cases movable

/-- A movable state, or one whose landing was definitely rejected, waits for the moved target. -/
theorem beginTargetMove_avoids {targetSha : String} {rejection : Option DefiniteLandingRejection}
    (reachable : store.Reachable db) :
    (beginTargetMoveWithResolution effortId targetSha rejection stamp).Avoids
      Refusal.IsTransition db := by
  refine avoids_requiredEffort_bind reachable fun effort reads => ?_
  suffices silent : Silent _ from silent db
  refine excludes_bind silent_itemObjectFormat fun _ => excludes_bind silent_ensure fun _ => ?_
  split
  · exact silent_require
  · refine excludes_bind silent_ensure fun _ => ?_
    refine excludes_require_bind not_isTransition_refused fun movable => ?_
    refine excludes_bind silent_expect fun previous => ?_
    refine excludes_bind silent_supersedeOpenReview fun _ => ?_
    refine excludes_bind silent_updateAttempts fun _ => excludes_bind silent_require fun _ => ?_
    refine excludes_bind ?_ fun _ => excludes_bind silent_moveQueueItem fun _ => silent_appendEvent
    apply silent_updateStateAndCountWithResolution fun _ => (name_of_isMovable movable).1
    have apart : StateName.targetMovePending ≠ .cycleLimitBlocked := nofun
    exact within_of_open reads.within (name_of_isMovable movable).2 apart

/-- Before a recomposition only cleanup is scheduled. -/
theorem prepareTargetRecomposition_silent {targetSha : String}
    {rejection : Option DefiniteLandingRejection} :
    Silent (prepareTargetRecompositionWithResolution effortId targetSha rejection) := by
  refine excludes_bind silent_requiredEffort fun _ => ?_
  refine excludes_bind silent_itemObjectFormat fun _ => excludes_bind silent_ensure fun _ => ?_
  refine excludes_bind silent_requireMoveUnlessPending fun _ => ?_
  refine excludes_bind silent_expect fun _ => excludes_bind silent_require fun _ => ?_
  refine excludes_bind silent_expect fun _ => excludes_bind silent_lookup fun _ => ?_
  refine excludes_bind silent_lookup fun _ => excludes_bind silent_require fun _ => ?_
  exact silent_scheduleCleanup

/-- A moved target makes the agent ready, or the recomposed candidate. -/
theorem completeTargetRecomposition_avoids {targetSha : String} {composition : CompositionEvidence}
    (reachable : store.Reachable db) :
    (completeTargetRecomposition effortId targetSha composition stamp).Avoids
      Refusal.IsTransition db := by
  refine avoids_requiredEffort_bind reachable fun effort reads => ?_
  suffices silent : Silent _ from silent db
  refine excludes_bind silent_itemObjectFormat fun _ => excludes_bind silent_ensure fun _ => ?_
  refine excludes_bind silent_ensure fun _ => ?_
  refine excludes_expect_bind not_isTransition_refused fun pending found => ?_
  refine excludes_bind silent_require fun _ => excludes_bind silent_expect fun _ => ?_
  refine excludes_bind silent_lookup fun _ => excludes_bind excludes_query fun _ => ?_
  refine excludes_bind excludes_query fun _ => excludes_bind silent_require fun _ => ?_
  refine excludes_bind silent_require fun _ => excludes_bind silent_updateCycles fun _ => ?_
  refine excludes_bind silent_deleteEvidence fun _ => excludes_bind silent_updateReviews fun _ => ?_
  refine excludes_bind silent_invalidateValidationInvocations fun _ => ?_
  refine excludes_bind silent_updateAttempts fun _ => excludes_bind excludes_write fun _ => ?_
  refine excludes_bind silent_nextCycleNumber fun _ => excludes_bind ?_ fun _ => ?_
  · exact silent_updateState reads
      (congrArg _ (IntegrationEffortState.targetMovePending?_eq_some.mp found)) rfl nofun nofun
  · exact excludes_bind silent_moveQueueItem fun _ => silent_appendEvent

/-! ### Review and cancellation -/

/-- A review ends in the state of its decision. -/
theorem applyReview_silent {command : CandidateReviewCommand} {review : CandidateReviewRequired}
    {responder : ResponderIdentity} (reads : db.Reads id effort)
    (waiting : effort.state = .reviewRequired review) :
    Silent (applyReview command effort review responder stamp) := by
  unfold applyReview
  cases command.decision with
  | approve text =>
    refine excludes_bind excludes_pure fun _ => excludes_bind silent_updateReviews fun _ => ?_
    refine excludes_bind silent_require fun _ => ?_
    refine excludes_bind (silent_updateState reads (congrArg _ waiting) rfl nofun nofun) fun _ => ?_
    exact excludes_bind silent_appendEvent fun _ => excludes_pure
  | requestChanges text =>
    refine excludes_bind silent_nextCycleNumber fun _ => ?_
    refine excludes_bind silent_updateReviews fun _ => excludes_bind silent_require fun _ => ?_
    refine excludes_bind silent_deleteEvidence fun _ => ?_
    refine excludes_bind silent_invalidateValidationInvocations fun _ => ?_
    refine excludes_bind silent_updateAttempts fun _ => ?_
    refine excludes_bind (silent_updateState reads (congrArg _ waiting) rfl nofun nofun) fun _ => ?_
    exact excludes_bind silent_appendEvent fun _ => excludes_pure

/-- A review is applied in the state that asks for it. -/
theorem reviewCandidateForEffort_avoids {command : CandidateReviewCommand}
    {responder : ResponderIdentity} {daemonUid : Nat} (reachable : store.Reachable db) :
    (reviewCandidateForEffort command effortId responder daemonUid stamp).Avoids
      Refusal.IsTransition db := by
  unfold reviewCandidateForEffort
  rw [Avoids, wp_bind, wp_query]
  split
  · exact excludes_ite (fun _ => excludes_pure) (fun _ => excludes_pure) db
  · refine avoids_requiredEffort_bind reachable fun effort reads => ?_
    suffices silent : Silent _ from silent db
    refine excludes_bind silent_lookup fun _ => excludes_bind silent_itemObjectFormat fun _ => ?_
    refine excludes_ite (fun _ => ?_) fun _ => silent_insertReviewReceipt
    refine excludes_expect_bind not_isTransition_refused fun review found => ?_
    have waiting := IntegrationEffortState.reviewRequired?_eq_some.mp found
    exact excludes_bind (applyReview_silent reads waiting) fun _ => silent_insertReviewReceipt

/-- The schema lets an effort without landing authority be cancelled unless its attempt awaits a
replacement. -/
theorem cancellation_allowed {state : IntegrationEffortState}
    (free : state.containsExternalLandingAuthority = false)
    (active : state.name ≠ .cancelled) (present : state.name ≠ .replacementPending) :
    transitionAllowed state.name .cancelled = true := by
  cases state with
  | replacementPending => exact absurd rfl present
  | cancelled => exact absurd rfl active
  | landingUncertain => cases free
  | integrated => cases free
  | _ => rfl

instance : Framed (Decided attemptId) where
  control _ _ same decided := by
    unfold Decided
    rw [same.attempts]
    exact decided
  repositories _ _ _ _ decided := decided
  attempts db chosen change kept keeps decided := by
    rcases decided with ⟨attempt, found, is_decided⟩
    refine ⟨Table.rewrite chosen change attempt, by rw [Table.find?_update, found]; rfl, ?_⟩
    unfold Table.rewrite
    split
    · exact (keeps attempt).2 is_decided
    · exact is_decided
  items _ _ _ _ _ decided := decided

/-- The attempt of an effort that waits for a replacement is decided, so it cannot be cancelled. -/
theorem cancelEffortTransaction_refused {actor reason : String}
    (decided : db.Decided effort.attemptId) :
    (cancelEffortTransaction effort actor reason stamp).Avoids Refusal.IsTransition db := by
  refine avoids_bind (silent_recordTermination db) fun _ first recorded => ?_
  refine avoids_bind (silent_updateCycles first) fun _ second cycles => ?_
  refine avoids_bind (silent_updateGuidance second) fun _ third guidance => ?_
  refine avoids_bind (silent_updateReviews third) fun _ fourth reviews => ?_
  refine avoids_bind (silent_updateAttempts fourth) fun changed fifth attempts => ?_
  refine avoids_bind (silent_require fifth) fun _ sixth one => ?_
  exfalso
  have decided := preserves_recordTermination.of_commits decided recorded
  have decided := preserves_updateCycles.of_commits decided cycles
  have decided := preserves_updateGuidance.of_commits decided guidance
  have decided := preserves_updateReviews.of_commits decided reviews
  have counted := (commits_write.mp attempts).1
  rw [(commits_require.mp one).1] at counted
  rcases Table.count_pos.mp (counted ▸ Nat.one_pos) with ⟨row, stored, chosen⟩
  simp only [Bool.and_eq_true, beq_iff_eq, Option.isNone_iff_eq_none] at chosen
  rcases decided with ⟨attempt, found, is_decided⟩
  have same : attempt = row := Option.some_inj.mp
    (found.symm.trans (Table.find?_eq_some.mpr ⟨stored, chosen.1⟩))
  rw [same, chosen.2] at is_decided
  cases is_decided

/-- Every state that has not ended can be cancelled. -/
theorem cancel_avoids {actor reason : String} (reachable : store.Reachable db) :
    (cancel effortId actor reason stamp).Avoids Refusal.IsTransition db := by
  refine avoids_ensure_bind fun _ => avoids_ensure_bind fun _ => ?_
  refine avoids_requiredEffort_bind reachable fun effort reads => ?_
  refine avoids_bind (silent_lookup db) fun item now read => ?_
  rcases commits_lookup.mp read with ⟨-, rfl⟩
  refine avoids_bind (silent_require db) fun _ now checked => ?_
  rcases commits_require.mp checked with ⟨free, rfl⟩
  rw [Avoids, wp_ite]
  refine ⟨fun active => ?_, fun _ => trivial⟩
  by_cases waits : effort.state.name = .replacementPending
  · apply cancelEffortTransaction_refused
    have owns := (linked_of_reachable reachable).owned effort
      (Table.find?_eq_some.mp reads.stored).1
    rcases owns.attempt with ⟨attempt, found, -, decided⟩
    exact ⟨attempt, found, decided waits⟩
  · suffices silent : Silent _ from silent db
    refine excludes_bind silent_recordTermination fun _ => ?_
    refine excludes_bind silent_updateCycles fun _ => excludes_bind silent_updateGuidance fun _ => ?_
    refine excludes_bind silent_updateReviews fun _ => ?_
    refine excludes_bind silent_updateAttempts fun _ => excludes_bind silent_require fun _ => ?_
    refine excludes_bind silent_cancelLocalSubmission fun _ => ?_
    refine excludes_bind ?_ fun _ => silent_appendEvent
    apply silent_updateStateAndCountWithResolution _ rfl
    intro _
    have free := (Bool.or_eq_false_iff.mp free).2
    exact cancellation_allowed free active waits

/-- A termination debt is no state of an effort. -/
theorem deleteTerminationDebt_silent {authority : RunnerTerminationAuthority} :
    Silent (deleteTerminationDebt effortId authority) :=
  excludes_bind excludes_query fun _ => excludes_bind silent_require fun _ => excludes_write

/-! ### The queue -/

/-- A new effort begins with a ready agent. -/
theorem createEffort_silent {new : NewEffort} : Silent (createEffort new stamp) := by
  refine excludes_bind silent_itemObjectFormat fun _ => excludes_bind silent_ensure fun _ => ?_
  refine excludes_bind silent_ensure fun _ => excludes_bind silent_ensure fun _ => ?_
  refine excludes_bind silent_lookup fun _ => excludes_bind excludes_query fun _ => ?_
  refine excludes_bind silent_require fun _ => excludes_bind silent_require fun _ => ?_
  refine excludes_bind excludes_query fun existing => ?_
  split
  · refine excludes_bind silent_ensure fun _ => ?_
    split
    · refine excludes_bind silent_require fun _ => excludes_bind excludes_query fun _ => ?_
      refine excludes_bind silent_require fun _ => excludes_bind excludes_query fun _ => ?_
      refine excludes_bind silent_require fun _ => excludes_bind excludes_write fun _ => ?_
      exact silent_appendEvent
    · exact silent_require
  · refine excludes_bind excludes_query fun _ => excludes_bind ?_ fun _ => ?_
    · exact excludes_require (by rintro (refusal | refusal) <;> cases refusal)
    · refine excludes_bind (excludes_lookup not_isTransition_unique) fun _ => ?_
      exact excludes_bind excludes_write fun _ => silent_appendEvent

/-- A claim writes no effort. -/
theorem claimNextReady_silent {repoKey : String} {targetRef : TargetRef}
    {withoutValidation : Bool} :
    Silent (claimNextReady repoKey targetRef withoutValidation stamp) := by
  refine excludes_bind excludes_query fun oldest => ?_
  split
  · exact excludes_pure
  · refine excludes_bind silent_requireItemObligation fun _ => ?_
    refine excludes_ite (fun _ => excludes_pure) fun _ => excludes_bind excludes_query fun _ => ?_
    refine excludes_bind (excludes_lookup not_isTransition_unique) fun _ => ?_
    refine excludes_bind excludes_write fun _ => ?_
    exact excludes_bind silent_updateQueueItem fun _ => excludes_pure

/-- An item without an effort has no state to change. -/
theorem cancelItemWithoutEffort_silent : Silent (cancelItemWithoutEffort itemId stamp) := by
  refine excludes_bind silent_lookup fun item => excludes_bind excludes_query fun _ => ?_
  refine excludes_bind silent_require fun _ => excludes_bind silent_require fun _ => ?_
  refine excludes_bind silent_require fun _ => excludes_bind excludes_query fun _ => ?_
  refine excludes_bind silent_require fun _ => excludes_bind silent_cancelLocalSubmission fun _ => ?_
  split
  · exact silent_updateQueueItem
  · exact excludes_bind silent_updateAttempts fun _ => silent_updateQueueItem

/-- A blocked item keeps the state of its effort. -/
theorem blockItemFromStatus_silent {expected : QueueStatus} {phase : BlockedPhase}
    {reason : BlockedReason} : Silent (blockItemFromStatus itemId expected phase reason) :=
  excludes_bind excludes_query fun _ => excludes_bind silent_require fun _ => silent_updateQueueItem

/-- An effort that is to be replaced is marked in any state below the limit. -/
theorem markEffortReplacementPending_silent {oldAttemptId : String} :
    Silent (markEffortReplacementPending itemId oldAttemptId stamp) := by
  refine excludes_bind excludes_query fun existing => ?_
  split
  · exact excludes_pure
  · refine excludes_bind silent_ensure fun _ => ?_
    refine excludes_require_bind not_isTransition_refused fun limited => ?_
    refine excludes_bind ?_ fun _ => excludes_bind silent_appendEvent fun _ => excludes_pure
    apply silent_updateStateAndCountWithResolution _ rfl
    intro _
    rw [limited.2]
    rfl

/-- The cleanup before a replacement supersedes the attempt and marks the effort. -/
theorem finishReplacementCleanup_silent {oldAttemptId : String} :
    Silent (finishReplacementCleanup itemId oldAttemptId stamp) := by
  refine excludes_bind silent_lookup fun item => ?_
  split
  · exact fun _ => not_isTransition_refused
  · refine excludes_bind silent_require fun _ => excludes_ite (fun _ => ?_) fun _ => ?_
    · refine excludes_bind silent_updateAttempts fun _ => ?_
      refine excludes_ite (fun _ => ?_) fun _ => ?_
      · refine excludes_bind silent_lookup fun _ => excludes_bind silent_require fun _ => ?_
        exact excludes_bind markEffortReplacementPending_silent fun _ => silent_updateQueueItem
      · exact excludes_bind markEffortReplacementPending_silent fun _ => silent_updateQueueItem
    · refine excludes_bind silent_lookup fun _ => excludes_bind silent_require fun _ => ?_
      exact excludes_bind silent_require fun _ => excludes_write

/-- A completed validation is written in the attempt. -/
theorem completeAttemptValidation_silent {invocationNumber : Nat} {validatedCommitSha : String} :
    Silent (completeAttemptValidation attemptId invocationNumber validatedCommitSha) := by
  refine excludes_bind silent_lookup fun _ => excludes_bind silent_itemObjectFormat fun _ => ?_
  refine excludes_bind silent_ensure fun _ => excludes_bind excludes_query fun _ => ?_
  refine excludes_bind excludes_query fun _ => excludes_bind silent_require fun _ => ?_
  refine excludes_bind excludes_write fun _ => excludes_bind silent_updateAttempts fun _ => ?_
  exact silent_require

/-- An accepted candidate is written in the attempt. -/
theorem acceptCandidateWithoutValidation_silent {targetBaseSha candidateSha : String}
    {expected : QueueStatus} :
    Silent (acceptCandidateWithoutValidation itemId attemptId targetBaseSha candidateSha
      expected) := by
  refine excludes_bind silent_require fun _ => excludes_bind silent_require fun _ => ?_
  refine excludes_bind silent_lookup fun _ => excludes_bind silent_require fun _ => ?_
  refine excludes_bind silent_lookup fun _ => excludes_bind silent_require fun _ => ?_
  refine excludes_bind silent_require fun _ => excludes_ite (fun _ => excludes_pure) fun _ => ?_
  refine excludes_bind silent_require fun _ => excludes_bind excludes_query fun _ => ?_
  refine excludes_bind silent_require fun _ => excludes_bind silent_updateAttempts fun _ => ?_
  exact excludes_pure

/-- A first fetch is written in the attempt. -/
theorem beginInitialTargetFetch_silent {targetSha : String} :
    Silent (beginInitialTargetFetch itemId attemptId targetSha) := by
  refine excludes_bind silent_itemObjectFormat fun _ => excludes_bind silent_ensure fun _ => ?_
  refine excludes_bind silent_updateAttempts fun _ => excludes_bind excludes_query fun _ => ?_
  refine excludes_bind silent_require fun _ => excludes_bind silent_requireCheckout fun _ => ?_
  exact silent_require

/-- The commits of a conflict are written in the item. -/
theorem setConflictMetadata_silent {targetSha sourceSha : String} :
    Silent (setConflictMetadata itemId attemptId targetSha sourceSha) :=
  excludes_bind silent_lookup fun _ =>
    excludes_ite (fun _ => excludes_write) fun _ => silent_require

/-- A scheduled cleanup is a debt. -/
theorem schedulePrivateRefCleanup_silent {debt : PrivateRefCleanupDebt} :
    Silent (schedulePrivateRefCleanup debt) :=
  excludes_bind silent_lookup fun _ => excludes_bind silent_ensure fun _ =>
    excludes_bind silent_require fun _ => silent_scheduleCleanup

/-- A completed cleanup deletes its debt. -/
theorem completePrivateRefCleanup_silent {debt : PrivateRefCleanupDebt} :
    Silent (completePrivateRefCleanup debt) :=
  excludes_bind excludes_query fun _ => excludes_bind silent_require fun _ => excludes_write

/-- A draining repository is a state of its policy. -/
theorem beginRepositoryDraining_silent {repoKey : String} :
    Silent (beginRepositoryDraining repoKey) :=
  excludes_bind silent_lookup fun _ => excludes_bind silent_require fun _ =>
    excludes_bind excludes_query fun _ => excludes_bind silent_require fun _ =>
      excludes_bind excludes_query fun _ => excludes_write

/-- A drained repository is disabled in its policy. -/
theorem disableDrainedRepository_silent {repoKey : String} :
    Silent (disableDrainedRepository repoKey) := by
  refine excludes_bind silent_lookup fun policy => ?_
  split
  · exact fun _ => not_isTransition_refused
  · exact fun _ => not_isTransition_refused
  · exact excludes_bind excludes_query fun _ => excludes_bind silent_require fun _ => excludes_write

end Iq
