import Iq.Migration.Run

/-!
# The migration of effort states from schema 5

What `migrate_schema5_effort_state` makes of every state that a schema-5 database can hold. A
candidate before its landing becomes a candidate that requires a review, alone or directly inside a
repair blocker without the blocker, deeper in place; every other state keeps its value, except that
a builder intent is classified.
-/

namespace Iq

open Library JsonText

/-- A suspended state is written as the state that it restores. -/
theorem ResumeState.toValue_restore (resume : ResumeState) :
    resume.restore.toValue = resume.toValue := by
  cases resume <;> rfl

namespace Schema5

variable {reviewId cycleId : String} {evidence : Option String} {standing : Standing}
  {state : EffortState}

/-! ## Well-formed states -/

/-- A state that a repair blocker or a target move may suspend. -/
def Standing.isSuspendable : Standing → Bool
  | agentReady _ | candidateBuilding _ | candidateReady _ | validating _ | landing _
  | landingUncertain _ => true
  | _ => false

/-- The candidate of a landing gate, where a provider can block. -/
def Standing.gateCandidate? : Standing → Option String
  | validating ⟨candidateSha, _, .gates⟩ => some candidateSha
  | landing value => some value.candidateSha
  | landingUncertain value => some value.candidateSha
  | _ => none

/-- What a state alone owes to its count of failed cycles and to its launch authority. -/
def Standing.IsWellFormed (failedCycles : Nat) : Standing → Prop
  | replacementPending value =>
    failedCycles = 0 ∧ value.oldAttemptId ≠ "" ∧ value.replacedAt ≠ ""
  | agentLaunching value => (IntegrationEffortState.agentLaunching value).validatePayload = .ok ()
  | agentRunning value => (IntegrationEffortState.agentRunning value).validatePayload = .ok ()
  | cycleLimitBlocked blocker _ =>
    failedCycles = automaticCycleLimit ∧ blocker.count = automaticCycleLimit
  | _ => True

/-- A state as the schema-5 domain wrote it: a blocker or a target move suspends one state, a
provider blocks at a landing gate of its own candidate, and the count is within the limit. -/
def EffortState.IsWellFormed (failedCycles : Nat) (state : EffortState) : Prop :=
  failedCycles ≤ automaticCycleLimit ∧
    match state with
    | .standing standing => standing.IsWellFormed failedCycles
    | .infrastructureBlocked _ (.standing standing) => standing.isSuspendable = true
    | .providerBlocked blocker (.standing standing) =>
      standing.gateCandidate? = some blocker.candidateSha
    | .targetMovePending targetSha sourceSha (.standing standing) cause =>
      standing.isSuspendable = true ∧
        isExactText targetSha = true ∧ isExactText sourceSha = true ∧ cause.validate = .ok ()
    | _ => False

/-- A state that can be suspended is migrated to one. -/
theorem Standing.exists_resume (suspendable : standing.isSuspendable = true) :
    ∃ resume : ResumeState, resume.restore = standing.migrated reviewId cycleId := by
  cases standing with
  | agentReady value => exact ⟨.agentReady value, rfl⟩
  | candidateBuilding value => exact ⟨.candidateBuilding value.semantic, rfl⟩
  | candidateReady value => exact ⟨.reviewRequired ⟨reviewId, cycleId, value.candidateSha⟩, rfl⟩
  | validating value => exact ⟨.reviewRequired ⟨reviewId, cycleId, value.candidateSha⟩, rfl⟩
  | landing value => exact ⟨.reviewRequired ⟨reviewId, cycleId, value.candidateSha⟩, rfl⟩
  | landingUncertain value => exact ⟨.landingUncertain value, rfl⟩
  | replacementPending | agentLaunching | agentRunning | guidanceRequired | cycleLimitBlocked
  | integrated | cancelled => cases suspendable

end Schema5

/-- A state whose count is within the limit is left to the checks of its payload. -/
theorem IntegrationEffortState.validateForCount_reviewRequired {failedCycles : Nat}
    (within : failedCycles ≤ automaticCycleLimit) (value : CandidateReviewRequired) :
    (IntegrationEffortState.reviewRequired value).validateForCount failedCycles = .ok () :=
  if_neg (Nat.not_lt.mpr within)

namespace Schema5

variable {reviewId cycleId : String} {evidence : Option String} {standing : Standing}
  {state : EffortState} {failedCycles : Nat}

/-- A well-formed state is migrated to a valid one. -/
theorem Standing.validateForCount_migrated (within : failedCycles ≤ automaticCycleLimit)
    (wellFormed : standing.IsWellFormed failedCycles) :
    (standing.migrated reviewId cycleId).validateForCount failedCycles = .ok () := by
  have bounded : ¬ failedCycles > automaticCycleLimit := Nat.not_lt.mpr within
  cases standing with
  | replacementPending value =>
    obtain ⟨rfl, attempt, time⟩ := wellFormed
    simp [migrated, IntegrationEffortState.validateForCount, attempt, time,
      IntegrationEffortState.validatePayload]
  | agentLaunching value => exact (if_neg bounded).trans wellFormed
  | agentRunning value => exact (if_neg bounded).trans wellFormed
  | cycleLimitBlocked blocker resume =>
    obtain ⟨rfl, count⟩ := wellFormed
    simp [migrated, IntegrationEffortState.validateForCount, count, check]
  | agentReady | candidateBuilding | candidateReady | validating | guidanceRequired | landing
  | landingUncertain | integrated | cancelled => exact if_neg bounded

/-- A well-formed state that opens no review is migrated to an effort state of schema 6 that passes
its checks. -/
theorem EffortState.exists_effort (wellFormed : state.IsWellFormed failedCycles)
    (closed : state.opensReview = false) :
    ∃ effort : IntegrationEffortState,
      (state.map (Standing.migrated reviewId cycleId)).toValue IntegrationEffortState.toValue =
        effort.toValue ∧ effort.validateForCount failedCycles = .ok () := by
  obtain ⟨within, shape⟩ := wellFormed
  cases state with
  | standing standing =>
    exact ⟨standing.migrated reviewId cycleId, rfl,
      Standing.validateForCount_migrated within shape⟩
  | infrastructureBlocked blocker resume =>
    cases resume with
    | infrastructureBlocked | providerBlocked | targetMovePending => cases shape
    | standing standing =>
      obtain ⟨resume, same⟩ := Standing.exists_resume shape
      refine ⟨.infrastructureBlocked ⟨.infrastructure blocker, resume⟩, ?_, rfl⟩
      rw [Suspension.map, Suspension.toValue, Suspension.map, Suspension.toValue, ← same,
        resume.toValue_restore]
      rfl
  | providerBlocked blocker resume =>
    cases resume with
    | infrastructureBlocked | providerBlocked | targetMovePending => cases shape
    | standing standing =>
      -- The gates other than an uncertain landing open a review.
      cases standing with
      | landingUncertain value =>
        refine ⟨.providerBlocked ⟨.providerSignoff blocker, .landingUncertain value⟩, rfl, ?_⟩
        have candidate : value.candidateSha = blocker.candidateSha := Option.some.inj shape
        show check (value.candidateSha == blocker.candidateSha) _ = .ok ()
        rw [candidate, beq_self_eq_true]
        rfl
      | validating | landing | candidateReady => cases closed
      | replacementPending | agentReady | agentLaunching | agentRunning | guidanceRequired
      | cycleLimitBlocked | integrated | cancelled | candidateBuilding => cases shape
  | targetMovePending targetSha sourceSha previous cause =>
    cases previous with
    | infrastructureBlocked | providerBlocked | targetMovePending => cases shape
    | standing standing =>
      obtain ⟨suspendable, target, source, moved⟩ := shape
      obtain ⟨resume, same⟩ := Standing.exists_resume suspendable
      refine ⟨.targetMovePending ⟨targetSha, sourceSha, resume, cause⟩, ?_, ?_⟩
      · rw [Suspension.map, Suspension.toValue, Suspension.map, Suspension.toValue, ← same,
          resume.toValue_restore]
        rfl
      · refine (if_neg (Nat.not_lt.mpr within)).trans ?_
        simp [IntegrationEffortState.validatePayload, requireExactText, target, source, moved,
          check, bind, Except.bind]

/-! ## The claim -/

/-- What the migration makes of a state: `result` is the state that the new text holds. -/
structure IsMigration (reviewId : String) (state : EffortState) (migration : MigratedEffortState)
    (result : Suspension IntegrationEffortState) : Prop where
  written : migration.stateJson = result.toValue IntegrationEffortState.toValue
  /-- The name column and the text agree. -/
  named : textField? "state" migration.stateJson = some migration.state
  /-- At no depth does a candidate wait to land without a review. -/
  unreviewed : ∀ name ∈ result.names, name.text ∉ preLandingNames
  candidate : result.innermost.candidateSha = state.innermost.candidateSha
  released : migration.postReleaseAuthority = state.innermost.isReleased
  /-- A released landing keeps its candidate, its target and its command, at every depth. -/
  uncertain : ∀ value, state.innermost = .landingUncertain value →
    result.innermost = .landingUncertain value ∧ result.position = state.position
  integrated : ∀ value, state.innermost = .integrated value →
    result.innermost = .integrated value ∧ result.position = state.position
  /-- A candidate before its landing requires a review, and the blocker directly around it is
  gone. -/
  opened : state.opensReview = true → ∃ cycleId candidateSha,
    result = .standing (.reviewRequired ⟨reviewId, cycleId, candidateSha⟩) ∧
      migration.review = some (reviewId, cycleId, candidateSha)
  /-- Deeper, it requires one where it stands. -/
  replaced : state.opensReview = false → state.innermost.isPreLanding = true →
    result.position = state.position ∧ ∃ cycleId candidateSha,
      result.innermost = .reviewRequired ⟨reviewId, cycleId, candidateSha⟩
  classified : ∀ value, state.innermost = .candidateBuilding value →
    result.position = state.position ∧ result.innermost = .candidateBuilding value.semantic
  /-- Every other state keeps its whole value. -/
  kept : state.innermost.isPreLanding = false →
    (∀ value, state.innermost ≠ .candidateBuilding value) → migration.stateJson = state.toValue

/-- A migrated state has its candidate. -/
theorem Standing.candidateSha_migrated (standing : Standing) :
    (standing.migrated reviewId cycleId).candidateSha = standing.candidateSha := by
  cases standing <;> rfl

/-- A migrated state neither is nor resumes with a candidate before its landing. -/
theorem Standing.names_migrated (standing : Standing) :
    ∀ name ∈ (standing.migrated reviewId cycleId).names, name.text ∉ preLandingNames := by
  cases standing <;>
    simp [migrated, IntegrationEffortState.names, IntegrationEffortState.name,
      IntegrationEffortState.suspended?, ResumeState.restore, StateName.text, preLandingNames]

end Schema5

/-- No layer waits to land. -/
theorem Suspension.layerNames_repair {Standing : Type} (state : Suspension Standing) :
    ∀ name ∈ state.layerNames, name.text ∉ preLandingNames := by
  induction state with
  | standing => simp [layerNames]
  | infrastructureBlocked _ _ hypothesis | providerBlocked _ _ hypothesis
  | targetMovePending _ _ _ _ hypothesis =>
    simp only [layerNames, List.forall_mem_cons]
    exact ⟨by decide, hypothesis⟩

namespace Schema5

variable {reviewId cycleId : String} {evidence : Option String} {state : EffortState}
  {failedCycles : Nat}

/-- What is put to review waits to land. -/
theorem EffortState.isPreLanding_of_opensReview (opens : state.opensReview = true) :
    state.innermost.isPreLanding = true := by
  cases state with
  | standing => exact opens
  | infrastructureBlocked _ resume | providerBlocked _ resume =>
    cases resume with
    | standing => exact opens
    | infrastructureBlocked | providerBlocked | targetMovePending => cases opens
  | targetMovePending => cases opens

/-- The migration of a state that opens a review. -/
theorem EffortState.isMigration_of_opensReview {candidateSha : String}
    (opens : state.opensReview = true)
    (candidate : state.innermost.candidateSha = some candidateSha) :
    IsMigration reviewId state
      ⟨"review_required",
        (IntegrationEffortState.reviewRequired ⟨reviewId, cycleId, candidateSha⟩).toValue,
        some (reviewId, cycleId, candidateSha), false⟩
      (.standing (.reviewRequired ⟨reviewId, cycleId, candidateSha⟩)) := by
  have preLanding := isPreLanding_of_opensReview opens
  have other {standing : Standing} (same : state.innermost = standing)
      (different : standing.isPreLanding = false) : False := by
    rw [same, different] at preLanding
    cases preLanding
  exact {
    written := rfl
    named := rfl
    unreviewed := by
      intro name mem
      rw [List.mem_singleton.mp mem]
      exact (by decide : StateName.reviewRequired.text ∉ preLandingNames)
    candidate := candidate.symm
    released := by
      cases holds : state.innermost with
      | landingUncertain | integrated => exact (other holds rfl).elim
      | replacementPending | agentReady | agentLaunching | agentRunning | candidateBuilding
      | candidateReady | validating | guidanceRequired | cycleLimitBlocked | landing
      | cancelled => rfl
    uncertain value same := (other same rfl).elim
    integrated value same := (other same rfl).elim
    opened _ := ⟨cycleId, candidateSha, rfl, rfl⟩
    replaced closed := by rw [opens] at closed; cases closed
    classified value same := (other same rfl).elim
    kept closed := by rw [preLanding] at closed; cases closed }

/-- A standing state other than a builder intent and a candidate before its landing is written as
it was. -/
theorem Standing.toValue_migrated {standing : Standing} (preLanding : standing.isPreLanding = false)
    (building : ∀ value, standing ≠ .candidateBuilding value) :
    (standing.migrated reviewId cycleId).toValue = standing.toValue := by
  cases standing with
  | candidateBuilding value => exact absurd rfl (building value)
  | candidateReady | validating | landing => cases preLanding
  | replacementPending | agentReady | agentLaunching | agentRunning | guidanceRequired
  | cycleLimitBlocked | landingUncertain | integrated | cancelled => rfl

/-- The migration of a state that opens no review. -/
theorem EffortState.isMigration_embedded (closed : state.opensReview = false) :
    IsMigration reviewId state
      ⟨state.name.text,
        (state.map (Standing.migrated reviewId cycleId)).toValue IntegrationEffortState.toValue,
        none, state.innermost.isReleased⟩
      (state.map (Standing.migrated reviewId cycleId)) where
  written := rfl
  named := by
    cases state with
    | standing standing =>
      cases standing with
      | candidateReady | validating | landing => cases closed
      | replacementPending | agentReady | agentLaunching | agentRunning | candidateBuilding
      | guidanceRequired | cycleLimitBlocked | landingUncertain | integrated | cancelled => rfl
    | infrastructureBlocked | providerBlocked | targetMovePending => rfl
  unreviewed := by
    simp only [Suspension.names, Suspension.innermost_map, List.forall_mem_append]
    exact ⟨Suspension.layerNames_repair _, Standing.names_migrated _⟩
  candidate := by
    rw [Suspension.innermost_map, Standing.candidateSha_migrated]
  released := rfl
  uncertain value same := by
    rw [Suspension.innermost_map, Suspension.position_map, same]
    exact ⟨rfl, rfl⟩
  integrated value same := by
    rw [Suspension.innermost_map, Suspension.position_map, same]
    exact ⟨rfl, rfl⟩
  opened opens := by rw [closed] at opens; cases opens
  replaced _ preLanding := by
    rw [Suspension.innermost_map, Suspension.position_map]
    cases holds : state.innermost with
    | candidateReady | validating | landing => exact ⟨rfl, cycleId, _, rfl⟩
    | replacementPending | agentReady | agentLaunching | agentRunning | candidateBuilding
    | guidanceRequired | cycleLimitBlocked | landingUncertain | integrated | cancelled =>
      rw [holds] at preLanding
      cases preLanding
  classified value same := by
    rw [Suspension.innermost_map, Suspension.position_map, same]
    exact ⟨rfl, rfl⟩
  kept preLanding building :=
    Suspension.toValue_map (Standing.toValue_migrated preLanding building)

/-- What waits to land with evidence has a cycle. -/
theorem Standing.candidateCycle_isSome {standing : Standing}
    (recorded : standing.isPreLanding = true → evidence.isSome = true) :
    ∃ cycleId, standing.isPreLanding = true →
      standing.candidateCycle evidence = some cycleId := by
  cases standing with
  | candidateReady value => exact ⟨value.cycleId, fun _ => rfl⟩
  | validating | landing =>
    obtain ⟨cycleId, same⟩ := Option.isSome_iff_exists.mp (recorded rfl)
    exact ⟨cycleId, fun _ => same⟩
  | replacementPending | agentReady | agentLaunching | agentRunning | candidateBuilding
  | guidanceRequired | cycleLimitBlocked | landingUncertain | integrated | cancelled =>
    exact ⟨"", nofun⟩

end Schema5

/-- The migration of an effort whose candidate, if it waits to land, has its evidence. It keeps
every released landing and every state without such a candidate, and what it writes of a well-formed
state is read and accepted by schema 6. -/
theorem schema5_authority_is_kept (state : Schema5.EffortState) (reviewId : String)
    (evidence : Option String)
    (recorded : state.innermost.isPreLanding = true → evidence.isSome = true) :
    ∃ migration result,
      migrateSchema5EffortState reviewId state.toValue evidence = .ok migration ∧
        Schema5.IsMigration reviewId state migration result ∧
        ∀ failedCycles, state.IsWellFormed failedCycles → ∃ effort,
          IntegrationEffortState.fromValue? migration.stateJson = some effort ∧
            effort.validateForCount failedCycles = .ok () := by
  obtain ⟨cycleId, cycle⟩ := Schema5.Standing.candidateCycle_isSome recorded
  cases opens : state.opensReview with
  | true =>
    have preLanding := Schema5.EffortState.isPreLanding_of_opensReview opens
    obtain ⟨candidateSha, candidate, migrated⟩ :=
      Schema5.EffortState.migrate_opensReview opens (cycle preLanding)
    refine ⟨_, _, migrated, Schema5.EffortState.isMigration_of_opensReview opens candidate,
      fun failedCycles wellFormed => ⟨_, IntegrationEffortState.fromValue?_toValue _, ?_⟩⟩
    exact IntegrationEffortState.validateForCount_reviewRequired wellFormed.1 _
  | false =>
    refine ⟨_, _, Schema5.EffortState.migrate_embedded opens cycle,
      Schema5.EffortState.isMigration_embedded opens, fun failedCycles wellFormed => ?_⟩
    obtain ⟨effort, same, valid⟩ := Schema5.EffortState.exists_effort wellFormed opens
    exact ⟨effort, (congrArg _ same).trans effort.fromValue?_toValue, valid⟩

/-- A blocker of the provider at a gate of its candidate. -/
def gateBlocker : ProviderSignoffBlocker :=
  ⟨.provider, "group/project", "ci", "candidate", .pending, "pending"⟩

/-- An uncertain landing whose target moved. -/
def movedUncertainLanding : Schema5.EffortState :=
  .targetMovePending "moved" "source" (.standing (.landingUncertain
    ⟨"candidate", "target", "command", "command_gate_released"⟩)) (.observed "target")

/-- The uncertain landing of the sample is kept under its moved target. -/
theorem movedUncertainLanding_kept :
    ∃ migration result,
      migrateSchema5EffortState "review" movedUncertainLanding.toValue none = .ok migration ∧
        Schema5.IsMigration "review" movedUncertainLanding migration result ∧
        ∀ failedCycles, movedUncertainLanding.IsWellFormed failedCycles → ∃ effort,
          IntegrationEffortState.fromValue? migration.stateJson = some effort ∧
            effort.validateForCount failedCycles = .ok () :=
  schema5_authority_is_kept movedUncertainLanding "review" none nofun

/-- A candidate at a gate that the provider blocks. -/
def blockedGate : Schema5.EffortState :=
  .providerBlocked gateBlocker (.standing (.validating ⟨"candidate", "digest", .gates⟩))

/-- The migration drops the blocker of a candidate that now requires a review, and the position at
which it would resume. -/
theorem blockedGate_loses_blocker :
    blockedGate.IsWellFormed 0 ∧ ∃ migration effort,
      migrateSchema5EffortState "review" blockedGate.toValue (some "cycle") = .ok migration ∧
        IntegrationEffortState.fromValue? migration.stateJson = some effort ∧
        effort.blocker = none ∧ effort.suspended? = none := by
  refine ⟨⟨by decide, rfl⟩, _, .reviewRequired ⟨"review", "cycle", "candidate"⟩, rfl, ?_, rfl, rfl⟩
  exact IntegrationEffortState.fromValue?_toValue (.reviewRequired ⟨"review", "cycle", "candidate"⟩)

end Iq
