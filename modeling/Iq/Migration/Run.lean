import Iq.Migration.Schema5

/-!
# Runs of the migration from schema 5

What each function of the migration returns on the value of a schema-5 state, at every depth.
-/

namespace Iq

open Library JsonText

/-! ## One step of the migration -/

section

variable {reviewId name : String} {cycleHint : Option String} {state inner migrated : JsonText}

/-- A candidate that is being built is classified semantic. -/
theorem migrateEmbedded_building (named : textField? "state" state = some "candidate_building") :
    migrateEmbeddedPreLandingState reviewId cycleHint state =
      setPayloadField "classification" (.text "semantic") state := by
  rw [migrateEmbeddedPreLandingState, named]
  rfl

/-- A candidate that waits to land is put to review. -/
theorem migrateEmbedded_preLanding (named : textField? "state" state = some name)
    (preLanding : name ∈ preLandingNames) :
    migrateEmbeddedPreLandingState reviewId cycleHint state =
      (migratedReviewState reviewId (state.getD "payload") cycleHint).map Prod.fst := by
  have other : name ≠ "candidate_building" := by
    rintro rfl
    exact absurd preLanding (by decide)
  rw [migrateEmbeddedPreLandingState, named]
  simp only [if_neg other, if_pos preLanding]

/-- The state under a blocker is migrated. -/
theorem migrateEmbedded_repairBlocked (named : textField? "state" state = some name)
    (blocked : name ∈ repairBlockedNames) (found : payloadField? "resume" state = some inner)
    (ok : migrateEmbeddedPreLandingState reviewId cycleHint inner = .ok migrated) :
    migrateEmbeddedPreLandingState reviewId cycleHint state =
      setPayloadField "resume" migrated state := by
  have building : name ≠ "candidate_building" := by
    rintro rfl
    exact absurd blocked (by decide)
  have preLanding : name ∉ preLandingNames := by
    intro mem
    have all : ∀ other ∈ repairBlockedNames, other ∉ preLandingNames := by decide
    exact all name blocked mem
  rw [migrateEmbeddedPreLandingState, named]
  simp only [if_neg building, if_neg preLanding, if_pos blocked]
  split
  · simp_all
  · rename_i resume same
    cases found.symm.trans same
    rw [ok]
    rfl

/-- The state before a moved target is migrated. -/
theorem migrateEmbedded_targetMove (named : textField? "state" state = some "target_move_pending")
    (found : payloadField? "previous" state = some inner)
    (ok : migrateEmbeddedPreLandingState reviewId cycleHint inner = .ok migrated) :
    migrateEmbeddedPreLandingState reviewId cycleHint state =
      setPayloadField "previous" migrated state := by
  rw [migrateEmbeddedPreLandingState, named]
  simp only [if_neg (by decide : "target_move_pending" ≠ "candidate_building"),
    if_neg (by decide : "target_move_pending" ∉ preLandingNames),
    if_neg (by decide : "target_move_pending" ∉ repairBlockedNames), if_true]
  split
  · simp_all
  · rename_i previous same
    cases found.symm.trans same
    rw [ok]
    rfl

/-- Every other state stays. -/
theorem migrateEmbedded_other (named : textField? "state" state = some name)
    (other : name ∉ "candidate_building" :: "target_move_pending" ::
      (preLandingNames ++ repairBlockedNames)) :
    migrateEmbeddedPreLandingState reviewId cycleHint state = .ok state := by
  simp only [List.mem_cons, List.mem_append, not_or] at other
  rw [migrateEmbeddedPreLandingState, named]
  simp only [if_neg other.1, if_neg other.2.1, if_neg other.2.2.1, if_neg other.2.2.2]

end


/-! ## What a state holds -/

/-- The state that a blocker or a target move of an effort suspends. -/
def IntegrationEffortState.suspended? : IntegrationEffortState → Option ResumeState
  | .guidanceRequired value | .infrastructureBlocked value | .cycleLimitBlocked value
  | .providerBlocked value => some value.resume
  | .targetMovePending value => some value.previous
  | _ => none

/-- The name of a state and of the state that it suspends. -/
def IntegrationEffortState.names (state : IntegrationEffortState) : List StateName :=
  state.name :: (state.suspended?.map fun resume => resume.restore.name).toList

/-- The name of every state in a nest, outermost first. -/
def Suspension.names (state : Suspension IntegrationEffortState) : List StateName :=
  state.layerNames ++ state.innermost.names

namespace Schema5

/-- The builder intent with the classification that the migration gives it. -/
def CandidateBuilding.semantic (value : CandidateBuilding) : Iq.CandidateBuilding where
  operationId := value.operationId
  cycleId := value.cycleId
  stagedTreeSha256 := value.stagedTreeSha256
  treeSha := value.treeSha
  parentShas := value.parentShas
  authorName := value.authorName
  authorEmail := value.authorEmail
  authorTimestamp := value.authorTimestamp
  committerName := value.committerName
  committerEmail := value.committerEmail
  committerTimestamp := value.committerTimestamp
  message := value.message
  operationRef := value.operationRef
  classification := .semantic

namespace Standing

/-- The candidate of a state. -/
def candidateSha : Standing → Option String
  | candidateReady value => some value.candidateSha
  | validating value => some value.candidateSha
  | landing value => some value.candidateSha
  | landingUncertain value => some value.candidateSha
  | integrated value => some value.candidateSha
  | _ => none

/-- A candidate that schema 5 could land without a review. -/
def isPreLanding : Standing → Bool
  | candidateReady _ | validating _ | landing _ => true
  | _ => false

/-- A landing that was released. -/
def isReleased : Standing → Bool
  | landingUncertain _ | integrated _ => true
  | _ => false

/-- The name of a state. -/
def name : Standing → StateName
  | replacementPending _ => .replacementPending
  | agentReady _ => .agentReady
  | agentLaunching _ => .agentLaunching
  | agentRunning _ => .agentRunning
  | candidateBuilding _ => .candidateBuilding
  | candidateReady _ => .candidateReady
  | validating _ => .validating
  | guidanceRequired _ _ => .guidanceRequired
  | cycleLimitBlocked _ _ => .cycleLimitBlocked
  | landing _ => .landing
  | landingUncertain _ => .landingUncertain
  | integrated _ => .integrated
  | cancelled _ => .cancelled

/-- The cycle of the candidate, from the state itself or from the candidate evidence. -/
def candidateCycle (evidence : Option String) : Standing → Option String
  | candidateReady value => some value.cycleId
  | validating _ | landing _ => evidence
  | _ => none

/-- The state under schema 6, with the review and the cycle of a candidate that needs one. -/
def migrated (reviewId cycleId : String) : Standing → IntegrationEffortState
  | replacementPending value => .replacementPending value
  | agentReady value => .agentReady value
  | agentLaunching value => .agentLaunching value
  | agentRunning value => .agentRunning value
  | candidateBuilding value => .candidateBuilding value.semantic
  | candidateReady value => .reviewRequired ⟨reviewId, cycleId, value.candidateSha⟩
  | validating value => .reviewRequired ⟨reviewId, cycleId, value.candidateSha⟩
  | guidanceRequired blocker resume =>
    .guidanceRequired ⟨.semanticGuidance blocker, .agentReady resume⟩
  | cycleLimitBlocked blocker resume =>
    .cycleLimitBlocked ⟨.cycleLimit blocker, .agentReady resume⟩
  | landing value => .reviewRequired ⟨reviewId, cycleId, value.candidateSha⟩
  | landingUncertain value => .landingUncertain value
  | integrated value => .integrated value
  | cancelled value => .cancelled value

end Standing

/-- The name of a state. -/
def EffortState.name : EffortState → StateName
  | .standing state => state.name
  | .infrastructureBlocked _ _ => .infrastructureBlocked
  | .providerBlocked _ _ => .providerBlocked
  | .targetMovePending _ _ _ _ => .targetMovePending

/-- A candidate before its landing, alone or directly inside a repair blocker. -/
def EffortState.opensReview : EffortState → Bool
  | .standing state | .infrastructureBlocked _ (.standing state)
  | .providerBlocked _ (.standing state) => state.isPreLanding
  | _ => false

end Schema5

/-! ## The value of a migrated state -/

/-- A field of the payload of a named state is written in place. -/
theorem setPayloadField_taggedState {field : JsonText} (name label : String)
    (fields : List (String × JsonText)) :
    setPayloadField name field (taggedState label (.object fields)) =
      .ok (taggedState label (.object (insertField name field fields))) := by
  simp [setPayloadField, taggedState, getD, get?, set?, insertField]

/-- The suspended state is replaced under its blocker. -/
theorem setPayloadField_blockedJson {blocker : IntegrationBlocker} {resume field : JsonText}
    (label : String) :
    setPayloadField "resume" field (taggedState label (blockedJson blocker resume)) =
      .ok (taggedState label (blockedJson blocker field)) := by
  rw [blockedJson, setPayloadField_taggedState,
    insertField_after (by decide) (by decide +kernel), insertField_same]
  rfl

/-- The previous state is replaced under its move. -/
theorem setPayloadField_targetMoveJson {targetSha sourceSha : String} {cause : TargetMoveCause}
    {previous field : JsonText} (label : String) :
    setPayloadField "previous" field
        (taggedState label (targetMoveJson targetSha sourceSha previous cause)) =
      .ok (taggedState label (targetMoveJson targetSha sourceSha field cause)) := by
  rw [targetMoveJson, setPayloadField_taggedState,
    insertField_after (by decide) (by decide +kernel), insertField_same]
  rfl

namespace Schema5

variable {reviewId cycleId : String} {evidence : Option String} {standing : Standing}
  {state : EffortState}

/-- The classification is set in the payload of a build. -/
theorem CandidateBuilding.setPayloadField_classification (value : CandidateBuilding) :
    setPayloadField "classification" (.text "semantic")
        (taggedState "candidate_building" value.toValue) =
      .ok (taggedState "candidate_building" value.semantic.toValue) := by
  rw [toValue, setPayloadField_taggedState,
    insertField_after (by decide) (by decide +kernel),
    insertField_after (by decide) (by decide +kernel),
    insertField_after (by decide) (by decide +kernel),
    insertField_first (by decide) (by decide +kernel)]
  rfl

/-- An innermost state is migrated as its value is. -/
theorem Standing.migrateEmbedded_toValue
    (recorded : standing.isPreLanding = true → standing.candidateCycle evidence = some cycleId) :
    migrateEmbeddedPreLandingState reviewId evidence standing.toValue =
      .ok (standing.migrated reviewId cycleId).toValue := by
  cases standing with
  | candidateBuilding value =>
    exact (migrateEmbedded_building rfl).trans value.setPayloadField_classification
  | candidateReady value =>
    obtain rfl : value.cycleId = cycleId := Option.some.inj (recorded rfl)
    exact (migrateEmbedded_preLanding rfl (by decide)).trans rfl
  | validating | landing =>
    obtain rfl : evidence = some cycleId := recorded rfl
    exact (migrateEmbedded_preLanding rfl (by decide)).trans rfl
  | replacementPending | agentReady | agentLaunching | agentRunning | guidanceRequired
  | cycleLimitBlocked | landingUncertain | integrated | cancelled =>
    exact migrateEmbedded_other rfl (by decide)

/-- A state of any depth is migrated as its value is. -/
theorem EffortState.migrateEmbedded_toValue
    (recorded : state.innermost.isPreLanding = true →
      state.innermost.candidateCycle evidence = some cycleId) :
    migrateEmbeddedPreLandingState reviewId evidence state.toValue =
      .ok ((state.map (Standing.migrated reviewId cycleId)).toValue
        IntegrationEffortState.toValue) := by
  induction state with
  | standing => exact Standing.migrateEmbedded_toValue recorded
  | infrastructureBlocked blocker resume hypothesis =>
    exact (migrateEmbedded_repairBlocked rfl (by decide) rfl (hypothesis recorded)).trans
      (setPayloadField_blockedJson _)
  | providerBlocked blocker resume hypothesis =>
    exact (migrateEmbedded_repairBlocked rfl (by decide) rfl (hypothesis recorded)).trans
      (setPayloadField_blockedJson _)
  | targetMovePending targetSha sourceSha previous cause hypothesis =>
    exact (migrateEmbedded_targetMove rfl rfl (hypothesis recorded)).trans
      (setPayloadField_targetMoveJson _)

/-! ## Released landings -/

/-- Authority after a release is read off the value. -/
theorem Standing.hasPostReleaseAuthority_toValue (standing : Standing) :
    hasPostReleaseAuthority standing.toValue = standing.isReleased := by
  cases standing <;>
    (rw [hasPostReleaseAuthority]; rfl)

/-- A released landing is seen at every depth. -/
theorem EffortState.hasPostReleaseAuthority_toValue (state : EffortState) :
    hasPostReleaseAuthority state.toValue = state.innermost.isReleased := by
  induction state with
  | standing state => exact state.hasPostReleaseAuthority_toValue
  | infrastructureBlocked _ resume hypothesis =>
    rw [hasPostReleaseAuthority]
    exact hypothesis
  | providerBlocked _ resume hypothesis =>
    rw [hasPostReleaseAuthority]
    exact hypothesis
  | targetMovePending _ _ previous _ hypothesis =>
    rw [hasPostReleaseAuthority]
    exact hypothesis

/-! ## The whole migration -/

/-- What waits to land has a candidate of the recorded cycle. -/
theorem Standing.exists_candidate (preLanding : standing.isPreLanding = true)
    (recorded : standing.candidateCycle evidence = some cycleId) :
    (∃ value : CandidateReady, value.cycleId = cycleId ∧ standing = .candidateReady value) ∨
      (∃ value, evidence = some cycleId ∧ standing = .validating value) ∨
      ∃ value, evidence = some cycleId ∧ standing = .landing value := by
  cases standing with
  | candidateReady value => exact .inl ⟨value, Option.some.inj recorded, rfl⟩
  | validating value => exact .inr (.inl ⟨value, recorded, rfl⟩)
  | landing value => exact .inr (.inr ⟨value, recorded, rfl⟩)
  | replacementPending | agentReady | agentLaunching | agentRunning | guidanceRequired
  | cycleLimitBlocked | landingUncertain | integrated | cancelled | candidateBuilding =>
    cases preLanding

/-- A candidate before its landing requires a review, and no blocker stays around it. -/
theorem EffortState.migrate_opensReview (opens : state.opensReview = true)
    (recorded : state.innermost.candidateCycle evidence = some cycleId) :
    ∃ candidateSha, state.innermost.candidateSha = some candidateSha ∧
      migrateSchema5EffortState reviewId state.toValue evidence =
        .ok ⟨"review_required",
          (IntegrationEffortState.reviewRequired ⟨reviewId, cycleId, candidateSha⟩).toValue,
          some (reviewId, cycleId, candidateSha), false⟩ := by
  cases state with
  | standing standing =>
    obtain ⟨value, rfl, rfl⟩ | ⟨value, rfl, rfl⟩ | ⟨value, rfl, rfl⟩ :=
      Standing.exists_candidate opens recorded
    all_goals exact ⟨value.candidateSha, rfl, rfl⟩
  | infrastructureBlocked blocker resume | providerBlocked blocker resume =>
    cases resume with
    | standing standing =>
      obtain ⟨value, rfl, rfl⟩ | ⟨value, rfl, rfl⟩ | ⟨value, rfl, rfl⟩ :=
        Standing.exists_candidate opens recorded
      all_goals exact ⟨value.candidateSha, rfl, rfl⟩
    | infrastructureBlocked | providerBlocked | targetMovePending => cases opens
  | targetMovePending => cases opens

/-- A state that is not put to review as a whole is migrated in place. -/
theorem migrateSchema5EffortState_embedded {name : String} {value migrated : JsonText}
    (named : textField? "state" value = some name) (direct : name ∉ preLandingNames)
    (blocked : name ∈ repairBlockedNames →
      (resumeName? value).any (fun resume => decide (resume ∈ preLandingNames)) = false)
    (ok : migrateEmbeddedPreLandingState reviewId evidence value = .ok migrated) :
    migrateSchema5EffortState reviewId value evidence =
      .ok ⟨name, migrated, none, hasPostReleaseAuthority value⟩ := by
  have closed : (decide (name ∈ repairBlockedNames) &&
      (resumeName? value).any fun resume => decide (resume ∈ preLandingNames)) = false := by
    by_cases repair : name ∈ repairBlockedNames
    · rw [blocked repair, Bool.and_false]
    · rw [decide_eq_false repair, Bool.false_and]
  unfold migrateSchema5EffortState
  simp only [named, closed, decide_eq_false direct, Bool.or_false, Bool.false_eq_true, if_false,
    ok]
  rfl

/-- The name of a state is a field of its value. -/
theorem EffortState.textField?_toValue (state : EffortState) :
    textField? "state" state.toValue = some state.name.text := by
  cases state with
  | standing standing => cases standing <;> rfl
  | infrastructureBlocked | providerBlocked | targetMovePending => rfl

/-- A state with a name of those before landing waits to land. -/
theorem EffortState.isPreLanding_of_name (mem : state.name.text ∈ preLandingNames) :
    ∃ standing, state = .standing standing ∧ standing.isPreLanding = true := by
  cases state with
  | standing standing =>
    cases standing with
    | candidateReady | validating | landing => exact ⟨_, rfl, rfl⟩
    | replacementPending | agentReady | agentLaunching | agentRunning | guidanceRequired
    | cycleLimitBlocked | landingUncertain | integrated | cancelled | candidateBuilding =>
      simp [name, Standing.name, StateName.text, preLandingNames] at mem
  | infrastructureBlocked | providerBlocked | targetMovePending =>
    simp [name, StateName.text, preLandingNames] at mem

/-- Any other state is migrated where it stands. -/
theorem EffortState.migrate_embedded (closed : state.opensReview = false)
    (recorded : state.innermost.isPreLanding = true →
      state.innermost.candidateCycle evidence = some cycleId) :
    migrateSchema5EffortState reviewId state.toValue evidence =
      .ok ⟨state.name.text,
        (state.map (Standing.migrated reviewId cycleId)).toValue IntegrationEffortState.toValue,
        none, state.innermost.isReleased⟩ := by
  have direct : state.name.text ∉ preLandingNames := by
    intro mem
    obtain ⟨standing, rfl, preLanding⟩ := isPreLanding_of_name mem
    exact absurd (preLanding.symm.trans closed) (by decide)
  have inside {resume : EffortState}
      (outside : ∀ standing, resume = .standing standing → standing.isPreLanding = false) :
      ((textField? "state" resume.toValue).any
        fun name => decide (name ∈ preLandingNames)) = false := by
    rw [resume.textField?_toValue, Option.any_some]
    refine decide_eq_false fun mem => ?_
    obtain ⟨standing, same, preLanding⟩ := isPreLanding_of_name mem
    exact absurd (preLanding.symm.trans (outside standing same)) (by decide)
  rw [← state.hasPostReleaseAuthority_toValue]
  refine migrateSchema5EffortState_embedded state.textField?_toValue direct (fun repair => ?_)
    (migrateEmbedded_toValue recorded)
  cases state with
  | standing standing =>
    cases standing <;> simp [name, Standing.name, StateName.text, repairBlockedNames] at repair
  | targetMovePending => simp [name, StateName.text, repairBlockedNames] at repair
  | infrastructureBlocked blocker resume | providerBlocked blocker resume =>
    refine inside fun standing same => ?_
    subst same
    exact closed

end Schema5

end Iq
