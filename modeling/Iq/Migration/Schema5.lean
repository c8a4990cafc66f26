import Iq.Domain.Authority
import Iq.Domain.StateDecoding

/-!
# Effort states of schema 5

The states that a schema-5 database stores, and the functions that rewrite one as a schema-6 state.
Schema 5 had no reviews: a candidate went from its builder straight to validation, so a builder
intent carries no classification and a ready candidate no review. A database allows any state
inside a repair blocker or a target move, so these may nest to any depth.
-/

namespace Iq

open Library JsonText

/-! ## States inside blockers and target moves -/

/-- A state inside any number of repair blockers and target moves. -/
inductive Suspension (Standing : Type) where
  | standing (state : Standing)
  | infrastructureBlocked (blocker : InfrastructureBlocker) (resume : Suspension Standing)
  | providerBlocked (blocker : ProviderSignoffBlocker) (resume : Suspension Standing)
  | targetMovePending (targetSha sourceSha : String) (previous : Suspension Standing)
      (cause : TargetMoveCause)
  deriving DecidableEq, Repr

namespace Suspension

variable {Standing Other : Type}

/-- The state that every blocker and target move suspends. -/
def innermost : Suspension Standing → Standing
  | standing state => state
  | infrastructureBlocked _ inner | providerBlocked _ inner | targetMovePending _ _ inner _ =>
    inner.innermost

/-- Another state under the same blockers and target moves. -/
def map (change : Standing → Other) : Suspension Standing → Suspension Other
  | standing state => .standing (change state)
  | infrastructureBlocked blocker resume => .infrastructureBlocked blocker (resume.map change)
  | providerBlocked blocker resume => .providerBlocked blocker (resume.map change)
  | targetMovePending targetSha sourceSha previous cause =>
    .targetMovePending targetSha sourceSha (previous.map change) cause

/-- The blockers and target moves alone, outermost first. -/
def position (state : Suspension Standing) : Suspension Unit := state.map fun _ => ()

/-- The JSON value, by that of the innermost state. -/
def toValue (write : Standing → JsonText) : Suspension Standing → JsonText
  | standing state => write state
  | infrastructureBlocked blocker resume =>
    taggedState "infrastructure_blocked"
      (blockedJson (.infrastructure blocker) (resume.toValue write))
  | providerBlocked blocker resume =>
    taggedState "provider_blocked"
      (blockedJson (.providerSignoff blocker) (resume.toValue write))
  | targetMovePending targetSha sourceSha previous cause =>
    taggedState "target_move_pending"
      (targetMoveJson targetSha sourceSha (previous.toValue write) cause)

/-- The name of every blocker and target move, outermost first. -/
def layerNames : Suspension Standing → List StateName
  | standing _ => []
  | infrastructureBlocked _ inner => .infrastructureBlocked :: inner.layerNames
  | providerBlocked _ inner => .providerBlocked :: inner.layerNames
  | targetMovePending _ _ inner _ => .targetMovePending :: inner.layerNames

/-- A change reaches the innermost state. -/
@[simp] theorem innermost_map (change : Standing → Other) (state : Suspension Standing) :
    (state.map change).innermost = change state.innermost := by
  induction state with
  | standing => rfl
  | infrastructureBlocked | providerBlocked | targetMovePending => assumption

/-- A change leaves the position. -/
@[simp] theorem position_map (change : Standing → Other) (state : Suspension Standing) :
    (state.map change).position = state.position := by
  induction state with
  | standing => rfl
  | infrastructureBlocked _ _ hypothesis => exact congrArg _ hypothesis
  | providerBlocked _ _ hypothesis => exact congrArg _ hypothesis
  | targetMovePending targetSha sourceSha _ cause hypothesis =>
    exact congrArg (targetMovePending targetSha sourceSha · cause) hypothesis

/-- Writing the innermost state in the same way keeps the whole value. -/
theorem toValue_map {change : Standing → Other} {write : Standing → JsonText}
    {rewrite : Other → JsonText} {state : Suspension Standing}
    (same : rewrite (change state.innermost) = write state.innermost) :
    (state.map change).toValue rewrite = state.toValue write := by
  induction state with
  | standing => exact same
  | infrastructureBlocked _ _ hypothesis =>
    simp only [map, toValue, hypothesis same]
  | providerBlocked _ _ hypothesis => simp only [map, toValue, hypothesis same]
  | targetMovePending _ _ _ _ hypothesis => simp only [map, toValue, hypothesis same]

end Suspension

/-! ## Schema-5 states -/

namespace Schema5

/-- The builder intent of schema 5. -/
structure CandidateBuilding where
  operationId : String
  cycleId : String
  stagedTreeSha256 : String
  treeSha : String
  parentShas : List String
  authorName : String
  authorEmail : String
  authorTimestamp : String
  committerName : String
  committerEmail : String
  committerTimestamp : String
  message : String
  operationRef : String
  deriving DecidableEq, Repr

/-- The ready candidate of schema 5. -/
structure CandidateReady where
  operationId : String
  cycleId : String
  candidateSha : String
  stagedTreeSha256 : String
  deriving DecidableEq, Repr

/-- A state of schema 5 that is no repair blocker and no target move. Guidance and the cycle limit
interrupt an agent, so they resume with one. -/
inductive Standing where
  | replacementPending (value : ReplacementPending)
  | agentReady (value : AgentReady)
  | agentLaunching (value : AgentLaunching)
  | agentRunning (value : AgentRunning)
  | candidateBuilding (value : CandidateBuilding)
  | candidateReady (value : CandidateReady)
  | validating (value : Validating)
  | guidanceRequired (blocker : SemanticGuidanceBlocker) (resume : AgentReady)
  | cycleLimitBlocked (blocker : CycleLimitBlocker) (resume : AgentReady)
  | landing (value : Landing)
  | landingUncertain (value : LandingUncertain)
  | integrated (value : Integrated)
  | cancelled (value : Cancelled)
  deriving DecidableEq, Repr

/-- A state of schema 5. -/
abbrev EffortState := Suspension Standing

/-- The JSON value of a candidate that is being built. -/
def CandidateBuilding.toValue (value : CandidateBuilding) : JsonText :=
  .object [
    ("author_email", .text value.authorEmail),
    ("author_name", .text value.authorName),
    ("author_timestamp", .text value.authorTimestamp),
    ("committer_email", .text value.committerEmail),
    ("committer_name", .text value.committerName),
    ("committer_timestamp", .text value.committerTimestamp),
    ("cycle_id", .text value.cycleId),
    ("message", .text value.message),
    ("operation_id", .text value.operationId),
    ("operation_ref", .text value.operationRef),
    ("parent_shas", textsJson value.parentShas),
    ("staged_tree_sha256", .text value.stagedTreeSha256),
    ("tree_sha", .text value.treeSha)]

/-- The JSON value of a candidate that is ready. -/
def CandidateReady.toValue (value : CandidateReady) : JsonText :=
  .object [
    ("candidate_sha", .text value.candidateSha),
    ("cycle_id", .text value.cycleId),
    ("operation_id", .text value.operationId),
    ("staged_tree_sha256", .text value.stagedTreeSha256)]

/-- The JSON value of a state that is not blocked, as schema 5 writes it. -/
def Standing.toValue : Standing → JsonText
  | replacementPending value => taggedState "replacement_pending" value.toValue
  | agentReady value => taggedState "agent_ready" value.toValue
  | agentLaunching value => taggedState "agent_launching" value.toValue
  | agentRunning value => taggedState "agent_running" value.toValue
  | candidateBuilding value => taggedState "candidate_building" value.toValue
  | candidateReady value => taggedState "candidate_ready" value.toValue
  | validating value => taggedState "validating" value.toValue
  | guidanceRequired blocker resume =>
    taggedState "guidance_required"
      (blockedJson (.semanticGuidance blocker) (taggedState "agent_ready" resume.toValue))
  | cycleLimitBlocked blocker resume =>
    taggedState "cycle_limit_blocked"
      (blockedJson (.cycleLimit blocker) (taggedState "agent_ready" resume.toValue))
  | landing value => taggedState "landing" value.toValue
  | landingUncertain value => taggedState "landing_uncertain" value.toValue
  | integrated value => taggedState "integrated" value.toValue
  | cancelled value => taggedState "cancelled" value.toValue

/-- The value of a state. -/
def EffortState.toValue (state : EffortState) : JsonText :=
  Suspension.toValue Standing.toValue state

end Schema5

/-! ## The migration -/

/-- The states whose candidate schema 5 could land without a review. -/
def preLandingNames : List String := ["candidate_ready", "validating", "landing"]

/-- The states of a repair blocker. -/
def repairBlockedNames : List String := ["infrastructure_blocked", "provider_blocked"]

/-- The text of a field. -/
def textField? (name : String) (value : JsonText) : Option String := (value.get? name).bind asText

/-- A field of the payload of a state. -/
def payloadField? (name : String) (state : JsonText) : Option JsonText :=
  (state.get? "payload").bind (get? name)

/-- A field of the payload is smaller than the state. -/
theorem sizeOf_lt_of_payloadField? {name : String} {state inner : JsonText}
    (found : payloadField? name state = some inner) : sizeOf inner < sizeOf state := by
  obtain ⟨payload, outer, field⟩ := Option.bind_eq_some_iff.mp found
  exact Nat.lt_trans (sizeOf_lt_of_get? field) (sizeOf_lt_of_get? outer)

/-- `state["payload"][name] = field`, which panics where the payload cannot hold fields. -/
def setPayloadField (name : String) (field state : JsonText) : Except String JsonText :=
  match ((state.getD "payload").set? name field).bind (state.set? "payload") with
  | some changed => .ok changed
  | none => .error "cannot access key in JSON"

/-- `migrated_review_state`; the identifier of the review is drawn by the caller. -/
def migratedReviewState (reviewId : String) (payload : JsonText) (cycleHint : Option String) :
    Except String (JsonText × String × String) :=
  match textField? "candidate_sha" payload with
  | none => .error "pre-landing migration state has no candidate SHA"
  | some candidateSha =>
    match (textField? "cycle_id" payload).or cycleHint with
    | none => .error "pre-landing migration state has no candidate cycle"
    | some cycleId =>
      .ok (
        .object [
          ("payload", .object [
            ("candidate_sha", .text candidateSha),
            ("cycle_id", .text cycleId),
            ("review_id", .text reviewId)]),
          ("state", .text "review_required")],
        reviewId, candidateSha)

/-- `migrate_embedded_pre_landing_state`. It descends into repair blockers and target moves. -/
def migrateEmbeddedPreLandingState (reviewId : String) (cycleHint : Option String)
    (state : JsonText) : Except String JsonText :=
  match textField? "state" state with
  | none => .error "migration effort state has no state name"
  | some name =>
    if name = "candidate_building" then
      setPayloadField "classification" (.text "semantic") state
    else if name ∈ preLandingNames then
      (migratedReviewState reviewId (state.getD "payload") cycleHint).map Prod.fst
    else if name ∈ repairBlockedNames then
      match _found : payloadField? "resume" state with
      -- An absent state reads as null, which has no name.
      | none => .error "migration effort state has no state name"
      | some resume => do
        let migrated ← migrateEmbeddedPreLandingState reviewId cycleHint resume
        setPayloadField "resume" migrated state
    else if name = "target_move_pending" then
      match _found : payloadField? "previous" state with
      | none => .error "migration effort state has no state name"
      | some previous => do
        let migrated ← migrateEmbeddedPreLandingState reviewId cycleHint previous
        setPayloadField "previous" migrated state
    else .ok state
termination_by sizeOf state
decreasing_by all_goals exact sizeOf_lt_of_payloadField? _found

/-- `has_post_release_authority`. -/
def hasPostReleaseAuthority (state : JsonText) : Bool :=
  match textField? "state" state with
  | none => false
  | some name =>
    if name = "landing_uncertain" ∨ name = "integrated" then true
    else if name ∈ repairBlockedNames then
      match _found : payloadField? "resume" state with
      | none => false
      | some resume => hasPostReleaseAuthority resume
    else if name = "target_move_pending" then
      match _found : payloadField? "previous" state with
      | none => false
      | some previous => hasPostReleaseAuthority previous
    else false
termination_by sizeOf state
decreasing_by all_goals exact sizeOf_lt_of_payloadField? _found

/-- `MigratedEffortState`: the state name, the state, the review to open, if any, with its cycle and
its candidate, and whether a landing was released. -/
structure MigratedEffortState where
  state : String
  stateJson : JsonText
  review : Option (String × String × String)
  postReleaseAuthority : Bool

/-- The state that a repair blocker suspends: `/payload/resume/state`. -/
def resumeName? (state : JsonText) : Option String :=
  (payloadField? "resume" state).bind (textField? "state")

/-- `migrate_schema5_effort_state`, on the value of the stored text. -/
def migrateSchema5EffortState (reviewId : String) (state : JsonText) (cycleHint : Option String) :
    Except String MigratedEffortState :=
  let postReleaseAuthority := hasPostReleaseAuthority state
  match textField? "state" state with
  | none => .error "migration effort state has no state name"
  | some name =>
    let directReview := decide (name ∈ preLandingNames)
    let blockedReview := decide (name ∈ repairBlockedNames) &&
      (resumeName? state).any fun resume => decide (resume ∈ preLandingNames)
    if directReview || blockedReview then
      let payload :=
        if directReview then state.getD "payload"
        else ((state.getD "payload").getD "resume").getD "payload"
      match (textField? "cycle_id" payload).or cycleHint with
      | none => .error "pre-landing migration state has no candidate cycle"
      | some cycleId => do
        let (review, reviewId, candidateSha) ←
          migratedReviewState reviewId payload (some cycleId)
        .ok ⟨"review_required", review, some (reviewId, cycleId, candidateSha), false⟩
    else do
      let migrated ← migrateEmbeddedPreLandingState reviewId cycleHint state
      .ok ⟨name, migrated, none, postReleaseAuthority⟩

end Iq
