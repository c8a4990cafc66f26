import Iq.Library.Sql
import Iq.Store.Effort

/-!
# Queue rows as the database stores them

The lifecycle columns of a queue item in their stored form, the statement of `project_queue_state`
that writes them, and the three triggers that check them. The triggers spell the mapping from
effort states to columns out a second time, on the `state` and `state_json` columns of the effort.
-/

namespace Iq

open Library.Sql

/-! ## Stored values -/

/-- The text of a queue status. -/
def QueueStatus.text : QueueStatus → String
  | .ready => "ready"
  | .merging => "merging"
  | .merged => "merged"
  | .validating => "validating"
  | .validated => "validated"
  | .integrating => "integrating"
  | .integrated => "integrated"
  | .blocked => "blocked"
  | .cancelled => "cancelled"

/-- The text of a blocked phase. -/
def BlockedPhase.text : BlockedPhase → String
  | .merging => "merging"
  | .validating => "validating"
  | .integrating => "integrating"

/-- The text of a blocked reason. -/
def BlockedReason.text : BlockedReason → String
  | .needsUserInput => "needs_user_input"
  | .needsAgentFix => "needs_agent_fix"
  | .infra => "infra"
  | .dependency => "dependency"
  | .credentials => "credentials"
  | .provider => "provider"

/-- The text of a validation stage. -/
def ValidationStage.text : ValidationStage → String
  | .running => "running"
  | .gates => "gates"

/-- The landing column of an item. -/
def LandingState.json : LandingState → Json
  | .ready => .object [("state", .text "ready")]
  | .uncertain candidateSha expectedTargetSha =>
    .object [("state", .text "uncertain"), ("candidate_sha", .text candidateSha),
      ("expected_target_sha", .text expectedTargetSha)]
  | .landed candidateSha commitSha =>
    .object [("state", .text "landed"), ("candidate_sha", .text candidateSha),
      ("commit_sha", .text commitSha)]

/-- The fields of the payload of a suspended state that a trigger reads. -/
def ResumeState.payload : ResumeState → List (String × Json)
  | .validating value =>
    [("candidate_sha", .text value.candidateSha), ("stage", .text value.stage.text)]
  | .landingUncertain value =>
    [("candidate_sha", .text value.candidateSha),
      ("expected_target_sha", .text value.expectedTargetSha)]
  | .agentReady _ | .candidateBuilding _ | .reviewRequired _ | .candidateReady _ | .landing _ => []

/-- A suspended state inside a payload. -/
def ResumeState.json (resume : ResumeState) : Json :=
  .object [("state", .text resume.restore.name.text), ("payload", .object resume.payload)]

/-- The fields of the payload of a state that a trigger reads. -/
def IntegrationEffortState.payload : IntegrationEffortState → List (String × Json)
  | .validating value =>
    [("candidate_sha", .text value.candidateSha), ("stage", .text value.stage.text)]
  | .landingUncertain value =>
    [("candidate_sha", .text value.candidateSha),
      ("expected_target_sha", .text value.expectedTargetSha)]
  | .guidanceRequired value | .infrastructureBlocked value | .cycleLimitBlocked value
  | .providerBlocked value => [("resume", value.resume.json)]
  | .integrated value =>
    [("candidate_sha", .text value.candidateSha), ("landed_sha", .text value.landedSha)]
  | _ => []

/-- The columns of a row of `integration_efforts` that a trigger on items reads. -/
structure EffortRow where
  itemId : String
  attemptId : String
  state : String
  stateJson : Json

/-- The stored columns of an effort. -/
def IntegrationEffort.columns (effort : IntegrationEffort) : EffortRow where
  itemId := effort.itemId
  attemptId := effort.attemptId
  state := effort.state.name.text
  stateJson := .object [("state", .text effort.state.name.text),
    ("payload", .object effort.state.payload)]

/-- The integration workspace columns of an item. -/
structure WorkspaceColumns where
  path : Option String
  riftId : Option String
  sourceRiftId : Option String
  cleanedAt : Option String
  deriving DecidableEq, Repr

/-- The item has its recorded integration workspace still. -/
structure WorkspaceColumns.Retained (workspace : WorkspaceColumns) : Prop where
  path : workspace.path ≠ none
  riftId : workspace.riftId ≠ none
  sourceRiftId : workspace.sourceRiftId ≠ none
  cleanedAt : workspace.cleanedAt = none

/-- The columns that `project_queue_state` writes from a state. -/
structure LifecycleColumns where
  status : String
  blockedPhase : Option String
  blockedReason : Option String
  promptId : Option String
  landedCommitSha : Option String
  landingStateJson : Json

/-- The stored columns of a row of `queue_items`, without those that no trigger on its lifecycle
reads. -/
structure QueueRow extends LifecycleColumns where
  id : String
  currentAttemptId : Option String
  replacement : ReplacementState
  workspace : WorkspaceColumns

/-- The stored row of an item, with the prompt and the workspace it has. -/
def QueueItem.row (item : QueueItem) (promptId : Option String) (workspace : WorkspaceColumns) :
    QueueRow where
  id := item.id
  status := item.status.text
  currentAttemptId := item.currentAttemptId
  blockedPhase := item.blockedPhase.map BlockedPhase.text
  blockedReason := item.blockedReason.map BlockedReason.text
  promptId := promptId
  landedCommitSha := item.landedCommitSha
  landingStateJson := item.landing.json
  replacement := item.replacement
  workspace := workspace

/-! ## Projection -/

/-- `legacy_landing_state`. -/
def legacyLandingState (state : IntegrationEffortState) : Json := state.legacyLanding.json

/-- The statements of `project_queue_state` on the row of an item; `none` where no row is
changed. -/
def projectQueueRow (effort : IntegrationEffort) (state : IntegrationEffortState)
    (prior : QueueRow) : Option QueueRow :=
  match state with
  | .integrated integrated =>
    if prior.id = effort.itemId then
      some { prior with
        status := "integrated", blockedPhase := none, blockedReason := none, promptId := none,
        landedCommitSha := some integrated.landedSha,
        landingStateJson := .object [("state", .text "landed"),
          ("candidate_sha", .text integrated.candidateSha),
          ("commit_sha", .text integrated.landedSha)] }
    else none
  | _ =>
    let projection := state.projection
    if prior.id = effort.itemId ∧ prior.currentAttemptId = some effort.attemptId then
      some { prior with
        status := projection.status.text
        blockedPhase := projection.blockedPhase.map BlockedPhase.text
        blockedReason := projection.blockedReason.map BlockedReason.text
        promptId := none
        landingStateJson := legacyLandingState state
        replacement := if projection.status.text = "cancelled" then .none else prior.replacement }
    else none

/-- The columns that a state gives its item, whatever they were before. -/
def IntegrationEffortState.columns (state : IntegrationEffortState) : LifecycleColumns where
  status := state.projection.status.text
  blockedPhase := state.projection.blockedPhase.map BlockedPhase.text
  blockedReason := state.projection.blockedReason.map BlockedReason.text
  promptId := none
  landedCommitSha := state.landedCommit
  landingStateJson := state.legacyLanding.json

/-! ## Triggers -/

namespace EffortRow

/-- `effort.state` is the named state. -/
def isState (effort : EffortRow) (name : String) : Truth := equals (some effort.state) (some name)

/-- `effort.state IN (...)`. -/
def isOneOf (effort : EffortRow) (names : List String) : Truth := oneOf (some effort.state) names

/-- `json_extract(effort.state_json, ...)`. -/
def extract (effort : EffortRow) (path : List String) : Option String :=
  effort.stateJson.extract path

/-- The status that the guard demands. -/
def expectedStatus (effort : EffortRow) (new : QueueRow) : Option String :=
  case [
    (effort.isState "replacement_pending",
      case [((isNull new.currentAttemptId).or
        (equals new.currentAttemptId (some effort.attemptId)), some "ready")] (some "merging")),
    (effort.isOneOf ["agent_ready", "agent_launching", "agent_running", "candidate_building"],
      some "merging"),
    (effort.isState "review_required", some "blocked"),
    (effort.isState "candidate_ready", some "merged"),
    ((effort.isState "validating").and
      (equals (effort.extract ["payload", "stage"]) (some "running")), some "validating"),
    ((effort.isState "validating").and
      (equals (effort.extract ["payload", "stage"]) (some "gates")), some "integrating"),
    (effort.isOneOf ["guidance_required", "infrastructure_blocked", "cycle_limit_blocked",
      "provider_blocked"], some "blocked"),
    (effort.isOneOf ["landing", "landing_uncertain", "target_move_pending"], some "integrating"),
    (effort.isState "integrated", some "integrated"),
    (effort.isState "cancelled", some "cancelled")] none

/-- The phase that the guard demands of an infrastructure blocker. -/
def expectedInfrastructurePhase (effort : EffortRow) : Option String :=
  let resume := effort.extract ["payload", "resume", "state"]
  let stage := effort.extract ["payload", "resume", "payload", "stage"]
  case [
    (equals resume (some "agent_ready"), some "merging"),
    (equals resume (some "candidate_building"), some "merging"),
    (equals resume (some "review_required"), some "validating"),
    (equals resume (some "candidate_ready"), some "validating"),
    (equals resume (some "validating"), case [
      (equals stage (some "running"), some "validating"),
      (equals stage (some "gates"), some "integrating")] none),
    (equals resume (some "landing"), some "integrating"),
    (equals resume (some "landing_uncertain"), some "integrating")] none

/-- The blocked phase that the guard demands. -/
def expectedPhase (effort : EffortRow) : Option String :=
  case [
    (effort.isState "review_required", some "validating"),
    (effort.isState "guidance_required", some "merging"),
    (effort.isState "cycle_limit_blocked", some "merging"),
    (effort.isState "provider_blocked", some "integrating"),
    (effort.isState "infrastructure_blocked", effort.expectedInfrastructurePhase)] (some "")

/-- The blocked reason that the guard demands. -/
def expectedReason (effort : EffortRow) : Option String :=
  case [
    (effort.isState "review_required", some "needs_user_input"),
    (effort.isState "guidance_required", some "needs_user_input"),
    (effort.isState "infrastructure_blocked", some "infra"),
    (effort.isState "cycle_limit_blocked", some "needs_agent_fix"),
    (effort.isState "provider_blocked", some "provider")] (some "")

/-- The landed commit that the guard demands. -/
def expectedLandedCommit (effort : EffortRow) : Option String :=
  case [(effort.isState "integrated", effort.extract ["payload", "landed_sha"])] none

/-- A landing column with the named state and number of keys. -/
def isLanding (landing : Json) (name : String) (keys : Nat) : Truth :=
  (equals (landing.extract ["state"]) (some name)).and (equals (some landing.count) (some keys))

/-- The landing column that the guard demands. -/
def landingMatches (effort : EffortRow) (landing : Json) : Truth :=
  case [
    (effort.isState "landing_uncertain",
      ((isLanding landing "uncertain" 3).and
        (equals (landing.extract ["candidate_sha"])
          (effort.extract ["payload", "candidate_sha"]))).and
        (equals (landing.extract ["expected_target_sha"])
          (effort.extract ["payload", "expected_target_sha"]))),
    ((effort.isOneOf ["infrastructure_blocked", "provider_blocked"]).and
        (equals (effort.extract ["payload", "resume", "state"]) (some "landing_uncertain")),
      ((isLanding landing "uncertain" 3).and
        (equals (landing.extract ["candidate_sha"])
          (effort.extract ["payload", "resume", "payload", "candidate_sha"]))).and
        (equals (landing.extract ["expected_target_sha"])
          (effort.extract ["payload", "resume", "payload", "expected_target_sha"]))),
    (effort.isState "integrated",
      ((isLanding landing "landed" 3).and
        (equals (landing.extract ["candidate_sha"])
          (effort.extract ["payload", "candidate_sha"]))).and
        (equals (landing.extract ["commit_sha"]) (effort.extract ["payload", "landed_sha"])))]
    (isLanding landing "ready" 1)

/-- The effort is the one whose projection a written row is. -/
def projects (effort : EffortRow) (new : QueueRow) : Truth :=
  ((((isNull new.promptId).and (equals (some new.status) (effort.expectedStatus new))).and
    (equals (some (new.blockedPhase.getD "")) effort.expectedPhase)).and
    (equals (some (new.blockedReason.getD "")) effort.expectedReason)).and
    ((same new.landedCommitSha effort.expectedLandedCommit).and
      (effort.landingMatches new.landingStateJson))

end EffortRow

/-- `queue_effort_projection_guard` fires on the write of an item. -/
def queueEffortProjectionGuard (efforts : List EffortRow) (old new : QueueRow) : Bool :=
  efforts.any (fun effort => effort.itemId == old.id) &&
    !efforts.any fun effort => effort.itemId == old.id && (effort.projects new).holds

/-- The text at a path of a landing column is an object identifier. -/
def isObjectId (landing : Json) (key : String) : Truth :=
  (oneOf (length (landing.extract [key])) [40, 64]).and
    (globOutsideHex (landing.extract [key])).not

/-- `queue_items_landing_state_update` fires on a written row. -/
def queueItemsLandingStateUpdate (new : QueueRow) : Bool :=
  let landing := new.landingStateJson
  let state := landing.extract ["state"]
  let ready := (equals state (some "ready")).and
    (equals (some new.status) (some "integrated")).not
  let uncertain := (((equals state (some "uncertain")).and
    ((equals (some new.status) (some "integrating")).or
      ((equals (some new.status) (some "blocked")).and
        (equals new.blockedPhase (some "integrating"))))).and
    (isObjectId landing "candidate_sha")).and (isObjectId landing "expected_target_sha")
  let landed := (((equals state (some "landed")).and
    (equals (some new.status) (some "integrated"))).and (isObjectId landing "candidate_sha")).and
    (equals new.landedCommitSha (landing.extract ["commit_sha"]))
  ((ready.or uncertain).or landed).not.holds

/-- `queue_items_workspace_state_update` fires on a written row. -/
def queueItemsWorkspaceStateUpdate (new : QueueRow) : Bool :=
  let workspace := new.workspace
  let status := some new.status
  let kept := isNull workspace.cleanedAt
  let absent := (((kept.and (isNull workspace.path)).and (isNull workspace.riftId)).and
    (isNull workspace.sourceRiftId)).and (oneOf status ["ready", "merging", "blocked", "cancelled"])
  let intended := (((kept.and (isNull workspace.path).not).and (isNull workspace.riftId)).and
    (isNull workspace.sourceRiftId)).and (oneOf status ["merging", "cancelled"])
  let recorded := (((kept.and (isNull workspace.path).not).and (isNull workspace.riftId).not).and
    (isNull workspace.sourceRiftId).not).and (oneOf status ["ready", "merging", "merged",
      "validating", "validated", "integrating", "blocked", "integrated", "cancelled"])
  let cleaned := (((kept.not.and (oneOf status ["integrated", "cancelled"])).and
    (isNull workspace.path)).and (isNull workspace.riftId)).and (isNull workspace.sourceRiftId)
  (((absent.or intended).or recorded).or cleaned).not.holds

end Iq
