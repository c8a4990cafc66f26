import Iq.Library.Cursor
import Iq.Library.Transition
import Iq.Store.Effort
import Mathlib.Algebra.Ring.Nat

/-!
# The issue projection outbox

The rows that `project_item` reads and writes, and `project_item` itself as the steps between its
transactions. Operations of efforts, the clock and any number of projections interleave; a call of
the provider may fail, or be lost after it took effect. Event sequence numbers are positions in the
log. The text of a projection is not modelled: what matters is whether one is sent.
-/

namespace Iq

open Library

/-! ## Rows -/

/-- `IssueProvider`. -/
inductive IssueProvider where
  | github
  | gitlab
  deriving DecidableEq, Repr

/-- The provider and the issue repository of a binding that is not local. -/
def StateRepositorySnapshot.issue? :
    StateRepositorySnapshot → Option (IssueProvider × IssueRepositorySnapshot)
  | .local => none
  | .githubIssue issue => some (.github, issue)
  | .gitlabIssue issue => some (.gitlab, issue)

/-- The columns of a durable event that the outbox reads. -/
structure OutboxEvent where
  sequence : Nat
  effortId : String
  eventType : String
  alert : Bool
  deriving DecidableEq, Repr

/-- The values of the `state` column of `state_repository_artifacts`. -/
inductive ArtifactState where
  | reserved
  | active
  | pendingClose
  | closed
  deriving DecidableEq, Repr

/-- A row of `state_repository_artifacts`. -/
structure StoredRepositoryArtifact where
  effortId : String
  provider : IssueProvider
  repository : String
  artifactId : String
  artifactUrl : String
  projectionRevision : Nat
  lastEventSequence : Nat
  state : ArtifactState
  deriving DecidableEq, Repr

/-- A reserved artifact as the one of an effort. -/
def StoredRepositoryArtifact.bindTo (row : StoredRepositoryArtifact) (effortId : String) :
    StoredRepositoryArtifact :=
  { row with effortId, projectionRevision := 0, lastEventSequence := 0, state := .reserved }

/-- A row of `projection_debt`. -/
structure ProjectionDebt where
  effortId : String
  attemptCount : Nat
  nextAttemptAt : Nat
  deriving DecidableEq, Repr

/-- The tables of the outbox, with the clock. -/
structure Outbox where
  efforts : Table IntegrationEffort.id
  events : List OutboxEvent
  artifacts : Table StoredRepositoryArtifact.effortId
  debts : Table ProjectionDebt.effortId
  now : Nat

/-- `state IN ('integrated','cancelled')`. -/
def IntegrationEffortState.isTerminal : IntegrationEffortState → Bool
  | .integrated _ | .cancelled _ => true
  | _ => false

/-- `IntegrationEffortState::is_provider_input_state`. -/
def IntegrationEffortState.isProviderInputState : IntegrationEffortState → Bool
  | .guidanceRequired _ | .reviewRequired _ => true
  | _ => false

/-- The event types that wake the projection of an effort with minimal visibility. -/
def wakingTypes : List String :=
  ["answer_applied", "review_required", "candidate_review_approved", "candidate_changes_requested",
    "cycle_limit_retry_authorized", "infrastructure_retry_authorized", "provider_retry_authorized",
    "provider_reconciliation_resumed"]

/-- The event types that a projection with minimal visibility reports. -/
def reportedTypes : List String := wakingTypes ++ ["integrated", "cancelled"]

namespace Outbox

/-- The events of an effort, oldest first. -/
def eventsOf (store : Outbox) (effortId : String) : List OutboxEvent :=
  store.events.filter fun event => event.effortId == effortId

/-- The number of events that `project_item` reads at most. -/
def projectionLimit : Nat := 10000

/-- `effort_events_after`. -/
def effortEventsAfter (store : Outbox) (effortId : String) (cursor limit : Nat) :
    List OutboxEvent :=
  Log.batch OutboxEvent.sequence (store.eventsOf effortId) cursor limit

/-- `effort_for_item`. -/
def effortForItem (store : Outbox) (itemId : String) : Option IntegrationEffort :=
  store.efforts.rows.find? fun effort => effort.itemId == itemId

/-- The log with one more event. -/
def appendEvent (store : Outbox) (effortId eventType : String) (alert : Bool) : Outbox :=
  { store with
    events := store.events ++ [⟨store.events.length + 1, effortId, eventType, alert⟩] }

/-- The artifact that was reserved for an item, bound to its effort. -/
def bindReservation (store : Outbox) (effortId : String) :
    Option StoredRepositoryArtifact → Outbox
  | none => store
  | some row => { store with artifacts := store.artifacts.put (row.bindTo effortId) }

/-! ## Listing -/

/-- An unread event puts an effort on the list. -/
def wakes (visibility : IssueVisibility) (state : IntegrationEffortState) (event : OutboxEvent) :
    Bool :=
  visibility == .full || event.alert || wakingTypes.contains event.eventType || state.isTerminal

/-- The `WHERE` clause of `projection_items`. -/
def isListed (store : Outbox) (effort : IntegrationEffort) (now : Nat) : Bool :=
  match effort.stateRepository.issue? with
  | none => false
  | some (_, issue) =>
    match store.debts.find? effort.id with
    | some debt => debt.attemptCount < 10 && debt.nextAttemptAt ≤ now
    | none =>
      match store.artifacts.find? effort.id with
      | none =>
        issue.visibility == .full || effort.state.blocker.isSome ||
          effort.state.name == .reviewRequired
      | some artifact =>
        (store.eventsOf effort.id).any (fun event => artifact.lastEventSequence < event.sequence &&
          wakes issue.visibility effort.state event) ||
        (effort.state.isTerminal && artifact.state != .closed)

/-- `projection_items`; `none` where the limit is refused. -/
def projectionItems (store : Outbox) (limit now : Nat) : Option (List String) :=
  if 1 ≤ limit ∧ limit ≤ 1000 then
    some (((store.efforts.rows.filter fun effort => store.isListed effort now).map
      IntegrationEffort.itemId).take limit)
  else none

/-! ## Recording -/

/-- `record_repository_projection`; `none` where the receipt differs from the stored artifact. -/
def recordRepositoryProjection (store : Outbox) (receipt : StoredRepositoryArtifact) :
    Option Outbox :=
  let recorded (row : StoredRepositoryArtifact) : Outbox :=
    { store with
      artifacts := store.artifacts.put row
      debts := store.debts.delete fun debt => debt.effortId == receipt.effortId }
  match store.artifacts.find? receipt.effortId with
  | none => some (recorded { receipt with projectionRevision := 1 })
  | some old =>
    if old.provider = receipt.provider ∧ old.repository = receipt.repository ∧
        old.artifactId = receipt.artifactId then
      some (recorded { receipt with projectionRevision := old.projectionRevision + 1 })
    else none

/-- `record_projection_debt`. -/
def recordProjectionDebt (store : Outbox) (effortId : String) : Outbox :=
  let prior := ((store.debts.find? effortId).map ProjectionDebt.attemptCount).getD 0
  let attempts := min (prior + 1) 10
  let backoff := min (30 * 2 ^ min (attempts - 1) 7) 3600
  { store with
    debts := store.debts.put ⟨effortId, attempts, store.now + backoff⟩
    }.appendEvent effortId "projection_debt" false

end Outbox

/-! ## Projection -/

/-- `RepositoryArtifact`. -/
structure RepositoryArtifact where
  id : String
  url : String
  deriving DecidableEq, Repr

/-- What the provider answers in one projection: whether the destination is verified, the issue that
the projection was written to, and whether it was closed. An answer that is lost is a failure. -/
structure ProviderAnswers where
  verified : Bool
  synced : Option RepositoryArtifact
  closed : Bool
  deriving DecidableEq, Repr

/-- An event that a projection reports: the filter of `IssueStateRepository::project`. -/
def isRelevant (visibility : IssueVisibility) (event : OutboxEvent) : Bool :=
  visibility == .full || event.alert || reportedTypes.contains event.eventType

/-- Whether `IssueStateRepository::project` calls the provider at all. -/
def sendsProjection (visibility : IssueVisibility) (state : IntegrationEffortState)
    (events : List OutboxEvent) (artifact : Option String) : Bool :=
  !(visibility == .minimal && state.blocker.isNone && !state.isProviderInputState &&
      artifact.isNone) &&
    !(visibility == .minimal && (events.filter (isRelevant visibility)).isEmpty)

/-- The provider part of `project_item`: verify, project, and close a terminal effort; `none` is a
failure. -/
def IntegrationEffort.project (effort : IntegrationEffort) (events : List OutboxEvent)
    (artifact : Option String) (answers : ProviderAnswers) : Option (Option RepositoryArtifact) :=
  match effort.stateRepository.issue? with
  | none => some none
  | some (_, issue) =>
    if answers.verified = false then none
    else if sendsProjection issue.visibility effort.state events artifact = false then some none
    else
      match answers.synced with
      | none => none
      | some projected =>
        if effort.state.isTerminal = true ∧ answers.closed = false then none
        else some (some projected)

/-- How far a call of `project_item` has come. -/
inductive ProjectionPhase where
  /-- The effort of the item was read. -/
  | fetched
  /-- The stored artifact was read. -/
  | loaded (stored : Option StoredRepositoryArtifact)
  /-- The unread events were read. -/
  | gathered (stored : Option StoredRepositoryArtifact) (events : List OutboxEvent)
  /-- The provider was called and answered. -/
  | projected (stored : Option StoredRepositoryArtifact) (events : List OutboxEvent)
    (answers : ProviderAnswers)
  deriving DecidableEq, Repr

/-- A call of `project_item` in progress. -/
structure ProjectionCall where
  /-- The effort as the call read it. -/
  effort : IntegrationEffort
  /-- History: the events of the effort when the call read it. -/
  known : List OutboxEvent
  phase : ProjectionPhase

/-- The cursor of a stored artifact, or zero. -/
def cursorOf (stored : Option StoredRepositoryArtifact) : Nat :=
  (stored.map StoredRepositoryArtifact.lastEventSequence).getD 0

/-- The receipt of a projection that reported a batch of events. -/
def receiptOf (effort : IntegrationEffort) (provider : IssueProvider) (repository : String)
    (stored : Option StoredRepositoryArtifact) (events : List OutboxEvent)
    (projected : RepositoryArtifact) : StoredRepositoryArtifact where
  effortId := effort.id
  provider := provider
  repository := repository
  artifactId := projected.id
  artifactUrl := projected.url
  projectionRevision := 0
  lastEventSequence := Log.advance OutboxEvent.sequence (cursorOf stored) events
  state := if effort.state.isTerminal then .closed else .active

/-- The recording part of `project_item`: the outbox it leaves and whether the call returns `Ok`. -/
def ProjectionCall.finish (call : ProjectionCall) (store : Outbox) : Outbox × Bool :=
  match call.phase with
  | .projected stored events answers =>
    match call.effort.project events (stored.map StoredRepositoryArtifact.artifactId) answers with
    | none => (store.recordProjectionDebt call.effort.id, false)
    | some none => (store, true)
    | some (some projected) =>
      match call.effort.stateRepository.issue? with
      | none => (store, false)
      | some (provider, issue) =>
        match store.recordRepositoryProjection
            (receiptOf call.effort provider issue.repository stored events projected) with
        | none => (store, false)
        | some recorded => (recorded, true)
  | _ => (store, false)

/-! ## Runs -/

/-- The outbox with the calls in progress, by their number. -/
structure Projector where
  store : Outbox
  calls : Nat → Option ProjectionCall

/-- One step of an interleaving. -/
inductive ProjectorAction where
  /-- A new effort of an item without one, with the artifact that was reserved for its item. -/
  | create (effort : IntegrationEffort) (reserved : Option StoredRepositoryArtifact)
    (eventType : String) (alert : Bool)
  /-- An operation that writes an effort and appends an event. -/
  | operate (effort : IntegrationEffort) (eventType : String) (alert : Bool)
  /-- Time passes. -/
  | tick (seconds : Nat)
  /-- A call starts and reads the effort of its item. -/
  | fetch (call : Nat) (itemId : String)
  | load (call : Nat)
  | gather (call : Nat)
  | project (call : Nat) (answers : ProviderAnswers)
  | finish (call : Nat)
  /-- The process of a call dies. -/
  | crash (call : Nat)

namespace Projector

/-- The projector with a call moved to a phase, or ended. -/
def setCall (world : Projector) (number : Nat) (call : Option ProjectionCall) : Projector :=
  { world with calls := fun other => if other = number then call else world.calls other }

/-- The outbox after the creation of an effort. -/
def create (store : Outbox) (effort : IntegrationEffort)
    (reserved : Option StoredRepositoryArtifact) (eventType : String) (alert : Bool) : Outbox :=
  if (store.effortForItem effort.itemId).isSome then store
  else
    match store.efforts.insert? effort with
    | none => store
    | some efforts =>
      ({ store with efforts }.bindReservation effort.id reserved).appendEvent effort.id eventType
        alert

/-- The outbox after an operation on an effort. -/
def operate (store : Outbox) (effort : IntegrationEffort) (eventType : String) (alert : Bool) :
    Outbox :=
  match store.efforts.find? effort.id with
  | none => store
  | some old =>
    { store with
      efforts := store.efforts.update (fun row => row.id == effort.id)
        (fun row => { effort with id := row.id, itemId := old.itemId }) fun _ => rfl
      }.appendEvent effort.id eventType alert

/-- One step; an action that does not fit leaves the projector as it is. -/
def step (world : Projector) : ProjectorAction → Projector
  | .create effort reserved eventType alert =>
    { world with store := create world.store effort reserved eventType alert }
  | .operate effort eventType alert =>
    { world with store := operate world.store effort eventType alert }
  | .tick seconds => { world with store := { world.store with now := world.store.now + seconds } }
  | .fetch number itemId =>
    match world.calls number, world.store.effortForItem itemId with
    | none, some effort =>
      world.setCall number (some ⟨effort, world.store.eventsOf effort.id, .fetched⟩)
    | _, _ => world
  | .load number =>
    match world.calls number with
    | some ⟨effort, known, .fetched⟩ =>
      world.setCall number (some ⟨effort, known, .loaded (world.store.artifacts.find? effort.id)⟩)
    | _ => world
  | .gather number =>
    match world.calls number with
    | some ⟨effort, known, .loaded stored⟩ =>
      world.setCall number (some ⟨effort, known, .gathered stored
        (world.store.effortEventsAfter effort.id (cursorOf stored) Outbox.projectionLimit)⟩)
    | _ => world
  | .project number answers =>
    match world.calls number with
    | some ⟨effort, known, .gathered stored events⟩ =>
      world.setCall number (some ⟨effort, known, .projected stored events answers⟩)
    | _ => world
  | .finish number =>
    match world.calls number with
    | some call =>
      match call.phase with
      | .projected _ _ _ =>
        { world with store := (call.finish world.store).1 }.setCall number none
      | _ => world
    | none => world
  | .crash number => world.setCall number none

end Projector

/-- The machine of the projector: at first there are no rows and no calls. -/
def projector : Machine Projector ProjectorAction where
  Initial world := world.store.efforts = .empty ∧ world.store.events = [] ∧
    world.store.artifacts = .empty ∧ world.store.debts = .empty ∧ world.calls = fun _ => none
  step := Projector.step

end Iq
