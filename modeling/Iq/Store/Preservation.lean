import Iq.Domain.State
import Iq.Library.Table
import Iq.Library.Transaction
import Iq.Library.Transition
import Mathlib.Algebra.Ring.Nat
import Mathlib.Order.Monotone.Basic
import Mathlib.Order.Nat

/-!
# Preserved terminal workspaces

The debt to clean up the workspace of an item that has ended, while the workspace holds work that
must not be lost. Every observation of such work postpones the cleanup; the first one raises an
alert.
-/

namespace Iq

open Library Library.Transaction

/-! ## Data -/

/-- `TerminalWorkspaceTarget`. -/
inductive TerminalWorkspaceTarget where
  | creationIntent (path : String)
  | retained (identity : WorkspaceIdentity)
  deriving DecidableEq, Repr

/-- `TerminalWorkspacePreservationReason`. -/
inductive TerminalWorkspacePreservationReason where
  | dirty
  | activeGitOperation
  | dirtyAndActiveGitOperation
  deriving DecidableEq, Repr

/-- `TerminalWorkspacePreservationReason::as_str`. -/
def TerminalWorkspacePreservationReason.text : TerminalWorkspacePreservationReason → String
  | .dirty => "dirty"
  | .activeGitOperation => "active_git_operation"
  | .dirtyAndActiveGitOperation => "both"

/-- The columns of `queue_items` that the cleanup of a workspace reads. -/
structure WorkspaceItem where
  id : String
  repoKey : String
  path : Option String
  riftId : Option String
  sourceRiftId : Option String
  cleanedAt : Option String
  deriving DecidableEq, Repr

/-- The values of `state` in a cleanup debt. -/
inductive CleanupState where
  | pending
  | preserved
  deriving DecidableEq, Repr

/-- A row of `terminal_workspace_cleanup_debt`; times are in seconds. -/
structure CleanupDebt where
  itemId : String
  target : TerminalWorkspaceTarget
  state : CleanupState
  reason : Option TerminalWorkspacePreservationReason
  observationCount : Nat
  nextRetryAt : Nat
  alertEventId : Option String
  deriving DecidableEq, Repr

/-- A row of `durable_events`, with the fields that the payload of this event has. -/
structure CleanupEvent where
  id : String
  itemId : String
  effortId : Option String
  eventType : String
  repository : String
  reason : String
  target : TerminalWorkspaceTarget
  alert : Bool
  createdAt : Nat
  deriving DecidableEq, Repr

/-- The tables of the cleanup; a delivery is one of an event to a backend. -/
structure CleanupStore where
  items : Table WorkspaceItem.id
  efforts : List (String × String)
  debts : Table CleanupDebt.itemId
  events : Table CleanupEvent.id
  enabledBackends : List String
  deliveries : List (String × String)

/-- A transaction on these tables, which aborts with a message. -/
abbrev CleanupTx := Transaction String CleanupStore

/-! ## Constraints -/

/-- The authority that the triggers on insert and update ask for: the target is the workspace of the
queue row, which is not cleaned. -/
def WorkspaceItem.authorizes (item : WorkspaceItem) (target : TerminalWorkspaceTarget) : Bool :=
  item.cleanedAt.isNone &&
    match item.riftId, item.sourceRiftId, target with
    | none, none, .creationIntent path => item.path == some path
    | some riftId, some sourceRiftId, .retained identity =>
      item.path == some identity.path && riftId == identity.riftId &&
        sourceRiftId == identity.sourceRiftId
    | _, _, _ => false

/-- The `CHECK` on `workspace_json`. -/
def TerminalWorkspaceTarget.isNamed : TerminalWorkspaceTarget → Bool
  | .creationIntent path => path != ""
  | .retained identity =>
    identity.path != "" && identity.riftId != "" && identity.sourceRiftId != ""

/-- The `CHECK` that ties the columns of a debt to its state, with the bound on the count. -/
def CleanupDebt.isConsistent (debt : CleanupDebt) : Bool :=
  debt.observationCount ≤ 255 &&
    match debt.state with
    | .pending => debt.reason.isNone && debt.observationCount == 0 && debt.alertEventId.isNone
    | .preserved => debt.reason.isSome && 0 < debt.observationCount && debt.alertEventId.isSome

/-- The event type of the alert. -/
def preservedEventType : String := "terminal_workspace_preserved"

/-- The event that the triggers on the alert of a preserved debt ask for. -/
def CleanupEvent.alerts (event : CleanupEvent) (itemId : String) : Bool :=
  event.itemId == itemId && event.eventType == preservedEventType && event.alert

/-! ## The delay -/

/-- The largest `i64`. -/
def i64Max : Nat := 2 ^ 63 - 1

/-- `count.saturating_sub(1).min(7)`. -/
def retryShift (count : Nat) : Nat := min (count - 1) 7

/-- `30_i64.saturating_mul(1_i64 << shift).min(3600)`. -/
def retrySeconds (count : Nat) : Nat := min (min (30 * 2 ^ retryShift count) i64Max) 3600

/-- `prior.saturating_add(1).min(255)`. -/
def nextObservationCount (prior : Nat) : Nat := min (min (prior + 1) i64Max) 255

/-! ## The operation -/

/-- The arguments of `record_terminal_workspace_preserved`, with the clock and the fresh identifier
of an event. -/
structure PreservedObservation where
  itemId : String
  target : TerminalWorkspaceTarget
  observed : WorkspaceIdentity
  dirty : Bool
  activeGitOperation : Bool
  now : Nat
  eventId : String
  deriving DecidableEq, Repr

namespace PreservedObservation

/-- The reason of a preservation, when there is one. -/
def reason? (observation : PreservedObservation) : Option TerminalWorkspacePreservationReason :=
  match observation.dirty, observation.activeGitOperation with
  | true, true => some .dirtyAndActiveGitOperation
  | true, false => some .dirty
  | false, true => some .activeGitOperation
  | false, false => none

/-- The target is what was observed. -/
def IsObserved (observation : PreservedObservation) : Prop :=
  match observation.target with
  | .creationIntent path => observation.observed.path = path
  | .retained identity => identity = observation.observed

/-- The comparison of the target with what was observed. -/
def checkTarget (observation : PreservedObservation) : CleanupTx Unit :=
  match observation.target with
  | .creationIntent path =>
    require (observation.observed.path = path)
      "observed Rift path differs from creation intent"
  | .retained identity =>
    require (identity = observation.observed)
      "observed Rift identity differs from retained authority"

/-- The event of the first preservation. -/
def alertEvent (observation : PreservedObservation) (reason : TerminalWorkspacePreservationReason)
    (repoKey : String) (effortId : Option String) : CleanupEvent :=
  ⟨observation.eventId, observation.itemId, effortId, preservedEventType, repoKey, reason.text,
    observation.target, true, observation.now⟩

/-- The alert of the first preservation, with its deliveries. -/
def createAlert (observation : PreservedObservation)
    (reason : TerminalWorkspacePreservationReason) : CleanupTx String := do
  let effortId ← query fun store => store.efforts.lookup observation.itemId
  let item ← lookup (fun store => store.items.find? observation.itemId)
    "Query returned no rows"
  let events ← lookup (fun store =>
      store.events.insert? (observation.alertEvent reason item.repoKey effortId))
    "UNIQUE constraint failed: durable_events.id"
  write fun store => ((), { store with events })
  write fun store => ((), { store with
    deliveries := store.deliveries ++ (store.enabledBackends.map fun backend =>
      (observation.eventId, backend)).filter fun delivery => !store.deliveries.contains delivery })
  pure observation.eventId

/-- The debt after an observation. -/
def debt (observation : PreservedObservation) (reason : TerminalWorkspacePreservationReason)
    (prior : Nat) (alertEventId : String) : CleanupDebt where
  itemId := observation.itemId
  target := observation.target
  state := .preserved
  reason := some reason
  observationCount := nextObservationCount prior
  nextRetryAt := observation.now + retrySeconds (nextObservationCount prior)
  alertEventId := some alertEventId

/-- The alert that the debt refers to: the one it has, or a new one. -/
def alertId (observation : PreservedObservation) (reason : TerminalWorkspacePreservationReason) :
    Option String → CleanupTx String
  | some id => pure id
  | none => observation.createAlert reason

end PreservedObservation

/-- `INSERT INTO terminal_workspace_cleanup_debt ... ON CONFLICT(item_id) DO UPDATE`, with the
triggers and constraints of both. -/
def upsertDebt (debt : CleanupDebt) : CleanupTx Unit := do
  let authorized ← query fun store =>
    (store.items.find? debt.itemId).any fun item => item.authorizes debt.target
  require (authorized = true) "cleanup debt must match queue workspace authority"
  let alerted ← query fun store =>
    store.events.any fun event => debt.alertEventId == some event.id && event.alerts debt.itemId
  require (debt.state = .preserved → alerted = true)
    "preserved cleanup debt requires its alert event authority"
  require (debt.isConsistent = true ∧ debt.target.isNamed = true)
    "CHECK constraint failed: terminal_workspace_cleanup_debt"
  let shared ← query fun store => store.debts.any fun other =>
    other.itemId != debt.itemId && other.alertEventId.isSome &&
      other.alertEventId == debt.alertEventId
  require (shared = false)
    "UNIQUE constraint failed: terminal_workspace_cleanup_debt.alert_event_id"
  write fun store => ((), { store with debts := store.debts.put debt })

/-- `record_terminal_workspace_preserved`. -/
def recordTerminalWorkspacePreserved (observation : PreservedObservation) : CleanupTx Unit := do
  let reason ← expect observation.reason?
    "preservation requires a dirty or active Git observation"
  let old ← query fun store => store.debts.find? observation.itemId
  let prior := (old.map CleanupDebt.observationCount).getD 0
  let alertEventId ← observation.alertId reason (old.bind CleanupDebt.alertEventId)
  observation.checkTarget
  upsertDebt (observation.debt reason prior alertEventId)

/-! ## The delay is bounded -/

/-- Neither the shift nor the product leaves an `i64`. -/
theorem retry_fits (count : Nat) :
    retryShift count < 63 ∧ 30 * 2 ^ retryShift count ≤ i64Max := by
  have shift : retryShift count ≤ 7 := Nat.min_le_right _ _
  have product : 30 * 2 ^ retryShift count ≤ 30 * 2 ^ 7 :=
    Nat.mul_le_mul_left 30 (Nat.pow_le_pow_right (by decide) shift)
  have small : 30 * 2 ^ 7 ≤ i64Max := by decide
  omega

/-- A later retry waits no shorter. -/
theorem retrySeconds_mono {count other : Nat} (order : count ≤ other) :
    retrySeconds count ≤ retrySeconds other := by
  have shift : retryShift count ≤ retryShift other := by
    unfold retryShift
    omega
  have product : 30 * 2 ^ retryShift count ≤ 30 * 2 ^ retryShift other :=
    Nat.mul_le_mul_left 30 (Nat.pow_le_pow_right (by decide) shift)
  unfold retrySeconds
  omega

/-- A retry waits half a minute to an hour. -/
theorem retrySeconds_bounds (count : Nat) : 30 ≤ retrySeconds count ∧ retrySeconds count ≤ 3600 := by
  have positive : 0 < 2 ^ retryShift count := Nat.pow_pos (by decide)
  have large : 3600 ≤ i64Max := by decide
  unfold retrySeconds
  generalize i64Max = bound at large ⊢
  omega

/-- The count grows by one to its cap. -/
theorem nextObservationCount_eq (prior : Nat) : nextObservationCount prior = min (prior + 1) 255 := by
  have large : 255 ≤ i64Max := by decide
  unfold nextObservationCount
  generalize i64Max = bound at large ⊢
  omega

/-! ## One observation -/

namespace CleanupStore

/-- The observations of an item. -/
def observations (store : CleanupStore) (itemId : String) : Nat :=
  ((store.debts.find? itemId).map CleanupDebt.observationCount).getD 0

/-- The alert that the debt of an item refers to. -/
def alert (store : CleanupStore) (itemId : String) : Option String :=
  (store.debts.find? itemId).bind CleanupDebt.alertEventId

/-- The alerts of an item, in order. -/
def alertsOf (store : CleanupStore) (itemId : String) : List CleanupEvent :=
  store.events.select fun event => event.itemId == itemId && event.eventType == preservedEventType

/-- Every debt is consistent, and the alert it refers to is there. -/
structure Valid (store : CleanupStore) : Prop where
  consistent : ∀ debt ∈ store.debts, debt.isConsistent = true
  alerted : ∀ debt ∈ store.debts, ∀ id ∈ debt.alertEventId,
    ∃ event ∈ store.events, event.id = id ∧ event.alerts debt.itemId = true

/-- What an observation needs: a reason, a target that is the workspace of the queue row and that
was observed, and a fresh identifier for the alert if there is none yet. -/
structure Accepts (store : CleanupStore) (observation : PreservedObservation) : Prop where
  reason : observation.reason?.isSome = true
  authorized : ∃ item, store.items.find? observation.itemId = some item ∧
    item.authorizes observation.target = true
  named : observation.target.isNamed = true
  observed : observation.IsObserved
  fresh : store.alert observation.itemId = none →
    ∀ event ∈ store.events, event.id ≠ observation.eventId

/-- What a committed observation leaves: the debt with one observation more, and the alert it had or
a new one. -/
structure Preserved (store : CleanupStore) (observation : PreservedObservation)
    (alertEventId : String) (later : CleanupStore) : Prop where
  items : later.items = store.items
  debts : ∃ reason, later.debts = store.debts.put
    (observation.debt reason (store.observations observation.itemId) alertEventId)
  events : (store.alert observation.itemId = some alertEventId ∧ later.events = store.events) ∨
    (store.alert observation.itemId = none ∧ alertEventId = observation.eventId) ∧
      ∃ event, event.id = alertEventId ∧ event.alerts observation.itemId = true ∧
        store.events.insert? event = some later.events

end CleanupStore

variable {store later between : CleanupStore} {observation : PreservedObservation}
  {reason : TerminalWorkspacePreservationReason} {debt : CleanupDebt} {id : String}

/-- A target is checked against the observation. -/
theorem commits_checkTarget {value : Unit} :
    observation.checkTarget.Commits store value later ↔ observation.IsObserved ∧ store = later := by
  unfold PreservedObservation.checkTarget PreservedObservation.IsObserved
  cases observation.target <;> exact commits_require

/-- The event that is appended alerts of its item. -/
theorem alerts_alertEvent (repoKey : String) (effortId : Option String) :
    (observation.alertEvent reason repoKey effortId).alerts observation.itemId = true := by
  simp [PreservedObservation.alertEvent, CleanupEvent.alerts]

/-- What the alert of an observation leaves. -/
theorem of_commits_alertId
    (commits : (observation.alertId reason (store.alert observation.itemId)).Commits store id later) :
    (later.items = store.items ∧ later.debts = store.debts) ∧
      ((store.alert observation.itemId = some id ∧ later.events = store.events) ∨
        (store.alert observation.itemId = none ∧ id = observation.eventId) ∧
          ∃ event, event.id = id ∧ event.alerts observation.itemId = true ∧
            store.events.insert? event = some later.events) := by
  cases alert : store.alert observation.itemId with
  | some old =>
    rw [alert] at commits
    obtain ⟨rfl, rfl⟩ := commits_pure.mp commits
    exact ⟨⟨rfl, rfl⟩, .inl ⟨rfl, rfl⟩⟩
  | none =>
    rw [alert] at commits
    simp only [PreservedObservation.alertId, PreservedObservation.createAlert, commits_query_bind,
      commits_lookup_bind, commits_write_bind, commits_pure] at commits
    obtain ⟨item, -, events, inserted, rfl, rfl⟩ := commits
    exact ⟨⟨rfl, rfl⟩, .inr ⟨⟨rfl, rfl⟩, _, rfl, alerts_alertEvent _ _, inserted⟩⟩

/-- A debt is written when its target is authorized, its alert recorded and its columns fit. -/
theorem commits_upsertDebt {value : Unit} :
    (upsertDebt debt).Commits store value later ↔
      (((store.items.find? debt.itemId).any fun item => item.authorizes debt.target) = true ∧
        (debt.state = .preserved → (store.events.any fun event =>
          debt.alertEventId == some event.id && event.alerts debt.itemId) = true) ∧
        (debt.isConsistent = true ∧ debt.target.isNamed = true) ∧
        (store.debts.any fun other => other.itemId != debt.itemId &&
          other.alertEventId.isSome && other.alertEventId == debt.alertEventId) = false) ∧
        { store with debts := store.debts.put debt } = later := by
  simp only [upsertDebt, commits_query_bind, commits_require_bind, commits_write]
  tauto

/-- An observation that commits was acceptable, and leaves what it should. -/
theorem of_commits (commits : (recordTerminalWorkspacePreserved observation).Commits store () later) :
    store.Accepts observation ∧ ∃ id, store.Preserved observation id later := by
  rw [recordTerminalWorkspacePreserved, commits_expect_bind] at commits
  obtain ⟨reason, reasoned, commits⟩ := commits
  rw [commits_query_bind, commits_bind] at commits
  obtain ⟨id, between, alerted, commits⟩ := commits
  obtain ⟨_, _, checked, upserted⟩ := commits_bind.mp commits
  obtain ⟨observed, rfl⟩ := commits_checkTarget.mp checked
  obtain ⟨⟨authorized, -, valid, -⟩, rfl⟩ := commits_upsertDebt.mp upserted
  obtain ⟨⟨items, debts⟩, events⟩ := of_commits_alertId alerted
  rw [items] at authorized
  obtain ⟨item, found, authorizes⟩ := (Option.any_eq_true ..).mp authorized
  have fresh : store.alert observation.itemId = none →
      ∀ event ∈ store.events, event.id ≠ observation.eventId := by
    intro none event mem
    rcases events with ⟨some, -⟩ | ⟨⟨-, rfl⟩, created, same, -, inserted⟩
    · rw [none] at some
      cases some
    · rw [← same]
      exact Table.fresh_of_insert? inserted mem
  have accepts : store.Accepts observation :=
    ⟨by rw [reasoned]; rfl, ⟨item, found, authorizes⟩, valid.2, observed, fresh⟩
  exact ⟨accepts, id, items, ⟨reason, by rw [debts]; rfl⟩, events⟩

/-- An event with a new id is inserted. -/
theorem isSome_insert? {event : CleanupEvent}
    (fresh : ∀ other ∈ store.events, other.id ≠ event.id) :
    ∃ events, store.events.insert? event = some events :=
  Option.isSome_iff_exists.mp (Table.insert?_isSome.mpr fresh)

/-- In a valid store an acceptable observation has its alert. -/
theorem commits_alertId (valid : store.Valid) (accepts : store.Accepts observation)
    (reason : TerminalWorkspacePreservationReason) : ∃ id between,
      (observation.alertId reason (store.alert observation.itemId)).Commits store id between ∧
        ∃ event ∈ between.events, event.id = id ∧ event.alerts observation.itemId = true := by
  cases alert : store.alert observation.itemId with
  | some id =>
    obtain ⟨debt, found, named⟩ := Option.bind_eq_some_iff.mp alert
    obtain ⟨mem, same⟩ := Table.find?_eq_some.mp found
    have event := valid.alerted debt mem id named
    rw [same] at event
    exact ⟨id, store, commits_pure.mpr ⟨rfl, rfl⟩, event⟩
  | none =>
    obtain ⟨item, found, -⟩ := accepts.authorized
    have fresh : ∀ event ∈ store.events, event.id ≠ (observation.alertEvent reason item.repoKey
        (store.efforts.lookup observation.itemId)).id := accepts.fresh alert
    obtain ⟨events, inserted⟩ := isSome_insert? fresh
    have committed : ∃ between,
        (observation.alertId reason none).Commits store observation.eventId between ∧
          between.events = events := by
      simp only [PreservedObservation.alertId, PreservedObservation.createAlert,
        commits_query_bind, commits_lookup_bind, commits_write_bind, commits_pure]
      exact ⟨_, ⟨item, found, events, inserted, trivial, rfl⟩, rfl⟩
    obtain ⟨between, commits, rfl⟩ := committed
    exact ⟨observation.eventId, between, commits, _, (Table.mem_of_insert? inserted).mpr (.inr rfl),
      rfl, alerts_alertEvent _ _⟩

/-- The debt of an observation is consistent. -/
theorem isConsistent_debt (prior : Nat) :
    (observation.debt reason prior id).isConsistent = true := by
  have bounds : nextObservationCount prior ≤ 255 ∧ 0 < nextObservationCount prior := by
    rw [nextObservationCount_eq]
    omega
  simp [CleanupDebt.isConsistent, PreservedObservation.debt, bounds]

/-- The events of a committed observation, with those before it. -/
theorem mem_events (events : (store.alert observation.itemId = some id ∧
      later.events = store.events) ∨
      (store.alert observation.itemId = none ∧ id = observation.eventId) ∧
        ∃ event, event.id = id ∧ event.alerts observation.itemId = true ∧
          store.events.insert? event = some later.events) :
    ∀ event ∈ store.events, event ∈ later.events := by
  intro event mem
  rcases events with ⟨-, same⟩ | ⟨-, _, -, -, inserted⟩
  · rwa [same]
  · exact (Table.mem_of_insert? inserted).mpr (.inl mem)

/-- In a valid store an acceptable observation commits. -/
theorem commits_of_accepts (valid : store.Valid) (accepts : store.Accepts observation) :
    ∃ later, (recordTerminalWorkspacePreserved observation).Commits store () later := by
  obtain ⟨reason, reasoned⟩ := Option.isSome_iff_exists.mp accepts.reason
  obtain ⟨id, between, alerted, event, listed, same, alerts⟩ := commits_alertId valid accepts reason
  obtain ⟨⟨items, debts⟩, events⟩ := of_commits_alertId alerted
  have authorized : ((between.items.find? observation.itemId).any fun item =>
      item.authorizes observation.target) = true := by
    rw [items]
    exact (Option.any_eq_true ..).mpr accepts.authorized
  have known : (between.events.any fun event =>
      some id == some event.id && event.alerts observation.itemId) = true := by
    refine List.any_eq_true.mpr ⟨event, listed, ?_⟩
    simpa [same] using alerts
  -- the alert of another debt belongs to the item of that debt
  have alone : (between.debts.any fun other => other.itemId != observation.itemId &&
      other.alertEventId.isSome && other.alertEventId == some id) = false := by
    rw [debts, Table.any_eq_false]
    intro other mem
    by_contra shares
    simp only [Bool.not_eq_false, Bool.and_eq_true, bne_iff_ne, ne_eq, beq_iff_eq] at shares
    obtain ⟨found, found_listed, found_same, found_alerts⟩ :=
      valid.alerted other mem id shares.2
    have one : found = event :=
      Table.eq_of_key (mem_events events found found_listed) listed (found_same.trans same.symm)
    simp only [one, CleanupEvent.alerts, Bool.and_eq_true, beq_iff_eq] at alerts found_alerts
    exact shares.1.1 (found_alerts.1.1.symm.trans alerts.1.1)
  refine ⟨{ between with
    debts := between.debts.put (observation.debt reason (store.observations observation.itemId) id)
    }, ?_⟩
  rw [recordTerminalWorkspacePreserved, commits_expect_bind]
  refine ⟨reason, reasoned, ?_⟩
  rw [commits_query_bind, commits_bind]
  refine ⟨id, between, alerted, ?_⟩
  rw [commits_bind]
  refine ⟨(), between, commits_checkTarget.mpr ⟨accepts.observed, rfl⟩, ?_⟩
  rw [commits_upsertDebt]
  exact ⟨⟨authorized, fun _ => known, ⟨isConsistent_debt _, accepts.named⟩, alone⟩, rfl⟩

/-- A valid store stays valid. -/
theorem CleanupStore.Valid.preserved (valid : store.Valid)
    (preserved : store.Preserved observation id later) : later.Valid := by
  obtain ⟨reason, debts⟩ := preserved.debts
  have known := mem_events preserved.events
  have cases : ∀ debt ∈ later.debts, debt ∈ store.debts ∨
      debt = observation.debt reason (store.observations observation.itemId) id := by
    intro debt mem
    have found := Table.find?_eq_some.mpr ⟨mem, rfl⟩
    rw [debts, Table.find?_put] at found
    split at found
    · exact .inr (Option.some.inj found).symm
    · exact .inl (Table.find?_eq_some.mp found).1
  constructor
  · intro debt mem
    rcases cases debt mem with old | rfl
    · exact valid.consistent debt old
    · exact isConsistent_debt _
  · intro debt mem alert named
    rcases cases debt mem with old | rfl
    · obtain ⟨event, listed, event_alerts⟩ := valid.alerted debt old alert named
      exact ⟨event, known event listed, event_alerts⟩
    · obtain rfl : id = alert := Option.some.inj named
      rcases preserved.events with ⟨alert, same⟩ | ⟨-, event, same, alerts, inserted⟩
      · obtain ⟨debt, found, named⟩ := Option.bind_eq_some_iff.mp alert
        obtain ⟨mem, keyed⟩ := Table.find?_eq_some.mp found
        have event := valid.alerted debt mem _ named
        rw [keyed] at event
        rwa [same]
      · exact ⟨event, (Table.mem_of_insert? inserted).mpr (.inr rfl), same, alerts⟩

/-- The machine of the observations: a refused one leaves the store as it is. -/
def cleanups : Machine CleanupStore PreservedObservation where
  Initial := CleanupStore.Valid
  step store observation := (recordTerminalWorkspacePreserved observation).settle store

/-- An accepted observation is preserved, and another changes nothing. -/
theorem settle_cases_cleanup (observation : PreservedObservation) (valid : store.Valid) :
    (store.Accepts observation ∧
        ∃ id, store.Preserved observation id (cleanups.step store observation)) ∨
      ¬store.Accepts observation ∧ cleanups.step store observation = store := by
  by_cases accepts : store.Accepts observation
  · obtain ⟨later, commits⟩ := commits_of_accepts valid accepts
    have stepped : cleanups.step store observation = later := settle_of_commits commits
    rw [stepped]
    exact .inl ⟨accepts, (of_commits commits).2⟩
  · rcases commits_or_aborts (recordTerminalWorkspacePreserved observation) store with
      ⟨_, later, commits⟩ | ⟨message, aborts⟩
    · exact absurd (of_commits commits).1 accepts
    · exact .inr ⟨accepts, settle_of_aborts aborts⟩

/-- Every observation keeps the store valid. -/
theorem valid_step (observation : PreservedObservation) (valid : store.Valid) :
    (cleanups.step store observation).Valid := by
  rcases settle_cases_cleanup observation valid with ⟨-, id, preserved⟩ | ⟨-, same⟩
  · exact valid.preserved preserved
  · rwa [same]

/-! ## Runs -/

/-- The observations of an item in a run that are recorded. -/
def recorded (itemId : String) : CleanupStore → List PreservedObservation → Nat
  | _, [] => 0
  | store, observation :: rest =>
    (if observation.itemId = itemId ∧
        (recordTerminalWorkspacePreserved observation).reason? store = none then 1 else 0) +
      recorded itemId (cleanups.step store observation) rest

/-- An observation aborts for no reason if and only if it is accepted. -/
theorem reason?_eq_none_iff (valid : store.Valid) :
    (recordTerminalWorkspacePreserved observation).reason? store = none ↔
      store.Accepts observation := by
  constructor
  · intro none
    rcases commits_or_aborts (recordTerminalWorkspacePreserved observation) store with
      ⟨_, later, commits⟩ | ⟨message, aborts⟩
    · exact (of_commits commits).1
    · rw [reason?_eq_some.mpr aborts] at none
      cases none
  · intro accepts
    obtain ⟨later, commits⟩ := commits_of_accepts valid accepts
    unfold Commits at commits
    rw [reason?, commits]

/-- What a step leaves of an item. -/
theorem step_cases (valid : store.Valid) (observation : PreservedObservation) (itemId : String) :
    (observation.itemId = itemId ∧ store.Accepts observation ∧
        (cleanups.step store observation).observations itemId =
          nextObservationCount (store.observations itemId) ∧
        ((∃ alert, store.alert itemId = some alert ∧
            (cleanups.step store observation).alert itemId = some alert ∧
            (cleanups.step store observation).alertsOf itemId = store.alertsOf itemId) ∨
          store.alert itemId = none ∧ ∃ event,
            (cleanups.step store observation).alert itemId = some event.id ∧
            (cleanups.step store observation).alertsOf itemId =
              store.alertsOf itemId ++ [event])) ∨
      ¬(observation.itemId = itemId ∧ store.Accepts observation) ∧
        (cleanups.step store observation).debts.find? itemId = store.debts.find? itemId ∧
          (cleanups.step store observation).alertsOf itemId = store.alertsOf itemId := by
  rcases settle_cases_cleanup observation valid with ⟨accepts, id, preserved⟩ | ⟨refused, same⟩
  · obtain ⟨reason, debts⟩ := preserved.debts
    by_cases named : observation.itemId = itemId
    · subst named
      have found : (cleanups.step store observation).debts.find? observation.itemId =
          some (observation.debt reason (store.observations observation.itemId) id) := by
        rw [debts, Table.find?_put]
        exact if_pos rfl
      refine .inl ⟨rfl, accepts, ?_, ?_⟩
      · rw [CleanupStore.observations, found]
        rfl
      · have alert : (cleanups.step store observation).alert observation.itemId = some id := by
          rw [CleanupStore.alert, found]
          rfl
        rcases preserved.events with ⟨old, same⟩ | ⟨⟨none, -⟩, event, rfl, alerts, inserted⟩
        · exact .inl ⟨id, old, alert, by rw [CleanupStore.alertsOf, same]; rfl⟩
        · refine .inr ⟨none, event, alert, ?_⟩
          simp only [CleanupEvent.alerts, Bool.and_eq_true] at alerts
          rw [CleanupStore.alertsOf, Table.select_of_insert? _ inserted, if_pos]
          · rfl
          · simp [alerts]
    · refine .inr ⟨fun both => named both.1, ?_, ?_⟩
      · rw [debts, Table.find?_put]
        exact if_neg named
      · rcases preserved.events with ⟨-, same⟩ | ⟨-, event, rfl, alerts, inserted⟩
        · rw [CleanupStore.alertsOf, same]
          rfl
        · simp only [CleanupEvent.alerts, Bool.and_eq_true, beq_iff_eq] at alerts
          rw [CleanupStore.alertsOf, Table.select_of_insert? _ inserted, if_neg, List.append_nil]
          · rfl
          · simp [alerts, named]
  · rw [same]
    exact .inr ⟨fun both => refused both.2, rfl, rfl⟩

/-- No item is counted beyond the cap. -/
theorem observations_le (valid : store.Valid) (itemId : String) :
    store.observations itemId ≤ 255 := by
  unfold CleanupStore.observations
  cases found : store.debts.find? itemId with
  | none => exact Nat.zero_le 255
  | some debt =>
    have consistent := valid.consistent debt (Table.find?_eq_some.mp found).1
    simp only [CleanupDebt.isConsistent, Bool.and_eq_true, decide_eq_true_eq] at consistent
    exact consistent.1

/-- An item without an alert was not observed. -/
theorem observations_of_unalerted (valid : store.Valid) {itemId : String}
    (unalerted : store.alert itemId = none) : store.observations itemId = 0 := by
  unfold CleanupStore.alert at unalerted
  unfold CleanupStore.observations
  cases found : store.debts.find? itemId with
  | none => rfl
  | some debt =>
    rw [found, Option.bind_some] at unalerted
    have consistent := valid.consistent debt (Table.find?_eq_some.mp found).1
    simp only [CleanupDebt.isConsistent, Bool.and_eq_true] at consistent
    cases state : debt.state with
    | pending =>
      simp only [state, Bool.and_eq_true, beq_iff_eq] at consistent
      exact consistent.2.1.2
    | preserved => simp [state, unalerted] at consistent

/-- The invariant of the runs over the observations of one item. -/
theorem run_observed (valid : store.Valid) (itemId : String) (calls : List PreservedObservation) :
    (cleanups.run store calls).Valid ∧
      (cleanups.run store calls).observations itemId =
        min (store.observations itemId + recorded itemId store calls) 255 ∧
      ((∃ alert, store.alert itemId = some alert ∧
          (cleanups.run store calls).alert itemId = some alert ∧
          (cleanups.run store calls).alertsOf itemId = store.alertsOf itemId) ∨
        (store.alert itemId = none ∧ recorded itemId store calls = 0 ∧
          (cleanups.run store calls).alert itemId = none ∧
          (cleanups.run store calls).alertsOf itemId = store.alertsOf itemId) ∨
        store.alert itemId = none ∧ 0 < recorded itemId store calls ∧ ∃ event,
          (cleanups.run store calls).alert itemId = some event.id ∧
          (cleanups.run store calls).alertsOf itemId = store.alertsOf itemId ++ [event]) := by
  induction calls generalizing store with
  | nil =>
    have small := observations_le valid itemId
    refine ⟨valid, (Nat.min_eq_left small).symm, ?_⟩
    cases alert : store.alert itemId with
    | some id => exact .inl ⟨id, rfl, alert, rfl⟩
    | none => exact .inr (.inl ⟨rfl, rfl, alert, rfl⟩)
  | cons call rest run_rest =>
    obtain ⟨valid', count, alerts⟩ := run_rest (valid_step call valid)
    rw [Machine.run_cons]
    refine ⟨valid', ?_⟩
    have small := observations_le valid itemId
    rcases step_cases valid call itemId with ⟨named, accepts, counted, alerted⟩ | ⟨other, debts, same⟩
    · have counts : recorded itemId store (call :: rest) =
          1 + recorded itemId (cleanups.step store call) rest := by
        rw [recorded, if_pos ⟨named, (reason?_eq_none_iff valid).mpr accepts⟩]
      rw [count, counted, counts, nextObservationCount_eq]
      refine ⟨by omega, ?_⟩
      rcases alerted with ⟨alert, old, stepped, same⟩ | ⟨none, event, stepped, created⟩
      · rw [stepped, same] at alerts
        rcases alerts with ⟨_, ⟨⟩, later⟩ | ⟨⟨⟩, -⟩ | ⟨⟨⟩, -⟩
        exact .inl ⟨alert, old, later⟩
      · rw [stepped, created] at alerts
        rcases alerts with ⟨_, ⟨⟩, later⟩ | ⟨⟨⟩, -⟩ | ⟨⟨⟩, -⟩
        exact .inr (.inr ⟨none, by omega, event, later⟩)
    · have counts : recorded itemId store (call :: rest) =
          recorded itemId (cleanups.step store call) rest := by
        rw [recorded, if_neg, Nat.zero_add]
        rwa [reason?_eq_none_iff valid]
      have observed : (cleanups.step store call).observations itemId = store.observations itemId := by
        rw [CleanupStore.observations, debts]
        rfl
      have alert : (cleanups.step store call).alert itemId = store.alert itemId := by
        rw [CleanupStore.alert, debts]
        rfl
      rw [observed] at count
      rw [alert, same] at alerts
      rw [counts]
      exact ⟨count, alerts⟩

/-- What the observations of an item in a run leave, when it had no alert before. -/
structure PreservesOnce (store : CleanupStore) (itemId : String)
    (calls : List PreservedObservation) : Prop where
  /-- The count is the number of recorded observations, up to its bound. -/
  counted : (cleanups.run store calls).observations itemId =
    min (recorded itemId store calls) 255
  /-- The first recorded observation raises the one alert, and every later debt refers to it. -/
  alerted : 0 < recorded itemId store calls → ∃ event, ∀ later,
    (cleanups.run store (calls ++ later)).alertsOf itemId = store.alertsOf itemId ++ [event] ∧
      (cleanups.run store (calls ++ later)).alert itemId = some event.id
  silent : recorded itemId store calls = 0 →
    (cleanups.run store calls).alertsOf itemId = store.alertsOf itemId ∧
      (cleanups.run store calls).alert itemId = none
  /-- An observation is recorded when it is acceptable, and changes nothing otherwise. -/
  accepted : ∀ call, (recordTerminalWorkspacePreserved call).reason? (cleanups.run store calls) =
    none ↔ (cleanups.run store calls).Accepts call
  refused : ∀ call, (¬∃ item, (cleanups.run store calls).items.find? call.itemId = some item ∧
      item.authorizes call.target = true) →
    cleanups.step (cleanups.run store calls) call = cleanups.run store calls
  /-- The next attempt comes after the delay of the count. -/
  delayed : ∀ call, (cleanups.run store calls).Accepts call → ∀ debt,
    (cleanups.step (cleanups.run store calls) call).debts.find? call.itemId = some debt →
      debt.nextRetryAt = call.now + retrySeconds debt.observationCount

/-- Observations back off and alert once: the count of an item without an alert is the number of its
recorded observations, its first one raises the only alert, and the delay grows with the count
within its bounds and without overflow. -/
theorem preservation_alerts_once (valid : store.Valid) (itemId : String)
    (unalerted : store.alert itemId = none) (calls : List PreservedObservation) :
    PreservesOnce store itemId calls ∧ Monotone retrySeconds ∧
      ∀ count, (30 ≤ retrySeconds count ∧ retrySeconds count ≤ 3600) ∧
        retryShift count < 63 ∧ 30 * 2 ^ retryShift count ≤ i64Max := by
  obtain ⟨valid', counted, alerts⟩ := run_observed valid itemId calls
  rw [observations_of_unalerted valid unalerted, Nat.zero_add] at counted
  refine ⟨⟨counted, ?_, ?_, fun call => reason?_eq_none_iff valid', ?_, ?_⟩,
    fun _ _ order => retrySeconds_mono order, fun count =>
      ⟨retrySeconds_bounds count, retry_fits count⟩⟩
  · intro some
    rcases alerts with ⟨_, old, -⟩ | ⟨-, zero, -⟩ | ⟨-, -, event, alert, created⟩
    · rw [unalerted] at old
      cases old
    · omega
    · refine ⟨event, fun later => ?_⟩
      rw [Machine.run_append]
      obtain ⟨-, -, kept⟩ := run_observed valid' itemId later
      rw [alert, created] at kept
      rcases kept with ⟨_, ⟨⟩, same, alerts⟩ | ⟨⟨⟩, -⟩ | ⟨⟨⟩, -⟩
      exact ⟨alerts, same⟩
  · intro zero
    rcases alerts with ⟨_, old, -⟩ | ⟨-, -, alert, same⟩ | ⟨-, some, -⟩
    · rw [unalerted] at old
      cases old
    · exact ⟨same, alert⟩
    · omega
  · intro call other
    rcases settle_cases_cleanup call valid' with ⟨accepts, -⟩ | ⟨-, same⟩
    · exact absurd accepts.authorized other
    · exact same
  · intro call accepts debt found
    rcases settle_cases_cleanup call valid' with ⟨-, id, preserved⟩ | ⟨refused, -⟩
    · obtain ⟨reason, debts⟩ := preserved.debts
      rw [debts, Table.find?_put] at found
      obtain rfl := Option.some.inj ((if_pos rfl).symm.trans found)
      rfl
    · exact absurd accepts refused

namespace Sample

/-- An item that ended with a retained workspace whose cleanup is pending. -/
def cleanupStore : CleanupStore where
  items := ⟨[⟨"item", "repo", some "/work", some "rift", some "source", none⟩],
    List.nodup_singleton _⟩
  efforts := [("item", "effort")]
  debts := ⟨[⟨"item", .retained ⟨"/work", "rift", "source"⟩, .pending, none, 0, 0, none⟩],
    List.nodup_singleton _⟩
  events := .empty
  enabledBackends := ["wslg"]
  deliveries := []

/-- The workspace is found with uncommitted work. -/
def dirtyObservation (now : Nat) (eventId : String) : PreservedObservation where
  itemId := "item"
  target := .retained ⟨"/work", "rift", "source"⟩
  observed := ⟨"/work", "rift", "source"⟩
  dirty := true
  activeGitOperation := false
  now := now
  eventId := eventId

/-- The sample's store is valid. -/
theorem cleanupStore_valid : cleanupStore.Valid where
  consistent debt mem := by
    obtain rfl := List.mem_singleton.mp mem
    rfl
  alerted debt mem id named := by
    obtain rfl := List.mem_singleton.mp mem
    cases named

/-- Two observations of the item in one run. -/
theorem cleanupStore_preserves :
    recorded "item" cleanupStore [dirtyObservation 0 "first", dirtyObservation 30 "second"] = 2 ∧
      PreservesOnce cleanupStore "item" [dirtyObservation 0 "first", dirtyObservation 30 "second"] ∧
        Monotone retrySeconds ∧ ∀ count, (30 ≤ retrySeconds count ∧ retrySeconds count ≤ 3600) ∧
          retryShift count < 63 ∧ 30 * 2 ^ retryShift count ≤ i64Max :=
  ⟨by decide, preservation_alerts_once cleanupStore_valid "item" rfl _⟩

end Sample

end Iq
