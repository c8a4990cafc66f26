import Iq.Domain.Text
import Iq.Library.Table
import Mathlib.Algebra.Ring.Int.Defs
import Mathlib.Algebra.Ring.Nat

/-!
# Notification deliveries

The deliveries of durable events to the notification backends and the statements that move one from
state to state. A claim and the mark of a command's start are two commits, the result is a third;
the claim's identity ties them together. What `chrono` makes of a time stamp is a parameter, and
time stamps in the store are their texts.
-/

namespace Iq.Notification

open Library

/-- The name of a backend; `notification_backends` holds these two. -/
inductive Backend where
  | wslg
  | windows
  deriving DecidableEq, Repr

/-- `NotificationBackendConfig`. -/
inductive BackendConfig where
  | wslg (executable : String)
  | windows (executable : String)
  deriving DecidableEq, Repr

/-- `backend_name`. -/
def backendName : BackendConfig → Backend
  | .wslg _ => .wslg
  | .windows _ => .windows

/-- `NotificationConfig` after its validation; the number of attempts is a `u8`, the age a `u64`. -/
structure Config where
  backends : List BackendConfig
  maxAttempts : Nat
  maxEventAgeSeconds : Nat
  some_attempt : 0 < maxAttempts
  byte_attempts : maxAttempts < 2 ^ 8
  word_age : maxEventAgeSeconds < 2 ^ 64
  deriving DecidableEq, Repr

/-- `DeliveryState`. A claimed or running delivery carries the identity of its claim, and no other
does. -/
inductive DeliveryState where
  | pending
  | claimed (claimId : String)
  | running (claimId : String)
  | delivered
  | deliveryUnknown
  | failed
  | expired
  deriving DecidableEq, Repr

/-- The states that a delivery does not leave. -/
def DeliveryState.isFinal : DeliveryState → Bool
  | .delivered | .deliveryUnknown | .failed | .expired => true
  | .pending | .claimed _ | .running _ => false

/-- `state='claimed'`. -/
def DeliveryState.isClaimed : DeliveryState → Bool
  | .claimed _ => true
  | _ => false

/-- `state='running'`. -/
def DeliveryState.isRunning : DeliveryState → Bool
  | .running _ => true
  | _ => false

/-- The delivery that a redelivery repeats, with the operator who asked for it. -/
structure Redelivery where
  redeliveryOf : Nat
  actor : String
  deriving DecidableEq, Repr

/-- A row of `notification_deliveries`. -/
structure Delivery where
  id : Nat
  eventId : String
  backend : Backend
  state : DeliveryState
  attemptCount : Nat
  nextAttemptAt : Option String
  redelivery : Option Redelivery
  deriving DecidableEq, Repr

/-- What `json_extract` gives: NULL, a text, or a value that is not read as one. -/
inductive Extract where
  | null
  | text (value : String)
  | other
  deriving DecidableEq, Repr

/-- The columns of a durable event that the dispatcher reads. -/
structure Event where
  id : String
  itemId : String
  eventType : String
  createdAt : String
  repository : Extract
  blockerKind : Extract
  reason : Extract
  deriving DecidableEq, Repr

/-- The tables of the dispatcher. Delivery ids are `AUTOINCREMENT`. -/
structure Store where
  deliveries : Table Delivery.id
  lastId : Nat
  events : Table Event.id
  enabled : List Backend

/-- `NotificationPayload`. -/
structure Payload where
  repository : String
  itemId : String
  blockerKind : String
  reason : String
  deriving DecidableEq, Repr

/-- `PendingDelivery`. -/
structure PendingDelivery where
  id : Nat
  eventId : String
  backend : Backend
  attemptCount : Nat
  eventCreatedAt : String
  payload : Payload
  claimId : String
  deriving DecidableEq, Repr

/-! ## Reading a delivery -/

/-- A text column with a default for NULL. -/
def Extract.textOr (default : String) : Extract → Except String String
  | .null => .ok default
  | .text value => .ok value
  | .other => .error "Invalid column type"

/-- The delivery that `claim_next` reads from a row and its event. -/
def readPending (claimId : String) (row : Delivery) (event : Event) :
    Except String PendingDelivery := do
  check (row.attemptCount < 2 ^ 8) "Integer out of range"
  let repository ← event.repository.textOr "local"
  let blockerKind ← event.blockerKind.textOr "unknown"
  let reason ← event.reason.textOr event.eventType
  .ok ⟨row.id, row.eventId, row.backend, row.attemptCount, event.createdAt,
    ⟨repository, event.itemId, blockerKind, reason⟩, claimId⟩

/-- `delivery.state='pending' AND delivery.next_attempt_at<=?1`. -/
def Delivery.isDue (row : Delivery) (now : String) : Bool :=
  row.state == .pending && row.nextAttemptAt.any (· ≤ now)

/-- Whether a row comes first in `ORDER BY delivery.next_attempt_at,delivery.id`. -/
def Delivery.precedes (first second : Delivery) : Bool :=
  let time := first.nextAttemptAt.getD ""
  let other := second.nextAttemptAt.getD ""
  time < other || (time == other && first.id < second.id)

/-- The first of some rows. -/
def firstDelivery : List (Delivery × Event) → Option (Delivery × Event)
  | [] => none
  | row :: rest =>
    match firstDelivery rest with
    | none => some row
    | some other => if other.1.precedes row.1 then some other else some row

/-- The row that the `SELECT` of `claim_next` gives, with its event. -/
def Store.nextDue (store : Store) (now : String) : Option (Delivery × Event) :=
  firstDelivery ((store.deliveries.select (·.isDue now)).filterMap fun row =>
    (store.events.find? row.eventId).map (row, ·))

/-! ## Statements -/

/-- `id=?1 AND state=?2`; a claimed or running state is the one with the claim. -/
def Delivery.isAt (row : Delivery) (id : Nat) (state : DeliveryState) : Bool :=
  row.id == id && row.state == state

/-- `UPDATE notification_deliveries SET ... WHERE`: the row keeps its identity. -/
def Store.setState (store : Store) (chosen : Delivery → Bool) (state : DeliveryState)
    (attempts : Delivery → Nat) (nextAttemptAt : Delivery → Option String) : Store :=
  { store with
    deliveries := store.deliveries.update chosen (fun row =>
      { row with
        state := state
        attemptCount := attempts row
        nextAttemptAt := nextAttemptAt row }) fun _ => rfl }

/-- The store in which a delivery has been claimed. -/
def claimedStore (store : Store) (id : Nat) (claimId : String) : Store :=
  store.setState (·.isAt id .pending) (.claimed claimId) Delivery.attemptCount
    Delivery.nextAttemptAt

/-- `claim_next`. -/
def claimNext (now claimId : String) (store : Store) :
    Except String (Option PendingDelivery × Store) :=
  match store.nextDue now with
  | none => .ok (none, store)
  | some (row, event) => do
    let delivery ← readPending claimId row event
    .ok (some delivery, claimedStore store delivery.id claimId)

/-- `mark_command_started`. -/
def markCommandStarted (id : Nat) (claimId : String) (store : Store) : Except String Store :=
  if store.deliveries.any (·.isAt id (.claimed claimId)) then
    .ok (store.setState (·.isAt id (.claimed claimId)) (.running claimId) Delivery.attemptCount
      Delivery.nextAttemptAt)
  else .error "notification claim changed before command start"

/-- `set_delivery_state`; the expected state is the one with the claim. -/
def setDeliveryState (id : Nat) (expected next : DeliveryState) (attempts : Nat)
    (nextAttemptAt : Option String) (store : Store) : Except String Store :=
  if store.deliveries.any (·.isAt id expected) then
    .ok (store.setState (·.isAt id expected) next (fun _ => attempts) fun _ => nextAttemptAt)
  else .error "notification delivery claim changed before result persistence"

/-- `mark_started_unknown_after_restart`: two statements of one transaction. -/
def markStartedUnknownAfterRestart (store : Store) : Store :=
  (store.setState (·.state.isClaimed) .pending Delivery.attemptCount
    Delivery.nextAttemptAt).setState (·.state.isRunning) .deliveryUnknown Delivery.attemptCount
    fun _ => none

/-- `INSERT INTO notification_deliveries`, with the next identity. -/
def Store.insertDelivery (store : Store) (row : Delivery) : Store :=
  match store.deliveries.insert? { row with id := store.lastId + 1 } with
  | none => store
  | some deliveries =>
    { store with
      deliveries := deliveries
      lastId := store.lastId + 1 }

/-- The insertion of an alert event's deliveries: one for every enabled backend that has none. -/
def Store.insertOriginals (store : Store) (eventId now : String) : Store :=
  store.enabled.foldl (fun store backend =>
    if store.deliveries.any fun row =>
      row.eventId == eventId && row.backend == backend && row.redelivery.isNone then store
    else store.insertDelivery ⟨0, eventId, backend, .pending, 0, some now, none⟩) store

/-- `append_event_with_id` of an alert event. -/
def appendAlert (event : Event) (now : String) (store : Store) : Store :=
  match store.events.insert? event with
  | none => store
  | some events =>
    { store with
      events := events }.insertOriginals event.id now

/-- `register_backends`. -/
def registerBackends (config : Config) (store : Store) : Store :=
  { store with
    enabled := [.wslg, .windows].filter fun name => config.backends.any (backendName · == name) }

/-- `redeliver`. -/
def redeliver (id : Nat) (actor now : String) (store : Store) : Except String Store := do
  requireExactText actor "notification redelivery actor"
  match store.deliveries.find? id with
  | none => .error "Query returned no rows"
  | some row =>
    if row.state ≠ .deliveryUnknown ∧ row.state ≠ .failed ∧ row.state ≠ .expired then
      .error "only unknown, failed, or expired delivery can be explicitly redelivered"
    else if store.deliveries.any fun other =>
        other.eventId == row.eventId && other.backend == row.backend &&
          other.redelivery.any (·.redeliveryOf == id) then
      .error "UNIQUE constraint failed"
    else .ok (store.insertDelivery
      ⟨0, row.eventId, row.backend, .pending, 0, some now, some ⟨id, actor⟩⟩)

/-! ## Between the claim and the command -/

/-- The text of `bounded_payload`; the reason is cut at 512 characters. -/
def payloadMessage (payload : Payload) : String :=
  let reason := String.ofList (payload.reason.toList.take 512)
  s!"{payload.repository}\nItem: {payload.itemId}\nBlocker: {payload.blockerKind}\n{reason}" ++
    s!"\nRun: iq show {payload.itemId}"

/-- `bounded_payload`. -/
def boundedPayload (payload : Payload) : Except String String :=
  let message := payloadMessage payload
  if 2048 < message.utf8ByteSize then .error "notification payload exceeds fixed bound"
  else .ok message

/-- `max_event_age_seconds as i64`. -/
def ageSeconds (config : Config) : Int :=
  if config.maxEventAgeSeconds < 2 ^ 63 then config.maxEventAgeSeconds
  else (config.maxEventAgeSeconds : Int) - 2 ^ 64

/-- `Duration::seconds` panics for the configured age. -/
def Config.AgeOverflows (config : Config) : Prop := (2 ^ 63 - 1) / 1000 < (ageSeconds config).natAbs

instance {config : Config} : Decidable config.AgeOverflows := inferInstanceAs (Decidable (_ < _))

/-- What a claimed delivery comes to: an expiry, the start of a command, an error of
`dispatch_once`, or the panic of `Duration::seconds` out of its range. -/
inductive Plan where
  | expire
  | start (backend : BackendConfig) (payload : String)
  | fail (message : String)
  | panics
  deriving DecidableEq, Repr

/-- `dispatch_once` between the claim and the next statement; times are in nanoseconds. -/
def planDelivery (parse : String → Except String Int) (config : Config) (now : Int)
    (delivery : PendingDelivery) : Plan :=
  match parse delivery.eventCreatedAt with
  | .error message => .fail message
  | .ok created =>
    if config.AgeOverflows then .panics
    else if ageSeconds config * 10 ^ 9 < now - created then .expire
    else
      match config.backends.find? (backendName · == delivery.backend) with
      | none => .fail "pending delivery backend is not configured"
      | some backend =>
        match boundedPayload delivery.payload with
        | .error message => .fail message
        | .ok payload => .start backend payload

/-- The transition that `dispatch_once` records for the outcome of a command; `retryAt` is the time
a number of seconds ahead. -/
def recordOutcome (config : Config) (delivery : PendingDelivery) (outcome : Except String Unit)
    (retryAt : Nat → String) (store : Store) : Except String Store :=
  let record := setDeliveryState delivery.id (.running delivery.claimId)
  match outcome with
  | .ok _ => record .delivered (delivery.attemptCount + 1) none store
  | .error _ =>
    if delivery.attemptCount + 1 < config.maxAttempts then
      record .pending (delivery.attemptCount + 1)
        (some (retryAt (2 ^ min delivery.attemptCount 10))) store
    else record .failed (delivery.attemptCount + 1) none store

/-! ## What the statements do -/

section Statements

variable {store : Store} {chosen : Delivery → Bool} {state : DeliveryState}
  {attempts : Delivery → Nat} {nextAttemptAt : Delivery → Option String} {row : Delivery}
  {event : Event} {now claimId : String}

/-- The rows after an update of states. -/
theorem mem_setState :
    row ∈ (store.setState chosen state attempts nextAttemptAt).deliveries ↔
      (row ∈ store.deliveries ∧ chosen row = false) ∨
        ∃ old ∈ store.deliveries, chosen old = true ∧
          row = { old with
            state := state
            attemptCount := attempts old
            nextAttemptAt := nextAttemptAt old } := by
  rw [Store.setState, Table.mem_update]
  constructor
  · rintro ⟨old, mem, rfl⟩
    by_cases hit : chosen old = true
    · rw [Table.rewrite_of_chosen hit]
      exact .inr ⟨old, mem, hit, rfl⟩
    · rw [Table.rewrite_of_not_chosen hit]
      exact .inl ⟨mem, Bool.not_eq_true _ ▸ hit⟩
  · rintro (⟨mem, miss⟩ | ⟨old, mem, hit, rfl⟩)
    · exact ⟨row, mem, Table.rewrite_of_not_chosen (by rw [miss]; decide)⟩
    · exact ⟨old, mem, Table.rewrite_of_chosen hit⟩

/-- A row is chosen by its id and state. -/
theorem isAt_iff {id : Nat} : row.isAt id state = true ↔ row.id = id ∧ row.state = state := by
  rw [Delivery.isAt, Bool.and_eq_true, beq_iff_eq, beq_iff_eq]

/-- The first delivery is one of them. -/
theorem mem_of_firstDelivery {rows : List (Delivery × Event)} {first : Delivery × Event}
    (found : firstDelivery rows = some first) : first ∈ rows := by
  induction rows generalizing first with
  | nil => cases found
  | cons head rest mem_rest =>
    rw [firstDelivery] at found
    cases others : firstDelivery rest with
    | none =>
      rw [others] at found
      cases found
      exact List.mem_cons_self
    | some other =>
      rw [others] at found
      by_cases before : other.1.precedes head.1 = true
      · simp only [before, if_true] at found
        cases found
        exact List.mem_cons_of_mem _ (mem_rest others)
      · simp only [before] at found
        cases found
        exact List.mem_cons_self

/-- The delivery that is selected is pending. -/
theorem nextDue_eq_some (due : store.nextDue now = some (row, event)) :
    row ∈ store.deliveries ∧ row.state = .pending := by
  obtain ⟨selected, mem, same⟩ := List.mem_filterMap.mp (mem_of_firstDelivery due)
  obtain ⟨found, -, pair⟩ := Option.map_eq_some_iff.mp same
  cases pair
  obtain ⟨stored, is_due⟩ := Table.mem_select.mp mem
  simp only [Delivery.isDue, Bool.and_eq_true, beq_iff_eq] at is_due
  exact ⟨stored, is_due.1⟩

/-- A delivery that is read is that of the row. -/
theorem readPending_eq_ok {delivery : PendingDelivery}
    (read : readPending claimId row event = .ok delivery) :
    delivery.id = row.id ∧ delivery.attemptCount = row.attemptCount ∧
      delivery.claimId = claimId ∧ delivery.backend = row.backend ∧
      delivery.eventCreatedAt = event.createdAt := by
  unfold readPending at read
  cases small : check (row.attemptCount < 2 ^ 8) "Integer out of range" with
  | error message =>
    rw [small] at read
    cases read
  | ok _ =>
    cases repository : event.repository.textOr "local" with
    | error message =>
      rw [small, repository] at read
      cases read
    | ok name =>
      cases blockerKind : event.blockerKind.textOr "unknown" with
      | error message =>
        rw [small, repository, blockerKind] at read
        cases read
      | ok kind =>
        cases reason : event.reason.textOr event.eventType with
        | error message =>
          rw [small, repository, blockerKind, reason] at read
          cases read
        | ok text =>
          rw [small, repository, blockerKind, reason] at read
          cases read
          exact ⟨rfl, rfl, rfl, rfl, rfl⟩

/-- Nothing is claimed when nothing is due. -/
theorem claimNext_of_none (none_due : store.nextDue now = none) (claimId : String) :
    claimNext now claimId store = .ok (none, store) := by
  rw [claimNext, none_due]

/-- A row that is not read is not claimed. -/
theorem claimNext_of_error {message : String}
    (due : store.nextDue now = some (row, event))
    (unread : readPending claimId row event = .error message) :
    claimNext now claimId store = .error message := by
  rw [claimNext, due]
  show (readPending claimId row event >>= _) = _
  rw [unread]
  rfl

/-- A row that is read is claimed. -/
theorem claimNext_of_ok {delivery : PendingDelivery} (due : store.nextDue now = some (row, event))
    (read : readPending claimId row event = .ok delivery) :
    claimNext now claimId store =
      .ok (some delivery, claimedStore store delivery.id claimId) := by
  rw [claimNext, due]
  show (readPending claimId row event >>= _) = _
  rw [read]
  rfl

/-- A claim takes a delivery that it read from a pending row. -/
theorem claimNext_eq_some {delivery : PendingDelivery} {later : Store}
    (claimed : claimNext now claimId store = .ok (some delivery, later)) :
    ∃ row event, row ∈ store.deliveries ∧ row.state = .pending ∧
      readPending claimId row event = .ok delivery ∧
      later = claimedStore store delivery.id claimId := by
  cases due : store.nextDue now with
  | none =>
    rw [claimNext_of_none due] at claimed
    cases claimed
  | some selected =>
    obtain ⟨row, event⟩ := selected
    obtain ⟨mem, pending⟩ := nextDue_eq_some due
    cases read : readPending claimId row event with
    | error message =>
      rw [claimNext_of_error due read] at claimed
      cases claimed
    | ok other =>
      rw [claimNext_of_ok due read] at claimed
      cases claimed
      exact ⟨row, event, mem, pending, read, rfl⟩

/-- A start mark takes a row with the claim. -/
theorem markCommandStarted_eq_ok {id : Nat} {later : Store} :
    markCommandStarted id claimId store = .ok later ↔
      (∃ row ∈ store.deliveries, row.id = id ∧ row.state = .claimed claimId) ∧
        later = store.setState (·.isAt id (.claimed claimId)) (.running claimId)
          Delivery.attemptCount Delivery.nextAttemptAt := by
  unfold markCommandStarted
  simp only [Table.any_eq_true, isAt_iff]
  split
  · rename_i present
    exact ⟨fun marked => ⟨present, (Except.ok.inj marked).symm⟩, fun marked => by rw [marked.2]⟩
  · rename_i absent
    exact iff_of_false (by rintro ⟨⟩) fun marked => absent marked.1

/-- A state is set for a row in the expected state. -/
theorem setDeliveryState_eq_ok {id attempts : Nat} {expected next : DeliveryState}
    {nextAttemptAt : Option String} {later : Store} :
    setDeliveryState id expected next attempts nextAttemptAt store = .ok later ↔
      (∃ row ∈ store.deliveries, row.id = id ∧ row.state = expected) ∧
        later = store.setState (·.isAt id expected) next (fun _ => attempts)
          fun _ => nextAttemptAt := by
  unfold setDeliveryState
  simp only [Table.any_eq_true, isAt_iff]
  split
  · rename_i present
    exact ⟨fun set => ⟨present, (Except.ok.inj set).symm⟩, fun set => by rw [set.2]⟩
  · rename_i absent
    exact iff_of_false (by rintro ⟨⟩) fun set => absent set.1

/-- The record of an outcome is a transition out of the running state. -/
theorem recordOutcome_eq (config : Config) (delivery : PendingDelivery)
    (outcome : Except String Unit) (retryAt : Nat → String) :
    ∃ next nextAttemptAt, recordOutcome config delivery outcome retryAt =
      setDeliveryState delivery.id (.running delivery.claimId) next (delivery.attemptCount + 1)
        nextAttemptAt ∧
      (next = .delivered ∨ next = .failed ∨
        next = .pending ∧ delivery.attemptCount + 1 < config.maxAttempts) := by
  cases outcome with
  | ok _ => exact ⟨.delivered, none, rfl, .inl rfl⟩
  | error message =>
    by_cases again : delivery.attemptCount + 1 < config.maxAttempts
    · exact ⟨.pending, _, funext fun store => if_pos again, .inr (.inr ⟨rfl, again⟩)⟩
    · exact ⟨.failed, _, funext fun store => if_neg again, .inr (.inl rfl)⟩

end Statements

/-- The seconds of the times in the samples. -/
def parseTime (time : String) : Except String Int :=
  if time = "2026-01-01T00:00:00+00:00" then .ok 1767225600
  else if time = "2026-01-01T00:01:00+00:00" then .ok 1767225660
  else .error s!"parse time {time}"

end Iq.Notification
