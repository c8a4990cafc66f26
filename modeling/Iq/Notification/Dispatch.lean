import Iq.Notification.Delivery

/-!
# One dispatch

`dispatch_once` of one process from its claim to its return. Between the commit of the claim and the
next statement it reads the event's time, looks the backend up and bounds the payload; an error
there returns without touching the claim.
-/

namespace Iq.Notification

open Library

/-- What one call meets: the clock, the identity of its claim, whether the statements after the
claim are carried out, and the outcome of a command. -/
structure Surroundings where
  claimNow : String
  claimId : String
  now : Int
  writes : Bool
  outcome : BackendConfig → String → Except String Unit
  retryAt : Nat → String
  records : Bool

/-- How a call ends: the store, the value returned unless the call panics, and whether it started
the command. -/
structure Dispatched where
  store : Store
  returned : Option (Except String Nat)
  started : Bool

/-- A statement of a process, which the store carries out or refuses. -/
def attempt (carried : Bool) (statement : Store → Except String Store) (store : Store) :
    Except String Store :=
  if carried then statement store else .error "database is locked"

/-- A statement that works. -/
@[simp] theorem attempt_true (statement : Store → Except String Store) (store : Store) :
    attempt true statement store = statement store := rfl

section Dispatch

variable (parse : String → Except String Int) (config : Config) (met : Surroundings)

/-- `dispatch_once` after the commit of its claim. -/
def dispatchClaimed (delivery : PendingDelivery) (store : Store) : Dispatched :=
  match planDelivery parse config met.now delivery with
  | .panics => ⟨store, none, false⟩
  | .fail message => ⟨store, some (.error message), false⟩
  | .expire =>
    match attempt met.writes (setDeliveryState delivery.id (.claimed delivery.claimId) .expired
      delivery.attemptCount none) store with
    | .error message => ⟨store, some (.error message), false⟩
    | .ok expired => ⟨expired, some (.ok 1), false⟩
  | .start backend payload =>
    match attempt met.writes (markCommandStarted delivery.id delivery.claimId) store with
    | .error message => ⟨store, some (.error message), false⟩
    | .ok started =>
      match attempt met.records (recordOutcome config delivery (met.outcome backend payload)
        met.retryAt) started with
      | .error message => ⟨started, some (.error message), true⟩
      | .ok recorded => ⟨recorded, some (.ok 1), true⟩

/-- `dispatch_once`. -/
def dispatchOnce (store : Store) : Dispatched :=
  match claimNext met.claimNow met.claimId (registerBackends config store) with
  | .error message => ⟨registerBackends config store, some (.error message), false⟩
  | .ok (none, claimed) => ⟨claimed, some (.ok 0), false⟩
  | .ok (some delivery, claimed) => dispatchClaimed parse config met delivery claimed

end Dispatch

/-- A delivery that was touched is pending with a later time, failed or expired. -/
def Delivery.Released (before : Store) (row : Delivery) : Prop :=
  row.state = .failed ∨ row.state = .expired ∨
    (row.state = .pending ∧ ∃ old ∈ before.deliveries, old.id = row.id ∧
      old.nextAttemptAt.getD "" < row.nextAttemptAt.getD "")

/-- A call that returns without having started the command has released every delivery that it
touched. -/
def Dispatched.NotStranded (before : Store) (dispatched : Dispatched) : Prop :=
  dispatched.returned.isSome = true → dispatched.started = false →
    ∀ row ∈ dispatched.store.deliveries, row ∉ before.deliveries → row.Released before

/-- A claimed delivery with a time stamp that is read, whose next statement is carried out, and that
is too old or has a configured backend and a message within its bound. -/
def Dispatchable (parse : String → Except String Int) (config : Config) (met : Surroundings)
    (delivery : PendingDelivery) : Prop :=
  ∃ created, parse delivery.eventCreatedAt = .ok created ∧
    (config.AgeOverflows ∨ met.writes = true ∧
      (ageSeconds config * 10 ^ 9 < met.now - created ∨
        delivery.backend ∈ config.backends.map backendName ∧
          (payloadMessage delivery.payload).utf8ByteSize ≤ 2048))

/-! ## The plan -/

variable {parse : String → Except String Int} {config : Config} {met : Surroundings}
  {delivery : PendingDelivery} {store : Store} {row : Delivery} {event : Event}

/-- A claimed delivery is dispatched when no step before the next statement fails and the statement
is carried out. -/
theorem dispatchable_iff :
    Dispatchable parse config met delivery ↔
      planDelivery parse config met.now delivery = .panics ∨
      met.writes = true ∧ (planDelivery parse config met.now delivery = .expire ∨
        ∃ backend payload,
          planDelivery parse config met.now delivery = .start backend payload) := by
  unfold Dispatchable planDelivery
  cases read : parse delivery.eventCreatedAt with
  | error message => simp
  | ok created =>
    have same : ∀ other, Except.ok created = (.ok other : Except String Int) ↔ other = created :=
      fun other => ⟨fun equal => (Except.ok.inj equal).symm, fun equal => by rw [equal]⟩
    simp only [same, exists_eq_left]
    by_cases overflows : config.AgeOverflows
    · rw [if_pos overflows]
      simp [overflows]
    · rw [if_neg overflows]
      by_cases old : ageSeconds config * 10 ^ 9 < met.now - created
      · rw [if_pos old]
        simp only [overflows, old, true_or, false_or, reduceCtorEq, exists_false]
      · rw [if_neg old]
        cases configured : config.backends.find? (backendName · == delivery.backend) with
        | none =>
          have missing : delivery.backend ∉ config.backends.map backendName := by
            intro mem
            obtain ⟨backend, listed, named⟩ := List.mem_map.mp mem
            exact List.find?_eq_none.mp configured backend listed (beq_iff_eq.mpr named)
          simp only [overflows, old, missing, false_and, and_false, or_self, reduceCtorEq,
            exists_false]
        | some backend =>
          have listed : delivery.backend ∈ config.backends.map backendName :=
            List.mem_map.mpr ⟨backend, List.mem_of_find?_eq_some configured,
              by simpa using List.find?_some configured⟩
          unfold boundedPayload
          by_cases long : 2048 < (payloadMessage delivery.payload).utf8ByteSize
          · have overlong : ¬(payloadMessage delivery.payload).utf8ByteSize ≤ 2048 := by omega
            simp only [overflows, old, long, overlong, if_true, and_false, or_self, reduceCtorEq,
              exists_false]
          · have bounded : (payloadMessage delivery.payload).utf8ByteSize ≤ 2048 := by omega
            simp only [overflows, old, long, listed, bounded, if_false, false_or, true_and,
              reduceCtorEq, Plan.start.injEq]
            exact and_congr_right fun _ => iff_of_true trivial ⟨backend, _, rfl, rfl⟩

/-! ## The store after the claim -/

/-- The claimed row is in the store. -/
theorem mem_claimedStore (mem : row ∈ store.deliveries) (pending : row.state = .pending)
    (claimId : String) :
    { row with state := .claimed claimId } ∈ (claimedStore store row.id claimId).deliveries :=
  mem_setState.mpr (.inr ⟨row, mem, isAt_iff.mpr ⟨rfl, pending⟩, rfl⟩)

/-- The claimed row was not there before, and it has not been released. -/
theorem claimed_touched (mem : row ∈ store.deliveries) (pending : row.state = .pending)
    (claimId : String) :
    { row with state := .claimed claimId } ∉ store.deliveries ∧
      ¬Delivery.Released store { row with state := .claimed claimId } := by
  constructor
  · intro claimed
    have same : { row with state := .claimed claimId } = row :=
      Table.eq_of_key claimed mem rfl
    have states := congrArg Delivery.state same
    rw [pending] at states
    cases states
  · rintro (failed | expired | ⟨again, -⟩)
    · cases failed
    · cases expired
    · cases again

/-- A row of a claimed store that was not there before is the claimed one. -/
theorem touched_claimedStore (mem : row ∈ store.deliveries) {claimId : String} {other : Delivery}
    (present : other ∈ (claimedStore store row.id claimId).deliveries)
    (touched : other ∉ store.deliveries) : other = { row with state := .claimed claimId } := by
  rcases mem_setState.mp present with ⟨old, -⟩ | ⟨old, stored, chosen, rfl⟩
  · exact absurd old touched
  · rw [Table.eq_of_key stored mem (isAt_iff.mp chosen).1]

/-! ## The call -/

/-- A claim that is left as it is strands its delivery. -/
theorem stranded_of_claimed (mem : row ∈ store.deliveries) (pending : row.state = .pending)
    (claimId message : String) :
    ¬Dispatched.NotStranded store
      ⟨claimedStore store row.id claimId, some (.error message), false⟩ := by
  intro released
  obtain ⟨touched, kept⟩ := claimed_touched mem pending claimId
  exact kept (released rfl rfl _ (mem_claimedStore mem pending claimId) touched)

/-- An expiry releases the claimed delivery. -/
theorem notStranded_of_expired (mem : row ∈ store.deliveries) (claimId : String)
    (attempts : Nat) {later : Store}
    (expired : setDeliveryState row.id (.claimed claimId) .expired attempts none
      (claimedStore store row.id claimId) = .ok later) :
    Dispatched.NotStranded store ⟨later, some (.ok 1), false⟩ := by
  intro _ _ other present touched
  unfold setDeliveryState at expired
  split at expired
  · cases expired
    rcases mem_setState.mp present with ⟨kept, missed⟩ | ⟨old, -, -, rfl⟩
    · rw [touched_claimedStore mem kept touched] at missed
      rw [isAt_iff.mpr ⟨rfl, rfl⟩] at missed
      cases missed
    · exact .inr (.inl rfl)
  · cases expired

/-- A claimed delivery is not stranded if and only if it can be dispatched. -/
theorem dispatchClaimed_notStranded_iff (mem : row ∈ store.deliveries)
    (pending : row.state = .pending) (id : delivery.id = row.id) :
    (dispatchClaimed parse config met delivery
        (claimedStore store row.id delivery.claimId)).NotStranded store ↔
      Dispatchable parse config met delivery := by
  have claimed := mem_claimedStore mem pending delivery.claimId
  have present : (claimedStore store row.id delivery.claimId).deliveries.any
      (·.isAt row.id (.claimed delivery.claimId)) = true :=
    Table.any_eq_true.mpr ⟨_, claimed, isAt_iff.mpr ⟨rfl, rfl⟩⟩
  have stranded := stranded_of_claimed mem pending delivery.claimId
  rw [dispatchable_iff]
  unfold dispatchClaimed
  cases planned : planDelivery parse config met.now delivery with
  | panics => exact iff_of_true nofun (.inl rfl)
  | fail message => exact iff_of_false (stranded message) (by simp)
  | expire =>
    cases carried : met.writes with
    | false => exact iff_of_false (stranded _) (by simp)
    | true =>
      refine iff_of_true ?_ (.inr ⟨rfl, .inl rfl⟩)
      simp only [attempt_true, id]
      cases outcome : setDeliveryState row.id (.claimed delivery.claimId) .expired
          delivery.attemptCount none (claimedStore store row.id delivery.claimId) with
      | error message =>
        rw [setDeliveryState, if_pos present] at outcome
        cases outcome
      | ok later => exact notStranded_of_expired mem delivery.claimId delivery.attemptCount outcome
  | start backend payload =>
    cases carried : met.writes with
    | false => exact iff_of_false (stranded _) (by simp)
    | true =>
      refine iff_of_true ?_ (.inr ⟨rfl, .inr ⟨backend, payload, rfl⟩⟩)
      have started : markCommandStarted row.id delivery.claimId
          (claimedStore store row.id delivery.claimId) = .ok _ := if_pos present
      simp only [attempt_true, id, started]
      split <;> exact nofun

/-- A call strands no delivery exactly when the one it claims can be dispatched. -/
theorem dispatchOnce_notStranded_iff (parse : String → Except String Int) (config : Config)
    (met : Surroundings) (store : Store) :
    (dispatchOnce parse config met store).NotStranded store ↔
      ∀ row event delivery, store.nextDue met.claimNow = some (row, event) →
        readPending met.claimId row event = .ok delivery →
        Dispatchable parse config met delivery := by
  have untouched : ∀ returned,
      Dispatched.NotStranded store ⟨registerBackends config store, returned, false⟩ :=
    fun _ _ _ row mem touched => absurd mem touched
  have same_due : (registerBackends config store).nextDue met.claimNow =
      store.nextDue met.claimNow := rfl
  unfold dispatchOnce
  cases due : store.nextDue met.claimNow with
  | none =>
    rw [claimNext_of_none (same_due.trans due)]
    exact iff_of_true (untouched _) (fun _ _ _ selected => nomatch selected)
  | some selected =>
    obtain ⟨row, event⟩ := selected
    obtain ⟨mem, pending⟩ := nextDue_eq_some due
    cases read : readPending met.claimId row event with
    | error message =>
      rw [claimNext_of_error (same_due.trans due) read]
      refine iff_of_true (untouched _) fun other event' delivery selected read' => ?_
      cases selected
      rw [read] at read'
      cases read'
    | ok delivery =>
      obtain ⟨id, -, claim, -, -⟩ := readPending_eq_ok read
      have whole : (∀ other event' delivery', some (row, event) = some (other, event') →
          readPending met.claimId other event' = .ok delivery' →
          Dispatchable parse config met delivery') ↔ Dispatchable parse config met delivery := by
        constructor
        · intro all
          exact all row event delivery rfl read
        · intro one other event' delivery' selected read'
          cases selected
          rw [read] at read'
          cases read'
          exact one
      have stored : row ∈ (registerBackends config store).deliveries := mem
      have exact_call := @dispatchClaimed_notStranded_iff parse config met delivery
        (registerBackends config store) row stored pending id
      rw [← id, claim] at exact_call
      rw [claimNext_of_ok (same_due.trans due) read, whole]
      exact exact_call

/-- A claimed delivery of a backend that is no longer configured is stranded. -/
theorem dispatchOnce_unconfigured_stranded :
    ¬∀ parse config met store, (dispatchOnce parse config met store).NotStranded store := by
  intro released
  let created := "2026-01-01T00:00:00+00:00"
  let event : Event := ⟨"e1", "item", "guidance_required", created, .null, .null, .null⟩
  let row : Delivery := ⟨1, "e1", .wslg, .pending, 0, some created, none⟩
  let store : Store := ⟨⟨[row], by decide⟩, 1, ⟨[event], by decide⟩, [.wslg]⟩
  let config : Config := ⟨[], 5, 86400, by decide, by decide, by decide⟩
  let met : Surroundings :=
    ⟨"2026-01-01T00:01:00+00:00", "claim", 1767225660, true, fun _ _ => .ok (),
      fun _ => "2026-01-01T00:02:00+00:00", true⟩
  have settled := (dispatchOnce_notStranded_iff parseTime config met store).mp
    (released _ _ _ _)
  obtain ⟨created, read, overflows | ⟨-, old | ⟨listed, -⟩⟩⟩ :=
    settled row event ⟨1, "e1", .wslg, 0, created, ⟨"local", "item", "unknown",
      "guidance_required"⟩, "claim"⟩ (by decide +kernel) (by decide +kernel)
  · exact absurd overflows (by decide)
  · cases read
    exact absurd old (by decide)
  · cases listed

end Iq.Notification
