import Iq.Notification.Runs

/-!
# The invariant of the dispatchers

The start marks of a delivery are counted against its attempts. A process may rely on the attempts
that it read as long as the row carries its claim, since every statement that takes the claim away
expects it, and no two processes hold one claim.
-/

namespace Iq.Notification

open Library

/-! ## Definitions -/

/-- What the starts of a delivery may be in a state: no more than the attempts while it waits or is
claimed, one more while the command runs, and never more than the bound. -/
def Delivery.Bounded (row : Delivery) (bound starts : Nat) : Prop :=
  match row.state with
  | .pending | .claimed _ => starts ≤ row.attemptCount ∧ row.attemptCount < bound
  | .running _ => starts ≤ row.attemptCount + 1 ∧ row.attemptCount < bound
  | .delivered | .deliveryUnknown | .failed | .expired => starts ≤ bound

/-- The claim that a row carries. -/
def DeliveryState.claim? : DeliveryState → Option String
  | .claimed claimId | .running claimId => some claimId
  | _ => none

/-- What a process may rely on: its claim is among the claims, it is unmarked until the start mark,
its command is run once, and a row that carries the claim has the attempts that the process read. -/
structure Journal.Follows (journal : Journal) (dispatcher : Dispatcher) : Prop where
  known : ∀ delivery, dispatcher.held = some delivery → delivery.claimId ∈ journal.claims
  attempts : ∀ delivery, dispatcher.held = some delivery → ∀ row ∈ journal.store.deliveries,
    row.state.claim? = some delivery.claimId → row.attemptCount = delivery.attemptCount
  unmarked : ∀ delivery, dispatcher = .claimed delivery →
    ∀ start ∈ journal.marks, start.claimId ≠ delivery.claimId
  marked : ∀ delivery, dispatcher = .marked delivery →
    ⟨delivery.claimId, delivery.id⟩ ∈ journal.marks ∧
      ∀ start ∈ journal.commands, start.claimId ≠ delivery.claimId

/-- The rows of a store with the starts so far. -/
structure Journal.Recorded (bound : Nat) (journal : Journal) : Prop where
  numbered : ∀ row ∈ journal.store.deliveries, row.id ≤ journal.store.lastId
  bounded : ∀ row ∈ journal.store.deliveries, row.Bounded bound (journal.starts row.id)
  known : ∀ row ∈ journal.store.deliveries, ∀ claimId, row.state.claim? = some claimId →
    claimId ∈ journal.claims
  marks : ∀ start ∈ journal.marks, start.claimId ∈ journal.claims ∧
    ∃ row ∈ journal.store.deliveries, row.id = start.id
  commands : ∀ start ∈ journal.commands, start ∈ journal.marks
  once : (journal.commands.map Start.claimId).Nodup

/-- Two processes hold two claims. -/
def Apart (dispatchers : Nat → Dispatcher) : Prop :=
  ∀ pid other delivery delivery', (dispatchers pid).held = some delivery →
    (dispatchers other).held = some delivery' → delivery.claimId = delivery'.claimId → pid = other

/-- The invariant of the runs. -/
structure System.Sound (bound : Nat) (system : System) : Prop where
  recorded : system.journal.Recorded bound
  follows : ∀ pid, system.journal.Follows (system.dispatchers pid)
  apart : Apart system.dispatchers

variable {parse : String → Except String Int} {config : Nat → Config} {system : System}
  {journal : Journal} {bound pid : Nat} {row : Delivery} {store : Store}
  {delivery : PendingDelivery} {dispatcher : Dispatcher} {dispatchers : Nat → Dispatcher}

/-! ## Processes -/

/-- Every journal follows an idle dispatcher. -/
theorem follows_idle : journal.Follows .idle := ⟨nofun, nofun, nofun, nofun⟩

/-- A process takes the place of another with the claim that this one held, or with none. -/
theorem Apart.update (apart : Apart dispatchers)
    (same : ∀ delivery, dispatcher.held = some delivery →
      ∀ other delivery', (dispatchers other).held = some delivery' →
        delivery.claimId = delivery'.claimId → other = pid) :
    Apart (Function.update dispatchers pid dispatcher) := by
  intro first second delivery delivery' held held' claims
  by_cases here : first = pid
  · rw [here, Function.update_self] at held
    by_cases there : second = pid
    · rw [here, there]
    · rw [Function.update_of_ne there] at held'
      exact absurd (same delivery held second delivery' held' claims) there
  · rw [Function.update_of_ne here] at held
    by_cases there : second = pid
    · rw [there, Function.update_self] at held'
      exact absurd (same delivery' held' first delivery held claims.symm) here
    · rw [Function.update_of_ne there] at held'
      exact apart first second delivery delivery' held held' claims

/-- A step of one process keeps the invariant. -/
theorem System.Sound.become (recorded : journal.Recorded bound)
    (others : ∀ other, other ≠ pid → journal.Follows (system.dispatchers other))
    (follows : journal.Follows dispatcher) (apart : Apart system.dispatchers)
    (same : ∀ delivery, dispatcher.held = some delivery →
      ∀ other delivery', (system.dispatchers other).held = some delivery' →
        delivery.claimId = delivery'.claimId → other = pid) :
    (system.become journal pid dispatcher).Sound bound := by
  refine ⟨recorded, fun other => ?_, apart.update same⟩
  show journal.Follows (Function.update system.dispatchers pid dispatcher other)
  by_cases here : other = pid
  · rw [here, Function.update_self]
    exact follows
  · rw [Function.update_of_ne here]
    exact others other here

/-- A process that leaves `dispatch_once` keeps the invariant. -/
theorem System.Sound.leave (recorded : journal.Recorded bound)
    (follows : ∀ pid, journal.Follows (system.dispatchers pid)) (apart : Apart system.dispatchers)
    (pid : Nat) : (system.become journal pid .idle).Sound bound :=
  .become recorded (fun other _ => follows other) follows_idle apart nofun

/-! ## Statements -/

/-- A row that carries no claim, or the claim of another row with its attempts. -/
def Delivery.Inherits (row old : Delivery) : Prop :=
  row.id = old.id ∧ (row.state.claim? = none ∨
    row.state.claim? = old.state.claim? ∧ row.attemptCount = old.attemptCount)

/-- A store whose rows keep their identities and have at most the claims that they had. -/
structure Store.Inherits (store old : Store) : Prop where
  lastId : store.lastId = old.lastId
  rows : ∀ row ∈ store.deliveries, ∃ former ∈ old.deliveries, row.Inherits former
  remains : ∀ former ∈ old.deliveries, ∃ row ∈ store.deliveries, row.id = former.id

/-- Inheritance goes on. -/
theorem Store.Inherits.trans {first second third : Store} (later : third.Inherits second)
    (earlier : second.Inherits first) : third.Inherits first := by
  refine ⟨later.lastId.trans earlier.lastId, fun row mem => ?_, fun row mem => ?_⟩
  · obtain ⟨middle, present, id, claim⟩ := later.rows row mem
    obtain ⟨former, stored, id', claim'⟩ := earlier.rows middle present
    refine ⟨former, stored, id.trans id', ?_⟩
    rcases claim with unclaimed | ⟨same, attempts⟩
    · exact .inl unclaimed
    · rcases claim' with unclaimed | ⟨same', attempts'⟩
      · exact .inl (same.trans unclaimed)
      · exact .inr ⟨same.trans same', attempts.trans attempts'⟩
  · obtain ⟨middle, present, id⟩ := earlier.remains row mem
    obtain ⟨last, stored, id'⟩ := later.remains middle present
    exact ⟨last, stored, id'.trans id⟩

/-- An update that gives a row no claim, or its own claim and attempts. -/
theorem Store.inherits_setState {chosen : Delivery → Bool} {state : DeliveryState}
    {attempts : Delivery → Nat} {next : Delivery → Option String}
    (claims : ∀ old ∈ store.deliveries, chosen old = true → state.claim? = none ∨
      state.claim? = old.state.claim? ∧ attempts old = old.attemptCount) :
    (store.setState chosen state attempts next).Inherits store := by
  refine ⟨rfl, fun row mem => ?_, fun old stored => ?_⟩
  · rcases mem_setState.mp mem with ⟨stored, -⟩ | ⟨old, stored, hit, rfl⟩
    · exact ⟨row, stored, rfl, .inr ⟨rfl, rfl⟩⟩
    · exact ⟨old, stored, rfl, claims old stored hit⟩
  · by_cases hit : chosen old = true
    · exact ⟨_, mem_setState.mpr (.inr ⟨old, stored, hit, rfl⟩), rfl⟩
    · exact ⟨old, mem_setState.mpr (.inl ⟨stored, Bool.not_eq_true _ ▸ hit⟩), rfl⟩

/-- What a process relies on outlives a store that inherits. -/
theorem Journal.Follows.inherits (follows : journal.Follows dispatcher)
    (inherits : store.Inherits journal.store) : (journal.write store).Follows dispatcher := by
  refine ⟨follows.known, fun delivery held row mem claimed => ?_, follows.unmarked,
    follows.marked⟩
  obtain ⟨old, stored, -, unclaimed | ⟨claim, attempts⟩⟩ := inherits.rows row mem
  · rw [unclaimed] at claimed
    cases claimed
  · rw [attempts]
    exact follows.attempts delivery held old stored (claim ▸ claimed)

/-- The journal over a store that inherits and whose rows are bounded. -/
theorem Journal.Recorded.inherits (recorded : journal.Recorded bound)
    (inherits : store.Inherits journal.store)
    (bounded : ∀ row ∈ store.deliveries, row.Bounded bound (journal.starts row.id)) :
    (journal.write store).Recorded bound := by
  refine ⟨fun row mem => ?_, bounded, fun row mem claimId claimed => ?_, fun start mem => ?_,
    recorded.commands, recorded.once⟩
  · obtain ⟨old, stored, id, -⟩ := inherits.rows row mem
    show row.id ≤ store.lastId
    rw [id, inherits.lastId]
    exact recorded.numbered old stored
  · obtain ⟨old, stored, -, unclaimed | ⟨claim, -⟩⟩ := inherits.rows row mem
    · rw [unclaimed] at claimed
      cases claimed
    · exact recorded.known old stored claimId (claim ▸ claimed)
  · obtain ⟨known, old, stored, same⟩ := recorded.marks start mem
    obtain ⟨row, present, id⟩ := inherits.remains old stored
    exact ⟨known, row, present, id.trans same⟩

/-- The rows of an update are bounded when the changed ones are. -/
theorem Journal.Recorded.bounded_setState (recorded : journal.Recorded bound)
    {chosen : Delivery → Bool} {state : DeliveryState} {attempts : Delivery → Nat}
    {next : Delivery → Option String}
    (changed : ∀ old ∈ journal.store.deliveries, chosen old = true →
      Delivery.Bounded { old with
        state := state
        attemptCount := attempts old
        nextAttemptAt := next old } bound (journal.starts old.id)) :
    ∀ row ∈ (journal.store.setState chosen state attempts next).deliveries,
      row.Bounded bound (journal.starts row.id) := by
  intro row mem
  rcases mem_setState.mp mem with ⟨stored, -⟩ | ⟨old, stored, hit, rfl⟩
  · exact recorded.bounded row stored
  · exact changed old stored hit

/-! ## New deliveries -/

/-- A store with the rows of another and further ones that are pending and untried. -/
structure Store.Extends (store old : Store) : Prop where
  numbered : (∀ row ∈ old.deliveries, row.id ≤ old.lastId) →
    ∀ row ∈ store.deliveries, row.id ≤ store.lastId
  lastId : old.lastId ≤ store.lastId
  rows : ∀ row ∈ store.deliveries, row ∈ old.deliveries ∨
    old.lastId < row.id ∧ row.state = .pending ∧ row.attemptCount = 0
  remains : ∀ row ∈ old.deliveries, row ∈ store.deliveries

/-- A store extends itself. -/
theorem Store.Extends.refl (store : Store) : store.Extends store :=
  ⟨id, Nat.le_refl _, fun _ mem => .inl mem, fun _ mem => mem⟩

/-- Extensions go on. -/
theorem Store.Extends.trans {first second third : Store} (later : third.Extends second)
    (earlier : second.Extends first) : third.Extends first := by
  refine ⟨later.numbered ∘ earlier.numbered, Nat.le_trans earlier.lastId later.lastId,
    fun row mem => ?_, fun row mem => later.remains row (earlier.remains row mem)⟩
  rcases later.rows row mem with middle | ⟨above, fresh⟩
  · exact earlier.rows row middle
  · exact .inr ⟨Nat.lt_of_le_of_lt earlier.lastId above, fresh⟩

/-- One insertion. -/
theorem Store.extends_insertDelivery (pending : row.state = .pending)
    (untried : row.attemptCount = 0) : (store.insertDelivery row).Extends store := by
  unfold Store.insertDelivery
  cases inserted : store.deliveries.insert? { row with id := store.lastId + 1 } with
  | none => exact .refl store
  | some deliveries =>
    refine ⟨fun numbered other mem => ?_, Nat.le_succ _, fun other mem => ?_, fun other mem => ?_⟩
    · rcases (Table.mem_of_insert? inserted).mp mem with old | rfl
      · exact Nat.le_succ_of_le (numbered other old)
      · exact Nat.le_refl _
    · rcases (Table.mem_of_insert? inserted).mp mem with old | rfl
      · exact .inl old
      · exact .inr ⟨Nat.lt_succ_self _, pending, untried⟩
    · exact (Table.mem_of_insert? inserted).mpr (.inl mem)

/-- Inserted deliveries extend the store. -/
theorem Store.extends_insertOriginals (eventId now : String) :
    (store.insertOriginals eventId now).Extends store := by
  have fold : ∀ (backends : List Backend) (now_store : Store), now_store.Extends store →
      (backends.foldl (fun (store : Store) backend =>
        if store.deliveries.any fun row =>
          row.eventId == eventId && row.backend == backend && row.redelivery.isNone then store
        else store.insertDelivery ⟨0, eventId, backend, .pending, 0, some now, none⟩)
        now_store).Extends store := by
    intro backends
    induction backends with
    | nil => exact fun _ extends_store => extends_store
    | cons backend rest fold_rest =>
      intro now_store extends_store
      rw [List.foldl_cons]
      apply fold_rest
      split
      · exact extends_store
      · exact (Store.extends_insertDelivery rfl rfl).trans extends_store
  exact fold store.enabled store (.refl store)

/-- An appended alert extends the store. -/
theorem extends_appendAlert (event : Event) (now : String) :
    (appendAlert event now store).Extends store := by
  unfold appendAlert
  split
  · exact .refl store
  · rename_i events inserted
    have same : Store.Extends ⟨store.deliveries, store.lastId, events, store.enabled⟩ store :=
      ⟨fun numbered => numbered, Nat.le_refl _, fun _ mem => .inl mem, fun _ mem => mem⟩
    exact (Store.extends_insertOriginals event.id now).trans same

/-- Registered backends extend the store. -/
theorem extends_registerBackends (config : Config) :
    (registerBackends config store).Extends store :=
  ⟨fun numbered => numbered, Nat.le_refl _, fun _ mem => .inl mem, fun _ mem => mem⟩

/-- A delivery that is repeated extends the store. -/
theorem extends_redeliver {id : Nat} {actor now : String} {later : Store}
    (redelivered : redeliver id actor now store = .ok later) : later.Extends store := by
  unfold redeliver at redelivered
  cases named : requireExactText actor "notification redelivery actor" with
  | error message =>
    rw [named] at redelivered
    cases redelivered
  | ok _ =>
    rw [named] at redelivered
    cases found : store.deliveries.find? id with
    | none =>
      rw [found] at redelivered
      cases redelivered
    | some row =>
      rw [found] at redelivered
      change (if _ then _ else if _ then _ else _) = Except.ok later at redelivered
      split at redelivered
      · cases redelivered
      · split at redelivered
        · cases redelivered
        · cases redelivered
          exact Store.extends_insertDelivery rfl rfl

/-- The journal over an extended store. -/
theorem Journal.Recorded.extends (recorded : journal.Recorded bound) (positive : 0 < bound)
    (extends_store : store.Extends journal.store) : (journal.write store).Recorded bound := by
  refine ⟨extends_store.numbered recorded.numbered, fun row mem => ?_,
    fun row mem claimId claimed => ?_, fun start mem => ?_, recorded.commands, recorded.once⟩
  · rcases extends_store.rows row mem with old | ⟨above, pending, untried⟩
    · exact recorded.bounded row old
    · have unstarted : journal.starts row.id = 0 := by
        refine List.countP_eq_zero.mpr fun start mem => ?_
        obtain ⟨-, old, stored, same⟩ := recorded.marks start mem
        have below := recorded.numbered old stored
        rw [beq_iff_eq]
        omega
      show row.Bounded bound (journal.starts row.id)
      rw [unstarted, Delivery.Bounded, pending, untried]
      exact ⟨Nat.le_refl _, positive⟩
  · rcases extends_store.rows row mem with old | ⟨-, pending, -⟩
    · exact recorded.known row old claimId claimed
    · rw [pending] at claimed
      cases claimed
  · obtain ⟨known, old, stored, same⟩ := recorded.marks start mem
    exact ⟨known, old, extends_store.remains old stored, same⟩

/-- A journal goes on following a dispatcher while the store is extended. -/
theorem Journal.Follows.extends (follows : journal.Follows dispatcher)
    (extends_store : store.Extends journal.store) : (journal.write store).Follows dispatcher := by
  refine ⟨follows.known, fun delivery held row mem claimed => ?_, follows.unmarked,
    follows.marked⟩
  rcases extends_store.rows row mem with old | ⟨-, pending, -⟩
  · exact follows.attempts delivery held row old claimed
  · rw [pending] at claimed
    cases claimed

/-! ## One step of a process -/

/-- The claim of a delivery. -/
theorem System.Sound.claim (sound : system.Sound bound) (pid : Nat) (now claimId : String) :
    (system.claim config pid now claimId).Sound bound := by
  unfold System.claim
  split
  · split
    · exact sound
    · rename_i outside fresh
      split
      · rename_i delivery later claimed
        obtain ⟨row, event, mem, pending, read, rfl⟩ := claimNext_eq_some claimed
        obtain ⟨id, attempts, claim, -, -⟩ := readPending_eq_ok read
        have stored : row ∈ system.journal.store.deliveries := mem
        have waiting := sound.recorded.bounded row stored
        rw [Delivery.Bounded, pending] at waiting
        have changed : ∀ other ∈ (claimedStore (registerBackends (config pid)
            system.journal.store) delivery.id claimId).deliveries,
            (other ∈ system.journal.store.deliveries) ∨
              other = { row with state := .claimed claimId } := by
          intro other present
          rcases mem_setState.mp present with ⟨old, -⟩ | ⟨old, old_stored, hit, rfl⟩
          · exact .inl old
          · have same : old = row :=
              Table.eq_of_key old_stored mem ((isAt_iff.mp hit).1.trans id)
            exact .inr (by rw [same])
        have kept : ∀ old ∈ system.journal.store.deliveries, ∃ other ∈ (claimedStore
            (registerBackends (config pid) system.journal.store) delivery.id claimId).deliveries,
            other.id = old.id := by
          intro old old_stored
          by_cases hit : old.isAt delivery.id .pending = true
          · exact ⟨_, mem_setState.mpr (.inr ⟨old, old_stored, hit, rfl⟩), rfl⟩
          · exact ⟨old, mem_setState.mpr (.inl ⟨old_stored, Bool.not_eq_true _ ▸ hit⟩), rfl⟩
        have unused : ∀ pid delivery', (system.dispatchers pid).held = some delivery' →
            delivery'.claimId ≠ claimId :=
          fun pid delivery' held same => fresh (same ▸ (sound.follows pid).known delivery' held)
        refine .become ⟨?_, ?_, ?_, ?_, sound.recorded.commands, sound.recorded.once⟩ ?_ ?_
          sound.apart ?_
        · intro other present
          rcases changed other present with old | rfl
          · exact sound.recorded.numbered other old
          · exact sound.recorded.numbered row stored
        · intro other present
          rcases changed other present with old | rfl
          · exact sound.recorded.bounded other old
          · exact waiting
        · intro other present claim' claimed'
          rcases changed other present with old | rfl
          · exact List.mem_cons_of_mem _ (sound.recorded.known other old claim' claimed')
          · rw [Option.some.inj claimed']
            exact List.mem_cons_self
        · intro start marked
          obtain ⟨known, old, old_stored, same⟩ := sound.recorded.marks start marked
          obtain ⟨other, present, kept_id⟩ := kept old old_stored
          exact ⟨List.mem_cons_of_mem _ known, other, present, kept_id.trans same⟩
        · intro other away
          have follows := sound.follows other
          refine ⟨fun delivery' held => List.mem_cons_of_mem _ (follows.known delivery' held),
            fun delivery' held other_row present claimed' => ?_, follows.unmarked,
            follows.marked⟩
          rcases changed other_row present with old | rfl
          · exact follows.attempts delivery' held other_row old claimed'
          · exact absurd (Option.some.inj claimed').symm (unused other delivery' held)
        · refine ⟨fun delivery' held => ?_, fun delivery' held other_row present claimed' => ?_,
            fun delivery' held start marked => ?_, nofun⟩
          · cases held
            rw [claim]
            exact List.mem_cons_self
          · cases held
            rw [claim] at claimed'
            rcases changed other_row present with old | rfl
            · exact absurd (sound.recorded.known other_row old claimId claimed') fresh
            · exact attempts.symm
          · cases held
            rw [claim]
            rintro rfl
            exact fresh (sound.recorded.marks start marked).1
        · intro delivery' held other other_delivery other_held same
          cases held
          rw [claim] at same
          exact absurd same.symm (unused other other_delivery other_held)
      · exact sound
  · exact sound

/-- A process goes on with the delivery that it held. -/
theorem System.Sound.same_claim (sound : system.Sound bound)
    (held : (system.dispatchers pid).held = some delivery) :
    ∀ other delivery', (system.dispatchers other).held = some delivery' →
      delivery.claimId = delivery'.claimId → other = pid :=
  fun other delivery' other_held same =>
    (sound.apart pid other delivery delivery' held other_held same).symm

/-- The start mark of a claimed delivery. -/
theorem System.Sound.mark (sound : system.Sound bound)
    (claimed : system.dispatchers pid = .claimed delivery)
    (marked : markCommandStarted delivery.id delivery.claimId system.journal.store = .ok store) :
    (system.become ⟨store, system.journal.claims,
      ⟨delivery.claimId, delivery.id⟩ :: system.journal.marks, system.journal.commands⟩ pid
      (.marked delivery)).Sound bound := by
  obtain ⟨⟨row, mem, id, state⟩, rfl⟩ := markCommandStarted_eq_ok.mp marked
  have held : (system.dispatchers pid).held = some delivery := by rw [claimed]; rfl
  have own := sound.follows pid
  have known := own.known delivery held
  have unmarked := own.unmarked delivery claimed
  have inherits : (system.journal.store.setState (·.isAt delivery.id (.claimed delivery.claimId))
      (.running delivery.claimId) Delivery.attemptCount Delivery.nextAttemptAt).Inherits
      system.journal.store :=
    Store.inherits_setState fun old _ hit => .inr ⟨by rw [(isAt_iff.mp hit).2]; rfl, rfl⟩
  have recorded : (system.journal.write _).Recorded bound := sound.recorded.inherits inherits
    (sound.recorded.bounded_setState fun old stored hit => by
      have waiting := sound.recorded.bounded old stored
      rw [Delivery.Bounded, (isAt_iff.mp hit).2] at waiting
      exact ⟨Nat.le_succ_of_le waiting.1, waiting.2⟩)
  have follows : ∀ other, (system.journal.write _).Follows (system.dispatchers other) :=
    fun other => (sound.follows other).inherits inherits
  refine .become ⟨recorded.numbered, fun other present => ?_, recorded.known,
    fun start listed => ?_,
    fun start mem => List.mem_cons_of_mem _ (sound.recorded.commands start mem),
    sound.recorded.once⟩ (fun other away => ?_) ?_ sound.apart ?_
  · -- The row of the mark gains a start, and it was claimed; no other row has its identity.
    show other.Bounded bound (List.countP (·.id == other.id) (_ :: system.journal.marks))
    rw [List.countP_cons]
    rcases mem_setState.mp present with ⟨old, missed⟩ | ⟨old, stored, hit, rfl⟩
    · have apart_id : delivery.id ≠ other.id := by
        intro same
        have equal := Table.eq_of_key old mem (same.symm.trans id.symm)
        rw [equal, isAt_iff.mpr ⟨id, state⟩] at missed
        cases missed
      rw [if_neg (by simpa using apart_id)]
      exact sound.recorded.bounded other old
    · have waiting := sound.recorded.bounded old stored
      rw [Delivery.Bounded, (isAt_iff.mp hit).2] at waiting
      rw [if_pos (by simpa using (isAt_iff.mp hit).1.symm)]
      exact ⟨Nat.succ_le_succ waiting.1, waiting.2⟩
  · rcases List.mem_cons.mp listed with rfl | earlier
    · obtain ⟨other, present, same⟩ := inherits.remains row mem
      exact ⟨known, other, present, same.trans id⟩
    · exact recorded.marks start earlier
  · refine ⟨(follows other).known, (follows other).attempts, fun delivery' held' start mem => ?_,
      fun delivery' held' => ?_⟩
    · rcases List.mem_cons.mp mem with rfl | earlier
      · intro same
        have other_held : (system.dispatchers other).held = some delivery' := by rw [held']; rfl
        exact away (sound.same_claim held other delivery' other_held same)
      · exact (follows other).unmarked delivery' held' start earlier
    · have marked' := (follows other).marked delivery' held'
      exact ⟨List.mem_cons_of_mem _ marked'.1, marked'.2⟩
  · refine ⟨fun delivery' held' => ?_, fun delivery' held' => ?_, nofun, fun delivery' held' => ?_⟩
    · cases held'
      exact known
    · cases held'
      exact (follows pid).attempts delivery held
    · cases held'
      exact ⟨List.mem_cons_self,
        fun start mem => unmarked start (sound.recorded.commands start mem)⟩
  · intro delivery' held'
    cases held'
    exact sound.same_claim held

/-- The command of a marked delivery. -/
theorem System.Sound.run (sound : system.Sound bound) (pid : Nat) (outcome : Except String Unit) :
    (system.run pid outcome).Sound bound := by
  unfold System.run
  split
  · rename_i delivery marked
    have held : (system.dispatchers pid).held = some delivery := by rw [marked]; rfl
    have own := sound.follows pid
    obtain ⟨listed, fresh⟩ := own.marked delivery marked
    refine .become ⟨sound.recorded.numbered, sound.recorded.bounded, sound.recorded.known,
      sound.recorded.marks, fun start mem => ?_, ?_⟩ (fun other away => ?_) ?_ sound.apart ?_
    · rcases List.mem_cons.mp mem with rfl | earlier
      · exact listed
      · exact sound.recorded.commands start earlier
    · rw [List.map_cons, List.nodup_cons]
      refine ⟨fun mem => ?_, sound.recorded.once⟩
      obtain ⟨start, earlier, same⟩ := List.mem_map.mp mem
      exact fresh start earlier same
    · have follows := sound.follows other
      refine ⟨follows.known, follows.attempts, follows.unmarked, fun delivery' held' => ?_⟩
      have marked' := follows.marked delivery' held'
      refine ⟨marked'.1, fun start mem => ?_⟩
      rcases List.mem_cons.mp mem with rfl | earlier
      · intro same
        have other_held : (system.dispatchers other).held = some delivery' := by rw [held']; rfl
        exact away (sound.same_claim held other delivery' other_held same)
      · exact marked'.2 start earlier
    · refine ⟨fun delivery' held' => ?_, fun delivery' held' => ?_, nofun, nofun⟩
      · cases held'
        exact own.known delivery held
      · cases held'
        exact own.attempts delivery held
    · intro delivery' held'
      cases held'
      exact sound.same_claim held
  · exact sound

/-- A statement on the row of a claim that takes the claim away, after which a process leaves. -/
theorem System.Sound.release (sound : system.Sound bound) {expected next : DeliveryState}
    {attempts : Nat} {nextAttemptAt : Option String} (released : next.claim? = none)
    (bounded : ∀ old ∈ system.journal.store.deliveries, old.id = delivery.id →
      old.state = expected → Delivery.Bounded { old with
        state := next
        attemptCount := attempts
        nextAttemptAt := nextAttemptAt } bound (system.journal.starts old.id)) :
    (system.become (system.journal.execute (setDeliveryState delivery.id expected next attempts
      nextAttemptAt)) pid .idle).Sound bound := by
  unfold Journal.execute
  split
  · exact .leave sound.recorded sound.follows sound.apart pid
  · rename_i later set
    obtain ⟨-, rfl⟩ := setDeliveryState_eq_ok.mp set
    have inherits : (system.journal.store.setState (·.isAt delivery.id expected) next
        (fun _ => attempts) fun _ => nextAttemptAt).Inherits system.journal.store :=
      Store.inherits_setState fun _ _ _ => .inl released
    exact .leave (sound.recorded.inherits inherits (sound.recorded.bounded_setState
      fun old stored hit => bounded old stored (isAt_iff.mp hit).1 (isAt_iff.mp hit).2))
      (fun other => (sound.follows other).inherits inherits) sound.apart pid

/-- The step after a claim. -/
theorem System.Sound.proceed (sound : system.Sound bound) (pid : Nat) (now : Int) :
    (system.proceed parse config pid now).Sound bound := by
  have leaves := System.Sound.leave sound.recorded sound.follows sound.apart pid
  unfold System.proceed
  split
  · rename_i delivery claimed
    have held : (system.dispatchers pid).held = some delivery := by rw [claimed]; rfl
    split
    · exact leaves
    · exact leaves
    · refine sound.release rfl fun old stored id state => ?_
      have waiting := sound.recorded.bounded old stored
      rw [Delivery.Bounded, state] at waiting
      show system.journal.starts old.id ≤ bound
      omega
    · split
      · exact leaves
      · rename_i marked
        exact sound.mark claimed marked
  · exact sound

/-- The record of an outcome. -/
theorem System.Sound.record (sound : system.Sound bound) (pid : Nat) (retryAt : Nat → String)
    (limit : (config pid).maxAttempts ≤ bound) :
    (system.record config pid retryAt).Sound bound := by
  unfold System.record
  split
  · rename_i delivery outcome ran
    have held : (system.dispatchers pid).held = some delivery := by rw [ran]; rfl
    have running : ∀ old ∈ system.journal.store.deliveries,
        old.state = .running delivery.claimId →
        system.journal.starts old.id ≤ delivery.attemptCount + 1 ∧
          delivery.attemptCount < bound := by
      intro old stored state
      have bounded := sound.recorded.bounded old stored
      have attempts := (sound.follows pid).attempts delivery held old stored (by rw [state]; rfl)
      rw [Delivery.Bounded, state, attempts] at bounded
      exact bounded
    obtain ⟨next, nextAttemptAt, recorded, transition⟩ :=
      recordOutcome_eq (config pid) delivery outcome retryAt
    rw [recorded]
    rcases transition with rfl | rfl | ⟨rfl, again⟩
    · refine sound.release rfl fun old stored id state => ?_
      have started := running old stored state
      show system.journal.starts old.id ≤ bound
      omega
    · refine sound.release rfl fun old stored id state => ?_
      have started := running old stored state
      show system.journal.starts old.id ≤ bound
      omega
    · refine sound.release rfl fun old stored id state => ?_
      have started := running old stored state
      show system.journal.starts old.id ≤ delivery.attemptCount + 1 ∧
        delivery.attemptCount + 1 < bound
      omega
  · exact sound

/-- A restart takes every claim away. -/
theorem System.Sound.restart (sound : system.Sound bound) :
    System.Sound bound ⟨system.journal.write (markStartedUnknownAfterRestart system.journal.store),
      system.dispatchers⟩ := by
  have first : (system.journal.store.setState (·.state.isClaimed) .pending Delivery.attemptCount
      Delivery.nextAttemptAt).Inherits system.journal.store :=
    Store.inherits_setState fun _ _ _ => .inl rfl
  have recorded : (system.journal.write _).Recorded bound := sound.recorded.inherits first
    (sound.recorded.bounded_setState fun old stored hit => by
      have bounded := sound.recorded.bounded old stored
      cases state : old.state with
      | claimed claimId =>
        rw [Delivery.Bounded, state] at bounded
        exact bounded
      | _ =>
        rw [state] at hit
        cases hit)
  have second : (markStartedUnknownAfterRestart system.journal.store).Inherits
      (system.journal.write (system.journal.store.setState (·.state.isClaimed) .pending
        Delivery.attemptCount Delivery.nextAttemptAt)).store :=
    Store.inherits_setState fun _ _ _ => .inl rfl
  refine ⟨recorded.inherits second (recorded.bounded_setState fun old stored hit => ?_),
    fun pid => (sound.follows pid).inherits (second.trans first), sound.apart⟩
  have bounded := recorded.bounded old stored
  cases state : old.state with
  | running claimId =>
    rw [Delivery.Bounded, state] at bounded
    exact Nat.le_trans bounded.1 bounded.2
  | _ =>
    rw [state] at hit
    cases hit

/-- Every step keeps the invariant. -/
theorem System.Sound.step (limits : ∀ pid, (config pid).maxAttempts ≤ bound)
    (sound : system.Sound bound) (label : Label) :
    (system.step parse config label).Sound bound := by
  have positive : 0 < bound := Nat.lt_of_lt_of_le (config 0).some_attempt (limits 0)
  have extended : ∀ later : Store, later.Extends system.journal.store →
      System.Sound bound ⟨system.journal.write later, system.dispatchers⟩ :=
    fun later extends_store => ⟨sound.recorded.extends positive extends_store,
      fun pid => (sound.follows pid).extends extends_store, sound.apart⟩
  cases label with
  | append event now => exact extended _ (extends_appendAlert event now)
  | configure pid => exact extended _ (extends_registerBackends (config pid))
  | claim pid now claimId => exact sound.claim pid now claimId
  | proceed pid now => exact sound.proceed pid now
  | run pid outcome => exact sound.run pid outcome
  | record pid retryAt => exact sound.record pid retryAt (limits pid)
  | stop pid => exact .leave sound.recorded sound.follows sound.apart pid
  | restart => exact sound.restart
  | redeliver id actor now =>
    show System.Sound bound ⟨system.journal.execute (redeliver id actor now), system.dispatchers⟩
    unfold Journal.execute
    split
    · exact sound
    · rename_i later redelivered
      exact extended later (extends_redeliver redelivered)

end Iq.Notification
