import Mathlib.Data.List.Sort
import Iq.Projection.Outbox

/-!
# The issue reservation outbox

Items whose issue is visible in full get their issue when they are enqueued. One pass over the
outbox asks the provider for each pending item in turn. The answers of the provider are arbitrary,
for each item its own.
-/

namespace Iq

open Library

/-- The values of `reservation_state`. -/
inductive ReservationState where
  | none
  | pending
  | reserved
  deriving DecidableEq, Repr

/-- A row of `item_state_repository_bindings`. Its provider, repository and visibility are those of
the snapshot, written with it and never updated. -/
structure ItemBinding where
  itemId : String
  snapshot : StateRepositorySnapshot
  reservationState : ReservationState
  createdAt : String
  deriving DecidableEq, Repr

/-- A row of `item_state_repository_reservations`. -/
structure ItemReservation where
  itemId : String
  provider : IssueProvider
  repository : String
  artifactId : String
  artifactUrl : String
  deriving DecidableEq, Repr

/-- The provider and the issue repository of a binding with full visibility. -/
def StateRepositorySnapshot.fullIssue? (snapshot : StateRepositorySnapshot) :
    Option (IssueProvider × IssueRepositorySnapshot) :=
  snapshot.issue?.filter fun found => found.2.visibility == .full

/-- The two tables of the outbox. Only items with full visibility are pending, and a pending item
has no reservation. -/
structure ReservationOutbox where
  bindings : Table ItemBinding.itemId
  reservations : Table ItemReservation.itemId
  /-- The `CHECK` of the bindings. -/
  full : ∀ binding ∈ bindings, binding.reservationState ≠ .none → binding.snapshot.fullIssue?.isSome
  /-- Both tables are written by one transaction. -/
  unreserved : ∀ binding ∈ bindings, binding.reservationState = .pending →
    reservations.find? binding.itemId = none

/-- What the provider answers for one item: the check of the issue repository, and the issue and its
URL that a projection is synchronised to. -/
structure IssueAnswers where
  verified : Bool
  synced : Option (String × String)
  deriving DecidableEq, Repr

/-- The provider reserves an issue. -/
def IssueAnswers.accepts (answers : IssueAnswers) : Bool := answers.verified && answers.synced.isSome

namespace ReservationOutbox

/-- The outbox without rows. -/
def empty : ReservationOutbox where
  bindings := .empty
  reservations := .empty
  full _ mem := absurd mem (Table.not_mem_empty _)
  unreserved _ mem := absurd mem (Table.not_mem_empty _)

/-- The state in which a binding is enqueued. -/
def enqueuedState (snapshot : StateRepositorySnapshot) : ReservationState :=
  if snapshot.fullIssue?.isSome then .pending else .none

/-- `INSERT INTO item_state_repository_bindings` of an item that is enqueued. -/
def enqueue (outbox : ReservationOutbox) (itemId : String) (snapshot : StateRepositorySnapshot)
    (createdAt : String) (fresh : outbox.reservations.find? itemId = none) : ReservationOutbox :=
  match inserted : outbox.bindings.insert? ⟨itemId, snapshot, enqueuedState snapshot, createdAt⟩ with
  | none => outbox
  | some bindings =>
    { outbox with
      bindings
      full := by
        intro binding mem state
        rcases (Table.mem_of_insert? inserted).mp mem with old | rfl
        · exact outbox.full binding old state
        · by_contra hidden
          simp [enqueuedState, hidden] at state
      unreserved := by
        intro binding mem state
        rcases (Table.mem_of_insert? inserted).mp mem with old | rfl
        · exact outbox.unreserved binding old state
        · exact fresh }

/-- The reservation state of an item. -/
def stateOf (outbox : ReservationOutbox) (itemId : String) : Option ReservationState :=
  (outbox.bindings.find? itemId).map ItemBinding.reservationState

/-- `ORDER BY created_at,item_id`. -/
def comesFirst (first second : ItemBinding) : Prop :=
  first.createdAt < second.createdAt ∨
    first.createdAt = second.createdAt ∧ first.itemId ≤ second.itemId

instance : DecidableRel comesFirst := fun first second =>
  inferInstanceAs (Decidable (first.createdAt < second.createdAt ∨
    first.createdAt = second.createdAt ∧ first.itemId ≤ second.itemId))

/-- The pending items, oldest first. -/
def pending (outbox : ReservationOutbox) : List String :=
  ((outbox.bindings.select fun binding =>
    binding.snapshot.fullIssue?.isSome && binding.reservationState == .pending).insertionSort
      comesFirst).map ItemBinding.itemId

/-- `pending_issue_reservations`. -/
def pendingIssueReservations (outbox : ReservationOutbox) (limit : Nat) : Option (List String) :=
  if limit < 1 || 1000 < limit then none else some (outbox.pending.take limit)

/-- `record_item_repository_reservation`. -/
def recordItemRepositoryReservation (outbox : ReservationOutbox) (row : ItemReservation) :
    Option ReservationOutbox :=
  match outbox.bindings.find? row.itemId with
  | none => none
  | some binding =>
    if binding.snapshot.issue?.map (fun found => (found.1, found.2.repository)) ≠
        some (row.provider, row.repository) ∨ binding.reservationState ≠ .pending then
      none
    else
      match inserted : outbox.reservations.insert? row with
      | none => none
      | some reservations =>
        some {
          bindings := outbox.bindings.update
            (fun binding => binding.itemId == row.itemId && binding.reservationState == .pending)
            (fun binding => { binding with reservationState := .reserved }) (fun _ => rfl)
          reservations
          full := by
            intro binding mem state
            obtain ⟨old, stored, rfl⟩ := Table.mem_update.mp mem
            unfold Table.rewrite at state ⊢
            split
            · rename_i hit
              apply outbox.full old stored
              intro hidden
              simp [hidden] at hit
            · rename_i miss
              rw [if_neg miss] at state
              exact outbox.full old stored state
          unreserved := by
            intro binding mem state
            obtain ⟨old, stored, rfl⟩ := Table.mem_update.mp mem
            unfold Table.rewrite at state ⊢
            split at state
            · cases state
            · rename_i miss
              rw [if_neg miss, Table.find?_of_insert? _ inserted, if_neg]
              · exact outbox.unreserved old stored state
              · rintro named
                simp [named, state] at miss }

/-- `reserve_full_issue`. -/
def reserveFullIssue (outbox : ReservationOutbox) (answers : IssueAnswers) (itemId : String) :
    Option ReservationOutbox :=
  match outbox.bindings.find? itemId with
  | none => none
  | some binding =>
    match binding.snapshot.fullIssue? with
    | none => some outbox
    | some (provider, issue) =>
      if (outbox.reservations.find? itemId).isSome then some outbox
      else if !answers.verified then none
      else
        match answers.synced with
        | none => none
        | some (artifactId, artifactUrl) =>
          outbox.recordItemRepositoryReservation
            ⟨itemId, provider, issue.repository, artifactId, artifactUrl⟩

/-- The loop of `process_issue_reservation_outbox`: it ends at the first item that fails. -/
def reserveItems (provider : String → IssueAnswers) :
    ReservationOutbox → List String → ReservationOutbox × Bool
  | outbox, [] => (outbox, true)
  | outbox, itemId :: rest =>
    match outbox.reserveFullIssue (provider itemId) itemId with
    | none => (outbox, false)
    | some later => reserveItems provider later rest

/-- `process_issue_reservation_outbox`: the outbox it leaves, and whether it returns `Ok`. -/
def processIssueReservationOutbox (outbox : ReservationOutbox) (provider : String → IssueAnswers)
    (limit : Nat) : ReservationOutbox × Bool :=
  match outbox.pendingIssueReservations limit with
  | none => (outbox, false)
  | some items => outbox.reserveItems provider items

/-! ## What a pass reserves -/

variable {outbox : ReservationOutbox} {itemId : String} {answers : IssueAnswers}

/-- The state of an item is that of its binding. -/
theorem stateOf_of_find? {binding : ItemBinding}
    (found : outbox.bindings.find? itemId = some binding) :
    outbox.stateOf itemId = some binding.reservationState := by
  rw [stateOf, found, Option.map_some]

/-- A pending item that the provider refuses ends the pass. -/
theorem reserveFullIssue_of_refused (waits : outbox.stateOf itemId = some .pending)
    (refused : answers.accepts = false) : outbox.reserveFullIssue answers itemId = none := by
  obtain ⟨binding, found, state⟩ := Option.map_eq_some_iff.mp waits
  obtain ⟨stored, rfl⟩ := Table.find?_eq_some.mp found
  obtain ⟨⟨provider, issue⟩, full⟩ := Option.isSome_iff_exists.mp
    (outbox.full binding stored (by rw [state]; decide))
  have absent := outbox.unreserved binding stored state
  simp only [reserveFullIssue, found, full, absent, Option.isSome_none, Bool.false_eq_true,
    ↓reduceIte]
  cases verified : answers.verified with
  | false => rfl
  | true =>
    have missing : answers.synced = none := by simpa [IssueAnswers.accepts, verified] using refused
    simp [missing]

/-- A pending item that the provider accepts is reserved, and no other item changes its state. -/
theorem reserveFullIssue_of_accepted (waits : outbox.stateOf itemId = some .pending)
    (accepted : answers.accepts = true) :
    ∃ later, outbox.reserveFullIssue answers itemId = some later ∧
      ∀ other, later.stateOf other =
        if other = itemId then some .reserved else outbox.stateOf other := by
  obtain ⟨binding, found, state⟩ := Option.map_eq_some_iff.mp waits
  obtain ⟨stored, named⟩ := Table.find?_eq_some.mp found
  obtain ⟨⟨provider, issue⟩, full⟩ := Option.isSome_iff_exists.mp
    (outbox.full binding stored (by rw [state]; decide))
  have absent := outbox.unreserved binding stored state
  rw [named] at absent
  obtain ⟨verified, synced⟩ := Bool.and_eq_true_iff.mp accepted
  obtain ⟨⟨artifactId, artifactUrl⟩, sync⟩ := Option.isSome_iff_exists.mp synced
  have issued : binding.snapshot.issue? = some (provider, issue) :=
    (Option.filter_eq_some_iff.mp full).1
  let row : ItemReservation := ⟨itemId, provider, issue.repository, artifactId, artifactUrl⟩
  obtain ⟨reservations, inserted⟩ : ∃ later, outbox.reservations.insert? row = some later := by
    apply Option.isSome_iff_exists.mp
    apply Table.insert?_isSome.mpr
    exact Table.find?_eq_none.mp absent
  have recorded : ∃ later, outbox.recordItemRepositoryReservation row = some later ∧
      later.bindings = outbox.bindings.update
        (fun binding => binding.itemId == row.itemId && binding.reservationState == .pending)
        (fun binding => { binding with reservationState := .reserved }) (fun _ => rfl) := by
    unfold recordItemRepositoryReservation
    rw [show outbox.bindings.find? row.itemId = some binding from found]
    simp only [issued, state, Option.map_some, ne_eq, not_true_eq_false, or_self, ↓reduceIte, row]
    split
    · rename_i refused
      rw [inserted] at refused
      cases refused
    · exact ⟨_, rfl, rfl⟩
  obtain ⟨later, committed, rows⟩ := recorded
  refine ⟨later, ?_, ?_⟩
  · simp only [reserveFullIssue, found, full, absent, Option.isSome_none, Bool.false_eq_true,
      ↓reduceIte, verified, Bool.not_true, sync]
    exact committed
  · intro other
    rw [stateOf, rows, Table.find?_update, Option.map_map]
    by_cases same : other = itemId
    · rw [same, if_pos rfl, found, Option.map_some, Function.comp_apply,
        Table.rewrite_of_chosen (by simp [row, named, state])]
    · rw [if_neg same, stateOf]
      cases lookup : outbox.bindings.find? other with
      | none => rfl
      | some kept =>
        have apart : kept.itemId ≠ itemId := by
          rw [(Table.find?_eq_some.mp lookup).2]
          exact same
        rw [Option.map_some, Option.map_some, Function.comp_apply,
          Table.rewrite_of_not_chosen (by simp [row, apart])]

/-- A pass over pending items reserves those before the first refused one, and is `Ok` when none is
refused. -/
theorem reserveItems_spec {provider : String → IssueAnswers} {items : List String}
    (distinct : items.Nodup) (waits : ∀ itemId ∈ items, outbox.stateOf itemId = some .pending) :
    ((outbox.reserveItems provider items).2 = true ↔
        ∀ itemId ∈ items, (provider itemId).accepts = true) ∧
      ∀ other, (outbox.reserveItems provider items).1.stateOf other =
        if other ∈ items.takeWhile (fun itemId => (provider itemId).accepts) then some .reserved
        else outbox.stateOf other := by
  induction items generalizing outbox with
  | nil => simp [reserveItems]
  | cons itemId rest spec_rest =>
    have head_waits := waits itemId (List.mem_cons_self ..)
    obtain ⟨apart, distinct⟩ := List.nodup_cons.mp distinct
    cases accepted : (provider itemId).accepts with
    | false =>
      rw [reserveItems, reserveFullIssue_of_refused head_waits accepted]
      simp [accepted]
    | true =>
      obtain ⟨later, reserved, states⟩ := reserveFullIssue_of_accepted head_waits accepted
      have rest_waits : ∀ other ∈ rest, later.stateOf other = some .pending := by
        intro other mem
        have other_ne : other ≠ itemId := fun same => apart (same ▸ mem)
        rw [states, if_neg other_ne]
        exact waits other (List.mem_cons_of_mem _ mem)
      obtain ⟨succeeds, reached⟩ := spec_rest distinct rest_waits
      rw [reserveItems, reserved]
      refine ⟨?_, fun other => ?_⟩
      · simp only [succeeds, List.forall_mem_cons, accepted, true_and]
      · simp only [reached, states, List.takeWhile_cons, accepted, ↓reduceIte, List.mem_cons]
        by_cases same : other = itemId <;> simp [same]

/-- An element stands in the accepted front of the first elements exactly when it and all before it
are accepted and few enough are before it. -/
theorem mem_takeWhile_take {α : Type} {accepts : α → Bool} {wanted : α} {front back : List α}
    {limit : Nat} (absent : wanted ∉ front) :
    wanted ∈ ((front ++ wanted :: back).take limit).takeWhile accepts ↔
      accepts wanted = true ∧ (∀ earlier ∈ front, accepts earlier = true) ∧
        front.length < limit := by
  induction front generalizing limit with
  | nil =>
    cases limit with
    | zero => simp
    | succ limit => cases hit : accepts wanted <;> simp [hit]
  | cons first front mem_iff =>
    obtain ⟨apart, absent⟩ := List.ne_and_not_mem_of_not_mem_cons absent
    cases limit with
    | zero => simp
    | succ limit =>
      cases hit : accepts first with
      | false => simp [hit]
      | true =>
        simp only [List.cons_append, List.take_succ_cons, List.takeWhile_cons, hit, ↓reduceIte]
        rw [List.mem_cons, or_iff_right apart, mem_iff absent, List.forall_mem_cons]
        simp [hit]

/-- The pending items. -/
theorem mem_pending : itemId ∈ outbox.pending ↔ outbox.stateOf itemId = some .pending := by
  simp only [pending, List.mem_map, List.mem_insertionSort, Table.mem_select, Bool.and_eq_true,
    beq_iff_eq]
  constructor
  · rintro ⟨binding, ⟨stored, -, state⟩, rfl⟩
    rw [stateOf_of_find? (Table.find?_eq_some.mpr ⟨stored, rfl⟩), state]
  · intro waits
    obtain ⟨binding, found, state⟩ := Option.map_eq_some_iff.mp waits
    obtain ⟨stored, named⟩ := Table.find?_eq_some.mp found
    exact ⟨binding, ⟨stored, outbox.full binding stored (by rw [state]; decide), state⟩, named⟩

/-- The pending items are distinct. -/
theorem pending_nodup : outbox.pending.Nodup := by
  have order := List.perm_insertionSort comesFirst (outbox.bindings.select fun binding =>
    binding.snapshot.fullIssue?.isSome && binding.reservationState == .pending)
  apply (order.map ItemBinding.itemId).nodup_iff.mpr
  exact (List.filter_sublist.map ItemBinding.itemId).nodup outbox.bindings.keyed

/-- The number of items of one pass. -/
def passLimit : Nat := 1000

/-- A pass is `Ok` when the provider accepts the items it asks for; it reserves those before the
first refused one. -/
theorem process_spec (outbox : ReservationOutbox) (provider : String → IssueAnswers) :
    ((outbox.processIssueReservationOutbox provider passLimit).2 = true ↔
        ∀ itemId ∈ outbox.pending.take passLimit, (provider itemId).accepts = true) ∧
      ∀ other, (outbox.processIssueReservationOutbox provider passLimit).1.stateOf other =
        if other ∈ (outbox.pending.take passLimit).takeWhile
          (fun itemId => (provider itemId).accepts) then some .reserved
        else outbox.stateOf other := by
  have limited : (decide (passLimit < 1) || decide (1000 < passLimit)) = false := by decide
  rw [processIssueReservationOutbox, pendingIssueReservations, limited, if_neg Bool.false_ne_true]
  apply reserveItems_spec
  · exact (List.take_sublist _ _).nodup pending_nodup
  · intro itemId mem
    exact mem_pending.mp (List.mem_of_mem_take mem)

/-- Every pending item that the provider accepts is reserved after one pass. -/
def Isolates (outbox : ReservationOutbox) (provider : String → IssueAnswers) : Prop :=
  ∀ itemId, outbox.stateOf itemId = some .pending → (provider itemId).accepts = true →
    (outbox.processIssueReservationOutbox provider passLimit).1.stateOf itemId = some .reserved

/-- Before every pending item that the provider accepts stand only accepted ones, and fewer than a
pass asks for. -/
def Unobstructed (outbox : ReservationOutbox) (provider : String → IssueAnswers) : Prop :=
  ∀ front itemId back, outbox.pending = front ++ itemId :: back →
    (provider itemId).accepts = true →
    (∀ earlier ∈ front, (provider earlier).accepts = true) ∧ front.length < passLimit

/-- A pass isolates the items exactly when no accepted item stands behind a refused one or behind a
full pass. -/
theorem isolates_iff {provider : String → IssueAnswers} :
    outbox.Isolates provider ↔ outbox.Unobstructed provider := by
  have states := (process_spec outbox provider).2
  have early {front back : List String} {itemId : String}
      (split : outbox.pending = front ++ itemId :: back) :
      itemId ∈ (outbox.pending.take passLimit).takeWhile
          (fun itemId => (provider itemId).accepts) ↔
        (provider itemId).accepts = true ∧
          (∀ earlier ∈ front, (provider earlier).accepts = true) ∧ front.length < passLimit := by
    have distinct := @pending_nodup outbox
    rw [split] at distinct
    have absent : itemId ∉ front := fun mem =>
      (List.nodup_append.mp distinct).2.2 itemId mem itemId (List.mem_cons_self ..) rfl
    rw [split]
    exact mem_takeWhile_take absent
  constructor
  · intro isolates front itemId back split accepted
    have waits : outbox.stateOf itemId = some .pending := mem_pending.mp (by simp [split])
    have reserved := isolates itemId waits accepted
    rw [states] at reserved
    by_cases inside : itemId ∈ (outbox.pending.take passLimit).takeWhile
        (fun itemId => (provider itemId).accepts)
    · exact ((early split).mp inside).2
    · rw [if_neg inside, waits] at reserved
      cases reserved
  · intro clear itemId waits accepted
    obtain ⟨front, back, split⟩ := List.append_of_mem (mem_pending.mpr waits)
    rw [states, if_pos ((early split).mpr ⟨accepted, clear front itemId back split accepted⟩)]

end ReservationOutbox

end Iq
