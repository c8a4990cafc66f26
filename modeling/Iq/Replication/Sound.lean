import Iq.Replication.Reconcile

/-!
# The invariant of replication

What holds of every debt between any two effects: its row passes its checks and stands in one of the
phases of the protocol, its item landed the commit it owes, the operation state admits it while it
is unfinished, its pin is the one its phase promises, and it is in flight or applied only in its
turn. One lemma says what a transaction needs for the invariant to stay, one that the transaction is
then accepted.
-/

namespace Iq.Replication

open Library

/-! ## The invariant -/

/-- The phases of a debt: what can have become of it in each operation. -/
def phases : ReplicationOperation → List ReplicationOutcome
  | .pinSource => [.pinning, .failed]
  | .resolveDestination => [.pending, .failed, .applied, .succeeded]
  | .advanceExactTarget => [.applying, .uncertain, .failed, .applied, .succeeded]

/-- The outcomes that follow an exact report. -/
def reportedOutcomes : List ReplicationOutcome := [.applied, .succeeded]

/-- Every older debt of the target is finished. -/
def World.InTurn (world : World) (debt : ReplicationDebt) : Prop :=
  ∀ older ∈ world.store.debts, older.sameTarget debt = true → older.sequence < debt.sequence →
    older.outcome.isFinished = true

/-- The destination was reported at exactly the landed commit, in the debt's turn. -/
def World.Reported (world : World) (debt : ReplicationDebt) : Prop :=
  .reported debt.id (some debt.canonicalSourceSha) true ∈ world.log

/-- The pin is absent or exact, and it is there once it was published and until the debt is
applied. -/
structure PinSound (debt : ReplicationDebt) (pin : Option String) : Prop where
  exact : pin = none ∨ pin = some debt.canonicalSourceSha
  held : debt.operation ≠ .pinSource → debt.outcome ∉ reportedOutcomes →
    pin = some debt.canonicalSourceSha

/-- What holds of a debt. -/
structure DebtSound (world : World) (debt : ReplicationDebt) : Prop where
  checked : debt.isChecked = true
  real : ∀ format : GitObjectFormat, debt.canonicalSourceSha ≠ format.zeroOid
  phase : debt.outcome ∈ phases debt.operation
  bound : world.store.isBound debt = true
  obliged : debt.outcome.isFinished = false → world.store.isObliged debt = true
  pin : PinSound debt (world.pins debt.id)
  inTurn : debt.outcome ∈ turnOutcomes → world.InTurn debt
  reported : debt.outcome ∈ reportedOutcomes → world.Reported debt

/-- Every unfinished item is captured when the repository drains, and none is left when it is
disabled. -/
def Covered (store : ReplicationStore) : Prop :=
  match store.policy.operationState with
  | .enabled => True
  | .draining obligations =>
    ∀ item ∈ store.items, item.outcome = .unfinished → .queueItem item.id ∈ obligations
  | .disabled => ∀ item ∈ store.items, item.outcome ≠ .unfinished

/-- The invariant. -/
structure Sound (world : World) : Prop where
  debts : ∀ debt ∈ world.store.debts, DebtSound world debt
  unpinned : ∀ debtId, world.store.debts.find? debtId = none → world.pins debtId = none
  covered : Covered world.store
  orderly : ∀ debtId, .pushed debtId false ∉ world.log

/-! ## Reading the tables -/

variable {world later : World} {debt other : ReplicationDebt} {debtId : String}

/-- No older debt of the target is unfinished. -/
theorem olderUnfinished_eq_none {store : ReplicationStore} :
    store.olderUnfinished debt = none ↔ ∀ older ∈ store.debts, older.sameTarget debt = true →
      older.sequence < debt.sequence → older.outcome.isFinished = true := by
  unfold ReplicationStore.olderUnfinished
  rw [List.head?_eq_none_iff, ← List.length_eq_zero_iff, List.length_insertionSort,
    List.length_eq_zero_iff, Table.select, List.filter_eq_nil_iff]
  simp only [Bool.and_eq_true, decide_eq_true_eq, Bool.not_eq_true', not_and,
    Bool.not_eq_false]
  exact ⟨fun all older mem same less => all older mem ⟨same, less⟩,
    fun all older mem both => all older mem both.1 both.2⟩

/-- A newer debt of the target is finished. -/
theorem newerCompleted_eq_some {store : ReplicationStore} {newer : ReplicationDebt}
    (found : store.newerCompleted debt = some newer) :
    newer ∈ store.debts ∧ newer.sameTarget debt = true ∧ debt.sequence < newer.sequence ∧
      newer.outcome.isFinished = true := by
  have mem := List.mem_of_mem_head? found
  rw [List.mem_insertionSort, Table.mem_select] at mem
  simpa [and_assoc] using mem

/-- A debt of the invariant is found under its identifier. -/
theorem Sound.find (sound : Sound world) (row : world.store.debts.find? debtId = some debt) :
    DebtSound world debt :=
  sound.debts debt (Table.find?_eq_some.mp row).1

/-- No newer debt is completed before an unfinished one. -/
theorem Sound.newerCompleted_none (sound : Sound world) (stored : debt ∈ world.store.debts)
    (unfinished : debt.outcome.isFinished = false) :
    world.store.newerCompleted debt = none := by
  cases found : world.store.newerCompleted debt with
  | none => rfl
  | some newer =>
    obtain ⟨mem, same, less, finished⟩ := newerCompleted_eq_some found
    have newer_sound := sound.debts newer mem
    have succeeded : newer.outcome ∈ turnOutcomes := by
      have phase := newer_sound.phase
      revert phase finished
      cases newer.operation <;> cases newer.outcome <;> decide
    have turned : debt.sameTarget newer = true := by
      simp only [ReplicationDebt.sameTarget, Bool.and_eq_true, beq_iff_eq] at same ⊢
      exact ⟨same.1.symm, same.2.symm⟩
    rw [newer_sound.inTurn succeeded debt stored turned less] at unfinished
    cases unfinished

/-! ## Transactions -/

/-- What a transaction commits. -/
theorem update_eq_some {store final : ReplicationStore} {update : DebtUpdate}
    (committed : store.update debtId update = some final) :
    ∃ debt, store.debts.find? debtId = some debt ∧ store.requiresReplication debt = true ∧
      update.admits store debt = true ∧ (update.change debt).isChecked = true ∧
      final = { store with
        debts := store.debts.update (fun row => row.id == debtId) update.change
          update.id_change } := by
  unfold ReplicationStore.update at committed
  split at committed
  · cases committed
  · rename_i debt found
    split at committed
    · rename_i passes
      simp only [Bool.and_eq_true] at passes
      exact ⟨debt, found, passes.1.1.2, passes.1.2, passes.2, (Option.some.inj committed).symm⟩
    · cases committed

/-- What the invariant needs beyond the conditions of a transaction. -/
def Supported (world : World) (debt : ReplicationDebt) : DebtUpdate → Prop
  | .completeSourcePin => world.pins debt.id = some debt.canonicalSourceSha
  | .finish none => debt.operation ≠ .pinSource ∧ world.InTurn debt ∧ world.Reported debt
  | .beginApplication .. => debt.operation ≠ .pinSource ∧ world.InTurn debt
  | .beginSupersession _ | .completeSupersession => False
  | _ => True

/-- The columns that no transaction changes. -/
structure SameDebt (debt changed : ReplicationDebt) : Prop where
  id : changed.id = debt.id
  itemId : changed.itemId = debt.itemId
  source : changed.canonicalSourceSha = debt.canonicalSourceSha
  destination : changed.destinationKey = debt.destinationKey
  target : changed.targetRef = debt.targetRef
  sequence : changed.sequence = debt.sequence
  replica : changed.replica = debt.replica

/-- A debt is the same as itself. -/
@[refl] theorem SameDebt.refl : SameDebt debt debt := ⟨rfl, rfl, rfl, rfl, rfl, rfl, rfl⟩

/-- Sameness goes on. -/
theorem SameDebt.trans {first second third : ReplicationDebt} (one : SameDebt first second)
    (two : SameDebt second third) : SameDebt first third :=
  ⟨two.id.trans one.id, two.itemId.trans one.itemId, two.source.trans one.source,
    two.destination.trans one.destination, two.target.trans one.target,
    two.sequence.trans one.sequence, two.replica.trans one.replica⟩

/-- An update leaves the debt the same. -/
theorem sameDebt_change (update : DebtUpdate) : SameDebt debt (update.change debt) := by
  cases update <;> exact ⟨rfl, rfl, rfl, rfl, rfl, rfl, rfl⟩

/-- A transaction on one debt leaves the items, the policy and every other row. -/
structure Rewrites (world later : World) (debt changed : ReplicationDebt) : Prop where
  row : world.store.debts.find? debt.id = some debt
  policy : later.store.policy = world.store.policy
  items : later.store.items = world.store.items
  rows : ∀ other, other ∈ later.store.debts ↔
    other = changed ∨ other ∈ world.store.debts ∧ other.id ≠ debt.id
  pins : later.pins = world.pins
  log : later.log = world.log

/-- The phases are kept by the transactions that the invariant supports. -/
theorem phase_change {update : DebtUpdate} (phase : debt.outcome ∈ phases debt.operation)
    (admitted : update.admits world.store debt = true) (supported : Supported world debt update) :
    (update.change debt).outcome ∈ phases (update.change debt).operation := by
  cases update with
  | finish failure =>
    cases failure with
    | none =>
      have pinned := supported.1
      revert phase admitted pinned
      simp only [DebtUpdate.change, DebtUpdate.admits]
      cases debt.operation <;> cases debt.outcome <;> decide
    | some failure =>
      simp only [DebtUpdate.change, Option.isSome_some, ↓reduceIte]
      cases debt.operation <;> decide
  | completeSourcePin => simp [DebtUpdate.change, phases]
  | completeSourceCleanup =>
    revert phase admitted
    simp only [DebtUpdate.change, DebtUpdate.admits]
    cases debt.operation <;> cases debt.outcome <;> decide
  | beginApplication => simp [DebtUpdate.change, phases]
  | resumeApplication =>
    revert phase admitted
    simp only [DebtUpdate.change, DebtUpdate.admits]
    cases debt.operation <;> cases debt.outcome <;> simp [phases]
  | markUncertain failure =>
    revert phase admitted
    simp only [DebtUpdate.change, DebtUpdate.admits]
    cases debt.operation <;> cases debt.outcome <;> simp [phases, ReplicationOutcome.isInFlight]
  | beginSupersession | completeSupersession => exact supported.elim

/-- Finished debts are not updated. -/
theorem unfinished_of_admits {store : ReplicationStore} {update : DebtUpdate}
    (admitted : update.admits store debt = true) : debt.outcome.isFinished = false := by
  cases update <;> simp only [DebtUpdate.admits] at admitted <;>
    cases outcome : debt.outcome <;> simp_all [ReplicationOutcome.isFinished,
      ReplicationOutcome.isInFlight]

/-- A committed transaction rewrites one row. -/
theorem rewrites_of_update {update : DebtUpdate} {store : ReplicationStore}
    (row : world.store.debts.find? debt.id = some debt)
    (committed : world.store.update debt.id update = some store) :
    Rewrites world { world with store } debt (update.change debt) := by
  obtain ⟨_, found, _, _, _, rfl⟩ := update_eq_some committed
  refine ⟨row, rfl, rfl, fun other => ?_, rfl, rfl⟩
  change other ∈ world.store.debts.update (fun row => row.id == debt.id) update.change
    update.id_change ↔ _
  constructor
  · exact fun mem => Table.mem_update_key row mem
  · intro mem
    apply Table.mem_update.mpr
    rcases mem with rfl | ⟨mem, apart⟩
    · exact ⟨debt, (Table.find?_eq_some.mp row).1, Table.rewrite_of_key rfl⟩
    · exact ⟨other, mem, Table.rewrite_of_key_ne apart⟩

namespace Rewrites

variable {changed : ReplicationDebt}

/-- The debt that is rewritten is stored. -/
theorem stored (rewrites : Rewrites world later debt changed) : debt ∈ world.store.debts :=
  (Table.find?_eq_some.mp rewrites.row).1

/-- What is bound stays bound. -/
theorem isBound (rewrites : Rewrites world later debt changed) {old new : ReplicationDebt}
    (same : SameDebt old new) : later.store.isBound new = world.store.isBound old := by
  simp only [ReplicationStore.isBound, rewrites.items, rewrites.policy, same.itemId, same.source,
    same.destination, same.target, same.replica]

/-- What is obliged stays obliged. -/
theorem isObliged (rewrites : Rewrites world later debt changed) {old new : ReplicationDebt}
    (same : SameDebt old new) : later.store.isObliged new = world.store.isObliged old := by
  simp only [ReplicationStore.isObliged, rewrites.policy, same.itemId, same.id]

/-- The turn of a debt is kept: the rewritten row was unfinished, hence not an older one. -/
theorem inTurn (rewrites : Rewrites world later debt changed) (same : SameDebt debt changed)
    (unfinished : debt.outcome.isFinished = false) {row new : ReplicationDebt}
    (stays : SameDebt row new) (turn : world.InTurn row) : later.InTurn new := by
  intro older mem target less
  rcases (rewrites.rows older).mp mem with rfl | ⟨mem, _⟩
  · have debt_target : debt.sameTarget row = true := by
      simpa [ReplicationDebt.sameTarget, same.destination, same.target, stays.destination,
        stays.target] using target
    have debt_less : debt.sequence < row.sequence := by
      rw [← same.sequence, ← stays.sequence]
      exact less
    have finished := turn debt rewrites.stored debt_target debt_less
    rw [unfinished] at finished
    cases finished
  · apply turn older mem
    · simpa [ReplicationDebt.sameTarget, stays.destination, stays.target] using target
    · rw [← stays.sequence]
      exact less

end Rewrites

/-- What a transaction leaves of its own debt. -/
theorem debtSound_change {update : DebtUpdate} (sound : DebtSound world debt)
    (rewrites : Rewrites world later debt (update.change debt))
    (admitted : update.admits world.store debt = true)
    (checked : (update.change debt).isChecked = true) (supported : Supported world debt update) :
    DebtSound later (update.change debt) := by
  have same := @sameDebt_change debt update
  have unfinished := unfinished_of_admits admitted
  have turn (held : world.InTurn debt) : later.InTurn (update.change debt) :=
    rewrites.inTurn same unfinished same held
  have report (held : world.Reported debt) : later.Reported (update.change debt) := by
    rw [World.Reported, rewrites.log, same.id, same.source]
    exact held
  have old_outcome : debt.outcome = .succeeded → False := by
    intro outcome
    rw [outcome] at unfinished
    cases unfinished
  refine ⟨checked, ?_, phase_change sound.phase admitted supported, ?_, ?_, ?_, ?_, ?_⟩
  · rw [same.source]
    exact sound.real
  · rw [rewrites.isBound same]
    exact sound.bound
  · intro _
    rw [rewrites.isObliged same]
    exact sound.obliged unfinished
  · rw [same.id, rewrites.pins]
    constructor
    · rw [same.source]
      exact sound.pin.exact
    · rw [same.source]
      intro pinned unreported
      cases update with
      | finish failure =>
        cases failure with
        | none => simp [DebtUpdate.change, reportedOutcomes] at unreported
        | some failure =>
          apply sound.pin.held pinned
          revert admitted
          simp only [DebtUpdate.admits]
          cases debt.outcome <;> decide
      | completeSourcePin => exact supported
      | completeSourceCleanup => simp [DebtUpdate.change, reportedOutcomes] at unreported
      | beginApplication =>
        apply sound.pin.held supported.1
        revert admitted
        simp only [DebtUpdate.admits]
        cases debt.outcome <;> decide
      | resumeApplication =>
        apply sound.pin.held pinned
        revert admitted
        simp only [DebtUpdate.admits]
        cases debt.outcome <;> simp [reportedOutcomes]
      | markUncertain =>
        apply sound.pin.held pinned
        revert admitted
        simp only [DebtUpdate.admits]
        cases debt.outcome <;> simp [reportedOutcomes, ReplicationOutcome.isInFlight]
      | beginSupersession | completeSupersession => exact supported.elim
  · intro turned
    cases update with
    | finish failure =>
      cases failure with
      | none => exact turn supported.2.1
      | some failure => simp [DebtUpdate.change, turnOutcomes] at turned
    | completeSourcePin => simp [DebtUpdate.change, turnOutcomes] at turned
    | completeSourceCleanup | resumeApplication =>
      apply turn
      apply sound.inTurn
      revert admitted
      simp only [DebtUpdate.admits]
      cases debt.outcome <;> simp [turnOutcomes]
    | beginApplication => exact turn supported.2
    | markUncertain =>
      apply turn
      apply sound.inTurn
      revert admitted
      simp only [DebtUpdate.admits]
      cases debt.outcome <;> simp [turnOutcomes, ReplicationOutcome.isInFlight]
    | beginSupersession | completeSupersession => exact supported.elim
  · intro reported
    cases update with
    | finish failure =>
      cases failure with
      | none => exact report supported.2.2
      | some failure => simp [DebtUpdate.change, reportedOutcomes] at reported
    | completeSourceCleanup =>
      apply report
      apply sound.reported
      revert admitted
      simp only [DebtUpdate.admits]
      cases debt.outcome <;> simp [reportedOutcomes]
    | completeSourcePin | beginApplication | resumeApplication | markUncertain =>
      simp [DebtUpdate.change, reportedOutcomes] at reported
    | beginSupersession | completeSupersession => exact supported.elim

/-- A supported transaction keeps the invariant. -/
theorem Sound.update {update : DebtUpdate} {store : ReplicationStore} (sound : Sound world)
    (row : world.store.debts.find? debt.id = some debt)
    (committed : world.store.update debt.id update = some store)
    (supported : Supported world debt update) : Sound { world with store } := by
  obtain ⟨_, found, _, admitted, checked, _⟩ := update_eq_some committed
  cases Option.some.inj (row.symm.trans found)
  have rewrites := rewrites_of_update row committed
  have same := @sameDebt_change debt update
  constructor
  · intro other mem
    rcases (rewrites.rows other).mp mem with rfl | ⟨stored, _⟩
    · exact debtSound_change (sound.find row) rewrites admitted checked supported
    · have kept := sound.debts other stored
      have itself : SameDebt other other := .refl
      refine ⟨kept.checked, kept.real, kept.phase, ?_, ?_, kept.pin, ?_, kept.reported⟩
      · exact (rewrites.isBound itself).trans kept.bound
      · exact fun unfinished => (rewrites.isObliged itself).trans (kept.obliged unfinished)
      · intro turned
        exact rewrites.inTurn same (unfinished_of_admits admitted) itself (kept.inTurn turned)
  · intro debtId absent
    apply sound.unpinned debtId
    rw [Table.find?_eq_none] at absent ⊢
    intro other mem named
    by_cases own : other.id = debt.id
    · apply absent (update.change debt) ((rewrites.rows _).mpr (.inl rfl))
      rw [same.id, ← own, named]
    · exact absent other ((rewrites.rows _).mpr (.inr ⟨mem, own⟩)) named
  · have covered := sound.covered
    simp only [Covered] at covered ⊢
    rw [rewrites.policy, rewrites.items]
    exact covered
  · exact sound.orderly

/-! ## Acceptance -/

/-- The row after a transaction passes its checks. -/
theorem isChecked_change {update : DebtUpdate} (sound : DebtSound world debt)
    (admitted : update.admits world.store debt = true) (supported : Supported world debt update) :
    (update.change debt).isChecked = true := by
  have checked := sound.checked
  have phase := sound.phase
  revert checked phase admitted
  -- The checks read the optional columns only for whether they are set.
  cases update with
  | finish failure =>
    cases failure with
    | none =>
      have pinned := supported.1
      revert pinned
      simp only [DebtUpdate.change, DebtUpdate.admits, ReplicationDebt.isChecked,
        Option.isSome_none]
      generalize debt.expectedDestinationSha.isSome = expected
      generalize debt.failure.isSome = failed
      generalize debt.applicationId.isSome = inFlight
      generalize debt.supersededById.isSome = superseded
      cases debt.operation <;> cases debt.outcome <;> decide +revert
    | some failure =>
      simp only [DebtUpdate.change, DebtUpdate.admits, ReplicationDebt.isChecked,
        Option.isSome_none, Option.isSome_some]
      generalize debt.expectedDestinationSha.isSome = expected
      generalize debt.failure.isSome = failed
      generalize debt.applicationId.isSome = inFlight
      generalize debt.supersededById.isSome = superseded
      cases debt.operation <;> cases debt.outcome <;> decide +revert
  | beginSupersession | completeSupersession => exact supported.elim
  | _ =>
    simp only [DebtUpdate.change, DebtUpdate.admits, ReplicationDebt.isChecked,
      Option.isSome_none, Option.isSome_some]
    generalize debt.expectedDestinationSha.isSome = expected
    generalize debt.failure.isSome = failed
    generalize debt.applicationId.isSome = inFlight
    generalize debt.supersededById.isSome = superseded
    cases debt.operation <;> cases debt.outcome <;> decide +revert

/-- A transaction on a debt of the invariant is accepted when its outcome admits it. -/
theorem Sound.accepts {update : DebtUpdate} (sound : Sound world)
    (row : world.store.debts.find? debt.id = some debt)
    (admitted : update.admits world.store debt = true) (supported : Supported world debt update)
    (format : world.store.requiresOid update = true) :
    ∃ store, world.store.update debt.id update = some store := by
  have debt_sound := sound.find row
  have required : world.store.requiresReplication debt = true := by
    rw [ReplicationStore.requiresReplication, debt_sound.bound,
      debt_sound.obliged (unfinished_of_admits admitted)]
    rfl
  rw [ReplicationStore.update, row]
  simp only [format, required, admitted, isChecked_change debt_sound admitted supported,
    Bool.and_self, ↓reduceIte]
  exact ⟨_, rfl⟩

end Iq.Replication
