import Iq.Replication.Protocol

/-!
# Reconciliations

How `reconcile_replication_debt` and its parts end: a debt that is worked on in its turn ends as
succeeded, failed or uncertain, whatever its replica answers, and everything else is left as it was.
-/

namespace Iq.Replication

open Library

variable {now later before : World} {debt other row : ReplicationDebt} {debtId : String}
  {localFaults : Bool} {stop : ReconcileError → World → Prop}

/-- The outcomes in which a reconciliation leaves a debt. -/
def settledOutcomes : List ReplicationOutcome := [.succeeded, .failed, .uncertain]

/-- A reconciliation of the debt has ended. -/
structure Settled (before : World) (debtId : String) (debt : ReplicationDebt) (now : World) :
    Prop where
  working : Working before debt now
  named : debt.id = debtId
  outcome : debt.outcome ∈ settledOutcomes

/-- An outcome of a debt that is not finished, applied or being pinned. -/
def openOutcomes : List ReplicationOutcome := [.pending, .failed, .applying, .uncertain]

/-- `complete_replication_source_cleanup` of an applied debt. -/
theorem upholds_completeSourceCleanup (tolerates : Tolerates localFaults stop)
    (working : Working before debt now) (applied : debt.outcome = .applied) :
    (completeSourceCleanup debt).Upholds (world localFaults) Sound (Settled before debt.id) stop
      now := by
  rw [completeSourceCleanup, Program.upholds_bind]
  apply upholds_compareAndDeletePin tolerates working applied
  intro later worked
  refine upholds_update worked ?_ trivial rfl fun final ended _ _ =>
    ⟨ended, rfl, List.mem_cons_self⟩
  rw [DebtUpdate.admits, applied]
  rfl

/-- A failure that ends the turn of an unfinished debt. -/
theorem upholds_fail {failure : ReplicationFailure} (working : Working before debt now)
    (outcome : debt.outcome ∈ openOutcomes) :
    (update debt.id (.finish (some failure))).Upholds (world localFaults) Sound
      (Settled before debt.id) stop now := by
  refine upholds_update working ?_ trivial rfl fun later ended _ _ => ⟨ended, rfl, ?_⟩
  · revert outcome
    simp only [DebtUpdate.admits]
    cases debt.outcome <;> decide
  · simp [DebtUpdate.change, settledOutcomes]

/-- A failure on an application in flight. -/
theorem upholds_markUncertain {failure : ReplicationFailure} (working : Working before debt now)
    (inFlight : debt.outcome.isInFlight = true) :
    (update debt.id (.markUncertain failure)).Upholds (world localFaults) Sound
      (Settled before debt.id) stop now := by
  have applied : debt.applicationId.isSome = true :=
    (ReplicationDebt.application_of_isChecked working.debtSound.checked).trans inFlight
  refine upholds_update working ?_ trivial rfl fun later ended _ _ => ⟨ended, rfl, ?_⟩
  · rw [DebtUpdate.admits, inFlight, applied]
    rfl
  · simp [DebtUpdate.change, settledOutcomes]

/-- A recorded failure settles the debt it is about. -/
theorem upholds_recordFailure {inFlight failed : ReplicationFailure}
    (working : Working before debt now) (outcome : debt.outcome ∈ openOutcomes) :
    (recordFailure debt inFlight failed).Upholds (world localFaults) Sound
      (Settled before debt.id) stop now := by
  rw [recordFailure, Program.upholds_ite]
  exact ⟨fun flying => upholds_markUncertain working flying, fun _ => upholds_fail working outcome⟩

/-- A debt that was reported at its landed commit in its turn becomes applied and is cleaned up. -/
theorem upholds_finishApplied (tolerates : Tolerates localFaults stop)
    (working : Working before debt now) (outcome : debt.outcome ∈ openOutcomes)
    (pinned : debt.operation ≠ .pinSource) (turn : now.InTurn debt) (reported : now.Reported debt) :
    (finishApplied debt.id).Upholds (world localFaults) Sound (Settled before debt.id) stop now := by
  rw [finishApplied, Program.upholds_bind]
  refine upholds_update working ?_ ⟨pinned, turn, reported⟩ rfl fun later ended _ _ => ?_
  · revert outcome
    simp only [DebtUpdate.admits]
    cases debt.outcome <;> decide
  · have cleaned := upholds_completeSourceCleanup tolerates ended rfl
    exact cleaned

/-- The push of an application in flight, from its row or from the debt as it was read. -/
theorem upholds_pushExact {expected : String} (tolerates : Tolerates localFaults stop)
    (working : Working before row now) (same : SameDebt debt row)
    (applying : row.outcome = .applying) :
    (pushExact debt expected).Upholds (world localFaults) Sound (Settled before debt.id) stop now := by
  have inFlight : row.outcome.isInFlight = true := by
    rw [applying]
    rfl
  have outcome : row.outcome ∈ openOutcomes := by
    rw [applying]
    decide
  have turned : row.outcome ∈ turnOutcomes := by
    rw [applying]
    decide
  rw [pushExact, Program.upholds_bind, ← same.id, ← same.source]
  apply upholds_push working (by rw [applying]; rfl)
  intro pushed now working _
  simp only [Program.upholds_bind]
  apply upholds_observe working
  · exact fun error => upholds_markUncertain working inFlight
  · intro observed later worked pinned _ logged store
    have turn := worked.debtSound.inTurn turned
    simp only [Program.upholds_ite]
    refine ⟨fun exact_report => ?_, fun _ => ?_⟩
    · apply upholds_finishApplied tolerates worked outcome pinned turn
      have in_turn : now.store.olderUnfinished row = none := by
        rw [olderUnfinished_eq_none, ← store]
        exact turn
      rw [in_turn, exact_report] at logged
      exact logged
    · cases pushed with
      | error error =>
        simp only [Program.upholds_ite]
        exact ⟨fun _ => upholds_fail worked outcome, fun _ => upholds_markUncertain worked inFlight⟩
      | ok _ => exact upholds_markUncertain worked inFlight

/-- The object of a replica is one of the repository. -/
theorem Working.requiresOid {actual applicationId : String} (working : Working before debt now)
    (format : debt.replica.objectFormat.isOid actual = true) :
    now.store.requiresOid (.beginApplication actual applicationId) = true := by
  obtain ⟨_, _, _, _, _, replica⟩ := isBound_iff.mp working.debtSound.bound
  rw [ReplicationStore.requiresOid, ← now.store.policy.formats _ replica]
  exact format

/-- The decision on the observed destination, in turn. -/
theorem upholds_advanceExact {actual : String} (tolerates : Tolerates localFaults stop)
    (working : Working before debt now) (outcome : debt.outcome ∈ openOutcomes)
    (pinned : debt.operation ≠ .pinSource) (turn : now.InTurn debt)
    (format : debt.replica.objectFormat.isOid actual = true) :
    (advanceExact debt actual).Upholds (world localFaults) Sound (Settled before debt.id) stop
      now := by
  have phase := working.debtSound.phase
  have checked := working.debtSound.checked
  rw [advanceExact, Program.upholds_ite]
  refine ⟨fun inFlight => ?_, fun grounded => ?_⟩
  · have advancing : debt.operation = .advanceExactTarget := by
      revert phase inFlight
      cases debt.operation <;> cases debt.outcome <;> decide
    have flying : debt.applicationId.isSome = true :=
      (ReplicationDebt.application_of_isChecked checked).trans inFlight
    have expecting : debt.expectedDestinationSha.isSome = true := by
      rw [ReplicationDebt.expected_of_isChecked checked, advancing]
      rfl
    obtain ⟨expected, expects⟩ := Option.isSome_iff_exists.mp expecting
    simp only [expects, Program.upholds_ite]
    refine ⟨fun _ => upholds_markUncertain working inFlight, fun _ => ⟨fun uncertain => ?_,
      fun certain => ?_⟩⟩
    · rw [Program.upholds_bind]
      refine upholds_update working ?_ trivial rfl fun later ended _ _ => ?_
      · rw [DebtUpdate.admits, uncertain, flying, expecting]
        rfl
      · exact upholds_pushExact tolerates ended (sameDebt_change _) rfl
    · apply upholds_pushExact tolerates working .refl
      revert inFlight certain
      cases debt.outcome <;> decide
  · rw [Program.upholds_bind, newApplicationId]
    apply Program.upholds_ask.mpr
    intro choice _
    refine ⟨working.sound, ?_⟩
    simp only [Program.upholds_bind]
    refine upholds_update working ?_ ⟨pinned, turn⟩ (working.requiresOid format)
      fun later ended _ _ => upholds_pushExact tolerates ended (sameDebt_change _) rfl
    revert outcome grounded
    simp only [DebtUpdate.admits]
    cases debt.outcome <;> decide

/-- The zero object name has the form of one. -/
theorem isOid_zeroOid (format : GitObjectFormat) : format.isOid format.zeroOid = true := by
  cases format <;> decide

/-- The part of a reconciliation that works on the destination, in turn. -/
theorem upholds_reconcileDestination (tolerates : Tolerates localFaults stop)
    (working : Working before debt now) (outcome : debt.outcome ∈ openOutcomes)
    (turn : now.InTurn debt) :
    (reconcileDestination debt).Upholds (world localFaults) Sound (Settled before debt.id) stop
      now := by
  rw [reconcileDestination, Program.upholds_bind, verifyReplica]
  apply Program.upholds_ask.mpr
  intro replica _
  refine ⟨working.sound, ?_⟩
  simp only [world_perform, World.perform]
  cases replica.mismatch with
  | some error => exact upholds_recordFailure working outcome
  | none =>
    simp only [Program.upholds_bind]
    rw [verifyCanonical]
    apply Program.upholds_ask.mpr
    intro canonical permitted
    refine ⟨working.sound, ?_⟩
    simp only [world_perform, World.perform]
    rw [Program.upholds_bind]
    apply Program.upholds_require.mpr
    refine ⟨fun _ => ?_, fun lost => ?_⟩
    · rw [Program.upholds_bind]
      apply upholds_observe working
      · exact fun error => upholds_recordFailure working outcome
      · intro observed later worked pinned format logged store
        have turn_later : later.InTurn debt := by
          intro older mem
          rw [store] at mem
          exact turn older mem
        rw [Program.upholds_ite]
        refine ⟨fun exact_report => ?_, fun _ => ?_⟩
        · apply upholds_finishApplied tolerates worked outcome pinned turn_later
          have in_turn : now.store.olderUnfinished debt = none :=
            olderUnfinished_eq_none.mpr turn
          -- No commit has the name that stands for an absent target.
          cases observed with
          | none => exact absurd exact_report.symm (worked.debtSound.real _)
          | some object =>
            rw [in_turn, show object = debt.canonicalSourceSha from exact_report] at logged
            exact logged
        · apply upholds_advanceExact tolerates worked outcome pinned turn_later
          cases observed with
          | none => exact isOid_zeroOid _
          | some object => exact format
    · have faults : localFaults = true := by
        simpa [world, Choice.sparesLocal, lost] using permitted
      exact tolerates faults _ _ (by rintro ⟨⟩)

/-- What follows the publication of a pin. -/
def reconcilePinned (row : ReplicationDebt) : Routine ReplicationDebt :=
  if row.outcome = .applied then completeSourceCleanup row
  else do
    match ← olderUnfinished row with
    | some _ => .raise .blockedByOlder
    | none => reconcileDestination row

/-- The part of a reconciliation after the supersession check. A debt out of turn is left for the
older ones. -/
theorem upholds_reconcileInTurn (tolerates : Tolerates localFaults stop)
    (working : Working before debt now) (unfinished : debt.outcome.isFinished = false)
    (turn : (∀ now, stop .blockedByOlder now) ∨ before.InTurn debt) :
    (reconcileInTurn debt).Upholds (world localFaults) Sound (Settled before debt.id) stop now := by
  have pinned (row : ReplicationDebt) (later : World) (worked : Working before row later)
      (same : SameDebt debt row) (outcome : row.outcome = .applied ∨ row.outcome ∈ openOutcomes) :
      (reconcilePinned row).Upholds (world localFaults) Sound (Settled before debt.id) stop
        later := by
    rw [reconcilePinned, ← same.id, Program.upholds_ite]
    refine ⟨fun applied => upholds_completeSourceCleanup tolerates worked applied,
      fun not_applied => ?_⟩
    rw [Program.upholds_bind, olderUnfinished]
    apply Program.upholds_ask.mpr
    intro _ _
    refine ⟨worked.sound, ?_⟩
    simp only [world_perform, World.perform]
    cases older : later.store.olderUnfinished row with
    | none =>
      exact upholds_reconcileDestination tolerates worked (outcome.resolve_left not_applied)
        (olderUnfinished_eq_none.mp older)
    | some blocking =>
      rcases turn with tolerated | turn
      · exact tolerated later
      · rw [olderUnfinished_eq_none.mpr (worked.advances.inTurn same turn)] at older
        cases older
  rw [reconcileInTurn, Program.upholds_ite]
  refine ⟨fun pinning => ?_, fun advanced => ?_⟩
  · rw [Program.upholds_bind]
    apply upholds_publishSourcePin tolerates working pinning
    intro row later worked same outcome
    apply pinned row later worked same (.inr _)
    rcases outcome with outcome | outcome <;> rw [outcome] <;> decide
  · apply pinned debt now working .refl
    have phase := working.debtSound.phase
    revert phase unfinished advanced
    cases debt.operation <;> cases debt.outcome <;> decide

/-- `reconcile_replication_debt`. -/
theorem upholds_reconcileDebt {allowFailed : Bool} (tolerates : Tolerates localFaults stop)
    (sound : Sound now) (row : now.store.debts.find? debtId = some debt)
    (turn : (∀ now, stop .blockedByOlder now) ∨ now.InTurn debt) :
    (reconcileDebt debtId allowFailed).Upholds (world localFaults) Sound (Settled now debtId) stop
      now := by
  have named := (Table.find?_eq_some.mp row).2
  have working : Working now debt now := ⟨sound, .refl, named.symm ▸ row⟩
  have phase := working.debtSound.phase
  rw [reconcileDebt, Program.upholds_bind]
  apply upholds_readDebt sound row
  rw [Program.upholds_ite]
  refine ⟨fun done => ⟨working, named, ?_⟩, fun open_debt => ?_⟩
  · revert done phase
    cases debt.operation <;> cases debt.outcome <;> cases allowFailed <;> decide
  · have unfinished : debt.outcome.isFinished = false := by
      rw [Bool.or_eq_true, not_or] at open_debt
      exact Bool.eq_false_of_not_eq_true open_debt.1
    rw [Program.upholds_ite]
    refine ⟨fun superseded => ?_, fun _ => ?_⟩
    · have never : .supersededCleanupPending ∉ phases debt.operation := by
        cases debt.operation <;> decide
      exact absurd (superseded ▸ phase) never
    · rw [Program.upholds_bind, newerCompleted]
      apply Program.upholds_ask.mpr
      intro _ _
      refine ⟨sound, ?_⟩
      simp only [world_perform, World.perform,
        sound.newerCompleted_none working.stored unfinished]
      rw [← named]
      exact upholds_reconcileInTurn tolerates working unfinished turn

/-! ## The listing -/

/-- The columns that the listing is ordered by. -/
def listingKey (debt : ReplicationDebt) : String ×ₗ String ×ₗ Nat :=
  toLex (debt.destinationKey, toLex (debt.targetRef.text, debt.sequence))

/-- Debts are listed by their keys. -/
theorem listedBefore_iff : listedBefore debt other ↔ listingKey debt ≤ listingKey other := by
  simp only [listedBefore, listingKey, Prod.Lex.toLex_le_toLex]

instance : Std.Total listedBefore where
  total first second := by
    simp only [listedBefore_iff]
    exact le_total _ _

instance : IsTrans ReplicationDebt listedBefore where
  trans first second third := by
    simp only [listedBefore_iff]
    exact le_trans

/-- The debts that are worked on come first of the unfinished ones of their targets. -/
theorem due_inTurn {seen debts : List ReplicationDebt} (sorted : debts.Pairwise listedBefore)
    (mem : debt ∈ due seen debts) :
    debt ∈ debts ∧ debt.outcome.isFinished = false ∧
      (∀ first ∈ seen, first.sameTarget debt = false) ∧
      ∀ older ∈ debts, older.sameTarget debt = true → older.sequence < debt.sequence →
        older.outcome.isFinished = true := by
  induction debts generalizing seen with
  | nil => cases mem
  | cons head rest due_rest =>
    obtain ⟨before_rest, sorted_rest⟩ := List.pairwise_cons.mp sorted
    rw [due] at mem
    split at mem
    · rename_i passed
      obtain ⟨listed, unfinished, fresh, turn⟩ := due_rest sorted_rest mem
      refine ⟨List.mem_cons_of_mem _ listed, unfinished, fresh, fun older older_mem same less => ?_⟩
      rcases List.mem_cons.mp older_mem with rfl | older_mem
      · rcases Bool.or_eq_true_iff.mp passed with finished | already
        · exact finished
        · obtain ⟨first, first_mem, target⟩ := List.any_eq_true.mp already
          have apart := fresh first first_mem
          simp only [ReplicationDebt.sameTarget, Bool.and_eq_true, beq_iff_eq] at same target
          simp [ReplicationDebt.sameTarget, target, same] at apart
      · exact turn older older_mem same less
    · rename_i chosen
      rw [Bool.or_eq_true, not_or] at chosen
      rcases List.mem_cons.mp mem with rfl | mem
      · refine ⟨List.mem_cons_self, Bool.eq_false_of_not_eq_true chosen.1, fun first first_mem => ?_,
          fun older older_mem same less => ?_⟩
        · by_contra target
          exact chosen.2 (List.any_eq_true.mpr
            ⟨first, first_mem, Bool.eq_true_of_not_eq_false target⟩)
        · rcases List.mem_cons.mp older_mem with rfl | older_mem
          · omega
          · have ordered := before_rest older older_mem
            simp only [ReplicationDebt.sameTarget, Bool.and_eq_true, beq_iff_eq] at same
            simp only [listedBefore, same.1, same.2, lt_irrefl, false_or, true_and] at ordered
            omega
      · obtain ⟨listed, unfinished, fresh, turn⟩ := due_rest sorted_rest mem
        refine ⟨List.mem_cons_of_mem _ listed, unfinished,
          fun first first_mem => fresh first (List.mem_cons_of_mem _ first_mem),
          fun older older_mem same less => ?_⟩
        rcases List.mem_cons.mp older_mem with rfl | older_mem
        · rw [fresh older List.mem_cons_self] at same
          cases same
        · exact turn older older_mem same less

end Iq.Replication
