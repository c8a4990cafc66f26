import Iq.Replication.Turns

/-!
# Replication over whole runs

Every program of a reconciliation keeps the invariant after every effect, so it holds of every
reachable state, wherever reconciliations were interrupted. The pass over the pending debts works on
the first unfinished debt of each target, which is in its turn: no replica makes it end in an error,
and what a replica does to its own debt is left in that debt alone.
-/

namespace Iq.Replication

open Library

variable {now later before : World} {debt other row : ReplicationDebt} {debtId : String}
  {localFaults : Bool} {stop : ReconcileError → World → Prop}

/-! ## Passes -/

/-- A pass over distinct debts has ended. -/
structure PassEnded (before : World) (debts : List ReplicationDebt) (later : World) : Prop where
  sound : Sound later
  advances : Advances (debts.map ReplicationDebt.id) before later
  settled : ∀ debt ∈ debts, ∃ row ∈ later.store.debts, SameDebt debt row ∧
    row.outcome ∈ settledOutcomes

/-- The loop of `reconcile_pending_replication`. -/
theorem upholds_reconcileEach {debts : List ReplicationDebt} (tolerates : Tolerates localFaults stop)
    (sound : Sound now) (distinct : (debts.map ReplicationDebt.id).Nodup)
    (stored : ∀ debt ∈ debts, debt ∈ now.store.debts)
    (turns : (∀ now, stop .blockedByOlder now) ∨ ∀ debt ∈ debts, now.InTurn debt) :
    (reconcileEach debts).Upholds (world localFaults) Sound (fun _ => PassEnded now debts) stop
      now := by
  induction debts generalizing now with
  | nil => exact ⟨sound, .refl, List.forall_mem_nil _⟩
  | cons debt rest upholds_rest =>
    obtain ⟨fresh, distinct_rest⟩ := List.nodup_cons.mp distinct
    have found : now.store.debts.find? debt.id = some debt :=
      Table.find?_eq_some.mpr ⟨stored debt List.mem_cons_self, rfl⟩
    have turn := turns.imp_right fun turns => turns debt List.mem_cons_self
    rw [reconcileEach, Program.upholds_bind]
    refine (upholds_reconcileDebt tolerates sound found turn).mono ?_ fun _ _ stops => stops
    intro row later settled
    have advances : Advances [debt.id] now later := settled.named ▸ settled.working.advances
    have unworked {other : ReplicationDebt} (mem : other ∈ rest) : other.id ∉ [debt.id] := by
      intro own
      apply fresh
      rw [← List.mem_singleton.mp own]
      exact List.mem_map_of_mem mem
    have rest_stored (other : ReplicationDebt) (mem : other ∈ rest) : other ∈ later.store.debts := by
      have row := Table.find?_eq_some.mpr ⟨stored other (List.mem_cons_of_mem _ mem), rfl⟩
      exact (Table.find?_eq_some.mp (advances.find?_of_not_mem (unworked mem) row)).1
    have rest_turns : (∀ now, stop .blockedByOlder now) ∨ ∀ debt ∈ rest, later.InTurn debt :=
      turns.imp_right fun turns other mem =>
        advances.inTurn .refl (turns other (List.mem_cons_of_mem _ mem))
    refine (upholds_rest settled.working.sound distinct_rest rest_stored rest_turns).mono ?_
      fun _ _ stops => stops
    intro _ final ended
    refine ⟨ended.sound, ?_, fun other mem => ?_⟩
    · apply (advances.mono _).trans (ended.advances.mono _)
      · exact List.cons_subset.mpr ⟨List.mem_cons_self, List.nil_subset _⟩
      · exact List.subset_cons_self _ _
    · rcases List.mem_cons.mp mem with rfl | mem
      · -- The row of the first debt is left alone by the rest of the pass.
        have apart : row.id ∉ rest.map ReplicationDebt.id := settled.named ▸ fresh
        have kept := ended.advances.find?_of_not_mem apart settled.working.row
        obtain ⟨old, old_mem, same⟩ := settled.working.old
        have itself : old = other := by
          apply Table.eq_of_key old_mem (stored other List.mem_cons_self)
          exact same.id.symm.trans settled.named
        exact ⟨row, (Table.find?_eq_some.mp kept).1, itself ▸ same, settled.outcome⟩
      · exact ended.settled other mem

/-- `replication_debts`. -/
def World.listing (world : World) : List ReplicationDebt :=
  world.store.debts.rows.insertionSort listedBefore

/-- The debts that the next pass works on. -/
def World.due (world : World) : List ReplicationDebt := Iq.Replication.due [] world.listing

/-- The listed debts are the stored ones. -/
theorem mem_listing : debt ∈ now.listing ↔ debt ∈ now.store.debts :=
  List.mem_insertionSort listedBefore

/-- The listed debts are distinct. -/
theorem distinct_listing : (now.listing.map ReplicationDebt.id).Nodup :=
  ((List.perm_insertionSort listedBefore now.store.debts.rows).map _).nodup_iff.mpr
    now.store.debts.keyed

/-- The due debts are among those listed. -/
theorem due_sublist (seen debts : List ReplicationDebt) : (due seen debts).Sublist debts := by
  induction debts generalizing seen with
  | nil => exact .slnil
  | cons head rest sublist_rest =>
    rw [due]
    split
    · exact (sublist_rest seen).cons _
    · exact (sublist_rest _).cons_cons _

/-- A due debt is in its turn. -/
theorem inTurn_of_due (mem : debt ∈ now.due) : now.InTurn debt := by
  have turn := (due_inTurn (List.pairwise_insertionSort listedBefore _) mem).2.2.2
  exact fun older older_mem => turn older (mem_listing.mpr older_mem)

/-- `reconcile_pending_replication`. -/
theorem upholds_reconcilePending (tolerates : Tolerates localFaults stop) (sound : Sound now) :
    reconcilePending.Upholds (world localFaults) Sound (fun _ => PassEnded now now.due) stop
      now := by
  rw [reconcilePending, Program.upholds_bind, listDebts]
  apply Program.upholds_ask.mpr
  intro _ _
  refine ⟨sound, ?_⟩
  have sublist := due_sublist [] now.listing
  apply upholds_reconcileEach tolerates sound ((sublist.map _).nodup distinct_listing)
  · exact fun debt mem => mem_listing.mp (sublist.subset mem)
  · exact .inr fun debt mem => inTurn_of_due mem

/-- The loop of `replicate_canonical_landing`. -/
theorem upholds_publishEach {landedSha : String} {debts : List ReplicationDebt}
    (tolerates : Tolerates localFaults stop) (differs : ∀ now, stop .differsFromLanding now)
    (sound : Sound now) (distinct : (debts.map ReplicationDebt.id).Nodup)
    (stored : ∀ debt ∈ debts, debt ∈ now.store.debts) :
    (publishEach landedSha debts).Upholds (world localFaults) Sound (fun _ => Sound) stop now := by
  induction debts generalizing now with
  | nil => exact sound
  | cons debt rest upholds_rest =>
    obtain ⟨fresh, distinct_rest⟩ := List.nodup_cons.mp distinct
    rw [publishEach, Program.upholds_bind, Program.upholds_require]
    refine ⟨fun _ => ?_, fun _ => differs now⟩
    rw [Program.upholds_ite]
    refine ⟨fun pinning => ?_, fun _ => ?_⟩
    · have working : Working now debt now :=
        ⟨sound, .refl, Table.find?_eq_some.mpr ⟨stored debt List.mem_cons_self, rfl⟩⟩
      rw [Program.upholds_bind]
      apply upholds_publishSourcePin tolerates working pinning
      intro row later worked same _
      apply upholds_rest worked.sound distinct_rest
      intro other mem
      have row_other := Table.find?_eq_some.mpr ⟨stored other (List.mem_cons_of_mem _ mem), rfl⟩
      have apart : other.id ∉ [row.id] := by
        intro own
        apply fresh
        rw [← same.id, ← List.mem_singleton.mp own]
        exact List.mem_map_of_mem mem
      exact (Table.find?_eq_some.mp (worked.advances.find?_of_not_mem apart row_other)).1
    · exact upholds_rest sound distinct_rest fun other mem =>
        stored other (List.mem_cons_of_mem _ mem)

/-- No program of the machine has a transaction refused. -/
theorem upholds_entry (entry : Entry) (sound : Sound now) :
    entry.program.Upholds (world localFaults) Sound (fun _ => Sound)
      (fun reason _ => reason ≠ .refused) now := by
  have tolerates : Tolerates localFaults fun reason _ => reason ≠ .refused :=
    fun _ _ _ accepted => accepted
  have pending {now : World} (sound : Sound now) :
      reconcilePending.Upholds (world localFaults) Sound (fun _ => Sound)
        (fun reason _ => reason ≠ .refused) now :=
    (upholds_reconcilePending tolerates sound).mono (fun _ _ ended => ended.sound)
      fun _ _ stops => stops
  cases entry with
  | reconcilePending => exact pending sound
  | retryReplication debtId =>
    rw [Entry.program, retryReplication, Program.upholds_bind]
    cases row : now.store.debts.find? debtId with
    | none =>
      rw [reconcileDebt, Program.upholds_bind, readDebt, Program.upholds_bind, findDebt]
      apply Program.upholds_ask.mpr
      intro _ _
      refine ⟨sound, ?_⟩
      simp only [world_perform, World.perform, row]
      rintro ⟨⟩
    | some debt =>
      have other : ReconcileError.blockedByOlder ≠ .refused := by decide
      refine (upholds_reconcileDebt tolerates sound row (.inl fun _ => other)).mono ?_ fun _ _ stops => stops
      exact fun _ _ settled => settled.working.sound
  | replicateLanding itemId landedSha =>
    rw [Entry.program, replicateLanding, Program.upholds_bind, listDebts]
    apply Program.upholds_ask.mpr
    intro _ _
    refine ⟨sound, ?_⟩
    simp only [world_perform, World.perform]
    have sublist : (now.listing.filter fun debt => debt.itemId == itemId).Sublist now.listing :=
      List.filter_sublist
    rw [Program.upholds_bind]
    refine (upholds_publishEach tolerates (by rintro _ ⟨⟩) sound
      ((sublist.map _).nodup distinct_listing)
      fun debt mem => mem_listing.mp (sublist.subset mem)).mono ?_ fun _ _ stops => stops
    exact fun _ _ sound => pending sound

/-- The invariant holds of every reachable state, and the program that runs on it keeps it. -/
theorem sound_of_reachable {process : Process World Effect Answer ReconcileError Unit}
    (reachable : (replication localFaults).Reachable process) :
    Sound process.state ∧ ∀ program, process.running = some program →
      program.Upholds (world localFaults) Sound (fun _ => Sound)
        (fun reason _ => reason ≠ .refused) process.state :=
  processes_invariant (fun _ => sound_of_initial) (fun _ command sound => sound.command command)
    (fun entry _ sound => upholds_entry entry sound) reachable

/-! ## The protocol -/

/-- In every reachable state, wherever reconciliations were interrupted and whichever of their
commands failed: the source of a debt is pinned from its first operation until the debt is applied;
a debt is in flight or applied only when every older debt of its target is finished, and no push was
run for an older one after that; a succeeded debt was reported at exactly the landed commit, in its
turn. -/
theorem follows_protocol {process : Process World Effect Answer ReconcileError Unit}
    (reachable : (replication true).Reachable process) :
    (∀ debt ∈ process.state.store.debts,
      (debt.operation ≠ .pinSource →
        debt.outcome ∉ [.applied, .succeeded, .superseded, .supersededCleanupPending] →
        process.state.pins debt.id = some debt.canonicalSourceSha) ∧
      (debt.outcome ∈ [.applying, .uncertain, .applied, .succeeded] →
        ∀ older ∈ process.state.store.debts, older.destinationKey = debt.destinationKey →
          older.targetRef = debt.targetRef → older.sequence < debt.sequence →
          older.outcome = .succeeded ∨ older.outcome = .superseded) ∧
      (debt.outcome = .succeeded →
        .reported debt.id (some debt.canonicalSourceSha) true ∈ process.state.log)) ∧
    ∀ debtId, .pushed debtId false ∉ process.state.log := by
  have sound := (sound_of_reachable reachable).1
  refine ⟨fun debt mem => ⟨fun pinned unapplied => ?_, fun turned older older_mem destination
    target less => ?_, fun succeeded => ?_⟩, sound.orderly⟩
  · apply (sound.debts debt mem).pin.held pinned
    intro reported
    apply unapplied
    revert reported
    cases debt.outcome <;> decide
  · have same : older.sameTarget debt = true := by
      simp [ReplicationDebt.sameTarget, destination, target]
    have finished := (sound.debts debt mem).inTurn turned older older_mem same less
    revert finished
    cases older.outcome <;> decide
  · apply (sound.debts debt mem).reported
    rw [succeeded]
    decide

namespace Sample

/-- A landed commit. -/
def landed : CommitId where
  text := String.ofList (List.replicate 40 'a')
  real format := by cases format <;> decide

/-- A repository with one replica. -/
def policy : RepositoryReplication where
  operationState := .enabled
  objectFormat := .sha1
  replicas := [⟨"mirror", .sha1⟩]
  distinct := by decide
  formats := by decide

/-- No items and no debts. -/
def start : Process World Effect Answer ReconcileError Unit :=
  ⟨⟨⟨policy, .empty, .empty⟩, fun _ => none, []⟩, none⟩

/-- Every command succeeds, and the replica is at the landed commit. -/
def exactReplica : Choice := ⟨true, true, true, true, some landed.text, none, "application"⟩

/-- Every local command succeeds, and the replica is another repository. -/
def movedReplica : Choice := ⟨true, true, true, true, none, some "another repository", "application"⟩

/-- One item lands. -/
def landing : List (ProcessLabel Command Entry Choice) :=
  [.outside (.admitItem "item" ⟨"refs/heads/main", TargetRef.valid_main⟩),
    .outside (.markIntegrated "item" landed ["debt"])]

/-- The state after the landing. -/
def owing : Process World Effect Answer ReconcileError Unit :=
  (replication true).run start landing

/-- The state after a pass that met the exact replica. -/
def replicated : Process World Effect Answer ReconcileError Unit :=
  (replication true).run owing
    (.start .reconcilePending :: List.replicate 18 (.advance exactReplica))

/-- The sample's debts are reachable. -/
theorem owing_reachable : (replication true).Reachable owing := by
  have initial : (replication true).Initial start := ⟨⟨rfl, rfl, fun _ => rfl, rfl⟩, rfl⟩
  exact (Machine.Reachable.initial initial).run landing

end Sample

/-- The sample's debt is reported after it was replicated. -/
theorem sample_follows_protocol :
    .reported "debt" (some Sample.landed.text) true ∈ Sample.replicated.state.log := by
  have protocol := follows_protocol (Sample.owing_reachable.run
    (.start .reconcilePending :: List.replicate 18 (.advance Sample.exactReplica)))
  have succeeded : ∃ debt ∈ Sample.replicated.state.store.debts.rows, debt.id = "debt" ∧
      debt.canonicalSourceSha = Sample.landed.text ∧ debt.outcome = .succeeded := by
    decide
  obtain ⟨debt, mem, named, source, outcome⟩ := succeeded
  have reported := (protocol.1 debt mem).2.2 outcome
  rw [named, source] at reported
  exact reported

/-- In no reachable state was a transaction of a reconciliation refused; and from every reachable
state the pass over the pending debts returns, whatever happens to the commands that go to the
replicas. It leaves the queue as it was and every debt that was not due; a debt that was due has
succeeded or carries its failure. -/
theorem pending_is_harmless {process : Process World Effect Answer ReconcileError Unit}
    (reachable : (replication true).Reachable process) :
    process.running ≠ some (.raise .refused) ∧
    ∀ choices : Nat → Choice,
      reconcilePending.Permitted (world false) process.state choices →
      ∃ later, reconcilePending.run (world false) process.state choices = (.ok (), later) ∧
        later.store.policy = process.state.store.policy ∧
        later.store.items = process.state.store.items ∧
        (∀ debt ∈ process.state.due, ∃ row ∈ later.store.debts, SameDebt debt row ∧
          (row.outcome = .succeeded ∨
            (row.outcome = .failed ∨ row.outcome = .uncertain) ∧ row.failure.isSome = true)) ∧
        ∀ debt, debt.id ∉ process.state.due.map ReplicationDebt.id →
          (debt ∈ later.store.debts ↔ debt ∈ process.state.store.debts) := by
  obtain ⟨sound, running⟩ := sound_of_reachable reachable
  refine ⟨fun refused => running _ refused rfl, fun choices permitted => ?_⟩
  have tolerates : Tolerates false fun _ _ => False := fun faults => nomatch faults
  have ended := (upholds_reconcilePending tolerates sound).run permitted
  cases result : reconcilePending.run (world false) process.state choices with
  | mk answer later =>
    rw [result] at ended
    cases answer with
    | error reason => exact ended.elim
    | ok _ =>
      refine ⟨later, rfl, ended.advances.policy, ended.advances.items, fun debt mem => ?_,
        fun debt apart => ⟨fun mem => ?_, fun mem => ?_⟩⟩
      · obtain ⟨row, row_mem, same, outcome⟩ := ended.settled debt mem
        refine ⟨row, row_mem, same, ?_⟩
        rw [ReplicationDebt.failure_of_isChecked (ended.sound.debts row row_mem).checked]
        revert outcome
        cases row.outcome <;> decide
      · obtain ⟨old, old_mem, same, kept⟩ := ended.advances.rows debt mem
        rcases kept with rfl | ⟨worked, _⟩
        · exact old_mem
        · exact absurd (same.id ▸ worked) apart
      · have row := Table.find?_eq_some.mpr ⟨mem, rfl⟩
        exact (Table.find?_eq_some.mp (ended.advances.find?_of_not_mem apart row)).1

/-- The sample's pass settles its debt when the replica has moved. -/
theorem sample_pending_is_harmless :
    ∃ later, reconcilePending.run (world false) Sample.owing.state (fun _ => Sample.movedReplica) =
        (.ok (), later) ∧
      ∃ row ∈ later.store.debts, row.id = "debt" ∧
        (row.outcome = .succeeded ∨
          (row.outcome = .failed ∨ row.outcome = .uncertain) ∧ row.failure.isSome = true) := by
  have spared (now : World) (effect : Effect) :
      (world false).permits now effect Sample.movedReplica = true := by
    cases effect <;> simp [world, Choice.sparesLocal, Sample.movedReplica]
  obtain ⟨later, returns, _, _, settled, _⟩ := (pending_is_harmless Sample.owing_reachable).2
    (fun _ => Sample.movedReplica) (Program.permitted_of_forall spared _ _)
  have owed : ∃ debt ∈ Sample.owing.state.due, debt.id = "debt" := by decide
  obtain ⟨debt, mem, named⟩ := owed
  obtain ⟨row, row_mem, same, outcome⟩ := settled debt mem
  exact ⟨later, returns, row, row_mem, same.id.trans named, outcome⟩

end Iq.Replication
