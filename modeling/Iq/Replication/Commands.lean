import Iq.Replication.Sound

/-!
# Landings and operation states keep the invariant

The commands outside reconciliations write items, new debts and the operation state. A debt is bound
to an item that has landed, so no command unbinds it; draining captures every unfinished debt or its
item, so no command leaves one without the right to be worked on.
-/

namespace Iq.Replication

open Library

variable {world later : World} {debt : ReplicationDebt}

/-! ## Commands that write no debt -/

/-- The replicas and the landed items of a store are those of a later one. -/
structure KeepsLandings (store later : ReplicationStore) : Prop where
  replicas : later.policy.replicas = store.policy.replicas
  landed : ∀ itemId item landedSha, store.items.find? itemId = some item →
    item.outcome = .integrated landedSha → later.items.find? itemId = some item

/-- What binds a debt. -/
theorem isBound_iff {store : ReplicationStore} :
    store.isBound debt = true ↔ ∃ item, store.items.find? debt.itemId = some item ∧
      item.outcome = .integrated debt.canonicalSourceSha ∧ item.targetRef = debt.targetRef ∧
      debt.destinationKey = debt.replica.destinationKey ∧
      debt.replica ∈ store.policy.replicas := by
  simp only [ReplicationStore.isBound, Option.any_eq_true, Bool.and_eq_true, beq_iff_eq,
    List.contains_iff_mem, and_assoc]

/-- What is bound stays bound while landings are kept. -/
theorem KeepsLandings.isBound {store later : ReplicationStore} (keeps : KeepsLandings store later)
    (bound : store.isBound debt = true) : later.isBound debt = true := by
  obtain ⟨item, found, landed, target, destination, replica⟩ := isBound_iff.mp bound
  apply isBound_iff.mpr
  refine ⟨item, keeps.landed _ _ _ found landed, landed, target, destination, ?_⟩
  rw [keeps.replicas]
  exact replica

/-- A debt stays sound while the debts, the pins and the log are the same. -/
theorem DebtSound.ofKept (sound : DebtSound world debt)
    (debts : later.store.debts = world.store.debts)
    (pins : later.pins = world.pins) (log : later.log = world.log)
    (landings : KeepsLandings world.store later.store)
    (obliged : debt.outcome.isFinished = false → later.store.isObliged debt = true) :
    DebtSound later debt := by
  refine ⟨sound.checked, sound.real, sound.phase, landings.isBound sound.bound, obliged, ?_, ?_, ?_⟩
  · rw [pins]
    exact sound.pin
  · intro turned older mem
    rw [debts] at mem
    exact sound.inTurn turned older mem
  · intro reported
    rw [World.Reported, log]
    exact sound.reported reported

/-- A command that writes no debt keeps the invariant when it leaves the landings, the obligations
of unfinished debts and the cover. -/
theorem Sound.ofKept (sound : Sound world) (debts : later.store.debts = world.store.debts)
    (pins : later.pins = world.pins) (log : later.log = world.log)
    (landings : KeepsLandings world.store later.store)
    (obliged : ∀ debt ∈ world.store.debts, debt.outcome.isFinished = false →
      later.store.isObliged debt = true)
    (covered : Covered later.store) : Sound later := by
  refine ⟨fun debt mem => ?_, fun debtId absent => ?_, covered, ?_⟩
  · rw [debts] at mem
    exact (sound.debts debt mem).ofKept debts pins log landings (obliged debt mem)
  · rw [debts] at absent
    rw [pins]
    exact sound.unpinned debtId absent
  · rw [log]
    exact sound.orderly

/-- Every unfinished debt is obliged. -/
theorem Sound.obliged (sound : Sound world) (mem : debt ∈ world.store.debts)
    (unfinished : debt.outcome.isFinished = false) : world.store.isObliged debt = true :=
  (sound.debts debt mem).obliged unfinished

/-- An admission keeps the invariant. -/
theorem Sound.admitItem {itemId : String} {targetRef : TargetRef} {store : ReplicationStore}
    (sound : Sound world) (admitted : world.store.admitItem itemId targetRef = some store) :
    Sound { world with store } := by
  unfold ReplicationStore.admitItem at admitted
  split at admitted
  · rename_i enabled
    obtain ⟨items, inserted, rfl⟩ := Option.map_eq_some_iff.mp admitted
    refine @Sound.ofKept world { world with
      store := { world.store with items } } sound rfl rfl rfl ⟨rfl, ?_⟩ ?_ ?_
    · intro landedId item landedSha found landed
      change items.find? landedId = some item
      have stored := (Table.find?_eq_some.mp found)
      have apart := Table.fresh_of_insert? inserted stored.1
      rw [stored.2] at apart
      rw [Table.find?_of_insert? _ inserted, if_neg (Ne.symm apart), found]
    · exact fun debt mem unfinished => sound.obliged mem unfinished
    · simp [Covered, enabled]
  · cases admitted

/-- A rewrite of unfinished items that leaves none unfinished keeps the landings and the cover. -/
theorem keepsLandings_update {store : ReplicationStore} {chosen : LandedItem → Bool}
    {change : LandedItem → LandedItem} {kept : ∀ row, (change row).id = row.id}
    (unfinished : ∀ item, chosen item = true → item.outcome = .unfinished) :
    KeepsLandings store { store with
      items := store.items.update chosen change kept } := by
  refine ⟨rfl, fun itemId item landedSha found landed => ?_⟩
  change (store.items.update chosen change kept).find? itemId = some item
  rw [Table.find?_update, found, Option.map_some, Table.rewrite_of_not_chosen]
  intro hit
  rw [unfinished item hit] at landed
  cases landed

/-- A finished update keeps the debts covered. -/
theorem covered_update {store : ReplicationStore} {chosen : LandedItem → Bool}
    {change : LandedItem → LandedItem} {kept : ∀ row, (change row).id = row.id}
    (finished : ∀ item, (change item).outcome ≠ .unfinished) (covered : Covered store) :
    Covered { store with
      items := store.items.update chosen change kept } := by
  -- An item that is unfinished afterwards was not rewritten.
  have old (item : LandedItem) (mem : item ∈ store.items.update chosen change kept)
      (unfinished : item.outcome = .unfinished) : item ∈ store.items := by
    obtain ⟨before, stored, rfl⟩ := Table.mem_update.mp mem
    by_cases hit : chosen before = true
    · rw [Table.rewrite_of_chosen hit] at unfinished
      exact absurd unfinished (finished before)
    · rw [Table.rewrite_of_not_chosen hit]
      exact stored
  revert covered
  simp only [Covered]
  cases store.policy.operationState with
  | enabled => exact fun _ => trivial
  | draining obligations =>
    exact fun covered item mem unfinished => covered item (old item mem unfinished) unfinished
  | disabled =>
    exact fun covered item mem unfinished => covered item (old item mem unfinished) unfinished

/-- A cancellation keeps the invariant. -/
theorem Sound.cancel (sound : Sound world) (itemId : String) :
    Sound { world with store := world.store.cancel itemId } := by
  refine @Sound.ofKept world { world with store := world.store.cancel itemId } sound rfl rfl rfl
    ?_ ?_ ?_
  · apply keepsLandings_update
    intro item hit
    simp only [Bool.and_eq_true, beq_iff_eq] at hit
    exact hit.2
  · exact fun debt mem unfinished => sound.obliged mem unfinished
  · exact covered_update (fun _ outcome => nomatch outcome) sound.covered

/-- Draining captures what is unfinished. -/
theorem Sound.beginDraining {store : ReplicationStore} (sound : Sound world)
    (began : world.store.beginDraining = some store) : Sound { world with store } := by
  unfold ReplicationStore.beginDraining at began
  split at began
  · cases began
    refine @Sound.ofKept world { world with
      store := world.store.withState (.draining world.store.obligations) } sound rfl rfl rfl
      ⟨rfl, fun _ _ _ found _ => found⟩ ?_ ?_
    · intro debt mem unfinished
      have captured : Obligation.replication debt.id ∈ world.store.obligations := by
        apply List.mem_append_right
        apply List.mem_map.mpr
        refine ⟨debt, Table.mem_select.mpr ⟨mem, ?_⟩, rfl⟩
        rw [unfinished]
        rfl
      simp [ReplicationStore.isObliged, ReplicationStore.withState, captured]
    · intro item mem unfinished
      apply List.mem_append_left
      apply List.mem_map.mpr
      exact ⟨item, Table.mem_select.mpr ⟨mem, by simp [unfinished]⟩, rfl⟩
  · cases began

/-- Nothing unfinished is left when a repository is disabled. -/
theorem Sound.disableDrained {store : ReplicationStore} (sound : Sound world)
    (disabled : world.store.disableDrained = some store) : Sound { world with store } := by
  unfold ReplicationStore.disableDrained at disabled
  split at disabled
  · rename_i obligations draining
    split at disabled
    · rename_i complete
      cases disabled
      rw [List.all_eq_true] at complete
      refine @Sound.ofKept world { world with store := world.store.withState .disabled } sound
        rfl rfl rfl ⟨rfl, fun _ _ _ found _ => found⟩ ?_ ?_
      · intro debt mem unfinished
        have captured := sound.obliged mem unfinished
        simp only [ReplicationStore.isObliged, draining, Bool.or_eq_true,
          List.contains_iff_mem] at captured
        rcases captured with item | own
        · have finished := complete _ item
          simp only [ReplicationStore.isComplete, Option.any_eq_true, Bool.and_eq_true,
            Bool.not_eq_true', Table.any_eq_false] at finished
          obtain ⟨_, _, _, none_left⟩ := finished
          have none_here := none_left debt mem
          simp [unfinished] at none_here
        · have finished := complete _ own
          simp only [ReplicationStore.isComplete, Option.any_eq_true] at finished
          obtain ⟨row, found, done⟩ := finished
          have stored := Table.find?_eq_some.mp found
          rw [Table.eq_of_key stored.1 mem stored.2, unfinished] at done
          cases done
      · intro item mem unfinished
        have covered := sound.covered
        simp only [Covered, draining] at covered
        have finished := complete _ (covered item mem unfinished)
        simp only [ReplicationStore.isComplete, Option.any_eq_true, Bool.and_eq_true,
          bne_iff_ne] at finished
        obtain ⟨row, found, done, _⟩ := finished
        have stored := Table.find?_eq_some.mp found
        rw [Table.eq_of_key stored.1 mem stored.2] at done
        exact done unfinished
    · cases disabled
  · cases disabled

/-! ## Landings -/

/-- The next sequence number is above those of the target. -/
theorem lt_nextSequence {store : ReplicationStore} {destinationKey : String} {targetRef : TargetRef}
    (mem : debt ∈ store.debts) (destination : debt.destinationKey = destinationKey)
    (target : debt.targetRef = targetRef) :
    debt.sequence < store.nextSequence destinationKey targetRef := by
  apply Nat.lt_succ_of_le
  apply List.le_max?_getD_of_mem
  apply List.mem_map.mpr
  exact ⟨debt, Table.mem_select.mpr ⟨mem, by simp [destination, target]⟩, rfl⟩

/-- Work on the debts of an item is admitted. -/
def ItemObliged (store : ReplicationStore) (itemId : String) : Prop :=
  ∀ debt : ReplicationDebt, debt.itemId = itemId → store.isObliged debt = true

/-- An unfinished item is enabled or captured. -/
theorem Sound.itemObliged {item : LandedItem} (sound : Sound world)
    (mem : item ∈ world.store.items) (unfinished : item.outcome = .unfinished) :
    ItemObliged world.store item.id := by
  intro debt named
  have covered := sound.covered
  unfold Covered at covered
  unfold ReplicationStore.isObliged
  cases operation : world.store.policy.operationState with
  | enabled => rfl
  | draining obligations =>
    rw [operation] at covered
    have captured := covered item mem unfinished
    simp only [named, Bool.or_eq_true, List.contains_iff_mem]
    exact .inl captured
  | disabled =>
    rw [operation] at covered
    exact absurd unfinished (covered item mem)

/-- The item of a landing, after its own write. -/
structure Landed (store : ReplicationStore) (item : LandedItem) (landed : CommitId) : Prop where
  row : store.items.find? item.id = some { item with outcome := .integrated landed.text }
  obliged : ItemObliged store item.id

/-- The debt that a landing owes a replica is sound when it is inserted. -/
theorem debtSound_owed {item : LandedItem} {landed : CommitId} {debtId : String}
    {replica : Replica} (lands : Landed later.store item landed)
    (member : replica ∈ later.store.policy.replicas) (unpinned : later.pins debtId = none) :
    DebtSound later (world.store.owed item landed.text debtId replica) where
  checked := rfl
  real := landed.real
  phase := List.mem_cons_self
  bound := isBound_iff.mpr ⟨_, lands.row, rfl, rfl, rfl, member⟩
  obliged _ := lands.obliged _ rfl
  pin := ⟨.inl unpinned, fun pinned => absurd rfl pinned⟩
  inTurn turned := by simp [ReplicationStore.owed, turnOutcomes] at turned
  reported reported := by simp [ReplicationStore.owed, reportedOutcomes] at reported

/-- The insertion of an owed debt keeps the invariant: it is the newest of its target. -/
theorem Sound.insertDebt {item : LandedItem} {landed : CommitId} {debtId : String}
    {replica : Replica} {debts : Table ReplicationDebt.id} (sound : Sound world)
    (lands : Landed world.store item landed) (member : replica ∈ world.store.policy.replicas)
    (inserted : world.store.debts.insert? (world.store.owed item landed.text debtId replica) =
      some debts) : Sound { world with store := { world.store with debts } } := by
  have absent : world.store.debts.find? debtId = none :=
    Table.find?_eq_none.mpr fun other mem => Table.fresh_of_insert? inserted mem
  refine ⟨fun debt mem => ?_, fun otherId missing => ?_, sound.covered, sound.orderly⟩
  · change debt ∈ debts at mem
    rcases (Table.mem_of_insert? inserted).mp mem with old | rfl
    · have kept := sound.debts debt old
      refine ⟨kept.checked, kept.real, kept.phase, kept.bound, kept.obliged, kept.pin, ?_,
        kept.reported⟩
      intro turned older older_mem same less
      change older ∈ debts at older_mem
      rcases (Table.mem_of_insert? inserted).mp older_mem with older_old | rfl
      · exact kept.inTurn turned older older_old same less
      · have newest : debt.sequence <
            (world.store.owed item landed.text debtId replica).sequence := by
          simp only [ReplicationDebt.sameTarget, Bool.and_eq_true, beq_iff_eq] at same
          exact lt_nextSequence old same.1.symm same.2.symm
        omega
    · exact @debtSound_owed world { world with store := { world.store with debts } } _ _ _ _
        ⟨lands.row, lands.obliged⟩ member (sound.unpinned debtId absent)
  · change debts.find? otherId = none at missing
    apply sound.unpinned otherId
    rw [Table.find?_of_insert? otherId inserted] at missing
    split at missing
    · cases missing
    · exact missing

/-- The insertions of a landing keep the invariant. -/
theorem Sound.insertDebts {item : LandedItem} {landed : CommitId} {final : ReplicationStore}
    (owed : List (String × Replica)) (sound : Sound world)
    (lands : Landed world.store item landed)
    (members : ∀ entry ∈ owed, entry.2 ∈ world.store.policy.replicas)
    (inserted : ReplicationStore.insertDebts item landed.text world.store owed = some final) :
    Sound { world with store := final } := by
  induction owed generalizing world with
  | nil =>
    cases inserted
    exact sound
  | cons entry rest sound_rest =>
    obtain ⟨debtId, replica⟩ := entry
    simp only [ReplicationStore.insertDebts] at inserted
    split at inserted
    · cases inserted
    · split at inserted
      · cases inserted
      · rename_i debts stored
        have member := members _ List.mem_cons_self
        exact @sound_rest { world with store := { world.store with debts } }
          (sound.insertDebt lands member stored) ⟨lands.row, lands.obliged⟩
          (fun entry mem => members entry (List.mem_cons_of_mem _ mem)) inserted

/-- A landing keeps the invariant. -/
theorem Sound.markIntegrated {itemId : String} {landed : CommitId} {debtIds : List String}
    {store : ReplicationStore} (sound : Sound world)
    (integrated : world.store.markIntegrated itemId landed debtIds = some store) :
    Sound { world with store } := by
  unfold ReplicationStore.markIntegrated at integrated
  split at integrated
  · cases integrated
  · rename_i item found
    split at integrated
    · cases integrated
    · rename_i accepted
      obtain ⟨mem, rfl⟩ := Table.find?_eq_some.mp found
      have unfinished : item.outcome = .unfinished := by
        by_contra finished
        exact accepted (.inl finished)
      have obliged := sound.itemObliged mem unfinished
      let land (row : LandedItem) : LandedItem := { row with outcome := .integrated landed.text }
      let items : Table LandedItem.id :=
        world.store.items.update (fun row => row.id == item.id) land fun _ => rfl
      let landing : World := { world with store := { world.store with items } }
      have lands : Landed landing.store item landed :=
        ⟨Table.find?_update_key land (fun _ => rfl) found, obliged⟩
      have keeps : KeepsLandings world.store landing.store := by
        refine ⟨rfl, fun otherId other landedSha stored finished => ?_⟩
        have apart : other.id ≠ item.id := by
          intro same
          rw [Table.eq_of_key (Table.find?_eq_some.mp stored).1 mem same, unfinished] at finished
          cases finished
        change items.find? otherId = some other
        rw [Table.find?_update, stored, Option.map_some, Table.rewrite_of_key_ne apart]
      have landing_sound : Sound landing :=
        sound.ofKept rfl rfl rfl keeps (fun debt mem unfinished => sound.obliged mem unfinished)
          (covered_update (by rintro _ ⟨⟩) sound.covered)
      exact landing_sound.insertDebts _ lands (fun entry mem => (List.of_mem_zip mem).2) integrated

/-- Every command keeps the invariant. -/
theorem Sound.command (sound : Sound world) (command : Command) :
    Sound (world.command command) := by
  have refused {store : Option ReplicationStore}
      (committed : ∀ final, store = some final → Sound { world with store := final }) :
      Sound { world with store := store.getD world.store } := by
    cases store with
    | none => exact sound
    | some final => exact committed final rfl
  cases command with
  | admitItem itemId targetRef => exact refused fun _ admitted => sound.admitItem admitted
  | cancel itemId => exact sound.cancel itemId
  | markIntegrated itemId landed debtIds =>
    exact refused fun _ integrated => sound.markIntegrated integrated
  | beginDraining => exact refused fun _ began => sound.beginDraining began
  | disableDrained => exact refused fun _ disabled => sound.disableDrained disabled

/-- A registered repository has no debts. -/
theorem sound_of_initial (initial : world.Initial) : Sound world where
  debts debt mem := by
    rw [← Table.mem_rows, initial.undebted] at mem
    cases mem
  unpinned debtId _ := initial.unpinned debtId
  covered := by
    rw [Covered, initial.enabled]
    trivial
  orderly debtId := by
    rw [initial.unlogged]
    exact List.not_mem_nil

end Iq.Replication
