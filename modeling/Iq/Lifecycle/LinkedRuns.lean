import Iq.Lifecycle.LinkedStore

/-!
# Linked databases over runs

The operations that make, cut or hand over a link: the claim of an item, its blocking and
cancellation without an effort, the cleanup of a replaced attempt, the creation of an effort, and
the draining of a repository. With the operations of the control store, every reachable database is
linked.
-/

namespace Iq

open Library Library.Transaction Database

variable {db later : Database} {effort : IntegrationEffort} {item other : QueueItem}
  {effortId itemId attemptId : String} {stamp : Stamp}

/-! ## Operations of the queue -/

/-- A guarded write of an item keeps the database linked when the item keeps the attempt of an
effort that still uses one, stays admitted, and lands nothing of its own. -/
theorem Database.Linked.updateItem {changeItem : QueueItem → QueueItem}
    (keptItem : ∀ item, (changeItem item).id = item.id) (linked : db.Linked)
    (found : db.items.find? itemId = some item)
    (matching : ∀ owner, db.effortOfItem itemId = some owner →
      projectionMatches owner (changeItem item) = true)
    (current : ∀ owner, db.effortOfItem itemId = some owner →
      owner.state.name ≠ .replacementPending →
        (changeItem item).currentAttemptId = some owner.attemptId)
    (unlanded : item.Unlanded → (changeItem item).Unlanded)
    (sameRepo : (changeItem item).repoKey = item.repoKey)
    (admits : (changeItem item).status.isTerminal = false → db.Admits item) :
    Linked { db with
      items := db.items.update (fun item => item.id == itemId) changeItem keptItem } := by
  have rows : ∀ row ∈ db.items.update (fun item => item.id == itemId) changeItem keptItem,
      row = changeItem item ∨ (row ∈ db.items ∧ row.id ≠ itemId) :=
    fun _ => Table.mem_update_key found
  refine ⟨linked.distinct, ?_, ?_, ?_, ?_⟩
  · intro effort mem
    have before := linked.owned effort mem
    refine ⟨before.valid, before.attempt, ?_⟩
    by_cases hit : effort.itemId = itemId
    · have owner : db.effortOfItem itemId = some effort := by
        rw [← hit]
        exact effortOfItem_eq_some linked.distinct mem
      refine ⟨changeItem item, ?_, matching effort owner, current effort owner⟩
      rw [hit]
      exact Table.find?_update_key changeItem keptItem found
    · rcases before.item with ⟨other, stored, matches', keeps⟩
      refine ⟨other, ?_, matches', keeps⟩
      have apart : other.id ≠ itemId := by
        rw [(Table.find?_eq_some.mp stored).2]
        exact hit
      show (db.items.update _ changeItem keptItem).find? effort.itemId = some other
      rw [Table.find?_update, stored, Option.map_some, Table.rewrite_of_key_ne apart]
  · intro row mem unowned
    rcases rows row mem with rfl | ⟨stored, -⟩
    · rw [keptItem] at unowned
      exact unlanded (linked.free item (Table.find?_eq_some.mp found).1 unowned)
    · exact linked.free row stored unowned
  · intro row mem active
    rcases rows row mem with rfl | ⟨stored, -⟩
    · rcases admits active with ⟨policy, stored, passed⟩
      exact ⟨policy, by rw [sameRepo]; exact stored, by rw [keptItem]; exact passed⟩
    · exact linked.admitted row stored active
  · intro row mem
    rcases rows row mem with rfl | ⟨stored, -⟩
    · rw [sameRepo]
      exact linked.registered item (Table.find?_eq_some.mp found).1
    · exact linked.registered row stored

/-- What the projection guard demands of an item. -/
theorem projectionMatches_iff :
    projectionMatches effort item = true ↔
      (item.status = if effort.state.name = .replacementPending ∧ item.currentAttemptId ≠ none ∧
          item.currentAttemptId ≠ some effort.attemptId then .merging
        else effort.state.projection.status) ∧
      item.blockedPhase = effort.state.projection.blockedPhase ∧
      item.blockedReason = effort.state.projection.blockedReason ∧
      item.landedCommitSha = effort.state.landedCommit ∧
      item.landing = effort.state.legacyLanding := by
  unfold projectionMatches
  simp only [Bool.and_eq_true, beq_iff_eq, and_assoc]
  refine and_congr_left fun _ => ?_
  cases effort.state with
  | replacementPending value =>
    have ready : (IntegrationEffortState.replacementPending value).projection.status = .ready := rfl
    rw [ready]
    split_ifs <;> grind [IntegrationEffortState.name]
  | _ => simp [IntegrationEffortState.name]

/-- Only an effort that awaits its replacement leaves its item ready. -/
theorem projection_ready {state : IntegrationEffortState}
    (ready : state.projection.status = .ready) : state.name = .replacementPending := by
  cases state with
  | replacementPending => rfl
  | validating value =>
    rcases value with ⟨candidateSha, policyDigest, stage⟩
    cases stage <;> cases ready
  | _ => cases ready

/-- A ready item that an effort owns waits for the replacement of its attempt. -/
theorem Database.Linked.waits_of_ready {owner : IntegrationEffort} (linked : db.Linked)
    (found : db.items.find? itemId = some item) (ready : item.status = .ready)
    (owned : db.effortOfItem itemId = some owner) : owner.state.name = .replacementPending := by
  have key : owner.itemId = itemId := by simpa using List.find?_some owned
  rcases (linked.owned owner (List.mem_of_find?_eq_some owned)).item with ⟨own, foundOwn, matched, -⟩
  rw [key, found] at foundOwn
  cases foundOwn
  have status := (projectionMatches_iff.mp matched).1
  rw [ready] at status
  split at status
  · cases status
  · exact projection_ready status.symm

/-- A new attempt keeps the database linked. -/
theorem Database.Linked.insertAttempt {attempt : Attempt} {attempts : Table Attempt.id}
    (inserted : db.attempts.insert? attempt = some attempts) (linked : db.Linked) :
    Linked { db with attempts } := by
  refine ⟨linked.distinct, fun effort mem => ?_, linked.free, linked.admitted, linked.registered⟩
  have owns := linked.owned effort mem
  refine ⟨owns.valid, ?_, owns.item⟩
  rcases owns.attempt with ⟨old, found, rest⟩
  refine ⟨old, ?_, rest⟩
  have apart : attempt.id ≠ effort.attemptId := by
    rw [← (Table.find?_eq_some.mp found).2]
    exact (Table.fresh_of_insert? inserted (Table.find?_eq_some.mp found).1).symm
  show attempts.find? effort.attemptId = some old
  rw [Table.find?_of_insert? _ inserted, if_neg apart, found]

/-- A claimed item is linked to its new attempt. -/
theorem claimNextReady_linked {repoKey : String} {targetRef : TargetRef}
    {withoutValidation : Bool} :
    (claimNextReady repoKey targetRef withoutValidation stamp).Preserves Linked := by
  intro db linked
  rw [wp_iff]
  refine ⟨fun claimed later commits => ?_, fun _ _ => trivial⟩
  simp only [claimNextReady, commits_query_bind] at commits
  split at commits
  · rw [commits_pure] at commits
    rw [← commits.2]
    exact linked
  · rename_i item found
    have stored : item ∈ db.items := List.mem_of_find?_eq_some found
    have passes := List.find?_some found
    simp only [Bool.and_eq_true, Bool.not_eq_true'] at passes
    rw [commits_requireItemObligation_bind, commits_ite] at commits
    rcases commits with ⟨-, ⟨-, idle⟩ | ⟨ready, rest⟩⟩
    · rw [commits_pure] at idle
      rw [← idle.2]
      exact linked
    · simp only [commits_query_bind, commits_lookup_bind, commits_write_bind] at rest
      rcases rest with ⟨attempts, inserted, rest⟩
      rw [commits_bind] at rest
      rcases rest with ⟨⟨⟩, middle, updated, finished⟩
      rw [commits_pure] at finished
      rcases commits_updateQueueItem updated with ⟨row, foundRow, -, matching, rfl⟩
      rw [← finished.2]
      have same : row = item := Option.some_inj.mp
        (foundRow.symm.trans (Table.find?_eq_some.mpr ⟨stored, rfl⟩))
      subst same
      refine (linked.insertAttempt inserted).updateItem _ foundRow matching ?_ ?_ rfl ?_
      · intro owner owned present
        exact absurd (linked.waits_of_ready foundRow (not_not.mp ready) owned) present
      · intro unlanded
        exact ⟨unlanded.landedCommitSha, rfl, fun _ _ => ⟨rfl, rfl⟩⟩
      · intro _
        exact linked.admitted row stored passes.2


/-- No effort owns the item. -/
def Database.Unowned (itemId : String) (db : Database) : Prop := db.effortOfItem itemId = none

instance : Framed (Unowned itemId) where
  control db later same unowned := by
    unfold Unowned effortOfItem
    rw [same.efforts]
    exact unowned
  repositories _ _ _ _ unowned := unowned
  attempts _ _ _ _ _ unowned := unowned
  items _ _ _ _ _ unowned := unowned

/-- A write of an item that no effort owns keeps the database linked. -/
theorem preserves_updateUnowned {expected : QueueItem → Bool}
    {changeItem : QueueItem → QueueItem} {keptItem : ∀ item, (changeItem item).id = item.id}
    {lost : String} (unlanded : ∀ item, item.Unlanded → (changeItem item).Unlanded)
    (sameRepo : ∀ item, (changeItem item).repoKey = item.repoKey)
    (admits : ∀ item, expected item = true → (changeItem item).status.isTerminal = false →
      item.status.isTerminal = false) :
    (updateQueueItem itemId expected changeItem keptItem lost).Preserves
      fun db => db.Linked ∧ db.Unowned itemId := by
  intro db holds
  rw [wp_iff]
  refine ⟨fun done later commits => ?_, fun _ _ => trivial⟩
  rcases commits_updateQueueItem commits with ⟨item, found, passes, matching, rfl⟩
  have stored : item ∈ db.items := (Table.find?_eq_some.mp found).1
  refine ⟨holds.1.updateItem _ found matching ?_ (unlanded item) (sameRepo item) ?_, holds.2⟩
  · intro owner owned
    cases owned.symm.trans holds.2
  · intro active
    exact holds.1.admitted item stored (admits item passes active)

/-- An item without an effort is owned by none. -/
theorem unowned_of_isSome (unowned : (db.effortOfItem itemId).isSome = false) :
    db.Unowned itemId :=
  Option.isNone_iff_eq_none.mp (by rw [← Option.not_isSome, unowned]; rfl)

/-- A cancelled item has no effort to link. -/
theorem cancelItemWithoutEffort_linked : (cancelItemWithoutEffort itemId stamp).Preserves Linked := by
  intro db linked
  rw [wp_iff]
  refine ⟨fun done later commits => ?_, fun _ _ => trivial⟩
  simp only [cancelItemWithoutEffort, commits_lookup_bind, commits_query_bind,
    commits_require_bind] at commits
  rcases commits with ⟨item, -, unowned, -, -, -, commits⟩
  have cancelled : ∀ lost, (updateQueueItem itemId (fun _ => true)
      (fun row => { row with status := .cancelled, replacement := .none }) (fun _ => rfl)
      lost).Preserves fun db => db.Linked ∧ db.Unowned itemId := by
    intro lost
    refine preserves_updateUnowned ?_ (fun _ => rfl) ?_
    · intro item unlanded
      exact ⟨unlanded.landedCommitSha, unlanded.landing, fun _ active => absurd rfl active⟩
    · intro item _ active
      cases active
  refine (Preserves.of_commits (show Preserves (fun db => db.Linked ∧ db.Unowned itemId) _ from ?_)
    ⟨linked, unowned_of_isSome unowned⟩ commits).1
  refine preserves_bind (by simp) fun _ => ?_
  cases item.currentAttemptId with
  | none => exact cancelled _
  | some attemptId => exact preserves_bind (by simp) fun _ => cancelled _

/-- A blocked item keeps its links. -/
theorem blockItemFromStatus_linked {expected : QueueStatus} {phase : BlockedPhase}
    {reason : BlockedReason} (active : expected.isTerminal = false) :
    (blockItemFromStatus itemId expected phase reason).Preserves Linked := by
  intro db linked
  rw [wp_iff]
  refine ⟨fun done later commits => ?_, fun _ _ => trivial⟩
  simp only [blockItemFromStatus, commits_query_bind, commits_require_bind] at commits
  rcases commits with ⟨unowned, commits⟩
  refine (Preserves.of_commits (show Preserves (fun db => db.Linked ∧ db.Unowned itemId) _ from ?_)
    ⟨linked, unowned_of_isSome unowned⟩ commits).1
  refine preserves_updateUnowned ?_ (fun _ => rfl) ?_
  · intro item unlanded
    exact ⟨unlanded.landedCommitSha, unlanded.landing, fun blocked => absurd rfl blocked⟩
  · intro item passes _
    rw [beq_iff_eq.mp passes]
    exact active

/-- An item that is blocked by its owner keeps its links. -/
theorem blockItemOwned_linked {phase : BlockedPhase} {reason : BlockedReason} :
    (blockItemOwned itemId phase reason).Preserves Linked :=
  blockItemFromStatus_linked (by cases phase <;> rfl)

/-- An item whose recovery is blocked keeps its links. -/
theorem blockIntegratingRecoveryOwned_linked {phase : BlockedPhase} {reason : BlockedReason} :
    (blockIntegratingRecoveryOwned itemId phase reason).Preserves Linked :=
  preserves_bind (by simp) fun _ => blockItemFromStatus_linked rfl

/-! ### Replacement -/

/-- Marking the effort of a decided attempt keeps the database linked; the item of an effort that
was not marked has none. -/
theorem markEffortReplacementPending_linked {oldAttemptId : String} {pending : Bool}
    (linked : db.Linked) (decided : db.Decided oldAttemptId)
    (commits : (markEffortReplacementPending itemId oldAttemptId stamp).Commits db pending later) :
    later.Linked ∧ (pending = false → later.Unowned itemId) := by
  simp only [markEffortReplacementPending, commits_query_bind] at commits
  cases found : db.effortOfItem itemId with
  | none =>
    rw [found] at commits
    rcases commits_pure.mp commits with ⟨-, rfl⟩
    exact ⟨linked, fun _ => found⟩
  | some effort =>
    rw [found] at commits
    simp only [commits_ensure_bind, commits_require_bind] at commits
    rcases commits with ⟨⟨⟩, -, ⟨sameAttempt, -⟩, commits⟩
    rw [commits_bind] at commits
    rcases commits with ⟨⟨⟩, middle, update, commits⟩
    have mem : effort ∈ db.efforts := List.mem_of_find?_eq_some found
    have named : db.Names effort := ⟨effort, Table.find?_eq_some.mpr ⟨mem, rfl⟩, rfl, rfl⟩
    have kept := linked.updateState named (fun _ => by rw [sameAttempt]; exact decided) update
    rw [commits_bind] at commits
    rcases commits with ⟨⟨⟩, reported, event, commits⟩
    rcases commits_pure.mp commits with ⟨rfl, rfl⟩
    exact ⟨preserves_appendEvent.of_commits kept.1 event, by rintro ⟨⟩⟩

/-- The writes of the cleanup of a replaced attempt: the attempt is decided, the effort marked, and
the item ready. -/
theorem parts_of_supersedeAttempt {oldAttemptId : String} {done : Unit}
    (commits : (supersedeAttempt item oldAttemptId stamp).Commits db done later) :
    ∃ changed superseded, (updateAttempts (fun row => row.id == oldAttemptId &&
          row.itemId == item.id && row.finishedAt.isNone && row.result.isNone)
        (fun row => { row with result := some .superseded, finishedAt := some stamp.now })
        fun _ => rfl).Commits db changed superseded ∧
      superseded.Decided oldAttemptId ∧ ∃ pending marked,
      (markEffortReplacementPending item.id oldAttemptId stamp).Commits superseded pending marked ∧
      (updateQueueItem item.id
        (fun row => row.repoKey == item.repoKey &&
          row.status == if pending = true then QueueStatus.ready else .blocked)
        (fun row => { row with
          status := .ready, currentAttemptId := none, replacement := .none, blockedPhase := none,
          blockedReason := none }) (fun _ => rfl)
        "replacement cleanup state changed concurrently").Commits marked done later := by
  unfold supersedeAttempt at commits
  rw [commits_bind] at commits
  rcases commits with ⟨changed, superseded, update, commits⟩
  refine ⟨changed, superseded, update, ?_⟩
  by_cases missed : changed = 0
  · simp only [if_pos missed, commits_lookup_bind, commits_require_bind] at commits
    rcases commits with ⟨old, found, ⟨-, ended⟩, commits⟩
    rw [commits_bind] at commits
    refine ⟨⟨old, (Option.filter_eq_some_iff.mp found).1, ?_⟩, commits⟩
    rcases ended with ended | ended <;> rw [ended] <;> rfl
  · simp only [if_neg missed] at commits
    rw [commits_bind] at commits
    refine ⟨?_, commits⟩
    rcases commits_write.mp update with ⟨rfl, rfl⟩
    rcases Table.count_pos.mp (Nat.pos_of_ne_zero missed) with ⟨row, stored, chosen⟩
    have named : row.id = oldAttemptId := by
      simp only [Bool.and_eq_true, beq_iff_eq] at chosen
      exact chosen.1.1.1
    have found := Table.find?_eq_some.mpr ⟨stored, named⟩
    refine ⟨Table.rewrite _ _ row, by rw [Table.find?_update, found]; rfl, ?_⟩
    unfold Table.rewrite
    rw [if_pos chosen]
    rfl

/-- The cleanup of a replaced attempt, once the attempt is decided, leaves its item ready. -/
theorem supersedeAttempt_linked {oldAttemptId : String} :
    (supersedeAttempt item oldAttemptId stamp).Preserves Linked := by
  intro db linked
  rw [wp_iff]
  refine ⟨fun done later commits => ?_, fun _ _ => trivial⟩
  rcases parts_of_supersedeAttempt commits with
    ⟨changed, superseded, update, decided, pending, marked, mark, commits⟩
  have kept : superseded.Linked := by
    refine Preserves.of_commits ?_ linked update
    exact preserves_updateAttempts fun _ => ⟨rfl, fun _ => rfl⟩
  have after := markEffortReplacementPending_linked kept decided mark
  rcases commits_updateQueueItem commits with ⟨row, found, passes, matching, rfl⟩
  simp only [Bool.and_eq_true, beq_iff_eq] at passes
  refine after.1.updateItem _ found matching ?_ ?_ rfl ?_
  · intro owner owned present
    cases pending with
    | true => exact absurd (after.1.waits_of_ready found passes.2 owned) present
    | false => cases owned.symm.trans (after.2 rfl)
  · intro unlanded
    exact ⟨unlanded.landedCommitSha, unlanded.landing, fun _ _ => ⟨rfl, rfl⟩⟩
  · intro _
    apply after.1.admitted row (Table.find?_eq_some.mp found).1
    rw [passes.2]
    cases pending <;> rfl

/-- The cleanup before a replacement keeps the links. -/
theorem finishReplacementCleanup_linked {oldAttemptId : String} :
    (finishReplacementCleanup itemId oldAttemptId stamp).Preserves Linked := by
  unfold finishReplacementCleanup
  refine preserves_bind (by simp) fun item => ?_
  split
  · exact preserves_abort
  · refine preserves_bind (by simp) fun _ => preserves_ite supersedeAttempt_linked ?_
    repeat refine preserves_bind (by simp) fun _ => ?_
    exact preserves_write fun db => Framed.items db _ _ _
      fun _ => ⟨rfl, rfl, rfl, rfl, rfl, rfl, rfl, rfl⟩

/-! ### Creation -/

/-- The item that an effort is created for: merging for the attempt, which is not decided. -/
structure Database.Merging (db : Database) (new : NewEffort) (item : QueueItem) : Prop where
  found : db.items.find? new.itemId = some item
  status : item.status = .merging
  current : item.currentAttemptId = some new.attemptId
  active : isActiveAttempt db new.attemptId new.itemId = true

/-- A ready effort owns a merging item without block or landing. -/
theorem Database.Merging.owns {new : NewEffort} {efforts : Table IntegrationEffort.id}
    {ready : AgentReady} (merging : db.Merging new item) (sameItem : effort.itemId = new.itemId)
    (sameAttempt : effort.attemptId = new.attemptId) (state : effort.state = .agentReady ready)
    (valid : effort.state.validateForCount effort.failedCycles = .ok ())
    (unblocked : item.blockedPhase = none ∧ item.blockedReason = none)
    (unlanded : item.landedCommitSha = none ∧ item.landing = .ready) :
    Owns { db with efforts } effort where
  valid := valid
  attempt := by
    rcases Table.any_eq_true.mp merging.active with ⟨attempt, stored, passes⟩
    simp only [Bool.and_eq_true, beq_iff_eq] at passes
    refine ⟨attempt, ?_, by rw [sameItem]; exact passes.1.1.2, fun waits => ?_⟩
    · rw [sameAttempt]
      exact Table.find?_eq_some.mpr ⟨stored, passes.1.1.1⟩
    · rw [state] at waits
      cases waits
  item := by
    refine ⟨item, by rw [sameItem]; exact merging.found, ?_, fun _ => ?_⟩
    · rw [projectionMatches_iff, state]
      exact ⟨merging.status, unblocked.1, unblocked.2, unlanded.1, unlanded.2⟩
    · rw [sameAttempt]
      exact merging.current

/-- A first effort of an item keeps the database linked. -/
theorem Database.Linked.create {new : NewEffort} {rowId : String}
    {efforts : Table IntegrationEffort.id} (linked : db.Linked) (merging : db.Merging new item)
    (unowned : db.Unowned new.itemId)
    (inserted : db.efforts.insert? (new.row rowId) = some efforts) :
    Linked { db with efforts } := by
  have missing : ∀ effort ∈ db.efforts, effort.itemId ≠ new.itemId := by
    intro effort mem same
    have none := List.find?_eq_none.mp unowned effort mem
    simp [same] at none
  refine ⟨?_, ?_, ?_, linked.admitted, linked.registered⟩
  · intro effort mem other mem' same
    rcases (Table.mem_of_insert? inserted).mp mem with stored | rfl <;>
      rcases (Table.mem_of_insert? inserted).mp mem' with stored' | rfl
    · exact linked.distinct effort stored other stored' same
    · exact absurd same (missing effort stored)
    · exact absurd same.symm (missing other stored')
    · rfl
  · intro effort mem
    rcases (Table.mem_of_insert? inserted).mp mem with stored | rfl
    · have owns := linked.owned effort stored
      exact ⟨owns.valid, owns.attempt, owns.item⟩
    · have free := linked.free item (Table.find?_eq_some.mp merging.found).1 fun effort mem => by
        rw [(Table.find?_eq_some.mp merging.found).2]
        exact missing effort mem
      have unblocked := free.unblocked (by rw [merging.status]; nofun) (by rw [merging.status]; nofun)
      exact merging.owns rfl rfl rfl rfl unblocked ⟨free.landedCommitSha, free.landing⟩
  · intro item mem unowned
    apply linked.free item mem
    intro effort stored
    exact unowned effort ((Table.mem_of_insert? inserted).mpr (.inl stored))

/-- The effort of a new attempt keeps the database linked. -/
theorem Database.Linked.replace {new : NewEffort} {existing : IntegrationEffort} {next : Nat}
    {pending : ReplacementPending} (linked : db.Linked) (merging : db.Merging new item)
    (owned : db.effortOfItem new.itemId = some existing)
    (waits : existing.state = .replacementPending pending) :
    Linked { db with
      efforts := db.efforts.update (fun row => row.id == existing.id) (new.replace next)
        fun _ => rfl } := by
  have stored : existing ∈ db.efforts := List.mem_of_find?_eq_some owned
  have sameItem : existing.itemId = new.itemId := by simpa using List.find?_some owned
  have rows : ∀ row ∈ db.efforts.update (fun row => row.id == existing.id) (new.replace next)
      (fun _ => rfl), row = new.replace next existing ∨ (row ∈ db.efforts ∧ row.id ≠ existing.id) :=
    fun _ => Table.mem_update_key (Table.find?_eq_some.mpr ⟨stored, rfl⟩)
  have kept : ∀ row, (new.replace next row).id = row.id := fun _ => rfl
  refine ⟨OneEffortAnItem.update kept linked.distinct fun _ => rfl, ?_, ?_, linked.admitted,
    linked.registered⟩
  · intro effort mem
    rcases rows effort mem with rfl | ⟨before, -⟩
    · have valid : (IntegrationEffortState.agentReady ⟨next⟩).validateForCount 0 = .ok () := rfl
      rcases (linked.owned existing stored).item with ⟨own, found, matched, -⟩
      rw [sameItem, merging.found] at found
      cases found
      rcases projectionMatches_iff.mp matched with ⟨-, phase, reason, commit, landing⟩
      rw [waits] at phase reason commit landing
      exact merging.owns sameItem rfl rfl valid ⟨phase, reason⟩ ⟨commit, landing⟩
    · have owns := linked.owned effort before
      exact ⟨owns.valid, owns.attempt, owns.item⟩
  · intro item mem unowned
    apply linked.free item mem
    intro effort before owner
    have stays : Table.rewrite (fun row => row.id == existing.id) (new.replace next) effort ∈
        db.efforts.update (fun row => row.id == existing.id) (new.replace next) fun _ => rfl :=
      Table.mem_update.mpr ⟨effort, before, rfl⟩
    apply unowned _ stays
    unfold Table.rewrite
    split <;> exact owner

/-- A new effort is linked to its item and its attempt. -/
theorem createEffort_linked {new : NewEffort} : (createEffort new stamp).Preserves Linked := by
  intro db linked
  rw [wp_iff]
  refine ⟨fun done later commits => ?_, fun _ _ => trivial⟩
  simp only [createEffort, commits_itemObjectFormat_bind, commits_ensure_bind,
    commits_lookup_bind, commits_query_bind, commits_require_bind] at commits
  rcases commits with
    ⟨policy, -, ⟨⟩, -, ⟨⟩, -, ⟨⟩, -, item, found, -, ⟨status, current, active⟩, rest⟩
  have merging : db.Merging new item := ⟨found, status, current, active⟩
  split at rest
  · rename_i existing owned
    simp only [commits_ensure_bind] at rest
    rcases rest with ⟨⟨⟩, -, rest⟩
    split at rest
    · rename_i pending waits
      simp only [replaceEffort, commits_query_bind, commits_require_bind, commits_write_bind]
        at rest
      rcases rest with ⟨-, -, -, event⟩
      refine preserves_appendEvent.of_commits ?_ event
      exact linked.replace merging owned waits
    · rw [← (commits_require.mp rest).2]
      exact linked
  · rename_i unowned
    simp only [commits_query_bind, commits_require_bind, commits_lookup_bind,
      commits_write_bind] at rest
    rcases rest with ⟨-, efforts, inserted, event⟩
    exact preserves_appendEvent.of_commits (linked.create merging unowned inserted) event

/-! ### Draining -/

/-- A draining repository keeps the links. -/
theorem beginRepositoryDraining_linked {repoKey : String} :
    (beginRepositoryDraining repoKey).Preserves Linked := by
  intro db linked
  rw [wp_iff]
  refine ⟨fun done later commits => ?_, fun _ _ => trivial⟩
  simp only [beginRepositoryDraining, commits_lookup_bind, commits_require_bind,
    commits_query_bind, commits_write] at commits
  rcases commits with ⟨policy, found, enabled, -, -, rfl⟩
  refine ⟨linked.distinct, fun effort mem => ?_, linked.free, fun item mem active => ?_,
    linked.registered⟩
  · have owns := linked.owned effort mem
    exact ⟨owns.valid, owns.attempt, owns.item⟩
  · rcases linked.admitted item mem active with ⟨old, stored, passed⟩
    refine ⟨_, by rw [Table.find?_update, stored]; rfl, ?_⟩
    by_cases hit : old.repoKey = repoKey
    · rw [Table.rewrite_of_key hit]
      have same : item.repoKey = repoKey := (Table.find?_eq_some.mp stored).2.symm.trans hit
      have captured : Obligation.queueItem item.id ∈ drainingObligations db repoKey := by
        apply List.mem_append_right
        apply List.mem_map_of_mem
        simp [mem, same, active]
      simp [OperationState.requireObligation, check, captured]
    · rw [Table.rewrite_of_key_ne hit]
      exact passed

/-- A disabled repository keeps the links. -/
theorem disableDrainedRepository_linked {repoKey : String} :
    (disableDrainedRepository repoKey).Preserves Linked := by
  intro db linked
  rw [wp_iff]
  refine ⟨fun done later commits => ?_, fun _ _ => trivial⟩
  simp only [disableDrainedRepository, commits_lookup_bind] at commits
  rcases commits with ⟨policy, found, commits⟩
  split at commits
  · exact absurd commits commits_abort
  · exact absurd commits commits_abort
  · rename_i obligations draining
    simp only [commits_query_bind, commits_require_bind, commits_write] at commits
    rcases commits with ⟨complete, -, rfl⟩
    refine ⟨linked.distinct, fun effort mem => ?_, linked.free, fun item mem active => ?_,
      linked.registered⟩
    · have owns := linked.owned effort mem
      exact ⟨owns.valid, owns.attempt, owns.item⟩
    · rcases linked.admitted item mem active with ⟨old, stored, passed⟩
      refine ⟨_, by rw [Table.find?_update, stored]; rfl, ?_⟩
      by_cases hit : old.repoKey = repoKey
      · have same : old = policy := by
          rw [← (Table.find?_eq_some.mp stored).2, hit, found] at stored
          exact (Option.some_inj.mp stored).symm
        subst same
        rw [draining] at passed
        have captured : Obligation.queueItem item.id ∈ obligations := by
          simpa [OperationState.requireObligation, check] using passed
        have ended := List.all_eq_true.mp complete _ captured
        simp only [isObligationComplete, Table.find?_eq_some.mpr ⟨mem, rfl⟩, Option.any_some,
          Bool.and_eq_true] at ended
        exact absurd (active.symm.trans ended.2) (by decide)
      · rw [Table.rewrite_of_key_ne hit]
        exact passed


/-! ### Attempt evidence -/

section Framed

variable {property : Database → Prop} [Framed property]

/-- The validation of an attempt is framed. -/
theorem completeAttemptValidation_updated {invocationNumber : Nat} {validatedCommitSha : String} :
    (completeAttemptValidation attemptId invocationNumber validatedCommitSha).Preserves
      property := by
  unfold completeAttemptValidation
  iterate 6 refine preserves_bind (by simp) fun _ => ?_
  refine preserves_bind (preserves_write fun db => ?_) fun _ => ?_
  · exact Framed.control db _ ⟨rfl, rfl, rfl, rfl, rfl⟩
  · exact preserves_bind (by simp) fun _ => preserves_require

/-- An accepted candidate is framed. -/
theorem acceptCandidateWithoutValidation_updated {targetBaseSha candidateSha : String}
    {expected : QueueStatus} :
    (acceptCandidateWithoutValidation itemId attemptId targetBaseSha candidateSha
      expected).Preserves property := by
  unfold acceptCandidateWithoutValidation
  iterate 7 refine preserves_bind (by simp) fun _ => ?_
  refine preserves_ite preserves_pure ?_
  iterate 4 refine preserves_bind (by simp) fun _ => ?_
  exact preserves_pure

/-- A first fetch is framed. -/
theorem beginInitialTargetFetch_updated {targetSha : String} :
    (beginInitialTargetFetch itemId attemptId targetSha).Preserves property := by
  unfold beginInitialTargetFetch
  repeat refine preserves_bind (by simp) fun _ => ?_
  exact preserves_require

/-- The commits of a conflict are framed. -/
theorem setConflictMetadata_updated {targetSha sourceSha : String} :
    (setConflictMetadata itemId attemptId targetSha sourceSha).Preserves property := by
  unfold setConflictMetadata
  refine preserves_bind (by simp) fun item => preserves_ite ?_ preserves_require
  exact preserves_write fun db => Framed.items db _ _ _
    fun _ => ⟨rfl, rfl, rfl, rfl, rfl, rfl, rfl, rfl⟩

/-- A scheduled cleanup is framed. -/
theorem schedulePrivateRefCleanup_updated {debt : PrivateRefCleanupDebt} :
    (schedulePrivateRefCleanup debt).Preserves property := by
  unfold schedulePrivateRefCleanup
  iterate 3 refine preserves_bind (by simp) fun _ => ?_
  exact preserves_scheduleCleanup

/-- A completed cleanup is framed. -/
theorem completePrivateRefCleanup_updated {debt : PrivateRefCleanupDebt} :
    (completePrivateRefCleanup debt).Preserves property := by
  unfold completePrivateRefCleanup
  iterate 2 refine preserves_bind (by simp) fun _ => ?_
  exact preserves_write fun db => Framed.control db _ ⟨rfl, rfl, rfl, rfl, rfl⟩

/-- The signoff of an attempt is framed. -/
theorem updateAttemptSignoff_updated {evidence : String} :
    (updateAttemptSignoff attemptId evidence).Preserves property := by
  unfold updateAttemptSignoff
  exact preserves_bind (by simp) fun _ => preserves_require

end Framed

/-! ## Runs -/

/-- The operations that make, cut or hand over a link. -/
def Operation.handsOver : Operation → Bool
  | .createEffort .. | .claimNextReady .. | .cancelItemWithoutEffort .. | .blockItemOwned ..
  | .blockIntegratingRecoveryOwned .. | .finishReplacementCleanup ..
  | .beginRepositoryDraining .. | .disableDrainedRepository .. => true
  | _ => false

/-- What state updates keep is kept by every operation that does not hand over a link. -/
theorem Operation.updated {property : Database → Prop} [Updated property] {operation : Operation}
    (queue : operation.handsOver = true → operation.transaction.Preserves property) :
    operation.transaction.Preserves property := by
  cases operation
  case createEffort => exact queue rfl
  case prepareCycleLaunch => exact preserves_map prepareCycleLaunch_updated
  case surrenderCycleSpawnAuthority => exact preserves_map surrenderCycleSpawnAuthority_updated
  case authorizeCycleSpawn => exact preserves_map authorizeCycleSpawn_updated
  case acknowledgeTerminatedCycleSpawn => exact preserves_map acknowledgeTerminatedCycleSpawn_updated
  case recordCycleStarted => exact preserves_map recordCycleStarted_updated
  case resetPreparedLaunch => exact preserves_map resetPreparedLaunch_updated
  case recordResultState => exact preserves_map recordResultState_updated
  case startCandidateBuild => exact preserves_map startCandidateBuild_updated
  case acceptResolvedCycle => exact preserves_map acceptResolvedCycle_updated
  case recordCandidate => exact preserves_map recordCandidate_updated
  case resetInterruptedCandidateBuild => exact preserves_map resetInterruptedCandidateBuild_updated
  case startValidation => exact preserves_map startValidation_updated
  case completeValidation => exact preserves_map completeValidation_updated
  case requireGuidance => exact preserves_map requireGuidance_updated
  case answer => exact preserves_map answerForEffort_updated
  case blockInfrastructure => exact preserves_map blockInfrastructure_updated
  case blockProvider => exact preserves_map blockProvider_updated
  case consumeCycleFailure => exact preserves_map consumeCycleFailure_updated
  case rejectCandidate => exact preserves_map rejectCandidate_updated
  case retryBlocked => exact preserves_map retryBlocked_updated
  case resumeProviderReconciliation => exact preserves_map resumeProviderReconciliation_updated
  case beginLanding => exact preserves_map beginLanding_updated
  case releaseLanding => exact preserves_map releaseLanding_updated
  case markIntegrated => exact preserves_map markIntegrated_updated
  case authorizeDefiniteLandingRejection => exact preserves_map authorizeDefiniteLandingRejection_updated
  case beginTargetMove => exact preserves_map beginTargetMove_updated
  case prepareTargetRecomposition => exact preserves_map prepareTargetRecomposition_updated
  case completeTargetRecomposition => exact preserves_map completeTargetRecomposition_updated
  case reviewCandidate => exact preserves_map reviewCandidateForEffort_updated
  case cancel => exact preserves_map cancel_updated
  case deleteTerminationDebt => exact preserves_map deleteTerminationDebt_updated
  case claimNextReady => exact queue rfl
  case cancelItemWithoutEffort => exact queue rfl
  case blockItemOwned => exact queue rfl
  case blockIntegratingRecoveryOwned => exact queue rfl
  case finishReplacementCleanup => exact queue rfl
  case recordAttemptValidation => exact preserves_map preserves_recordInvocation
  case recordAttemptRevalidation => exact preserves_map preserves_recordInvocation
  case completeAttemptValidation => exact preserves_map completeAttemptValidation_updated
  case acceptCandidateWithoutValidation => exact preserves_map acceptCandidateWithoutValidation_updated
  case updateAttemptSignoff => exact preserves_map updateAttemptSignoff_updated
  case beginInitialTargetFetch => exact preserves_map beginInitialTargetFetch_updated
  case setConflictMetadata => exact preserves_map setConflictMetadata_updated
  case schedulePrivateRefCleanup => exact preserves_map schedulePrivateRefCleanup_updated
  case completePrivateRefCleanup => exact preserves_map completePrivateRefCleanup_updated
  case beginRepositoryDraining => exact queue rfl
  case disableDrainedRepository => exact queue rfl

/-- Every operation keeps a linked database linked. -/
theorem Operation.linked (operation : Operation) : operation.transaction.Preserves Linked := by
  refine Operation.updated fun hands => ?_
  cases operation
  case createEffort => exact preserves_map createEffort_linked
  case claimNextReady => exact preserves_map claimNextReady_linked
  case cancelItemWithoutEffort => exact preserves_map cancelItemWithoutEffort_linked
  case blockItemOwned => exact preserves_map blockItemOwned_linked
  case blockIntegratingRecoveryOwned => exact preserves_map blockIntegratingRecoveryOwned_linked
  case finishReplacementCleanup => exact preserves_map finishReplacementCleanup_linked
  case beginRepositoryDraining => exact preserves_map beginRepositoryDraining_linked
  case disableDrainedRepository => exact preserves_map disableDrainedRepository_linked
  all_goals cases hands

/-- At first there is nothing to link. -/
theorem Database.Initial.linked (initial : db.Initial) : db.Linked := by
  have none : ∀ effort, effort ∉ db.efforts := by
    rw [initial.efforts]
    exact Table.not_mem_empty
  exact ⟨fun effort mem => absurd mem (none effort), fun effort mem => absurd mem (none effort),
    fun item mem _ => initial.unlanded item mem, initial.admitted, initial.registered⟩

/-- Every reachable database is linked. -/
theorem linked_of_reachable (reachable : store.Reachable db) : db.Linked := by
  refine reachable.invariant ?_ ?_
  · intro start initial
    exact Database.Initial.linked initial
  · intro now operation linked
    rcases settle_cases operation.transaction now with same | ⟨outcome, commits⟩
    · rw [store_step, same]
      exact linked
    · exact operation.linked.of_commits linked commits

end Iq
