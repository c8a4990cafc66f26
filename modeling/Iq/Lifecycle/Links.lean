import Iq.Lifecycle.Frame
import Iq.Lifecycle.Runs

/-!
# Efforts and their queue items

What holds between an effort, its queue item, its attempt and the policy of its repository in every
reachable database: one effort an item, the lifecycle columns of the item a projection of the
effort, an attempt of the item that the effort names, and a policy that admits every unfinished
item. The invariant is kept by every transaction as a whole; inside one, it is broken only between
the write of an effort and the projection of its item.
-/

namespace Iq

open Library Library.Transaction

/-! ## The invariant -/

namespace Database

/-- No two efforts have one item. -/
def OneEffortAnItem (efforts : Table IntegrationEffort.id) : Prop :=
  ∀ effort ∈ efforts, ∀ other ∈ efforts, effort.itemId = other.itemId → effort = other

/-- What the queue tables hold for an effort. -/
structure Owns (db : Database) (effort : IntegrationEffort) : Prop where
  valid : effort.state.validateForCount effort.failedCycles = .ok ()
  attempt : ∃ attempt, db.attempts.find? effort.attemptId = some attempt ∧
    attempt.itemId = effort.itemId ∧
    (effort.state.name = .replacementPending → attempt.result.isSome = true)
  item : ∃ item, db.items.find? effort.itemId = some item ∧ projectionMatches effort item = true ∧
    (effort.state.name ≠ .replacementPending → item.currentAttemptId = some effort.attemptId)

/-- The efforts, items, attempts, repositories and policies of a database fit together. -/
structure Linked (db : Database) : Prop where
  distinct : OneEffortAnItem db.efforts
  owned : ∀ effort ∈ db.efforts, db.Owns effort
  free : ∀ item ∈ db.items, (∀ effort ∈ db.efforts, effort.itemId ≠ item.id) → item.Unlanded
  admitted : ∀ item ∈ db.items, item.status.isTerminal = false → db.Admits item
  registered : ∀ item ∈ db.items, ∃ repository,
    db.repositories.find? item.repoKey = some repository

/-- The stored row of an effort that was read has its identity, item and attempt. -/
def Names (effort : IntegrationEffort) (db : Database) : Prop :=
  ∃ row, db.efforts.find? effort.id = some row ∧ row.itemId = effort.itemId ∧
    row.attemptId = effort.attemptId

end Database

open Database

variable {db later : Database} {effort : IntegrationEffort} {item other : QueueItem}
  {effortId itemId attemptId : String} {stamp : Stamp}

/-! ## Frames -/

/-- Items of one lifecycle match the same projections. -/
theorem QueueItem.SameLifecycle.projectionMatches (same : item.SameLifecycle other) :
    projectionMatches effort item = projectionMatches effort other := by
  unfold Iq.projectionMatches
  rw [same.status, same.currentAttemptId, same.blockedPhase, same.blockedReason,
    same.landedCommitSha, same.landing]

/-- Items of one lifecycle are unlanded together. -/
theorem QueueItem.SameLifecycle.unlanded (same : item.SameLifecycle other)
    (unlanded : other.Unlanded) : item.Unlanded where
  landedCommitSha := same.landedCommitSha.trans unlanded.landedCommitSha
  landing := same.landing.trans unlanded.landing
  unblocked unblocked uncancelled := by
    rw [same.status] at unblocked uncancelled
    rw [same.blockedPhase, same.blockedReason]
    exact unlanded.unblocked unblocked uncancelled

instance {first second : Database → Prop} [left : Framed first] [right : Framed second] :
    Framed fun db => first db ∧ second db where
  control db later same both :=
    ⟨left.control db later same both.1, right.control db later same both.2⟩
  repositories db _ _ _ both :=
    ⟨left.repositories db _ _ _ both.1, right.repositories db _ _ _ both.2⟩
  attempts db _ _ _ keeps both :=
    ⟨left.attempts db _ _ _ keeps both.1, right.attempts db _ _ _ keeps both.2⟩
  items db _ _ _ same both := ⟨left.items db _ _ _ same both.1, right.items db _ _ _ same both.2⟩

instance : Framed (Names effort) where
  control _ _ same named := by
    unfold Names
    rw [same.efforts]
    exact named
  repositories _ _ _ _ named := named
  attempts _ _ _ _ _ named := named
  items _ _ _ _ _ named := named

/-- An effort keeps its attempt when attempts keep their items and results. -/
theorem Database.Owns.updateAttempts {chosen : Attempt → Bool} {change : Attempt → Attempt}
    {kept : ∀ row, (change row).id = row.id}
    (keeps : ∀ row, (change row).itemId = row.itemId ∧
      (row.result.isSome = true → (change row).result.isSome = true)) (owns : db.Owns effort) :
    ({ db with attempts := db.attempts.update chosen change kept } : Database).Owns effort where
  valid := owns.valid
  item := owns.item
  attempt := by
    rcases owns.attempt with ⟨attempt, found, same, decided⟩
    refine ⟨Table.rewrite chosen change attempt, by rw [Table.find?_update, found]; rfl, ?_⟩
    by_cases hit : chosen attempt = true
    · rw [Table.rewrite_of_chosen hit]
      exact ⟨(keeps attempt).1.trans same, fun waits => (keeps attempt).2 (decided waits)⟩
    · rw [Table.rewrite_of_not_chosen hit]
      exact ⟨same, decided⟩

/-- Rewriting an item keeps its key and its lifecycle columns. -/
theorem sameLifecycle_rewrite {chosen : QueueItem → Bool} {change : QueueItem → QueueItem}
    (same : ∀ row, (change row).SameLifecycle row) :
    (Table.rewrite chosen change item).SameLifecycle item := by
  unfold Table.rewrite
  split
  · exact same item
  · exact ⟨rfl, rfl, rfl, rfl, rfl, rfl, rfl, rfl⟩

/-- An effort keeps its item when items keep their lifecycle columns. -/
theorem Database.Owns.updateItems {chosen : QueueItem → Bool} {change : QueueItem → QueueItem}
    {kept : ∀ row, (change row).id = row.id} (same : ∀ row, (change row).SameLifecycle row)
    (owns : db.Owns effort) :
    ({ db with items := db.items.update chosen change kept } : Database).Owns effort where
  valid := owns.valid
  attempt := owns.attempt
  item := by
    rcases owns.item with ⟨item, found, matching, current⟩
    have like := @sameLifecycle_rewrite item chosen change same
    refine ⟨Table.rewrite chosen change item, by rw [Table.find?_update, found]; rfl, ?_, ?_⟩
    · rw [like.projectionMatches]
      exact matching
    · rw [like.currentAttemptId]
      exact current

instance : Framed Linked where
  control db later same linked := by
    refine ⟨?_, ?_, ?_, ?_, ?_⟩
    · rw [same.efforts]
      exact linked.distinct
    · rw [same.efforts]
      intro effort mem
      have owns := linked.owned effort mem
      exact ⟨owns.valid, by rw [same.attempts]; exact owns.attempt,
        by rw [same.items]; exact owns.item⟩
    · rw [same.efforts, same.items]
      exact linked.free
    · unfold Admits
      rw [same.items, same.policies]
      exact linked.admitted
    · rw [same.items, same.repositories]
      exact linked.registered
  repositories db chosen change kept linked := by
    refine ⟨linked.distinct, fun effort mem => ?_, linked.free, linked.admitted, fun item mem => ?_⟩
    · have owns := linked.owned effort mem
      exact ⟨owns.valid, owns.attempt, owns.item⟩
    · rcases linked.registered item mem with ⟨repository, found⟩
      exact ⟨_, by rw [Table.find?_update, found]; rfl⟩
  attempts db chosen change kept keeps linked :=
    ⟨linked.distinct, fun effort mem => (linked.owned effort mem).updateAttempts keeps,
      linked.free, linked.admitted, linked.registered⟩
  items db chosen change kept same linked := by
    refine ⟨linked.distinct, fun effort mem => (linked.owned effort mem).updateItems same, ?_, ?_,
      ?_⟩
    · intro item mem unowned
      change item ∈ db.items.update chosen change kept at mem
      rcases Table.mem_update.mp mem with ⟨old, stored, rfl⟩
      refine (sameLifecycle_rewrite same).unlanded (linked.free old stored ?_)
      intro effort owner
      have key : (Table.rewrite chosen change old).id = old.id := Table.key_rewrite kept old
      rw [← key]
      exact unowned effort owner
    · intro item mem active
      change item ∈ db.items.update chosen change kept at mem
      rcases Table.mem_update.mp mem with ⟨old, stored, rfl⟩
      have like := @sameLifecycle_rewrite old chosen change same
      rw [like.status] at active
      rcases linked.admitted old stored active with ⟨policy, found, passed⟩
      refine ⟨policy, by rw [like.repoKey]; exact found, ?_⟩
      have key : (Table.rewrite chosen change old).id = old.id := Table.key_rewrite kept old
      rw [key]
      exact passed
    · intro item mem
      change item ∈ db.items.update chosen change kept at mem
      rcases Table.mem_update.mp mem with ⟨old, stored, rfl⟩
      rw [(@sameLifecycle_rewrite old chosen change same).repoKey]
      exact linked.registered old stored

/-! ## State updates -/

/-- The attempt has its result. -/
def Database.Decided (attemptId : String) (db : Database) : Prop :=
  ∃ attempt, db.attempts.find? attemptId = some attempt ∧ attempt.result.isSome = true

/-- The effort of an item is the one that the item belongs to. -/
theorem effortOfItem_eq_some {efforts : Table IntegrationEffort.id}
    (distinct : OneEffortAnItem efforts) (mem : effort ∈ efforts) :
    efforts.rows.find? (fun row => row.itemId == effort.itemId) = some effort := by
  cases found : efforts.rows.find? fun row => row.itemId == effort.itemId with
  | none =>
    have missing := List.find?_eq_none.mp found effort mem
    simp at missing
  | some owner =>
    have owns : owner.itemId = effort.itemId := by simpa using List.find?_some found
    have stored : owner ∈ efforts := List.mem_of_find?_eq_some found
    rw [distinct owner stored effort mem owns]

/-- Rewriting efforts without their items leaves one effort an item. -/
theorem Database.OneEffortAnItem.update {efforts : Table IntegrationEffort.id}
    {chosen : IntegrationEffort → Bool} {change : IntegrationEffort → IntegrationEffort}
    (kept : ∀ row, (change row).id = row.id) (distinct : OneEffortAnItem efforts)
    (sameItem : ∀ row, (change row).itemId = row.itemId) :
    OneEffortAnItem (efforts.update chosen change kept) := by
  have itemOf : ∀ row, (Table.rewrite chosen change row).itemId = row.itemId := by
    intro row
    unfold Table.rewrite
    split
    · exact sameItem row
    · rfl
  intro effort mem other mem' same
  rcases Table.mem_update.mp mem with ⟨old, memOld, rfl⟩
  rcases Table.mem_update.mp mem' with ⟨old', memOld', rfl⟩
  rw [itemOf, itemOf] at same
  rw [distinct old memOld old' memOld' same]

/-- What a write of an item's lifecycle columns does: the columns must be the projection of the
item's effort, if it has one. -/
theorem commits_updateQueueItem {expected : QueueItem → Bool} {change : QueueItem → QueueItem}
    {kept : ∀ row, (change row).id = row.id} {lost : String} {done : Unit}
    (commits : (updateQueueItem itemId expected change kept lost).Commits db done later) :
    ∃ item, db.items.find? itemId = some item ∧ expected item = true ∧
      (∀ owner, db.effortOfItem itemId = some owner →
        projectionMatches owner (change item) = true) ∧
      later = { db with items := db.items.update (fun row => row.id == itemId) change kept } := by
  simp only [updateQueueItem, commits_lookup_bind, commits_query_bind, commits_require_bind,
    commits_write, Option.filter_eq_some_iff] at commits
  rcases commits with ⟨item, ⟨found, passes⟩, matching, -, rfl⟩
  refine ⟨item, found, passes, fun owner owns => ?_, rfl⟩
  rw [owns, Option.all_some] at matching
  exact matching

/-- What the projection of an effort writes. -/
theorem commits_projectQueueState {state : IntegrationEffortState} {done : Unit}
    (commits : (projectQueueState effort state).Commits db done later) :
    ∃ item change kept, db.items.find? effort.itemId = some item ∧
      (∀ owner, db.effortOfItem effort.itemId = some owner →
        projectionMatches owner (change item) = true) ∧
      later = { db with
        items := db.items.update (fun row => row.id == effort.itemId) change kept } ∧
      (state.name ≠ .integrated → item.currentAttemptId = some effort.attemptId) ∧
      ∀ row, (change row).repoKey = row.repoKey ∧
        (change row).currentAttemptId = row.currentAttemptId ∧
        (change row).status = state.projection.status ∧ (change row).targetRef = row.targetRef := by
  unfold projectQueueState at commits
  split at commits
  · rename_i integrated
    rcases commits_updateQueueItem commits with ⟨item, found, -, matching, same⟩
    exact ⟨item, _, _, found, matching, same, fun other => absurd rfl other,
      fun row => ⟨rfl, rfl, rfl, rfl⟩⟩
  · rcases commits_updateQueueItem commits with ⟨item, found, current, matching, same⟩
    exact ⟨item, _, _, found, matching, same, fun _ => by simpa using current,
      fun row => ⟨rfl, rfl, rfl, rfl⟩⟩

/-- The projection of a cancelled state is terminal. -/
theorem projection_terminal_of_cancelled {state : IntegrationEffortState}
    (ended : state.name = .cancelled) : state.projection.status.isTerminal = true := by
  cases state with
  | cancelled => rfl
  | _ => cases ended

/-- What the write of an effort state does to the database. -/
theorem commits_writeEffortState {state : IntegrationEffortState} {failedCycles : Nat}
    {done : Unit} (commits : (writeEffortState effort state failedCycles).Commits db done later) :
    (∃ old, db.efforts.find? effort.id = some old ∧
      transitionAllowed old.state.name state.name = true) ∧
      later = { db with
        efforts := db.efforts.update (fun row => row.id == effort.id)
          (fun row => { row with state, failedCycles }) fun _ => rfl } := by
  simp only [writeEffortState, commits_lookup_bind, commits_require_bind, commits_write_bind,
    commits_query_bind, commits_require, Option.filter_eq_some_iff] at commits
  rcases commits with ⟨old, ⟨found, -⟩, allowed, -, -, -, -, -, same⟩
  exact ⟨⟨old, found, allowed⟩, same.symm⟩

/-- An update that changes one effort and its item, and keeps what identifies both, keeps the
database linked when the two fit together afterwards. -/
theorem Database.Linked.rewrite {row : IntegrationEffort}
    (changeEffort : IntegrationEffort → IntegrationEffort) (changeItem : QueueItem → QueueItem)
    (keptEffort : ∀ effort, (changeEffort effort).id = effort.id)
    (keptItem : ∀ item, (changeItem item).id = item.id) (linked : db.Linked)
    (stored : row ∈ db.efforts) (sameItem : ∀ effort, (changeEffort effort).itemId = effort.itemId)
    (sameRepo : ∀ item, (changeItem item).repoKey = item.repoKey)
    (admits : ∀ item, db.items.find? row.itemId = some item →
      (changeItem item).status.isTerminal = false → db.Admits item)
    (owns : Owns { db with
      efforts := db.efforts.update (fun effort => effort.id == row.id) changeEffort keptEffort
      items := db.items.update (fun item => item.id == row.itemId) changeItem keptItem }
        (changeEffort row)) :
    Linked { db with
      efforts := db.efforts.update (fun effort => effort.id == row.id) changeEffort keptEffort
      items := db.items.update (fun item => item.id == row.itemId) changeItem keptItem } := by
  have itemOf : ∀ effort, (Table.rewrite (fun effort => effort.id == row.id) changeEffort
      effort).itemId = effort.itemId := by
    intro effort
    unfold Table.rewrite
    split
    · exact sameItem effort
    · rfl
  have keyOf : ∀ item, (Table.rewrite (fun item => item.id == row.itemId) changeItem item).id =
      item.id := Table.key_rewrite keptItem
  have repoOf : ∀ item, (Table.rewrite (fun item => item.id == row.itemId) changeItem
      item).repoKey = item.repoKey := by
    intro item
    unfold Table.rewrite
    split
    · exact sameRepo item
    · rfl
  refine ⟨?_, ?_, ?_, ?_, ?_⟩
  · exact OneEffortAnItem.update keptEffort linked.distinct sameItem
  · intro effort mem
    change effort ∈ db.efforts.update (fun effort => effort.id == row.id) changeEffort keptEffort
      at mem
    rcases Table.mem_update.mp mem with ⟨old, memOld, rfl⟩
    by_cases hit : old.id = row.id
    · have same : old = row := Table.eq_of_key memOld stored hit
      subst same
      rw [Table.rewrite_of_key rfl]
      exact owns
    · rw [Table.rewrite_of_key_ne hit]
      have before := linked.owned old memOld
      refine ⟨before.valid, before.attempt, ?_⟩
      rcases before.item with ⟨item, found, matching, current⟩
      have key : item.id = old.itemId := (Table.find?_eq_some.mp found).2
      have apart : item.id ≠ row.itemId := by
        intro same
        have owner : old = row := linked.distinct old memOld row stored (key.symm.trans same)
        exact hit (congrArg IntegrationEffort.id owner)
      refine ⟨item, ?_, matching, current⟩
      rw [Table.find?_update, found, Option.map_some, Table.rewrite_of_key_ne apart]
  · intro item mem unowned
    change item ∈ db.items.update (fun item => item.id == row.itemId) changeItem keptItem at mem
    rcases Table.mem_update.mp mem with ⟨old, memOld, rfl⟩
    have unowned' : ∀ effort ∈ db.efforts, effort.itemId ≠ old.id := by
      intro effort owner same
      have stays : Table.rewrite (fun effort => effort.id == row.id) changeEffort effort ∈
          db.efforts.update (fun effort => effort.id == row.id) changeEffort keptEffort :=
        Table.mem_update.mpr ⟨effort, owner, rfl⟩
      apply unowned _ stays
      rw [itemOf, keyOf]
      exact same
    have apart : old.id ≠ row.itemId := fun same => unowned' row stored same.symm
    rw [Table.rewrite_of_key_ne apart]
    exact linked.free old memOld unowned'
  · intro item mem active
    change item ∈ db.items.update (fun item => item.id == row.itemId) changeItem keptItem at mem
    rcases Table.mem_update.mp mem with ⟨old, memOld, rfl⟩
    have before : db.Admits old := by
      by_cases hit : old.id = row.itemId
      · rw [Table.rewrite_of_key hit] at active
        exact admits old (Table.find?_eq_some.mpr ⟨memOld, hit⟩) active
      · rw [Table.rewrite_of_key_ne hit] at active
        exact linked.admitted old memOld active
    rcases before with ⟨policy, found, passed⟩
    exact ⟨policy, by rw [repoOf]; exact found, by rw [keyOf]; exact passed⟩
  · intro item mem
    change item ∈ db.items.update (fun item => item.id == row.itemId) changeItem keptItem at mem
    rcases Table.mem_update.mp mem with ⟨old, memOld, rfl⟩
    rw [repoOf]
    exact linked.registered old memOld

/-- A state update keeps efforts and items linked. Waiting for a replacement needs the decided
attempt. -/
theorem Database.Linked.updateState {state : IntegrationEffortState} {failedCycles : Nat}
    {rejection : Option DefiniteLandingRejection} {done : Unit} (linked : db.Linked)
    (names : db.Names effort)
    (decided : state.name = .replacementPending → db.Decided effort.attemptId)
    (commits : (updateStateAndCountWithResolution effort state failedCycles rejection).Commits db
      done later) : later.Linked ∧ later.Names effort := by
  rcases parts_of_updateState commits with ⟨-, valid, admits, middle, write, project⟩
  rcases names with ⟨row, stored, sameItem, sameAttempt⟩
  rcases commits_writeEffortState write with ⟨⟨old, found, allowed⟩, rfl⟩
  have same : old = row := Option.some_inj.mp (found.symm.trans stored)
  subst same
  rcases Table.find?_eq_some.mp found with ⟨mem, named⟩
  rcases commits_projectQueueState project with
    ⟨item, change, kept, foundItem, matching, rfl, current, columns⟩
  rw [← sameItem] at foundItem matching admits
  rw [← named, ← sameItem]
  rw [← named] at matching
  have before := linked.owned old mem
  have foundItem' : db.items.find? old.itemId = some item := foundItem
  refine ⟨Linked.rewrite (fun row => { row with state, failedCycles }) change (fun _ => rfl) kept
    linked mem (fun _ => rfl) (fun row => (columns row).1) ?_ ?_, ?_⟩
  · intro item' found' active
    have same : item' = item := Option.some_inj.mp (found'.symm.trans foundItem')
    subst same
    have uncancelled : state.name ≠ .cancelled := by
      intro ended
      rw [(columns item').2.2.1, projection_terminal_of_cancelled ended] at active
      cases active
    rcases admits uncancelled with ⟨policy, policyOf, passed⟩
    rw [Database.policyOf, foundItem', Option.bind_some] at policyOf
    have key : item'.id = old.itemId := (Table.find?_eq_some.mp foundItem').2
    exact ⟨policy, policyOf, by rw [key]; exact passed⟩
  · refine ⟨valid, ?_, ?_⟩
    · rcases before.attempt with ⟨attempt, foundAttempt, owner, -⟩
      refine ⟨attempt, foundAttempt, owner, fun waits => ?_⟩
      rcases decided waits with ⟨other, foundOther, isDecided⟩
      rw [← sameAttempt, foundAttempt] at foundOther
      cases foundOther
      exact isDecided
    · refine ⟨change item, ?_, ?_, fun _ => ?_⟩
      · exact Table.find?_update_key change kept foundItem'
      · apply matching
        -- The written row is the only effort of its item, so the projection was checked against it.
        have written : Table.rewrite (fun row => row.id == old.id)
            (fun row => { row with state, failedCycles }) old ∈ db.efforts.update
              (fun row => row.id == old.id) (fun row => { row with state, failedCycles })
              fun _ => rfl := Table.mem_update.mpr ⟨old, mem, rfl⟩
        rw [Table.rewrite_of_key rfl] at written
        refine effortOfItem_eq_some ?_ written
        apply OneEffortAnItem.update _ linked.distinct
        intro row
        rfl
      · rw [(columns item).2.1]
        by_cases landed : state.name = .integrated
        · rcases before.item with ⟨item', found', -, holds⟩
          have same : item' = item := Option.some_inj.mp (found'.symm.trans foundItem')
          subst same
          apply holds
          intro waits
          rw [waits, landed] at allowed
          exact absurd allowed (by decide)
        · rw [current landed, sameAttempt]
  · refine ⟨{ old with state, failedCycles }, ?_, sameItem, sameAttempt⟩
    rw [← named] at found ⊢
    exact Table.find?_update_key (fun row => { row with state, failedCycles }) (fun _ => rfl) found

end Iq
