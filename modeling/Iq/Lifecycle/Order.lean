import Iq.Library.Fifo
import Iq.Lifecycle.Footprint
import Iq.Lifecycle.LinkedRuns
import Iq.Store.Admission

/-!
# The order of the branches

The items of a branch as a lane served in order: an item is claimed when it leaves the status ready
other than by a cancellation, and finished when it is terminal. No operation but the claim takes up
an item, and no operation takes the end of an item back.
-/

namespace Iq

open Library Library.Transaction Database

variable {db later : Database} {effort : IntegrationEffort} {item : QueueItem}
  {effortId itemId : String} {stamp : Stamp} {rows : List QueueItem}

/-! ## Lanes -/

/-- Work on an item with the status was taken up. -/
def QueueStatus.isClaimed (status : QueueStatus) : Bool :=
  status != .ready && status != .cancelled

/-- The items of a branch as a lane. -/
def branchOrder : Fifo QueueItem String (String × TargetRef) where
  key := QueueItem.id
  lane item := (item.repoKey, item.targetRef)
  Claimed item := item.status.isClaimed = true
  Finished item := item.status.isTerminal = true

/-- A ready item has no attempt, and the items have been rewritten in place and not claimed since
they were the given rows. -/
structure Database.Placed (rows : List QueueItem) (db : Database) : Prop where
  vacant : ∀ item ∈ db.items, item.status = .ready → item.currentAttemptId = none
  progress : branchOrder.Progress rows db.items.rows

/-- A linked database with its items in their places. -/
def Database.Ordered (rows : List QueueItem) (db : Database) : Prop := db.Linked ∧ db.Placed rows

/-- The place of items is read from the items only. -/
theorem Database.Placed.ignores {table : TableName} (other : table ≠ .items) :
    Ignores (Placed rows) table where
  keep db later same placed := by
    have kept : later.items = db.items := by
      refine @read_of_without _ Database.items table _ _ (fun now => ?_) same
      cases table <;> first | rfl | exact absurd rfl other
    exact ⟨by rw [kept]; exact placed.vacant, by rw [kept]; exact placed.progress⟩

/-- An item whose lifecycle columns stay is followed. -/
theorem QueueItem.SameLifecycle.follows {other : QueueItem} (same : item.SameLifecycle other)
    (key : item.id = other.id) : branchOrder.Follows other item where
  key := key
  lane := by
    show (item.repoKey, item.targetRef) = (other.repoKey, other.targetRef)
    rw [same.repoKey, same.targetRef]
  claimed claimed := by
    have status := same.status
    show other.status.isClaimed = true
    rw [← status]
    exact claimed
  finished finished := by
    have status := same.status
    show item.status.isTerminal = true
    rw [status]
    exact finished

/-- A rewrite that the items follow, and that leaves no attempt to a ready item, keeps their
places. -/
theorem Database.Placed.updateItems {chosen : QueueItem → Bool} {change : QueueItem → QueueItem}
    {kept : ∀ row, (change row).id = row.id} (placed : db.Placed rows)
    (follows : ∀ row ∈ db.items, chosen row = true → branchOrder.Follows row (change row))
    (vacant : ∀ row ∈ db.items, chosen row = true → (change row).status = .ready →
      (change row).currentAttemptId = none) :
    Placed rows { db with items := db.items.update chosen change kept } where
  vacant item mem ready := by
    change item ∈ db.items.update chosen change kept at mem
    obtain ⟨old, stored, rfl⟩ := Table.mem_update.mp mem
    unfold Table.rewrite at ready ⊢
    split at ready
    · rename_i hit
      rw [if_pos hit]
      exact vacant old stored hit ready
    · rename_i miss
      rw [if_neg miss]
      exact placed.vacant old stored ready
  progress := by
    apply placed.progress.map
    intro row mem
    unfold Table.rewrite
    split
    · rename_i hit
      exact follows row mem hit
    · rfl

instance : Framed (Placed rows) where
  control db later same placed := by
    have items := same.items
    exact ⟨by rw [items]; exact placed.vacant, by rw [items]; exact placed.progress⟩
  repositories _ _ _ _ placed := ⟨placed.vacant, placed.progress⟩
  attempts _ _ _ _ _ placed := ⟨placed.vacant, placed.progress⟩
  items db chosen change kept same placed := by
    apply placed.updateItems
    · exact fun row _ _ => (same row).follows (kept row)
    · intro row mem _ ready
      rw [(same row).status] at ready
      rw [(same row).currentAttemptId]
      exact placed.vacant row mem ready

/-! ## State updates -/

/-- What a state update does to the items: it projects the state on the item of its effort. -/
theorem items_of_updateState {state : IntegrationEffortState} {failedCycles : Nat}
    {rejection : Option DefiniteLandingRejection} {done : Unit} (named : db.Names effort)
    (commits : (updateStateAndCountWithResolution effort state failedCycles rejection).Commits db
      done later) :
    ∃ old item change kept, old ∈ db.efforts ∧ old.itemId = effort.itemId ∧
      transitionAllowed old.state.name state.name = true ∧
      db.items.find? old.itemId = some item ∧
      later.items = db.items.update (fun row => row.id == old.itemId) change kept ∧
      (state.name ≠ .integrated → item.currentAttemptId = some old.attemptId) ∧
      ∀ row, (change row).repoKey = row.repoKey ∧ (change row).targetRef = row.targetRef ∧
        (change row).status = state.projection.status := by
  obtain ⟨-, -, -, middle, write, project⟩ := parts_of_updateState commits
  obtain ⟨row, stored, sameItem, sameAttempt⟩ := named
  obtain ⟨⟨old, found, allowed⟩, rfl⟩ := commits_writeEffortState write
  have same : old = row := Option.some_inj.mp (found.symm.trans stored)
  subst same
  obtain ⟨item, change, kept, foundItem, -, rfl, current, columns⟩ :=
    commits_projectQueueState project
  have mem : old ∈ db.efforts := (Table.find?_eq_some.mp found).1
  rw [← sameItem] at foundItem ⊢
  rw [← sameAttempt] at current
  exact ⟨old, item, change, kept, mem, rfl, allowed, foundItem, rfl, current,
    fun row => ⟨(columns row).1, (columns row).2.2.2, (columns row).2.2.1⟩⟩

/-- A terminal status is the projection of the terminal state of its name. -/
theorem projection_terminal {state : IntegrationEffortState} :
    (state.projection.status = .integrated ↔ state.name = .integrated) ∧
      (state.projection.status = .cancelled ↔ state.name = .cancelled) := by
  cases state with
  | validating value =>
    rcases value with ⟨candidateSha, policyDigest, stage⟩
    cases stage <;> exact ⟨⟨nofun, nofun⟩, nofun, nofun⟩
  | integrated => exact ⟨⟨fun _ => rfl, fun _ => rfl⟩, nofun, nofun⟩
  | cancelled => exact ⟨⟨nofun, nofun⟩, fun _ => rfl, fun _ => rfl⟩
  | _ => exact ⟨⟨nofun, nofun⟩, nofun, nofun⟩

/-- The ends of an effort are left for themselves only. -/
theorem transition_of_ended {old new : StateName} (allowed : transitionAllowed old new = true)
    (ended : old = .integrated ∨ old = .cancelled) : new = old := by
  rcases ended with rfl | rfl <;> cases new <;> first | rfl | cases allowed

/-- An item that a state update writes follows the item that was there. -/
theorem Database.Ordered.follows {old : IntegrationEffort} {state : IntegrationEffortState}
    {change : QueueItem → QueueItem} (kept : ∀ row, (change row).id = row.id)
    (ordered : db.Ordered rows) (mem : old ∈ db.efforts)
    (allowed : transitionAllowed old.state.name state.name = true)
    (found : db.items.find? old.itemId = some item)
    (current : state.name ≠ .integrated → item.currentAttemptId = some old.attemptId)
    (columns : ∀ row, (change row).repoKey = row.repoKey ∧ (change row).targetRef = row.targetRef ∧
      (change row).status = state.projection.status) :
    branchOrder.Follows item (change item) := by
  obtain ⟨linked, placed⟩ := ordered
  have stored : item ∈ db.items := (Table.find?_eq_some.mp found).1
  have status : (change item).status = state.projection.status := (columns item).2.2
  have notReady : state.projection.status.isClaimed = true → item.status ≠ .ready := by
    intro claimed ready
    have owned := effortOfItem_eq_some linked.distinct mem
    have waits := linked.waits_of_ready found ready owned
    rw [waits] at allowed
    have next : state.name ≠ .integrated := by
      intro ended
      rw [ended] at allowed
      cases allowed
    have vacant := placed.vacant item stored ready
    rw [current next] at vacant
    cases vacant
  have ended : item.status.isTerminal = true → state.projection.status = item.status := by
    intro terminal
    obtain ⟨own, foundOwn, matched, -⟩ := (linked.owned old mem).item
    rw [found] at foundOwn
    cases foundOwn
    have projected := (projectionMatches_iff.mp matched).1
    split at projected
    · rw [projected] at terminal
      cases terminal
    · rw [projected] at terminal ⊢
      rcases Bool.or_eq_true _ _ |>.mp terminal with integrated | cancelled
      · have before := projection_terminal.1.mp (beq_iff_eq.mp integrated)
        have same := transition_of_ended allowed (.inl before)
        rw [beq_iff_eq.mp integrated]
        exact projection_terminal.1.mpr (same.trans before)
      · have before := projection_terminal.2.mp (beq_iff_eq.mp cancelled)
        have same := transition_of_ended allowed (.inr before)
        rw [beq_iff_eq.mp cancelled]
        exact projection_terminal.2.mpr (same.trans before)
  refine ⟨kept item, ?_, ?_, ?_⟩
  · show ((change item).repoKey, (change item).targetRef) = (item.repoKey, item.targetRef)
    rw [(columns item).1, (columns item).2.1]
  · intro claimed
    change (change item).status.isClaimed = true at claimed
    rw [status] at claimed
    show item.status.isClaimed = true
    have live : item.status ≠ .cancelled := by
      intro cancelled
      have terminal := ended (by rw [cancelled]; rfl)
      rw [terminal, cancelled] at claimed
      cases claimed
    simp [QueueStatus.isClaimed, notReady claimed, live]
  · intro terminal
    change item.status.isTerminal = true at terminal
    show (change item).status.isTerminal = true
    rw [status, ended terminal]
    exact terminal

instance : Framed (Ordered rows) :=
  inferInstanceAs (Framed fun db => db.Linked ∧ db.Placed rows)

instance : Updated (Ordered rows) where
  linked _ ordered := ordered.1
  states db later effort state failedCycles rejection present ordered named commits := by
    refine ⟨Updated.states db later effort _ _ _ present ordered.1 named commits, ?_⟩
    obtain ⟨old, item, change, kept, mem, -, allowed, found, same, current, columns⟩ :=
      items_of_updateState named commits
    have follows := ordered.follows kept mem allowed found current columns
    have only : ∀ row ∈ db.items, (row.id == old.itemId) = true → row = item := by
      intro row stored hit
      exact Option.some_inj.mp
        ((Table.find?_eq_some.mpr ⟨stored, beq_iff_eq.mp hit⟩).symm.trans found)
    have placed : Placed rows { db with
        items := db.items.update (fun row => row.id == old.itemId) change kept } := by
      apply ordered.2.updateItems
      · intro row stored hit
        rw [only row stored hit]
        exact follows
      · intro row _ _ ready
        rw [(columns row).2.2] at ready
        exact absurd (projection_ready ready) present
    exact ⟨by rw [same]; exact placed.vacant, by rw [same]; exact placed.progress⟩
  efforts db chosen change kept same ordered :=
    ⟨ordered.1.updateEfforts same, ordered.2.vacant, ordered.2.progress⟩

/-! ## Operations of the queue -/

/-- A write of an item that what was there is followed by, and that leaves no attempt to a ready
item. -/
theorem placed_updateQueueItem {expected : QueueItem → Bool} {change : QueueItem → QueueItem}
    {kept : ∀ row, (change row).id = row.id} {lost : String}
    (follows : ∀ row, expected row = true → branchOrder.Follows row (change row))
    (vacant : ∀ row, expected row = true → (change row).status = .ready →
      (change row).currentAttemptId = none) :
    (updateQueueItem itemId expected change kept lost).Preserves (Placed rows) := by
  intro db placed
  rw [wp_iff]
  refine ⟨fun done later commits => ?_, fun _ _ => trivial⟩
  obtain ⟨item, found, passes, -, rfl⟩ := commits_updateQueueItem commits
  have only : ∀ row ∈ db.items, (row.id == itemId) = true → expected row = true := by
    intro row stored hit
    have same : row = item := Option.some_inj.mp
      ((Table.find?_eq_some.mpr ⟨stored, beq_iff_eq.mp hit⟩).symm.trans found)
    rw [same]
    exact passes
  apply placed.updateItems
  · exact fun row stored hit => follows row (only row stored hit)
  · exact fun row stored hit => vacant row (only row stored hit)

/-- A cancelled item keeps its place. -/
theorem cancelItemWithoutEffort_placed :
    (cancelItemWithoutEffort itemId stamp).Preserves (Placed rows) := by
  have cancelled : ∀ lost, (updateQueueItem itemId (fun _ => true)
      (fun row => { row with status := .cancelled, replacement := .none }) (fun _ => rfl)
      lost).Preserves (Placed rows) := by
    intro lost
    apply placed_updateQueueItem
    · exact fun row _ => ⟨rfl, rfl, nofun, fun _ => rfl⟩
    · exact fun row _ => nofun
  unfold cancelItemWithoutEffort
  refine preserves_bind (by simp) fun item => ?_
  iterate 6 refine preserves_bind (by simp) fun _ => ?_
  refine preserves_bind (by simp) fun _ => ?_
  cases item.currentAttemptId with
  | none => exact cancelled _
  | some attemptId => exact preserves_bind (by simp) fun _ => cancelled _

/-- A blocked item keeps its place. -/
theorem blockItemFromStatus_placed {phase owned : BlockedPhase} {reason : BlockedReason} :
    (blockItemFromStatus itemId owned.status phase reason).Preserves (Placed rows) := by
  unfold blockItemFromStatus
  iterate 2 refine preserves_bind (by simp) fun _ => ?_
  apply placed_updateQueueItem
  · intro row passes
    have status : row.status = owned.status := beq_iff_eq.mp passes
    refine ⟨rfl, rfl, fun _ => ?_, ?_⟩
    · show row.status.isClaimed = true
      rw [status]
      cases owned <;> rfl
    · intro finished
      change row.status.isTerminal = true at finished
      rw [status] at finished
      cases owned <;> cases finished
  · rintro row - ⟨⟩

/-- Marking an effort leaves every item but its own as it was. -/
theorem items_of_markEffortReplacementPending {oldAttemptId : String} {pending : Bool}
    (ordered : db.Ordered rows)
    (commits : (markEffortReplacementPending itemId oldAttemptId stamp).Commits db pending later) :
    branchOrder.Progress rows later.items.rows ∧
      ∀ row ∈ later.items, row.id ≠ itemId → row ∈ db.items := by
  simp only [markEffortReplacementPending, commits_query_bind] at commits
  cases found : db.effortOfItem itemId with
  | none =>
    rw [found] at commits
    obtain ⟨-, rfl⟩ := commits_pure.mp commits
    exact ⟨ordered.2.progress, fun _ mem _ => mem⟩
  | some effort =>
    rw [found] at commits
    simp only [commits_ensure_bind, commits_require_bind] at commits
    obtain ⟨⟨⟩, -, -, commits⟩ := commits
    rw [commits_bind] at commits
    obtain ⟨⟨⟩, middle, update, commits⟩ := commits
    rw [commits_bind] at commits
    obtain ⟨⟨⟩, reported, event, commits⟩ := commits
    obtain ⟨-, rfl⟩ := commits_pure.mp commits
    obtain ⟨-, rfl⟩ := commits_write.mp event
    have mem : effort ∈ db.efforts := List.mem_of_find?_eq_some found
    have owner : effort.itemId = itemId := by simpa using List.find?_some found
    have named : db.Names effort := ⟨effort, Table.find?_eq_some.mpr ⟨mem, rfl⟩, rfl, rfl⟩
    obtain ⟨old, item, change, kept, stored, sameItem, allowed, foundItem, same, current, columns⟩ :=
      items_of_updateState named update
    have follows := ordered.follows kept stored allowed foundItem current columns
    have key : old.itemId = itemId := sameItem.trans owner
    rw [key] at foundItem same
    show branchOrder.Progress rows middle.items.rows ∧
      ∀ row ∈ middle.items, row.id ≠ itemId → row ∈ db.items
    rw [same]
    constructor
    · apply ordered.2.progress.map
      intro row inside
      by_cases hit : row.id = itemId
      · have itself : row = item := Option.some_inj.mp
          ((Table.find?_eq_some.mpr ⟨inside, hit⟩).symm.trans foundItem)
        rw [Table.rewrite_of_key hit, itself]
        exact follows
      · rw [Table.rewrite_of_key_ne hit]
    · intro row inside apart
      cases Table.mem_update_key foundItem inside with
      | inl changed => exact absurd (by rw [changed, kept]; exact (Table.find?_eq_some.mp foundItem).2) apart
      | inr stays => exact stays.1

/-- A superseded attempt keeps the items in order. -/
theorem supersedeAttempt_ordered {oldAttemptId : String} :
    (supersedeAttempt item oldAttemptId stamp).Preserves (Ordered rows) := by
  intro db ordered
  rw [wp_iff]
  refine ⟨fun done later commits => ⟨supersedeAttempt_linked.of_commits ordered.1 commits, ?_⟩,
    fun _ _ => trivial⟩
  obtain ⟨changed, superseded, update, decided, pending, marked, mark, commits⟩ :=
    parts_of_supersedeAttempt commits
  have before : superseded.Ordered rows := by
    refine Preserves.of_commits ?_ ordered update
    exact preserves_updateAttempts fun _ => ⟨rfl, fun _ => rfl⟩
  obtain ⟨progress, others⟩ := items_of_markEffortReplacementPending before mark
  obtain ⟨row, found, passes, -, rfl⟩ := commits_updateQueueItem commits
  simp only [Bool.and_eq_true, beq_iff_eq] at passes
  have unfinished : row.status.isTerminal = false := by
    rw [passes.2]
    cases pending <;> rfl
  constructor
  · intro other mem ready
    let vacate (row : QueueItem) : QueueItem := { row with
      status := .ready, currentAttemptId := none, replacement := .none, blockedPhase := none,
      blockedReason := none }
    cases @Table.mem_update_key _ _ _ _ vacate (fun _ => rfl) _ _ _ _ _ _ found mem with
    | inl itself => rw [itself]
    | inr stays => exact before.2.vacant other (others other stays.1 stays.2) ready
  · apply progress.map
    intro other mem
    by_cases hit : other.id = item.id
    · have itself : other = row := Option.some_inj.mp
        ((Table.find?_eq_some.mpr ⟨mem, hit⟩).symm.trans found)
      rw [Table.rewrite_of_key hit]
      refine ⟨rfl, rfl, nofun, fun finished => ?_⟩
      change other.status.isTerminal = true at finished
      rw [itself, unfinished] at finished
      cases finished
    · rw [Table.rewrite_of_key_ne hit]

/-- The cleanup before a replacement keeps the items in order. -/
theorem finishReplacementCleanup_ordered {oldAttemptId : String} :
    (finishReplacementCleanup itemId oldAttemptId stamp).Preserves (Ordered rows) := by
  unfold finishReplacementCleanup
  refine preserves_bind (by simp) fun item => ?_
  split
  · exact preserves_abort
  · refine preserves_bind (by simp) fun _ => preserves_ite supersedeAttempt_ordered ?_
    repeat refine preserves_bind (by simp) fun _ => ?_
    exact preserves_write fun db => Framed.items db _ _ _
      fun _ => ⟨rfl, rfl, rfl, rfl, rfl, rfl, rfl, rfl⟩

/-- Every operation but the claim keeps the items in their places. -/
theorem Operation.ordered {operation : Operation} (unclaimed : ∀ repoKey targetRef withoutValidation
      stamp, operation ≠ .claimNextReady repoKey targetRef withoutValidation stamp) :
    operation.transaction.Preserves (Ordered rows) := by
  have other : ∀ table, table ≠ .items → Tolerates (Placed rows) table :=
    fun table apart => .of_ignores (Placed.ignores apart)
  refine Operation.updated fun hands => ?_
  cases operation
  case createEffort =>
    refine (Operation.linked _).and (Operation.preserves ?_)
    simpa [footprint] using ⟨other .efforts (by decide), other .events (by decide)⟩
  case beginRepositoryDraining =>
    refine (Operation.linked _).and (Operation.preserves ?_)
    simpa [footprint] using other .policies (by decide)
  case disableDrainedRepository =>
    refine (Operation.linked _).and (Operation.preserves ?_)
    simpa [footprint] using other .policies (by decide)
  case claimNextReady => exact absurd rfl (unclaimed _ _ _ _)
  case cancelItemWithoutEffort =>
    exact (Operation.linked _).and (preserves_map cancelItemWithoutEffort_placed)
  case blockItemOwned =>
    exact (Operation.linked _).and (preserves_map blockItemFromStatus_placed)
  case blockIntegratingRecoveryOwned =>
    refine (Operation.linked _).and (preserves_map (preserves_bind (by simp) fun _ => ?_))
    exact @blockItemFromStatus_placed _ _ _ .integrating _
  case finishReplacementCleanup => exact preserves_map finishReplacementCleanup_ordered
  all_goals cases hands

end Iq
