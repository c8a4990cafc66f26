import Iq.Lifecycle.Order
import Iq.Lifecycle.Submissions

/-!
# Strict order on every branch

Every step of the queue serves the lanes of its branches in order: admissions arrive, a claim or a
boundary transition takes up the front of a branch, and everything else leaves the items in their
places. So one item of a branch is worked on at a time, and the items land in the order of their
admission.
-/

namespace Iq

open Library Library.Transaction Database

variable {db later : Database} {item : QueueItem} {repoKey itemId submissionId : String}
  {targetRef : TargetRef} {stamp : Stamp} {done : Unit} {now : Queue}

/-! ## Selection -/

/-- The item is the front of its branch. -/
def Database.Front (db : Database) (itemId : String) : Prop :=
  branchOrder.FrontOf itemId db.items.rows ∧ itemId ∈ db.items.rows.map QueueItem.id

/-- The oldest unfinished item of a branch is its front. -/
theorem front_of_oldestActiveItemForTarget
    (found : db.oldestActiveItemForTarget repoKey targetRef = some item) : db.Front item.id := by
  have passes := List.find?_some found
  simp only [Bool.and_eq_true, beq_iff_eq, Bool.not_eq_true'] at passes
  constructor
  · refine Fifo.frontOf_of_find? db.items.keyed (fun older same unfinished => ?_) found
    have lane : older.repoKey = item.repoKey ∧ older.targetRef = item.targetRef :=
      Prod.mk.injEq .. ▸ same
    have active : older.status.isTerminal = false := by
      simpa [branchOrder] using unfinished
    simp [lane.1, lane.2, passes.1.1, passes.1.2, active]
  · exact List.mem_map_of_mem (List.mem_of_find?_eq_some found)

/-- The oldest active item is at the front. -/
theorem front_of_isOldestActive (oldest : db.isOldestActive item = true) : db.Front item.id := by
  simp only [isOldestActive, Option.any_eq_true, beq_iff_eq] at oldest
  obtain ⟨front, selected, same⟩ := oldest
  rw [← same]
  exact front_of_oldestActiveItemForTarget selected

/-- The item that is resumed next is at the front. -/
theorem front_of_nextResumableActiveItem (found : db.nextResumableActiveItem repoKey = some item) :
    db.Front item.id := by
  have passes := List.find?_some found
  simp only [Bool.and_eq_true] at passes
  exact front_of_isOldestActive passes.2

/-- The oldest active item of a repository is at the front. -/
theorem front_of_oldestActiveItem (found : db.oldestActiveItem repoKey = some item) :
    db.Front item.id := by
  have candidate : item ∈ db.items.rows.filter fun row =>
      row.repoKey == repoKey && db.isOldestActive row := by
    unfold oldestActiveItem at found
    cases Option.or_eq_some_iff.mp found with
    | inl free => exact List.mem_of_find?_eq_some free
    | inr first => exact List.mem_of_mem_head? first.2
  have oldest := (List.mem_filter.mp candidate).2
  simp only [Bool.and_eq_true] at oldest
  exact front_of_isOldestActive oldest.2

/-! ## The invariant -/

/-- What holds in every reachable queue. -/
structure Queue.Sound (now : Queue) : Prop where
  linked : now.db.Linked
  vacant : ∀ item ∈ now.db.items, item.status = .ready → item.currentAttemptId = none
  closed : now.db.Closed
  ordered : branchOrder.InOrder now.db.items.rows
  held : ∀ item ∈ now.held, now.db.Front item.id

/-- What a commit keeps and how it serves the items. -/
structure Database.Advances (db later : Database) : Prop where
  linked : later.Linked
  vacant : ∀ item ∈ later.items, item.status = .ready → item.currentAttemptId = none
  closed : later.Closed
  serves : branchOrder.Serves db.items.rows later.items.rows

/-- A sound queue advances to itself. -/
theorem Queue.Sound.advances_self (sound : now.Sound) : now.db.Advances now.db :=
  ⟨sound.linked, sound.vacant, sound.closed, Fifo.Progress.refl.serves⟩

/-- Items that moved on in their places. -/
theorem Database.Ordered.advances (ordered : later.Ordered db.items.rows) (closed : later.Closed) :
    db.Advances later :=
  ⟨ordered.1, ordered.2.vacant, closed, ordered.2.progress.serves⟩

/-- The items of a sound queue are in order. -/
theorem Queue.Sound.placed (sound : now.Sound) : now.db.Ordered now.db.items.rows :=
  ⟨sound.linked, sound.vacant, Fifo.Progress.refl⟩

/-! ## Claims -/

/-- Taking up the front of a branch. -/
theorem serves_updateFront (change : QueueItem → QueueItem)
    (kept : ∀ row, (change row).id = row.id) (front : db.Front item.id)
    (found : db.items.find? item.id = some item)
    (lane : (change item).repoKey = item.repoKey ∧ (change item).targetRef = item.targetRef)
    (unfinished : item.status.isTerminal = false) :
    branchOrder.Serves db.items.rows
      (db.items.update (fun row => row.id == item.id) change kept).rows := by
  have rewrites : ∀ row ∈ db.items.rows,
      Table.rewrite (fun row => row.id == item.id) change row = row ∨ row = item := by
    intro row mem
    by_cases hit : row.id = item.id
    · exact .inr (Option.some_inj.mp ((Table.find?_eq_some.mpr ⟨mem, hit⟩).symm.trans found))
    · exact .inl (Table.rewrite_of_key_ne hit)
  apply Fifo.Serves.rewrite
  · exact fun row _ => Table.key_rewrite kept row
  · intro row mem
    rcases rewrites row mem with same | rfl
    · rw [same]
    · rw [Table.rewrite_of_key rfl]
      show ((change row).repoKey, (change row).targetRef) = (row.repoKey, row.targetRef)
      rw [lane.1, lane.2]
  · intro row mem finished
    rcases rewrites row mem with same | rfl
    · rw [same]
      exact finished
    · change row.status.isTerminal = true at finished
      rw [unfinished] at finished
      cases finished
  · intro row mem claimed
    rcases rewrites row mem with same | rfl
    · rw [same] at claimed
      exact .inl claimed
    · exact .inr front.1

/-- Ready items stay without an attempt when another one is taken up. -/
theorem vacant_updateFront (change : QueueItem → QueueItem)
    (kept : ∀ row, (change row).id = row.id) (found : db.items.find? item.id = some item)
    (vacant : ∀ item ∈ db.items, item.status = .ready → item.currentAttemptId = none)
    (taken : (change item).status ≠ .ready) :
    ∀ row ∈ db.items.update (fun row => row.id == item.id) change kept, row.status = .ready →
      row.currentAttemptId = none := by
  intro row mem ready
  cases Table.mem_update_key found mem with
  | inl changed =>
    rw [changed] at ready
    exact absurd ready taken
  | inr stays => exact vacant row stays.1 ready

/-- What a claim commits: nothing, or an attempt on the oldest item of the branch, which was
ready. -/
theorem commits_claimNextReady {withoutValidation claimed : Bool}
    (commits : (claimNextReady repoKey targetRef withoutValidation stamp).Commits db claimed later) :
    claimed = false ∧ later = db ∨ ∃ item attempts,
      db.oldestActiveItemForTarget repoKey targetRef = some item ∧ item.status = .ready ∧
      later = { db with
        attempts
        items := db.items.update (fun row => row.id == item.id) (fun row => { row with
          status := .merging, currentAttemptId := some stamp.rowId, landing := .ready,
          blockedPhase := none, blockedReason := none }) fun _ => rfl } := by
  simp only [claimNextReady, commits_query_bind] at commits
  split at commits
  · obtain ⟨rfl, rfl⟩ := commits_pure.mp commits
    exact .inl ⟨rfl, rfl⟩
  · rename_i item found
    rw [commits_requireItemObligation_bind, commits_ite] at commits
    obtain ⟨-, ⟨-, idle⟩ | ⟨ready, rest⟩⟩ := commits
    · obtain ⟨rfl, rfl⟩ := commits_pure.mp idle
      exact .inl ⟨rfl, rfl⟩
    · simp only [commits_query_bind, commits_lookup_bind, commits_write_bind] at rest
      obtain ⟨attempts, -, rest⟩ := rest
      rw [commits_bind] at rest
      obtain ⟨⟨⟩, middle, updated, finished⟩ := rest
      obtain ⟨-, rfl⟩ := commits_pure.mp finished
      obtain ⟨row, -, -, -, rfl⟩ := commits_updateQueueItem updated
      exact .inr ⟨item, attempts, found, not_not.mp ready, rfl⟩

/-- A claim takes up the front of its branch. -/
theorem Queue.Sound.advances_claim {withoutValidation claimed : Bool} (sound : now.Sound)
    (commits : (claimNextReady repoKey targetRef withoutValidation stamp).Commits now.db claimed
      later) : now.db.Advances later := by
  have linked : later.Linked := claimNextReady_linked.of_commits sound.linked commits
  rcases commits_claimNextReady commits with ⟨-, rfl⟩ | ⟨item, attempts, oldest, ready, rfl⟩
  · exact sound.advances_self
  · have front := front_of_oldestActiveItemForTarget oldest
    have stored : item ∈ now.db.items := List.mem_of_find?_eq_some oldest
    have found := Table.find?_eq_some.mpr ⟨stored, rfl⟩
    refine ⟨linked, ?_, sound.closed, ?_⟩
    · apply vacant_updateFront _ _ found sound.vacant
      · nofun
      · exact fun _ => rfl
    · apply serves_updateFront _ _ front found ⟨rfl, rfl⟩
      · rw [ready]
        rfl
      · exact fun _ => rfl

/-! ## Boundary transitions -/

/-- A status that may move on has neither ended nor is blocked. -/
theorem QueueStatus.canTransition_unfinished {status target : QueueStatus}
    (allowed : status.canTransition target = true) (kept : target ≠ .cancelled) :
    status.isTerminal = false ∧ status ≠ .blocked := by
  revert allowed kept
  cases status <;> cases target <;> decide

/-- The status after a boundary is active. -/
theorem boundaryTarget_active {status target : QueueStatus}
    (moves : boundaryTarget status = some target) :
    target.isTerminal = false ∧ target ≠ .ready ∧ target ≠ .cancelled ∧ target ≠ .blocked := by
  cases status <;> cases moves <;> exact ⟨rfl, nofun, nofun, nofun⟩

/-- A boundary transition takes up or moves on the front of a branch. -/
theorem Queue.Sound.advances_transition {target : QueueStatus} (sound : now.Sound)
    (front : now.db.Front itemId)
    (active : target.isTerminal = false ∧ target ≠ .ready ∧ target ≠ .cancelled ∧
      target ≠ .blocked)
    (commits : (transitionItem itemId target stamp).Commits now.db done later) :
    now.db.Advances later := by
  simp only [transitionItem, if_neg active.2.2.1, commits_lookup_bind, commits_query_bind,
    commits_require_bind, commits_requireItemObligation_bind] at commits
  obtain ⟨item, found, unowned, -, allowed, commits⟩ := commits
  obtain ⟨row, foundRow, -, matching, rfl⟩ := commits_updateQueueItem commits
  have same : row = item := Option.some_inj.mp (foundRow.symm.trans found)
  subst same
  obtain ⟨unfinished, unblocked⟩ := QueueStatus.canTransition_unfinished allowed active.2.2.1
  obtain ⟨stored, named⟩ := Table.find?_eq_some.mp found
  subst named
  have nobody := unowned_of_isSome unowned
  refine ⟨sound.linked.updateItem _ found matching ?_ ?_ rfl ?_, ?_, sound.closed, ?_⟩
  · intro owner owned
    cases owned.symm.trans nobody
  · intro unlanded
    have uncancelled : row.status ≠ .cancelled := by
      intro cancelled
      rw [cancelled] at unfinished
      cases unfinished
    exact ⟨unlanded.landedCommitSha, unlanded.landing, fun _ _ =>
      unlanded.unblocked unblocked uncancelled⟩
  · intro _
    exact sound.linked.admitted row stored unfinished
  · apply vacant_updateFront _ _ found sound.vacant active.2.1
    exact fun _ => rfl
  · apply serves_updateFront _ _ front found ⟨rfl, rfl⟩ unfinished
    exact fun _ => rfl

/-! ## Admissions -/

/-- An arrival adds an unclaimed item at the end. -/
theorem Queue.Sound.advances_arrival {items : Table QueueItem.id}
    {submissions : Table LocalSubmission.id} {workspaces : Table DevelopmentWorkspace.id}
    (sound : now.Sound) (arrives : now.db.Arrives item items)
    (closed : Closed { now.db with items, submissions, workspaces }) :
    now.db.Advances { now.db with items, submissions, workspaces } := by
  refine ⟨arrives.linked sound.linked, arrives.keepsVacant sound.vacant, closed, ?_⟩
  show branchOrder.Serves now.db.items.rows items.rows
  rw [Table.rows_of_insert? arrives.inserted]
  refine .arrive (fun present => ?_) ?_
  · obtain ⟨row, stored, same⟩ := List.mem_map.mp present
    exact Table.fresh_of_insert? arrives.inserted stored same
  · intro claimed
    change item.status.isClaimed = true at claimed
    rw [arrives.ready] at claimed
    cases claimed

/-- An admission of a remote source lets a ready item arrive. -/
theorem Queue.Sound.advances_admitRemote {headSha id : String} (sound : now.Sound)
    (commits : (admitRemote repoKey targetRef headSha id).Commits now.db done later) :
    now.db.Advances later := by
  obtain ⟨items, arrives, rfl⟩ := commits_admitRemote commits
  exact sound.advances_arrival arrives sound.closed

/-- The intent of a submission leaves the items. -/
theorem Queue.Sound.advances_begin {workspaceId commitSha queueItemId : String}
    {replacesItemId : Option String} (sound : now.Sound)
    (commits : (beginLocalSubmission repoKey workspaceId commitSha replacesItemId submissionId
      queueItemId).Commits now.db done later) : now.db.Advances later := by
  rcases commits_beginLocalSubmission commits with
    rfl | ⟨workspace, submissions, enabled, -, -, -, -, -, inserted, rfl⟩
  · exact sound.advances_self
  · have linked : Linked { now.db with submissions } := keep_without .submissions sound.linked rfl
    refine ⟨linked, sound.vacant, ?_, Fifo.Progress.refl.serves⟩
    intro submission mem creating
    rcases (Table.mem_of_insert? inserted).mp mem with stored | rfl
    · exact sound.closed submission stored creating
    · exact enabled

/-- The finalization of a submission lets a ready item arrive. -/
theorem Queue.Sound.advances_finalize (sound : now.Sound)
    (commits : (finalizeLocalSubmission repoKey submissionId).Commits now.db done later) :
    now.db.Advances later := by
  obtain ⟨submission, workspace, repository, items, found, sameRepo, creating, registered, -, -, -,
    -, inserted, rfl⟩ := commits_finalizeLocalSubmission commits
  rw [← (Table.find?_eq_some.mp found).2] at found
  rw [← sameRepo] at registered
  have arrives := sound.closed.arrives found creating ⟨repository, registered⟩ inserted
  refine sound.advances_arrival arrives ?_
  intro other mem stillCreating
  have before : other ∈ now.db.submissions :=
    creating_of_finalize mem stillCreating
  exact sound.closed other before stillCreating

/-! ## Steps and runs -/

/-- Every command that commits advances the items. -/
theorem Queue.Sound.advances {command : QueueCommand} (sound : now.Sound)
    (enabled : now.enables command = true)
    (commits : command.transaction.Commits now.db done later) : now.db.Advances later := by
  cases command with
  | store operation =>
    obtain ⟨outcome, commits, -⟩ := commits_map.mp commits
    by_cases claims : ∃ repoKey targetRef withoutValidation stamp,
        operation = .claimNextReady repoKey targetRef withoutValidation stamp
    · obtain ⟨repoKey, targetRef, withoutValidation, stamp, rfl⟩ := claims
      obtain ⟨claimed, commits, -⟩ := commits_map.mp commits
      exact sound.advances_claim commits
    · have unclaimed : ∀ repoKey targetRef withoutValidation stamp,
          operation ≠ .claimNextReady repoKey targetRef withoutValidation stamp :=
        fun _ _ _ _ same => claims ⟨_, _, _, _, same⟩
      have ordered := (Operation.ordered unclaimed).of_commits sound.placed commits
      exact ordered.advances (Operation.closed sound.closed commits)
  | admitRemote => exact sound.advances_admitRemote commits
  | beginLocalSubmission => exact sound.advances_begin commits
  | finalizeLocalSubmission => exact sound.advances_finalize commits
  | readOldest | readOldestForTarget | readResumable | readAgain =>
    obtain ⟨-, rfl⟩ := commits_pure.mp commits
    exact sound.advances_self
  | enforceBoundary item stamp =>
    simp only [QueueCommand.transaction] at commits
    split at commits
    · rename_i target moves
      have held : item ∈ now.held := List.contains_iff_mem.mp enabled
      exact sound.advances_transition (sound.held item held) (boundaryTarget_active moves) commits
    · obtain ⟨-, rfl⟩ := commits_pure.mp commits
      exact sound.advances_self

/-- What a command reads is the front of its branch. -/
theorem Queue.Sound.front_of_read {command : QueueCommand} (sound : now.Sound)
    (read : now.read command = some item) : now.db.Front item.id := by
  cases command with
  | readOldest repoKey => exact front_of_oldestActiveItem read
  | readOldestForTarget repoKey targetRef => exact front_of_oldestActiveItemForTarget read
  | readResumable repoKey => exact front_of_nextResumableActiveItem read
  | readAgain held =>
    simp only [Queue.read, Option.ite_none_right_eq_some] at read
    rw [(Table.find?_eq_some.mp read.2).2]
    exact sound.held held read.1
  | _ => cases read

/-- A step advances the items of the database. -/
theorem Queue.Sound.step_advances (sound : now.Sound) (command : QueueCommand) :
    now.db.Advances (queue.step now command).db := by
  show now.db.Advances (if now.enables command then _ else now).db
  by_cases enabled : now.enables command = true
  · rw [if_pos enabled]
    rcases settle_cases command.transaction now.db with same | ⟨done, commits⟩
    · show now.db.Advances (command.transaction.settle now.db)
      rw [same]
      exact sound.advances_self
    · exact sound.advances enabled commits
  · rw [if_neg enabled]
    exact sound.advances_self

/-- What is held after a step was held or has been read by it. -/
theorem Queue.held_of_step {command : QueueCommand} (held : item ∈ (queue.step now command).held) :
    now.read command = some item ∨ item ∈ now.held := by
  change item ∈ (if now.enables command then _ else now : Queue).held at held
  split at held
  · rw [List.mem_append, Option.mem_toList] at held
    exact held
  · exact .inr held

/-- The front stays the front while the queue advances. -/
theorem Database.Front.advances (front : db.Front itemId) (advances : db.Advances later) :
    later.Front itemId := front.1.serves front.2 advances.serves

/-- A step keeps the queue sound. -/
theorem Queue.Sound.step (sound : now.Sound) (command : QueueCommand) :
    (queue.step now command).Sound := by
  have advances := sound.step_advances command
  refine ⟨advances.linked, advances.vacant, advances.closed,
    sound.ordered.serves advances.serves, fun item held => ?_⟩
  have front : now.db.Front item.id := by
    cases Queue.held_of_step held with
    | inl read => exact sound.front_of_read read
    | inr before => exact sound.held item before
  exact front.advances advances

/-- At first the queue is sound. -/
theorem Queue.Initial.sound (initial : now.Initial) : now.Sound := by
  have items : now.db.items.rows = [] := by
    rw [initial.items]
    rfl
  refine ⟨initial.database.linked, ?_, ?_, ?_, ?_⟩
  · rw [initial.items]
    exact fun item mem => absurd mem (Table.not_mem_empty item)
  · intro submission mem
    rw [initial.submissions] at mem
    exact absurd mem (Table.not_mem_empty submission)
  · rw [items]
    exact List.Pairwise.nil
  · rw [initial.idle]
    exact fun item mem => absurd mem List.not_mem_nil

/-- Every reachable queue is sound. -/
theorem queue_sound (reachable : queue.Reachable now) : now.Sound := by
  refine reachable.invariant ?_ ?_
  · intro start initial
    exact Queue.Initial.sound initial
  · intro start command sound
    exact sound.step command

/-! ## The order of a branch -/

/-- The two items are admitted to one branch. -/
def QueueItem.SameBranch (item other : QueueItem) : Prop :=
  item.repoKey = other.repoKey ∧ item.targetRef = other.targetRef

/-- One item was admitted before the other. -/
def Database.AdmittedBefore (db : Database) (older newer : QueueItem) : Prop :=
  [older, newer].Sublist db.items.rows

/-- Items of one branch are in one lane. -/
theorem QueueItem.SameBranch.lane {other : QueueItem} (same : item.SameBranch other) :
    branchOrder.lane item = branchOrder.lane other := by
  show (item.repoKey, item.targetRef) = (other.repoKey, other.targetRef)
  rw [same.1, same.2]

/-- A status has ended when it is integrated or cancelled. -/
theorem QueueStatus.isTerminal_iff {status : QueueStatus} :
    status.isTerminal = true ↔ status = .integrated ∨ status = .cancelled := by
  cases status <;> decide

/-- What is in progress is claimed and has not ended. -/
theorem QueueStatus.isInProgress_claimed {status : QueueStatus} :
    status.isInProgress = true → status.isClaimed = true ∧ status.isTerminal ≠ true := by
  cases status <;> decide

/-- What is claimed has nothing unfinished before it. -/
theorem Queue.Sound.finished_before {older newer : QueueItem} (sound : now.Sound)
    (before : now.db.AdmittedBefore older newer) (same : older.SameBranch newer)
    (claimed : newer.status.isClaimed = true) : older.status.isTerminal = true :=
  sound.ordered.front before same.lane claimed

/-- What a command takes up had nothing unfinished before it. -/
theorem Queue.Sound.claims_front {older newer : QueueItem} (sound : now.Sound)
    (command : QueueCommand) (before : now.db.AdmittedBefore older newer)
    (same : older.SameBranch newer) (ready : newer.status = .ready)
    (mem : item ∈ (queue.step now command).db.items) (itself : item.id = newer.id)
    (claimed : item.status.isClaimed = true) : older.status.isTerminal = true := by
  have unclaimed : ¬newer.status.isClaimed = true := by
    rw [ready]
    decide
  have serves := (sound.step_advances command).serves
  exact serves.front now.db.items.keyed before same.lane unclaimed mem itself claimed

/-- The claim of a branch. -/
def claim (repoKey : String) (targetRef : TargetRef) (withoutValidation : Bool) (stamp : Stamp) :
    QueueCommand := .store (.claimNextReady repoKey targetRef withoutValidation stamp)

/-- A claim of the queue is the claim of the store. -/
theorem step_claim {withoutValidation : Bool} :
    (queue.step now (claim repoKey targetRef withoutValidation stamp)).db =
      (claimNextReady repoKey targetRef withoutValidation stamp).settle now.db := by
  show (QueueCommand.transaction (claim repoKey targetRef withoutValidation stamp)).settle now.db = _
  simp only [claim, QueueCommand.transaction, Operation.transaction, settle_map]

/-- A claim leaves the items of the other branches. -/
theorem claim_elsewhere {withoutValidation : Bool} (mem : item ∈ now.db.items)
    (elsewhere : ¬(item.repoKey = repoKey ∧ item.targetRef = targetRef)) :
    item ∈ (queue.step now (claim repoKey targetRef withoutValidation stamp)).db.items := by
  rw [step_claim]
  rcases settle_cases (claimNextReady repoKey targetRef withoutValidation stamp) now.db with
    same | ⟨claimed, commits⟩
  · rw [same]
    exact mem
  · rcases commits_claimNextReady commits with ⟨-, same⟩ | ⟨front, attempts, oldest, -, same⟩
    · rw [same]
      exact mem
    · rw [same]
      have passes := List.find?_some oldest
      simp only [Bool.and_eq_true, beq_iff_eq] at passes
      have apart : item.id ≠ front.id := by
        intro hit
        have itself := Table.eq_of_key mem (List.mem_of_find?_eq_some oldest) hit
        rw [itself] at elsewhere
        exact elsewhere passes.1
      dsimp only
      exact Table.mem_update.mpr ⟨item, mem, Table.rewrite_of_key_ne apart⟩

/-- A ready item that is the oldest of its branch can be claimed, whatever the other branches
hold. -/
theorem Database.Linked.commits_claim {withoutValidation : Bool} (linked : db.Linked)
    (oldest : db.oldestActiveItemForTarget repoKey targetRef = some item)
    (ready : item.status = .ready) (fresh : ∀ attempt ∈ db.attempts, attempt.id ≠ stamp.rowId) :
    (claimNextReady repoKey targetRef withoutValidation stamp).Commits db true
      ((claimNextReady repoKey targetRef withoutValidation stamp).settle db) := by
  have stored : item ∈ db.items := List.mem_of_find?_eq_some oldest
  have found : db.items.find? item.id = some item := Table.find?_eq_some.mpr ⟨stored, rfl⟩
  have unfinished : item.status.isTerminal = false := by
    rw [ready]
    rfl
  have matching : ∀ owner, db.effortOfItem item.id = some owner →
      projectionMatches owner { item with
        status := .merging, currentAttemptId := some stamp.rowId, landing := .ready,
        blockedPhase := none, blockedReason := none } = true := by
    intro owner owned
    have waits := linked.waits_of_ready found ready owned
    have owns := linked.owned owner (List.mem_of_find?_eq_some owned)
    have key : owner.itemId = item.id := by simpa using List.find?_some owned
    obtain ⟨attempt, storedAttempt, -, -⟩ := owns.attempt
    obtain ⟨own, foundOwn, matched, -⟩ := owns.item
    rw [key, found] at foundOwn
    cases foundOwn
    have apart : stamp.rowId ≠ owner.attemptId := by
      obtain ⟨mem, named⟩ := Table.find?_eq_some.mp storedAttempt
      rw [← named]
      exact (fresh attempt mem).symm
    obtain ⟨-, -, -, commit, -⟩ := projectionMatches_iff.mp matched
    cases state : owner.state with
    | replacementPending pending =>
      rw [state] at commit
      rw [projectionMatches_iff, state]
      refine ⟨?_, rfl, rfl, commit, rfl⟩
      rw [if_pos ⟨rfl, nofun, fun same => apart (Option.some.inj same)⟩]
    | _ =>
      rw [state] at waits
      cases waits
  have selected : db.items.rows.find? (fun row => row.repoKey == repoKey &&
      row.targetRef == targetRef && !row.status.isTerminal) = some item := oldest
  obtain ⟨policy, policyOf, passed⟩ := linked.admitted item stored unfinished
  have admitted : db.policyOf item.id = some policy := by
    rw [Database.policyOf, found, Option.bind_some]
    exact policyOf
  have inserts : ∀ attempt : Attempt, attempt.id = stamp.rowId →
      ∃ attempts, db.attempts.insert? attempt = some attempts := by
    intro attempt named
    refine Option.isSome_iff_exists.mp (Table.insert?_isSome.mpr ?_)
    rw [named]
    exact fresh
  obtain ⟨attempts, inserted⟩ := inserts ⟨stamp.rowId, item.id,
    (((db.attempts.select fun row => row.itemId == item.id).map
      Attempt.attemptNumber).max?.getD 0) + 1, none, none, none, none, none, none,
    withoutValidation, none, .none, none, none, none⟩ rfl
  have commits : ∃ later, (claimNextReady repoKey targetRef withoutValidation stamp).Commits db true
      later := by
    refine ⟨{ db with
      attempts
      items := db.items.update (fun row => row.id == item.id) (fun row => { row with
        status := .merging, currentAttemptId := some stamp.rowId, landing := .ready,
        blockedPhase := none, blockedReason := none }) fun _ => rfl }, ?_⟩
    simp only [claimNextReady, commits_query_bind]
    rw [selected]
    simp only [commits_requireItemObligation_bind, ready, ne_eq, not_true_eq_false, if_false,
      commits_query_bind, commits_lookup_bind, commits_write_bind]
    refine ⟨⟨policy, admitted, passed⟩, attempts, inserted, ?_⟩
    rw [commits_bind]
    refine ⟨(), _, ?_, commits_pure.mpr ⟨rfl, rfl⟩⟩
    simp only [updateQueueItem, commits_lookup_bind, commits_query_bind, commits_require_bind,
      commits_write, Option.filter_eq_some_iff]
    refine ⟨item, ⟨found, trivial⟩, ?_, trivial, trivial⟩
    show (db.effortOfItem item.id).all _ = true
    rw [Option.all_eq_true]
    exact matching
  obtain ⟨later, commits⟩ := commits
  rw [settle_of_commits commits]
  exact commits

/-- The claim of a branch takes up its oldest unfinished item when that is ready. -/
theorem Queue.Sound.claims_oldest {withoutValidation : Bool} (sound : now.Sound)
    (oldest : now.db.oldestActiveItemForTarget repoKey targetRef = some item)
    (ready : item.status = .ready) (fresh : ∀ attempt ∈ now.db.attempts, attempt.id ≠ stamp.rowId) :
    ∃ claimed ∈ (queue.step now (claim repoKey targetRef withoutValidation stamp)).db.items,
      claimed.id = item.id ∧ claimed.status = .merging := by
  have commits := @Database.Linked.commits_claim now.db item repoKey targetRef stamp
    withoutValidation sound.linked oldest ready fresh
  rw [step_claim]
  have stored : item ∈ now.db.items := List.mem_of_find?_eq_some oldest
  rcases commits_claimNextReady commits with ⟨idle, -⟩ | ⟨front, attempts, selected, -, same⟩
  · cases idle
  · rw [oldest] at selected
    cases selected
    rw [same]
    dsimp only
    refine ⟨_, Table.mem_update.mpr ⟨item, stored, Table.rewrite_of_key rfl⟩, rfl, rfl⟩

/-! ## Strict order -/

/-- One item of a branch is worked on at a time; an item is claimed, and lands, after everything
that was admitted to its branch before it; and a claim neither changes nor waits for the items of
another branch. -/
theorem strict_fifo (reachable : queue.Reachable now) :
    (∀ item ∈ now.db.items, ∀ other ∈ now.db.items, item.SameBranch other →
      item.status.isInProgress = true → other.status.isInProgress = true → item = other) ∧
    (∀ command older newer, now.db.AdmittedBefore older newer → older.SameBranch newer →
      newer.status = .ready → ∀ item ∈ (queue.step now command).db.items, item.id = newer.id →
        item.status.isClaimed = true → older.status = .integrated ∨ older.status = .cancelled) ∧
    (∀ older newer, now.db.AdmittedBefore older newer → older.SameBranch newer →
      newer.status.isInProgress = true ∨ newer.status = .integrated →
        older.status = .integrated ∨ older.status = .cancelled) ∧
    ∀ repoKey targetRef withoutValidation stamp,
      (∀ item ∈ now.db.items, ¬(item.repoKey = repoKey ∧ item.targetRef = targetRef) →
        item ∈ (queue.step now (claim repoKey targetRef withoutValidation stamp)).db.items) ∧
      ∀ item, now.db.oldestActiveItemForTarget repoKey targetRef = some item →
        item.status = .ready → (∀ attempt ∈ now.db.attempts, attempt.id ≠ stamp.rowId) →
        ∃ claimed ∈ (queue.step now (claim repoKey targetRef withoutValidation stamp)).db.items,
          claimed.id = item.id ∧ claimed.status = .merging := by
  have sound := queue_sound reachable
  refine ⟨?_, ?_, ?_, ?_⟩
  · intro item mem other mem' same working working'
    have claimed := QueueStatus.isInProgress_claimed working
    have claimed' := QueueStatus.isInProgress_claimed working'
    exact sound.ordered.unique mem mem' same.lane claimed claimed'
  · intro command older newer before same ready item mem itself claimed
    have finished := sound.claims_front command before same ready mem itself claimed
    exact QueueStatus.isTerminal_iff.mp finished
  · intro older newer before same reached
    have claimed : newer.status.isClaimed = true := by
      cases reached with
      | inl working => exact (QueueStatus.isInProgress_claimed working).1
      | inr landed =>
        rw [landed]
        decide
    exact QueueStatus.isTerminal_iff.mp (sound.finished_before before same claimed)
  · intro repoKey targetRef withoutValidation stamp
    constructor
    · intro item mem elsewhere
      exact claim_elsewhere mem elsewhere
    · intro item oldest ready fresh
      exact sound.claims_oldest oldest ready fresh

/-! ## A sample queue -/

namespace Sample

/-- The sample installation before anything is admitted. -/
def emptyQueue : Queue where
  db := { database with items := .empty }
  held := []

/-- The empty queue is a first state. -/
theorem emptyQueue_initial : emptyQueue.Initial where
  database :=
    { efforts := rfl, cycles := rfl, guidance := rfl, evidence := rfl, reviews := rfl
      reviewReceipts := rfl, answers := rfl, terminationDebts := rfl, events := rfl
      unlanded := fun _ mem => absurd mem List.not_mem_nil
      admitted := fun _ mem _ => absurd mem List.not_mem_nil
      registered := fun _ mem => absurd mem List.not_mem_nil }
  items := rfl
  submissions := rfl
  idle := rfl

/-- Another branch. -/
def sideRef : TargetRef := ⟨"refs/heads/side", by decide +kernel⟩

/-- Two admissions to one branch and one to another. -/
def admissions : List QueueCommand :=
  [.admitRemote "repo" Sample.targetRef sourceSha "first",
    .admitRemote "repo" Sample.targetRef sourceSha "second",
    .admitRemote "repo" sideRef sourceSha "aside"]

/-- The sample's queues are reachable. -/
theorem reachable_queue (commands : List QueueCommand) :
    queue.Reachable (queue.run emptyQueue commands) :=
  ⟨emptyQueue, commands, emptyQueue_initial, rfl⟩

end Sample

/-- The second item of the sample branch waits while the first is merged, the first of the other
branch does not. -/
theorem strict_fifo_sample :
    let now := queue.run Sample.emptyQueue (Sample.admissions ++
      [claim "repo" Sample.targetRef true (Sample.stampOf "one"),
        claim "repo" Sample.targetRef true (Sample.stampOf "two"),
        claim "repo" Sample.sideRef true (Sample.stampOf "three")])
    now.db.items.rows.map (fun item => (item.id, item.status)) =
        [("first", .merging), ("second", .ready), ("aside", .merging)] ∧
      ∀ item ∈ now.db.items, ∀ other ∈ now.db.items, item.SameBranch other →
        item.status.isInProgress = true → other.status.isInProgress = true → item = other :=
  ⟨by decide +kernel, (strict_fifo (Sample.reachable_queue _)).1⟩

end Iq
