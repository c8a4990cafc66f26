import Iq.Lifecycle.CandidateEvidence
import Iq.Lifecycle.Identifiers
import Iq.Lifecycle.Transitions

/-!
# Accepted state updates

When the control store accepts a state update. In a linked database the queue never refuses one: the
item of an active effort is admitted, has its attempt and takes the projection of every state, so
that a state update is refused only for the effort's own sake.
-/

namespace Iq

open Library Library.Transaction Database

variable {db later : Database} {effort row : IntegrationEffort} {item : QueueItem}
  {state : IntegrationEffortState} {failedCycles : Nat}
  {rejection : Option DefiniteLandingRejection} {effortId : String}

/-! ## The queue item -/

/-- A queue item with the projection of a state. -/
def QueueItem.project (state : IntegrationEffortState) (item : QueueItem) : QueueItem :=
  let projection := state.projection
  match state with
  | .integrated integrated =>
    { item with
      status := projection.status, blockedPhase := none, blockedReason := none,
      landedCommitSha := some integrated.landedSha, landing := state.legacyLanding }
  | _ =>
    { item with
      status := projection.status, blockedPhase := projection.blockedPhase,
      blockedReason := projection.blockedReason, landing := state.legacyLanding,
      replacement := if projection.status = .cancelled then .none else item.replacement }

/-- A projected item has its id. -/
theorem QueueItem.id_project (state : IntegrationEffortState) (item : QueueItem) :
    (item.project state).id = item.id := by
  cases state <;> rfl

/-- An effort with another state has its id. -/
theorem IntegrationEffort.id_withState (state : IntegrationEffortState) (failedCycles : Nat)
    (row : IntegrationEffort) : { row with state, failedCycles }.id = row.id :=
  rfl

/-- A database with a state written to an effort and projected onto its queue item. -/
def Database.withState (db : Database) (effort : IntegrationEffort)
    (state : IntegrationEffortState) (failedCycles : Nat) : Database :=
  { db with
    efforts := db.efforts.update (fun row => row.id == effort.id)
      (fun row => { row with state, failedCycles })
      (IntegrationEffort.id_withState state failedCycles)
    items := db.items.update (fun row => row.id == effort.itemId) (QueueItem.project state)
      (QueueItem.id_project state) }

/-- The projection of a state is one that the guard accepts, on an item that landed nothing. -/
theorem projectionMatches_project (same : row.state = state)
    (current : item.currentAttemptId = some row.attemptId) (unlanded : item.landedCommitSha = none) :
    projectionMatches row (item.project state) = true := by
  rw [projectionMatches_iff, same]
  cases state with
  | replacementPending => simp [QueueItem.project, IntegrationEffortState.projection, current,
      IntegrationEffortState.landedCommit, unlanded]
  | _ => simp [QueueItem.project, IntegrationEffortState.projection, IntegrationEffortState.name,
      IntegrationEffortState.landedCommit, unlanded]

/-- The queue item of an active effort has its attempt, landed nothing, and is admitted. -/
structure Database.Serves (db : Database) (row : IntegrationEffort) (item : QueueItem) : Prop where
  found : db.items.find? row.itemId = some item
  current : item.currentAttemptId = some row.attemptId
  unlanded : item.landedCommitSha = none
  admitted : ∃ policy, db.policyOf row.itemId = some policy ∧
    policy.operationState.requireObligation (.queueItem row.itemId) = .ok ()

/-- An effort that is neither finished nor waiting for a replacement. -/
def IntegrationEffortState.isActive (state : IntegrationEffortState) : Bool :=
  !state.projection.status.isTerminal && state.name != .replacementPending

/-- An active state has landed nothing. -/
theorem IntegrationEffortState.landedCommit_of_isActive (active : state.isActive = true) :
    state.landedCommit = none := by
  cases state <;> first | rfl | cases active

/-- An active effort serves its item. -/
theorem Database.Linked.serves (linked : db.Linked) (mem : row ∈ db.efforts)
    (active : row.state.isActive = true) : ∃ item, db.Serves row item := by
  rcases (linked.owned row mem).item with ⟨item, found, matching, current⟩
  rw [projectionMatches_iff] at matching
  rcases matching with ⟨status, -, -, landed, -⟩
  rw [IntegrationEffortState.landedCommit_of_isActive active] at landed
  have activity := active
  simp only [IntegrationEffortState.isActive, Bool.and_eq_true, Bool.not_eq_true', bne_iff_ne]
    at activity
  have present : row.state.name ≠ .replacementPending := activity.2
  rw [if_neg fun waits => present waits.1] at status
  have unfinished : item.status.isTerminal = false := by
    rw [status]
    exact activity.1
  rcases Table.find?_eq_some.mp found with ⟨stored, key⟩
  rcases linked.admitted item stored unfinished with ⟨policy, policyOf, passed⟩
  refine ⟨item, found, current present, landed, policy, ?_, ?_⟩
  · rw [Database.policyOf, found, Option.bind_some]
    exact policyOf
  · rw [← key]
    exact passed

/-! ## State updates -/

/-- What a state update asks of an effort that was read, of its stored row and of its related
rows. -/
structure Accepts (view : EffortView) (effort row : IntegrationEffort)
    (state : IntegrationEffortState) (failedCycles : Nat)
    (rejection : Option DefiniteLandingRejection) : Prop where
  authority : (if releasesLandingAuthority effort state then
      requireTargetMoveAuthority effort rejection
    else
      check rejection.isNone
        "definite landing rejection does not authorize this effort transition") = .ok ()
  valid : state.validateForCount failedCycles = .ok ()
  transition : transitionAllowed row.state.name state.name = true
  range : failedCycles ≤ 10
  blocker : blockerKindCheck state = true
  limit : cycleLimitCheck state.name failedCycles = true
  payload : payloadCheck { row with state, failedCycles } = true
  related : view.Related { row with state, failedCycles }

/-- The rows that the trigger asks for are not those of the efforts table. -/
theorem related_updateEffort {change : IntegrationEffort → IntegrationEffort}
    {kept : ∀ row, (change row).id = row.id} (owned : row.id = effortId) :
    ({ db with efforts := db.efforts.update (fun row => row.id == effortId) change kept } :
        Database).relatedState row = true ↔ (db.view effortId).Related row := by
  rw [relatedState_iff owned, view_updateEffort]
  exact Iff.rfl

/-- A state update commits when the effort accepts the state. -/
theorem Database.Linked.commits_updateState (linked : db.Linked)
    (stored : db.efforts.find? effort.id = some row) (sameState : row.state.name = effort.state.name)
    (sameItem : row.itemId = effort.itemId) (sameAttempt : row.attemptId = effort.attemptId)
    (active : row.state.isActive = true)
    (accepts : Accepts (db.view effort.id) effort row state failedCycles rejection) :
    (updateStateAndCountWithResolution effort state failedCycles rejection).Commits db ()
      (db.withState effort state failedCycles) := by
  rcases Table.find?_eq_some.mp stored with ⟨mem, named⟩
  rcases linked.serves mem active with ⟨item, serves⟩
  let middle : Database := { db with
    efforts := db.efforts.update (fun row => row.id == effort.id)
      (fun row => { row with state, failedCycles }) fun _ => rfl }
  have write : (writeEffortState effort state failedCycles).Commits db () middle := by
    simp only [writeEffortState, commits_lookup_bind, commits_require_bind, commits_write_bind,
      commits_query_bind, commits_require, Option.filter_eq_some_iff]
    refine ⟨row, ⟨stored, by rw [sameState, beq_self_eq_true]⟩, accepts.transition, accepts.range,
      accepts.blocker, accepts.limit, accepts.payload, ?_, rfl⟩
    exact (@related_updateEffort db { row with state, failedCycles } effort.id _ _ named).mpr
      accepts.related
  -- The row that was written is the only effort of its item.
  have owner : ∀ other, middle.effortOfItem effort.itemId = some other →
      projectionMatches other (item.project state) = true := by
    intro other owns
    have written : { row with state, failedCycles } ∈ middle.efforts := by
      have rewritten := Table.find?_update_key (fun row => { row with state, failedCycles })
        (fun _ => rfl) stored
      exact (Table.find?_eq_some.mp rewritten).1
    have distinct : OneEffortAnItem middle.efforts := by
      refine OneEffortAnItem.update ?_ linked.distinct fun _ => ?_ <;> intros <;> rfl
    have same := effortOfItem_eq_some distinct written
    rw [← sameItem] at owns
    obtain rfl := Option.some_inj.mp (same.symm.trans owns)
    exact projectionMatches_project rfl serves.current serves.unlanded
  have project : (projectQueueState effort state).Commits middle ()
      (db.withState effort state failedCycles) := by
    have found : middle.items.find? effort.itemId = some item := by
      rw [← sameItem]
      exact serves.found
    have current : item.currentAttemptId = some effort.attemptId := by
      rw [← sameAttempt]
      exact serves.current
    have matching : (middle.effortOfItem effort.itemId).all
        (fun other => projectionMatches other (item.project state)) = true := by
      cases owns : middle.effortOfItem effort.itemId with
      | none => rfl
      | some other => exact owner other owns
    unfold projectQueueState
    cases state with
    | integrated value =>
      simp only [updateQueueItem, commits_lookup_bind, commits_query_bind, commits_require_bind,
        commits_write]
      exact ⟨item, by rw [found]; rfl, matching, trivial, rfl⟩
    | _ =>
      simp only [updateQueueItem, commits_lookup_bind, commits_query_bind, commits_require_bind,
        commits_write]
      exact ⟨item, by rw [found, Option.filter_some, current, beq_self_eq_true, if_pos rfl],
        matching, trivial, rfl⟩
  have rest : (writeEffortState effort state failedCycles >>= fun _ =>
      projectQueueState effort state).Commits db () (db.withState effort state failedCycles) :=
    commits_bind.mpr ⟨(), middle, write, project⟩
  simp only [updateStateAndCountWithResolution, commits_ensure_bind, commits_ite]
  refine ⟨(), accepts.authority, (), accepts.valid, ?_⟩
  by_cases ended : state.name = .cancelled
  · exact .inr ⟨not_not.mpr ended, rest⟩
  · refine .inl ⟨ended, ?_⟩
    rw [commits_requireItemObligation_bind, ← sameItem]
    exact ⟨serves.admitted, rest⟩

/-! ## Stored efforts -/

/-- The checks on the columns of an effort row. -/
structure IntegrationEffort.Checked (effort : IntegrationEffort) : Prop where
  range : effort.failedCycles ≤ 10
  limit : cycleLimitCheck effort.state.name effort.failedCycles = true
  payload : payloadCheck effort = true

/-- A written effort passes its checks. -/
theorem Writes.checked {before after : EffortView}
    (writes : Writes rejection before row state failedCycles after)
    (stored : after.effort = some effort) : effort.Checked := by
  rw [writes.row_eq stored]
  exact ⟨writes.range, writes.limit, writes.payload⟩

/-- Every step leaves a row that passes its checks. -/
theorem EffortStep.checked {operation : Operation} {view after : EffortView}
    (step : EffortStep operation view after)
    (checked : ∀ effort, view.effort = some effort → effort.Checked) :
    ∀ effort, after.effort = some effort → effort.Checked := by
  intro effort stored
  cases step with
  | create =>
    cases stored
    exact ⟨Nat.zero_le 10, rfl, rfl⟩
  | replace =>
    cases stored
    exact ⟨Nat.zero_le 10, rfl, by simp [payloadCheck, NewEffort.replace]⟩
  | surrenderCancelled | acknowledgeCancelled | deleteDebt => exact checked effort stored
  | acknowledgeLaunching launching surrendered fails => exact fails.writes.checked stored
  | acknowledgeRunning started fails => exact fails.writes.checked stored
  | reset launching fails => exact fails.writes.checked stored
  | accept started same writes => exact writes.checked stored
  | prepare fresh ready within unused writes => exact writes.checked stored
  | _ => exact Writes.checked ‹_› stored

/-- Every stored effort passes its checks. -/
theorem checked_of_reachable (reachable : store.Reachable db)
    (stored : db.efforts.find? effortId = some effort) : effort.Checked := by
  have rule := @view_invariant db
    (fun view => ∀ effort, view.effort = some effort → effort.Checked)
    (fun _ missing => by cases missing)
  exact rule (fun step _ _ checked => step.checked checked) reachable effortId effort stored

/-- The candidate that an effort carries is the one of its evidence. -/
theorem evidence_of_reachable (reachable : store.Reachable db)
    (stored : db.efforts.find? effortId = some effort) (active : effort.state.name ≠ .cancelled)
    {candidateSha : String} (carried : effort.state.candidateSha = some candidateSha) :
    ∃ candidate, db.evidence.find? effortId = some candidate ∧
      candidate.candidateSha = candidateSha := by
  have ledger := (ledgered_of_reachable reachable effortId).stored effort stored
  have same := ledger.carried active
  rw [carried, eq_comm, Option.map_eq_some_iff] at same
  exact same

/-- The reads that every operation on an effort begins with. -/
theorem commits_requiredEffort_of_reachable (reachable : store.Reachable db)
    (stored : db.efforts.find? effortId = some effort) :
    (requiredEffort effortId).Commits db effort db := by
  have valid := ((linked_of_reachable reachable).owned effort
    (Table.find?_eq_some.mp stored).1).valid
  exact commits_requiredEffort.mpr ⟨stored, valid, rfl⟩

/-! ## Target movement -/

variable {targetSha : String} {stamp : Stamp} {format : GitObjectFormat}

/-- The attempt of an effort is there to be rewritten. -/
theorem Database.Linked.count_attempts (linked : db.Linked) (mem : effort ∈ db.efforts) :
    db.attempts.count (fun row => row.id == effort.attemptId && row.itemId == effort.itemId) =
      1 := by
  rcases (linked.owned effort mem).attempt with ⟨attempt, found, owner, -⟩
  rcases Table.find?_eq_some.mp found with ⟨there, key⟩
  refine (Table.count_eq_one effort.attemptId fun row hit => ?_).mpr ⟨attempt, there, ?_⟩
  · simp only [Bool.and_eq_true, beq_iff_eq] at hit
    exact hit.1
  · rw [key, owner]
    simp

/-- The queue item of an effort follows it to another target, and the move is reported. -/
theorem commits_moveQueueItem {eventId eventType lost : String} {payload : EventPayload}
    (found : db.items.find? effort.itemId = some item)
    (current : item.currentAttemptId = some effort.attemptId) :
    ∃ later, (do
      moveQueueItem effort targetSha lost
      appendEvent effort eventId eventType payload false).Commits db () later ∧
        later.efforts = db.efforts := by
  rcases Table.find?_eq_some.mp found with ⟨there, key⟩
  have one : db.items.count (fun row => row.id == effort.itemId &&
      row.currentAttemptId == some effort.attemptId) = 1 := by
    refine (Table.count_eq_one effort.itemId fun row hit => ?_).mpr ⟨item, there, ?_⟩
    · simp only [Bool.and_eq_true, beq_iff_eq] at hit
      exact hit.1
    · rw [key, current]
      simp
  have moved : (moveQueueItem effort targetSha lost).Commits db () { db with
      items := db.items.update (fun row => row.id == effort.itemId)
        (fun row => { row with targetSha := some targetSha, sourceSha := some effort.sourceSha })
        fun _ => rfl } := by
    simp only [moveQueueItem, commits_query_bind, commits_require_bind, commits_write]
    exact ⟨one, trivial, trivial⟩
  exact ⟨_, commits_bind.mpr ⟨(), _, moved, commits_write.mpr ⟨rfl, rfl⟩⟩, rfl⟩

/-- The queue item of an effort after a state of the effort was written. -/
theorem find?_withState (serves : db.Serves row item) (sameItem : row.itemId = effort.itemId) :
    (db.withState effort state failedCycles).items.find? effort.itemId =
      some (item.project state) := by
  have found := serves.found
  rw [sameItem] at found
  exact Table.find?_update_key (QueueItem.project state) (QueueItem.id_project state) found

/-- A projected item keeps its attempt. -/
theorem QueueItem.currentAttemptId_project (item : QueueItem) (state : IntegrationEffortState) :
    (item.project state).currentAttemptId = item.currentAttemptId := by
  cases state <;> rfl

/-- A pending target move is valid for an identified effort. -/
theorem validateForCount_targetMovePending {previous : ResumeState} {cause : TargetMoveCause}
    (range : failedCycles ≤ 10) (target : isExactText targetSha = true)
    (source : isExactText effort.sourceSha = true) (caused : cause.validate = .ok ()) :
    (IntegrationEffortState.targetMovePending
      ⟨targetSha, effort.sourceSha, previous, cause⟩).validateForCount failedCycles = .ok () := by
  have within : ¬failedCycles > automaticCycleLimit := by
    unfold automaticCycleLimit
    omega
  unfold IntegrationEffortState.validateForCount
  simp only [within, if_false, IntegrationEffortState.validatePayload, requireExactText, target,
    source, check, if_true, caused]
  rfl

/-- A movable state is active. -/
theorem isActive_of_isMovable (movable : isMovable state = true) : state.isActive = true := by
  cases state with
  | validating value =>
    rcases value with ⟨candidateSha, policyDigest, stage⟩
    cases stage <;> rfl
  | reviewRequired | candidateReady | landing | landingUncertain => rfl
  | _ => cases movable

/-- The authority of a target move is one that the state update accepts. -/
theorem authority_targetMove (authority : requireTargetMoveAuthority effort rejection = .ok ())
    (moved : state.containsExternalLandingAuthority = false) :
    (if releasesLandingAuthority effort state then
      requireTargetMoveAuthority effort rejection
    else
      check rejection.isNone
        "definite landing rejection does not authorize this effort transition") = .ok () := by
  unfold releasesLandingAuthority
  rw [moved, Bool.not_false, Bool.and_true]
  by_cases held : effort.state.containsExternalLandingAuthority = true
  · rw [if_pos held]
    exact authority
  · rw [if_neg held, check_eq_ok, Option.isNone_iff_eq_none]
    exact (requireTargetMoveAuthority_of_free (Bool.eq_false_iff.mpr held)).mp authority

/-- The cause of an authorised target move is exact text. -/
theorem validate_targetMoveCause (identified : effort.Identified format)
    (authority : requireTargetMoveAuthority effort rejection = .ok ()) :
    (targetMoveCause effort rejection).validate = .ok () := by
  cases rejection with
  | none =>
    show check _ _ = _
    rw [check_eq_ok]
    exact isExactText_of_isOid identified.target
  | some rejection =>
    have held : effort.state.containsExternalLandingAuthority = true := by
      by_contra free
      have none := (requireTargetMoveAuthority_of_free (Bool.eq_false_iff.mpr free)).mp authority
      cases none
    rcases (requireTargetMoveAuthority_eq_ok held).mp authority with ⟨_, landing, ⟨⟩, names⟩
    have command : isExactText rejection.commandId = true := by
      rw [names.commandId]
      exact identified.command _ (by rw [names.uncertain]; rfl)
    have expected : isExactText rejection.expectedTargetSha = true := by
      rw [names.expectedTargetSha]
      refine isExactText_of_isOid (identified.landing _ ?_)
      rw [names.uncertain]
      exact List.mem_cons_of_mem _ (List.mem_singleton_self _)
    unfold targetMoveCause TargetMoveCause.validate requireExactText
    simp only [command, expected, check, if_true]
    rfl

/-- A target move begins from every candidate or landing state without an open review, given its
authority. -/
theorem beginTargetMove_accepted (reachable : store.Reachable db)
    (stored : db.efforts.find? effortId = some effort) {previous : ResumeState}
    (captured : effort.state = previous.restore) (movable : isMovable effort.state = true)
    (unopened : effort.state.name ≠ .reviewRequired)
    (format_of : db.formatOf effort.itemId = some format) (observed : format.isOid targetSha = true)
    (authority : requireTargetMoveAuthority effort rejection = .ok ()) :
    ∃ later, (beginTargetMoveWithResolution effortId targetSha rejection stamp).Commits db () later ∧
      later.efforts.find? effortId = some { effort with
        state := .targetMovePending
          ⟨targetSha, effort.sourceSha, previous, targetMoveCause effort rejection⟩ } := by
  have linked := linked_of_reachable reachable
  rcases Table.find?_eq_some.mp stored with ⟨mem, rfl⟩
  rcases identified_of_reachable reachable effort mem with ⟨other, of_item, identified⟩
  obtain rfl := Option.some_inj.mp (of_item.symm.trans format_of)
  have checked := checked_of_reachable reachable stored
  have active := isActive_of_isMovable movable
  rcases linked.serves mem active with ⟨item, serves⟩
  let state : IntegrationEffortState := .targetMovePending
    ⟨targetSha, effort.sourceSha, previous, targetMoveCause effort rejection⟩
  -- The attempt is marked before the state is written; nothing that the state needs is touched.
  let marked : Database := { db with
    attempts := db.attempts.update
      (fun row => row.id == effort.attemptId && row.itemId == effort.itemId)
      (fun row => { row with movedBase := .pending targetSha effort.sourceSha }) fun _ => rfl }
  have marked_linked : marked.Linked :=
    Framed.attempts db _ _ _ (fun _ => ⟨rfl, id⟩) linked
  have accepts : Accepts (marked.view effort.id) effort effort state effort.failedCycles
      rejection := by
    have exact := isExactText_of_isOid identified.source
    refine ⟨authority_targetMove authority rfl, ?_, ?_, checked.range, rfl, ?_, rfl, ?_⟩
    · exact validateForCount_targetMovePending checked.range (isExactText_of_isOid observed) exact
        (validate_targetMoveCause identified authority)
    · revert movable
      cases effort.state <;> first | exact fun _ => rfl | exact fun stuck => nomatch stuck
    · refine within_of_open checked.limit ?_ nofun
      intro limited
      revert movable
      cases same : effort.state <;> rw [same] at limited <;> cases limited
      exact fun stuck => nomatch stuck
    · have carried : ∃ candidateSha, previous.candidateSha = some candidateSha ∧
          effort.state.candidateSha = some candidateSha := by
        rw [captured] at movable ⊢
        cases previous <;> first | exact ⟨_, rfl, rfl⟩ | cases movable
      rcases carried with ⟨candidateSha, suspended, carried⟩
      have uncancelled : effort.state.name ≠ .cancelled := by
        intro ended
        rw [captured] at ended
        cases previous <;> cases ended
      rcases evidence_of_reachable reachable stored uncancelled carried with ⟨candidate, found, same⟩
      exact ⟨candidate, found, by rw [suspended, same]⟩
  have update := marked_linked.commits_updateState stored rfl rfl rfl active accepts
  have serves_marked : marked.Serves effort item :=
    ⟨serves.found, serves.current, serves.unlanded, serves.admitted⟩
  rcases @commits_moveQueueItem _ effort _ targetSha stamp.eventId "target_move_pending"
    "pending target movement lost queue projection authority"
    (.fields [("old_target_sha", .text effort.targetSha), ("target_sha", .text targetSha)])
    (@find?_withState _ _ _ _ state effort.failedCycles serves_marked rfl)
    (by rw [QueueItem.currentAttemptId_project]; exact serves.current) with ⟨later, moved, same⟩
  rcases serves.admitted with ⟨policy, policyOf, -⟩
  have same_format := Option.some_inj.mp ((formatOf_eq_some policyOf).symm.trans format_of)
  have valid := (linked.owned effort mem).valid
  have quiet : (supersedeOpenReview effort targetSha stamp.now).Commits db () db := by
    unfold supersedeOpenReview
    split
    · rename_i opened
      exact absurd (congrArg IntegrationEffortState.name opened) unopened
    · exact commits_pure.mpr ⟨rfl, rfl⟩
  simp only [beginTargetMoveWithResolution, effortObjectFormat, commits_requiredEffort_bind,
    commits_itemObjectFormat_bind, commits_ensure_bind]
  refine ⟨later, ⟨effort, stored, valid, policy, policyOf, (), ?_, ?_⟩, ?_⟩
  · rw [same_format]
    exact check_eq_ok.mpr observed
  · split
    · rename_i pending
      rw [pending] at movable
      cases movable
    · simp only [commits_ensure_bind, commits_require_bind, commits_expect_bind]
      refine ⟨(), authority, movable, previous, ResumeState.capture?_eq_some.mpr captured.symm, ?_⟩
      refine commits_bind.mpr ⟨(), db, quiet, ?_⟩
      refine commits_bind.mpr ⟨1, marked, commits_write.mpr ⟨linked.count_attempts mem, rfl⟩, ?_⟩
      refine commits_require_bind.mpr ⟨rfl, ?_⟩
      exact commits_bind.mpr ⟨(), _, update, moved⟩
  · rw [same]
    exact Table.find?_update_key (fun row => { row with state, failedCycles := effort.failedCycles })
      (fun _ => rfl) stored

/-! ## A sample submission -/

namespace Sample

/-- The sample installation with its item admitted by a local submission. -/
def submitted : Database where
  items := ⟨[⟨"item", "repo", targetRef, .ready, none, none, none, none, none, none, .ready, .none,
    some "submission"⟩], List.nodup_singleton _⟩
  attempts := .empty
  invocations := .empty
  policies := database.policies
  repositories := database.repositories
  submissions := ⟨[⟨"submission", "item", "repo", "workspace", Sample.targetSha, sourceSha, none,
    .queued⟩], List.nodup_singleton _⟩
  workspaces := ⟨[⟨"workspace", "repo", targetRef, Sample.targetSha, .submitted⟩],
    List.nodup_singleton _⟩
  privateRefDebts := .empty
  efforts := .empty
  cycles := .empty
  guidance := .empty
  evidence := .empty
  reviews := .empty
  reviewReceipts := .empty
  answers := .empty
  terminationDebts := .empty
  events := []

/-- The sample's first database is one. -/
theorem submitted_initial : submitted.Initial where
  efforts := rfl
  cycles := rfl
  guidance := rfl
  evidence := rfl
  reviews := rfl
  reviewReceipts := rfl
  answers := rfl
  terminationDebts := rfl
  events := rfl
  unlanded item mem := by
    obtain rfl := List.mem_singleton.mp mem
    exact ⟨rfl, rfl, fun _ _ => ⟨rfl, rfl⟩⟩
  admitted item mem _ := by
    obtain rfl := List.mem_singleton.mp mem
    exact ⟨_, rfl, rfl⟩
  registered item mem := by
    obtain rfl := List.mem_singleton.mp mem
    exact ⟨_, rfl⟩

/-- Land the item of the submission as a squash, up to the release of its push. -/
def squashed : List Operation :=
  [.claimNextReady "repo" targetRef true (stampOf "attempt"),
    .beginInitialTargetFetch "item" "attempt" Sample.targetSha,
    .createEffort
      { newEffort "attempt" (.clean treeSha) .squash with sourceVariant := .localSubmission }
      (stampOf "effort")] ++ built 1 ++ released

/-- The database after operations on the submission. -/
def afterSubmission (operations : List Operation) : Database := store.run submitted operations

/-- The sample's databases are reachable. -/
theorem reachable_submission (operations : List Operation) :
    store.Reachable (afterSubmission operations) :=
  ⟨submitted, operations, submitted_initial, rfl⟩

/-- The effort of a database that is known to hold one. -/
def effortOf (db : Database) : Option IntegrationEffort := db.efforts.find? "effort"

end Sample

end Iq
