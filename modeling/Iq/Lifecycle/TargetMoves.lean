import Iq.Lifecycle.Acceptance
import Iq.Lifecycle.CandidateBinding

/-!
# Movements of a target

When the target of a candidate moves, the store remembers the new target before anything else is
done about it, and the integrator may die and resume at every point from there to the
recomposition. What it finds then is exactly the movement that began: only its completion to that
target or a cancellation of the effort ends it, the calls that led to it can be repeated, and its
completion is refused only for what the integrator can still supply.
-/

namespace Iq

open Library Library.Transaction Database

variable {db later : Database} {effort row : IntegrationEffort} {view after : EffortView}
  {effortId targetSha : String} {operation : Operation} {stamp : Stamp}
  {pending : TargetMovePending} {rejection : Option DefiniteLandingRejection}
  {composition : CompositionEvidence}

/-! ## What a pending movement promises -/

/-- What was checked when a movement began: the source of its effort, a candidate to clean up, and
a target in the object format of the item. -/
structure Database.MoveFits (db : Database) (effort : IntegrationEffort)
    (pending : TargetMovePending) : Prop where
  source : pending.sourceSha = effort.sourceSha
  candidate : ∃ candidateSha, pending.previous.candidateSha = some candidateSha
  target : ∃ format, db.formatOf effort.itemId = some format ∧
    format.isOid pending.targetSha = true

/-- The pending movements of a database fit their efforts. -/
def Database.MovesFit (db : Database) : Prop :=
  ∀ effort ∈ db.efforts, ∀ pending, effort.state = .targetMovePending pending →
    db.MoveFits effort pending

/-- A movement is pending after a step because it was before, or because it began. -/
theorem EffortStep.pending_of (step : EffortStep operation view after)
    (found : after.effort = some row) (moving : row.state = .targetMovePending pending) :
    view.effort = some row ∨ ∃ effort rejection stamp, view.effort = some effort ∧
      operation = .beginTargetMove effort.id pending.targetSha rejection stamp ∧
      row = { effort with state := .targetMovePending pending } ∧
      isMovable effort.state = true ∧ effort.state = pending.previous.restore ∧
      pending.sourceSha = effort.sourceSha := by
  have apart : ∀ resume : ResumeState, resume.restore ≠ .targetMovePending pending := by
    intro resume same
    cases resume <;> cases same
  cases step with
  | create | replace =>
    cases found
    cases moving
  | surrenderCancelled stored | acknowledgeCancelled stored =>
    exact .inl (stored.trans (stored.symm.trans found))
  | deleteDebt => exact .inl found
  | acknowledgeLaunching _ _ fails | acknowledgeRunning _ fails | reset _ fails =>
    rw [fails.writes.row_eq found] at moving
    cases moving
  | consume _ writes | reject _ _ _ writes =>
    rw [writes.row_eq found] at moving
    unfold EffortView.failedState at moving
    split at moving <;> cases moving
  | record _ _ _ _ writes =>
    rw [writes.row_eq found] at moving
    unfold CandidateBuilding.candidateState at moving
    split at moving <;> cases moving
  | retry _ writes | resumeProvider _ writes =>
    rw [writes.row_eq found] at moving
    exact absurd moving (apart _)
  | @moveTarget view _ effort targetSha previous rejection stamp movable captured writes =>
    have stored : view.effort = some effort :=
      EffortView.supersedeReview_effort.symm.trans writes.stored
    rw [writes.row_eq found] at moving ⊢
    cases moving
    exact .inr ⟨effort, rejection, stamp, stored, rfl, rfl, movable, captured, rfl⟩
  | accept _ _ writes =>
    rw [writes.row_eq found] at moving
    cases moving
  | _ =>
    rw [Writes.row_eq ‹_› found] at moving
    cases moving

/-- The target of a movement that begins is in the object format of the item. -/
theorem isOid_of_beginTargetMove {done : Unit}
    (commits : (beginTargetMoveWithResolution effortId targetSha rejection stamp).Commits db done
      later) (stored : (db.view effortId).effort = some effort) :
    ∃ format, db.formatOf effort.itemId = some format ∧ format.isOid targetSha = true := by
  simp only [beginTargetMoveWithResolution, effortObjectFormat, commits_requiredEffort_bind,
    commits_itemObjectFormat_bind, commits_ensure_bind] at commits
  obtain ⟨other, found, -, policy, of_item, _, checked, -⟩ := commits
  obtain rfl : other = effort := Option.some_inj.mp (found.symm.trans stored)
  exact ⟨_, formatOf_eq_some of_item, check_eq_ok.mp checked⟩

/-- Every committed operation keeps the pending movements fitting. -/
theorem Operation.movesFit {outcome : Outcome} (sound : db.Sound) (fit : db.MovesFit)
    (commits : operation.transaction.Commits db outcome later) : later.MovesFit := by
  intro row mem pending moving
  have found : (later.view row.id).effort = some row := view_effort_eq_some.mpr ⟨mem, rfl⟩
  have origin : (db.view row.id).effort = some row ∨ ∃ effort rejection stamp,
      (db.view row.id).effort = some effort ∧
      operation = .beginTargetMove effort.id pending.targetSha rejection stamp ∧
      row = { effort with state := .targetMovePending pending } ∧
      isMovable effort.state = true ∧ effort.state = pending.previous.restore ∧
      pending.sourceSha = effort.sourceSha := by
    obtain same | step := operation.stepped sound commits row.id
    · exact .inl (by rw [← same]; exact found)
    · exact step.pending_of found moving
  obtain stored | ⟨effort, rejection, stamp, stored, rfl, same, movable, captured, source⟩ := origin
  · have before := fit row (view_effort_eq_some.mp stored).1 pending moving
    obtain ⟨format, of_item, target⟩ := before.target
    exact ⟨before.source, before.candidate, format, operation.keepsFormat commits of_item, target⟩
  · obtain ⟨_, begun, -⟩ := commits_map.mp commits
    have named : effort.id = row.id := by rw [same]
    obtain ⟨format, of_item, target⟩ := isOid_of_beginTargetMove begun (named ▸ stored)
    refine ⟨by rw [same]; exact source, ?_, format, ?_, target⟩
    · rw [captured] at movable
      cases resume : pending.previous <;> rw [resume] at movable <;>
        first | exact ⟨_, rfl⟩ | cases movable
    · rw [same]
      exact Operation.keepsFormat commits of_item

/-- In every reachable database the pending moves fit. -/
theorem movesFit_of_reachable (reachable : store.Reachable db) : db.MovesFit := by
  have rule := @Machine.Reachable.invariant_of_reachable _ _ store Database.MovesFit
  refine rule ?_ ?_ reachable
  · intro start initial effort mem
    rw [initial.efforts] at mem
    exact absurd mem (Table.not_mem_empty effort)
  · intro now operation reached fit
    obtain same | ⟨outcome, commits⟩ := settle_cases operation.transaction now
    · rw [store_step, same]
      exact fit
    · exact operation.movesFit (sound_of_reachable reached) fit commits

/-! ## How a movement ends -/

/-- The operation that completes the movement of an effort. -/
def Operation.Completes (effortId targetSha : String) (composition : CompositionEvidence)
    (operation : Operation) : Prop :=
  ∃ stamp, operation = .completeTargetRecomposition effortId targetSha composition stamp

/-- The operation that cancels an effort. -/
def Operation.Cancels (effortId : String) (operation : Operation) : Prop :=
  ∃ actor reason stamp, operation = .cancel effortId actor reason stamp

/-- A step leaves a pending movement as it is, completes it, or cancels the effort. -/
theorem EffortStep.keeps_pending (step : EffortStep operation view after) (sound : view.Sound)
    (stored : view.effort = some effort) (moving : effort.state = .targetMovePending pending) :
    after.effort = some effort ∨
      (∃ targetSha composition, operation.Completes effort.id targetSha composition) ∨
      operation.Cancels effort.id ∧
        ∃ row, after.effort = some row ∧ row.state.name = .cancelled := by
  have same : ∀ {other}, view.effort = some other → other = effort := fun found =>
    Option.some_inj.mp (found.symm.trans stored)
  have apart : ∀ resume : ResumeState, effort.state ≠ resume.restore := by
    intro resume captured
    rw [moving] at captured
    cases resume <;> cases captured
  cases step with
  | create absent =>
    rw [absent] at stored
    cases stored
  | replace found waiting =>
    obtain rfl := same found
    cases moving.symm.trans waiting
  | surrenderCancelled | acknowledgeCancelled | deleteDebt => exact .inl stored
  | moveTarget movable captured writes =>
    obtain rfl := same (EffortView.supersedeReview_effort.symm.trans writes.stored)
    exact absurd captured (apart _)
  | recompose found =>
    obtain rfl := same found
    exact .inr (.inl ⟨_, _, _, rfl⟩)
  | cancel free active owed writes =>
    obtain rfl := same writes.stored
    exact .inr (.inr ⟨⟨_, _, _, rfl⟩, _, writes.effort, rfl⟩)
  | acknowledgeLaunching waits _ fails | acknowledgeRunning waits fails | reset waits fails =>
    obtain rfl := same fails.stored
    cases moving.symm.trans waits
  | consume active writes =>
    obtain rfl := same writes.stored
    obtain ⟨cycle, mem, running⟩ := active
    have idle := sound.idle_of_state stored (by rw [moving]; rfl) cycle mem
    simp only [isCycleOf, Bool.and_eq_true, beq_iff_eq] at running
    rw [running.2] at idle
    cases idle
  | reject candidate _ _ writes =>
    obtain rfl := same writes.stored
    rw [moving] at candidate
    cases candidate
  | blockInfrastructure captured writes | blockProvider captured writes =>
    obtain rfl := same writes.stored
    exact absurd captured (apart _)
  | retry suspended writes =>
    obtain rfl := same writes.stored
    obtain suspended | suspended := suspended <;> cases moving.symm.trans suspended
  | integrate landed writes =>
    obtain rfl := same writes.stored
    rw [moving] at landed
    cases landed
  | answer waits _ writes =>
    obtain rfl := same writes.stored
    rw [moving] at waits
    cases waits
  | approve decides _ writes | requestChanges decides _ writes =>
    obtain rfl := same writes.stored
    cases moving.symm.trans decides.waiting
  | prepare _ waits _ _ writes | surrender waits _ writes | started waits _ _ _ _ _ _ writes
  | result waits writes | accept waits _ writes | record waits _ _ _ writes
  | resetBuild waits writes | startValidation waits writes | completeValidation waits writes
  | requireGuidance waits _ _ writes | retryLimit waits writes | resumeProvider waits writes
  | beginLanding waits writes | release waits writes | markReplacement waits writes =>
    obtain rfl := same writes.stored
    cases moving.symm.trans waits

/-! ## What a completion leaves -/

/-- The attempt of an effort, on a target and without a candidate. -/
def Database.StartsOver (effort : IntegrationEffort) (targetSha : String) (db : Database) : Prop :=
  ∃ attempt, db.attempts.find? effort.attemptId = some attempt ∧ attempt.itemId = effort.itemId ∧
    attempt.targetBaseSha = some targetSha ∧
    attempt.movedBase = .pending targetSha effort.sourceSha ∧ attempt.mergeCommitSha = none ∧
    attempt.validatedCommitSha = none

instance : OfAttempts (StartsOver effort targetSha) where
  same db later same starts := by
    unfold StartsOver
    rw [same]
    exact starts

instance {attempt : Attempt} {attemptId : String} :
    OfAttempts fun db => db.attempts.find? attemptId = some attempt where
  same db later same found := by
    rw [same]
    exact found

/-- The debt for the landing reference of an old candidate of an effort. -/
def IntegrationEffort.cleanupDebt (effort : IntegrationEffort) (item : QueueItem)
    (candidateSha : String) : PrivateRefCleanupDebt :=
  ⟨item.repoKey, .landing, effort.attemptId, landingRef effort.attemptId, candidateSha⟩

/-- No debt is left for the landing reference of an old candidate. -/
def Database.Cleaned (db : Database) (effort : IntegrationEffort) (candidateSha : String) : Prop :=
  ∀ item, db.items.find? effort.itemId = some item →
    effort.cleanupDebt item candidateSha ∉ db.privateRefDebts

/-- The check of the completion on the debts. -/
theorem cleaned_iff {candidateSha : String} :
    (db.privateRefDebts.any fun row => row.kind == .landing && row.ownerId == effort.attemptId &&
        row.refName == landingRef effort.attemptId && row.expectedSha == candidateSha &&
        (db.items.find? effort.itemId).any fun item => item.repoKey == row.repoKey) = false ↔
      db.Cleaned effort candidateSha := by
  unfold Database.Cleaned
  rw [Table.any_eq_false]
  constructor
  · intro clean item found mem
    have missed := clean _ mem
    simp [found, IntegrationEffort.cleanupDebt] at missed
  · rintro clean ⟨repoKey, kind, ownerId, refName, expectedSha⟩ mem
    rw [Bool.eq_false_iff]
    intro hit
    simp only [Bool.and_eq_true, beq_iff_eq, Option.any_eq_true] at hit
    obtain ⟨⟨⟨⟨rfl, rfl⟩, rfl⟩, rfl⟩, item, found, rfl⟩ := hit
    exact clean item found mem

/-- What the completion of a pending movement leaves: the effort, its attempt and its queue item
on the target, the effort ready for an agent, and nothing of the old candidate. -/
structure Database.Recomposed (effort : IntegrationEffort) (targetSha : String)
    (composition : CompositionEvidence) (later : Database) : Prop where
  row : ∃ next, later.efforts.find? effort.id =
    some { effort with targetSha, composition, state := .agentReady ⟨next⟩ }
  attempt : later.StartsOver effort targetSha
  evidence : later.evidence.find? effort.id = none
  reviews : ∀ row ∈ later.reviews, row.effortId = effort.id → row.status ≠ .required
  cycles : ∀ row ∈ later.cycles, row.effortId = effort.id → row.status ≠ .resolved
  item : ∃ item, later.items.find? effort.itemId = some item ∧ item.targetSha = some targetSha ∧
    item.sourceSha = some effort.sourceSha

/-- The queue item of an effort after it followed a target. -/
theorem item_of_moveQueueItem {lost : String} {done : Unit}
    (commits : (moveQueueItem effort targetSha lost).Commits db done later) :
    ∃ item, later.items.find? effort.itemId = some item ∧ item.targetSha = some targetSha ∧
      item.sourceSha = some effort.sourceSha := by
  simp only [moveQueueItem, commits_query_bind, commits_require_bind, commits_write] at commits
  obtain ⟨one, -, rfl⟩ := commits
  have there : 0 < db.items.count fun row => row.id == effort.itemId &&
      row.currentAttemptId == some effort.attemptId := by omega
  obtain ⟨item, mem, hit⟩ := Table.count_pos.mp there
  simp only [Bool.and_eq_true, beq_iff_eq] at hit
  have found : db.items.find? effort.itemId = some item := Table.find?_eq_some.mpr ⟨mem, hit.1⟩
  exact ⟨_, Table.find?_update_key (fun row => { row with
    targetSha := some targetSha, sourceSha := some effort.sourceSha }) (fun _ => rfl) found,
    rfl, rfl⟩

/-- The attempt of a completed movement starts over, and its queue item follows. -/
theorem completeTargetRecomposition_rows {done : Unit}
    (commits : (completeTargetRecomposition effortId targetSha composition stamp).Commits db done
      later) (stored : (db.view effortId).effort = some effort) :
    later.StartsOver effort targetSha ∧ ∃ item, later.items.find? effort.itemId = some item ∧
      item.targetSha = some targetSha ∧ item.sourceSha = some effort.sourceSha := by
  simp only [completeTargetRecomposition, effortObjectFormat, commits_requiredEffort_bind,
    commits_itemObjectFormat_bind, commits_ensure_bind, commits_expect_bind, commits_require_bind,
    commits_lookup_bind, commits_query_bind] at commits
  obtain ⟨other, found, -, policy, -, _, -, _, -, _, -, -, _, -, attempt, of_effort, -, -, rest⟩ :=
    commits
  obtain rfl : other = effort := Option.some_inj.mp (found.symm.trans stored)
  obtain ⟨_, first, cycles, rest⟩ := commits_bind.mp rest
  obtain ⟨⟨⟩, second, delete, rest⟩ := commits_bind.mp rest
  obtain ⟨_, third, reviews, rest⟩ := commits_bind.mp rest
  obtain ⟨⟨⟩, fourth, invalidate, rest⟩ := commits_bind.mp rest
  obtain ⟨_, fifth, attempts, rest⟩ := commits_bind.mp rest
  obtain ⟨kept, owned⟩ := Option.filter_eq_some_iff.mp of_effort
  -- The attempt stands as it was read until it is rewritten, and nothing rewrites it afterwards.
  let Reads (db : Database) : Prop := db.attempts.find? other.attemptId = some attempt
  have reads : Reads fourth := by
    have cycled : Reads first := preserves_updateCycles.of_commits kept cycles
    have deleted : Reads second := preserves_deleteEvidence.of_commits cycled delete
    have reviewed : Reads third := preserves_updateReviews.of_commits deleted reviews
    exact preserves_invalidateValidationInvocations.of_commits reviewed invalidate
  have restarted : fifth.StartsOver other targetSha := by
    rw [← (commits_write.mp attempts).2]
    refine ⟨_, Table.find?_update_key (fun row => { row.withoutCandidate with
      targetBaseSha := some targetSha, movedBase := .pending targetSha other.sourceSha })
      (fun _ => rfl) reads, ?_, rfl, rfl, rfl, rfl⟩
    exact beq_iff_eq.mp owned
  constructor
  · refine Preserves.of_commits ?_ restarted rest
    refine preserves_bind (preserves_table .efforts fun _ => rfl) fun _ => ?_
    iterate 3 refine preserves_bind (by simp) fun _ => ?_
    exact preserves_appendEvent
  · obtain ⟨⟨⟩, sixth, -, rest⟩ := commits_bind.mp rest
    rw [commits_nextCycleNumber_bind] at rest
    obtain ⟨⟨⟩, seventh, -, rest⟩ := commits_bind.mp rest.2
    obtain ⟨⟨⟩, eighth, move, event⟩ := commits_bind.mp rest
    have same : later.items = eighth.items := by rw [← (commits_write.mp event).2]
    rw [same]
    exact item_of_moveQueueItem move

/-- The view that a completion leaves. -/
theorem EffortStep.recomposed (step : EffortStep operation view after)
    (completes : operation.Completes effort.id targetSha composition)
    (stored : view.effort = some effort) :
    after = (view.recompose effort.id targetSha composition).setState
      (.agentReady ⟨view.maxCycle + 1⟩) effort.failedCycles := by
  obtain ⟨stamp, named⟩ := completes
  cases step with
  | @recompose view after other pending target _ _ _ found waits composed writes =>
    obtain rfl : other = effort := Option.some_inj.mp (found.symm.trans stored)
    cases named
    exact writes.written
  | _ => cases named

/-- What a completion requires of the pending movement: its target, and no debt for the reference
of the old candidate. -/
theorem required_of_complete {done : Unit}
    (commits : (completeTargetRecomposition effortId targetSha composition stamp).Commits db done
      later) (stored : (db.view effortId).effort = some effort) :
    ∃ pending candidateSha, effort.state = .targetMovePending pending ∧
      pending.targetSha = targetSha ∧ pending.previous.candidateSha = some candidateSha ∧
      db.Cleaned effort candidateSha := by
  simp only [completeTargetRecomposition, effortObjectFormat, commits_requiredEffort_bind,
    commits_itemObjectFormat_bind, commits_ensure_bind, commits_expect_bind, commits_require_bind,
    commits_lookup_bind, commits_query_bind, IntegrationEffortState.targetMovePending?_eq_some]
    at commits
  obtain ⟨other, found, -, policy, -, _, -, _, -, pending, moving, same, candidateSha, old, attempt,
    -, -, clean, -⟩ := commits
  obtain rfl : other = effort := Option.some_inj.mp (found.symm.trans stored)
  exact ⟨pending, candidateSha, moving, same.1, old, cleaned_iff.mp clean⟩

/-- A completed movement is recomposed on the target that was pending, after the reference of the
old candidate was cleaned up. -/
theorem recomposed_of_complete {outcome : Outcome}
    (stored : (db.view effort.id).effort = some effort)
    (moving : effort.state = .targetMovePending pending)
    (commits : (Operation.completeTargetRecomposition effort.id targetSha composition
      stamp).transaction.Commits db outcome later) :
    targetSha = pending.targetSha ∧ later.Recomposed effort targetSha composition ∧
      ∀ candidateSha, pending.previous.candidateSha = some candidateSha →
        db.Cleaned effort candidateSha := by
  obtain ⟨_, completes, -⟩ := commits_map.mp commits
  obtain ⟨attempt, item⟩ := completeTargetRecomposition_rows completes stored
  obtain ⟨other, candidateSha, waits, same, old, clean⟩ := required_of_complete completes stored
  obtain rfl : other = pending := by
    rw [moving] at waits
    cases waits
    rfl
  have shape := (completeTargetRecomposition_steps completes).2.2.recomposed ⟨stamp, rfl⟩ stored
  have reviewed : ∀ row ∈ (later.view effort.id).reviews, row.status ≠ .required := by
    rw [shape]
    intro row mem
    obtain ⟨before, held, rfl⟩ := List.mem_map.mp mem
    have owned := (Database.mem_view_reviews.mp held).2
    unfold Table.rewrite
    split
    · rintro ⟨⟩
    · rename_i miss
      simpa [owned] using miss
  have cycled : ∀ row ∈ (later.view effort.id).cycles, row.status ≠ .resolved := by
    rw [shape]
    intro row mem
    obtain ⟨before, held, rfl⟩ := List.mem_map.mp mem
    have owned := (Database.mem_view_cycles.mp held).2
    unfold Table.rewrite
    split
    · rintro ⟨⟩
    · rename_i miss
      simpa [owned] using miss
  refine ⟨same.symm, ⟨⟨(db.view effort.id).maxCycle + 1, ?_⟩, attempt, ?_, ?_, ?_, item⟩, ?_⟩
  · show (later.view effort.id).effort = _
    rw [shape, EffortView.setState, EffortView.recompose, stored]
    rfl
  · show (later.view effort.id).evidence = none
    rw [shape]
    rfl
  · exact fun row mem owned => reviewed row (Database.mem_view_reviews.mpr ⟨mem, owned⟩)
  · exact fun row mem owned => cycled row (Database.mem_view_cycles.mpr ⟨mem, owned⟩)
  · intro found recorded
    obtain rfl := Option.some_inj.mp (old.symm.trans recorded)
    exact clean

/-! ## When a completion is accepted -/

/-- A row that is moving or has its cycle failed or its changes requested gives up its evidence. -/
theorem commits_deleteEvidence_of_moving (stored : db.efforts.find? effort.id = some effort)
    (moving : effort.state = .targetMovePending pending) :
    ∃ later, (deleteEvidence effort.id).Commits db () later := by
  simp only [deleteEvidence, commits_query_bind, commits_require_bind, commits_write]
  refine ⟨_, ?_, trivial, rfl⟩
  rw [stored]
  cases db.evidence.find? effort.id with
  | none => rfl
  | some candidate => simp [moving, IntegrationEffortState.name]

/-- An effort that waits for its next cycle is valid. -/
theorem validateForCount_agentReady {ready : AgentReady} {failedCycles : Nat}
    (range : failedCycles ≤ 10) :
    (IntegrationEffortState.agentReady ready).validateForCount failedCycles = .ok () := by
  have within : ¬failedCycles > automaticCycleLimit := by
    unfold automaticCycleLimit
    omega
  unfold IntegrationEffortState.validateForCount
  simp only [within, if_false, IntegrationEffortState.validatePayload]

/-- A movement can be completed to its target with a composition in the object format of the item,
once the reference of the old candidate was cleaned up, while cycle numbers are left. -/
theorem completeTargetRecomposition_accepted (reachable : store.Reachable db)
    (stored : db.efforts.find? effort.id = some effort)
    (moving : effort.state = .targetMovePending pending) {format : GitObjectFormat}
    (of_item : db.formatOf effort.itemId = some format)
    (composed : composition.validate format false = .ok ())
    (clean : ∀ candidateSha, pending.previous.candidateSha = some candidateSha →
      db.Cleaned effort candidateSha)
    (room : (db.view effort.id).maxCycle + 1 ≤ 255) :
    ∃ later, (completeTargetRecomposition effort.id pending.targetSha composition stamp).Commits db
      () later := by
  have linked := linked_of_reachable reachable
  have mem := (Table.find?_eq_some.mp stored).1
  have fits := movesFit_of_reachable reachable effort mem pending moving
  obtain ⟨candidateSha, old⟩ := fits.candidate
  obtain ⟨other, of_item', observed⟩ := fits.target
  obtain rfl := Option.some_inj.mp (of_item'.symm.trans of_item)
  have carried : effort.state.candidateSha = some candidateSha := by
    rw [moving]
    exact old
  obtain ⟨attempt, found, recorded⟩ := Option.bind_eq_some_iff.mp
    (bound_of_reachable reachable effort mem candidateSha carried)
  have owns := linked.owned effort mem
  have owned : attempt.itemId = effort.itemId := by
    obtain ⟨own, there, item, -⟩ := owns.attempt
    obtain rfl := Option.some_inj.mp (there.symm.trans found)
    exact item
  have active : effort.state.isActive = true := by
    rw [moving]
    rfl
  obtain ⟨item, serves⟩ := linked.serves mem active
  obtain ⟨policy, policyOf, -⟩ := serves.admitted
  have same_format := Option.some_inj.mp ((formatOf_eq_some policyOf).symm.trans of_item)
  -- The writes before the state update clear the candidate and move the row to its target.
  obtain ⟨_, first, cycles⟩ : ∃ changed later, (updateCycles
      (fun row => row.effortId == effort.id && row.status == .resolved) .superseded
      none).Commits db changed later := ⟨_, _, rfl⟩
  have kept : first.efforts = db.efforts := by rw [← (commits_write.mp cycles).2]
  obtain ⟨second, delete⟩ :=
    @commits_deleteEvidence_of_moving first effort pending (by rw [kept]; exact stored) moving
  obtain ⟨_, third, reviews⟩ : ∃ changed later, (updateReviews
      (fun row => row.effortId == effort.id && row.status == .required) .superseded none
      none).Commits second changed later := ⟨_, _, rfl⟩
  obtain ⟨fourth, invalidate⟩ : ∃ later, (invalidateValidationInvocations effort.attemptId
      stamp.now).Commits third () later := ⟨_, rfl⟩
  obtain ⟨_, fifth, attempts⟩ : ∃ changed later, (updateAttempts
      (fun row => row.id == effort.attemptId) (fun row => { row.withoutCandidate with
        targetBaseSha := some pending.targetSha
        movedBase := .pending pending.targetSha effort.sourceSha }) fun _ => rfl).Commits fourth
        changed later := ⟨_, _, rfl⟩
  let target : Database → Database := fun now => { now with
    efforts := now.efforts.update (fun row => row.id == effort.id)
      (fun row => { row with targetSha := pending.targetSha, composition }) fun _ => rfl }
  have linked' : (target fifth).Linked := by
    have cycled := preserves_updateCycles.of_commits linked cycles
    have deleted := preserves_deleteEvidence.of_commits cycled delete
    have reviewed := preserves_updateReviews.of_commits deleted reviews
    have invalidated := preserves_invalidateValidationInvocations.of_commits reviewed invalidate
    have restarted : fifth.Linked := by
      rw [← (commits_write.mp attempts).2]
      exact Framed.attempts fourth _ _ _ (fun _ => ⟨rfl, id⟩) invalidated
    exact restarted.updateEfforts fun _ => ⟨rfl, rfl, rfl, rfl⟩
  have cleared : fifth.view = third.view :=
    (view_updateAttempts attempts).trans (view_invalidateValidationInvocations invalidate)
  have recomposed : (target fifth).view effort.id =
      (db.view effort.id).recompose effort.id pending.targetSha composition := by
    rw [view_updateEffort, cleared, view_updateReviews reviews, (spec_deleteEvidence delete).2,
      view_updateCycles cycles]
    rfl
  have current : (target fifth).efforts.find? effort.id =
      some { effort with targetSha := pending.targetSha, composition } := by
    show ((target fifth).view effort.id).effort = _
    rw [recomposed, EffortView.recompose, show (db.view effort.id).effort = some effort from stored]
    rfl
  have number : ((target fifth).view effort.id).maxCycle = (db.view effort.id).maxCycle := by
    rw [recomposed]
    exact EffortView.maxCycle_setCycles
  have checked := checked_of_reachable reachable stored
  have accepts : Accepts ((target fifth).view effort.id) effort
      { effort with targetSha := pending.targetSha, composition }
      (.agentReady ⟨(db.view effort.id).maxCycle + 1⟩) effort.failedCycles none := by
    refine ⟨?_, ?_, ?_, checked.range, rfl, ?_, ?_, trivial⟩
    · rw [releasesLandingAuthority, moving]
      rfl
    · exact validateForCount_agentReady checked.range
    · show transitionAllowed effort.state.name _ = true
      rw [moving]
      rfl
    · refine within_of_open checked.limit ?_ ?_
      · rw [moving]
        rintro ⟨⟩
      · rintro ⟨⟩
    · simp [payloadCheck]
  have update := linked'.commits_updateState current rfl rfl rfl active accepts
  obtain ⟨item', serves'⟩ := linked'.serves (Table.find?_eq_some.mp current).1 active
  obtain ⟨later, moved, -⟩ := @commits_moveQueueItem _ effort _ pending.targetSha stamp.eventId
    "target_moved" "target recomposition projection lost queue item or attempt identity"
    (.fields [("old_target_sha", .text effort.targetSha), ("target_sha", .text pending.targetSha)])
    (@find?_withState _ _ _ _ (.agentReady ⟨(db.view effort.id).maxCycle + 1⟩) effort.failedCycles
      serves' rfl) (by rw [QueueItem.currentAttemptId_project]; exact serves'.current)
  refine ⟨later, ?_⟩
  simp only [completeTargetRecomposition, effortObjectFormat, commits_requiredEffort_bind,
    commits_itemObjectFormat_bind, commits_ensure_bind, commits_expect_bind, commits_require_bind,
    commits_lookup_bind, commits_query_bind, IntegrationEffortState.targetMovePending?_eq_some]
  refine ⟨effort, stored, owns.valid, policy, policyOf, (), ?_, (), ?_, pending, moving,
    ⟨rfl, fits.source⟩, candidateSha, old, attempt, ?_, recorded,
    cleaned_iff.mpr (clean candidateSha old), ?_⟩
  · rw [same_format]
    exact check_eq_ok.mpr observed
  · rw [same_format]
    exact composed
  · exact Option.filter_eq_some_iff.mpr ⟨found, beq_iff_eq.mpr owned⟩
  · refine commits_bind.mpr ⟨_, first, cycles, ?_⟩
    refine commits_bind.mpr ⟨(), second, delete, ?_⟩
    refine commits_bind.mpr ⟨_, third, reviews, ?_⟩
    refine commits_bind.mpr ⟨(), fourth, invalidate, ?_⟩
    refine commits_bind.mpr ⟨_, fifth, attempts, ?_⟩
    refine commits_bind.mpr ⟨(), target fifth, commits_write.mpr ⟨rfl, rfl⟩, ?_⟩
    rw [commits_nextCycleNumber_bind, number]
    exact ⟨room, commits_bind.mpr ⟨(), _, update, moved⟩⟩

/-! ## Movements over runs -/

namespace Sample

/-- The commit to which the target moves. -/
def newTargetSha : String := "6666666666666666666666666666666666666666"

/-- The candidate with a movement of its target begun. -/
def moving : List Operation :=
  candidate ++ [.beginTargetMove "effort" newTargetSha none (stampOf "move")]

/-- The effort of a database moves to a target. -/
def Moves (db : Database) (effort : IntegrationEffort) (pending : TargetMovePending) : Prop :=
  db.efforts.find? "effort" = some effort ∧ effort.id = "effort" ∧
    effort.state = .targetMovePending pending ∧ pending.targetSha = newTargetSha

/-- The sample's effort is moving. -/
theorem moves_moving : ∃ effort pending, Moves (Sample.after moving) effort pending := by
  have shape : ((Sample.after moving).efforts.find? "effort").bind (fun row =>
      row.state.targetMovePending?.map TargetMovePending.targetSha) = some newTargetSha := by
    decide +kernel
  obtain ⟨effort, stored, waits⟩ := Option.bind_eq_some_iff.mp shape
  obtain ⟨pending, moves, same⟩ := Option.map_eq_some_iff.mp waits
  exact ⟨effort, pending, stored, (Table.find?_eq_some.mp stored).2,
    IntegrationEffortState.targetMovePending?_eq_some.mp moves, same⟩

end Sample

/-- What ends a pending movement: its completion to its target, after the reference of the old
candidate was cleaned up, or the cancellation of the effort. -/
def EndsMovement (effort : IntegrationEffort) (pending : TargetMovePending) (db : Database)
    (operation : Operation) : Prop :=
  (∃ composition, operation.Completes effort.id pending.targetSha composition ∧
      (∀ candidateSha, pending.previous.candidateSha = some candidateSha →
        db.Cleaned effort candidateSha) ∧
      (store.step db operation).Recomposed effort pending.targetSha composition) ∨
    operation.Cancels effort.id ∧ ∃ row, (store.step db operation).efforts.find? effort.id =
      some row ∧ row.state.name = .cancelled

/-- Over every run from a reachable state the row of an effort whose target moves stays exactly as
it is, up to a step that completes the movement to its target or cancels the effort. -/
theorem pending_move_is_kept (reachable : store.Reachable db)
    (stored : db.efforts.find? effort.id = some effort)
    (moving : effort.state = .targetMovePending pending) (operations : List Operation) :
    (store.run db operations).efforts.find? effort.id = some effort ∨
      ∃ earlier operation rest, operations = earlier ++ operation :: rest ∧
        (store.run db earlier).efforts.find? effort.id = some effort ∧
        EndsMovement effort pending (store.run db earlier) operation := by
  have rule := @Machine.run_keeps_until _ _ store
    (fun now => store.Reachable now ∧ (now.view effort.id).effort = some effort)
    (EndsMovement effort pending)
  have kept := rule ?_ ⟨reachable, stored⟩ operations
  · obtain ⟨-, final⟩ | ⟨earlier, operation, rest, split, ⟨-, found⟩, ends⟩ := kept
    · exact .inl final
    · exact .inr ⟨earlier, operation, rest, split, found, ends⟩
  · rintro now operation ⟨reached, found⟩
    obtain aborted | ⟨outcome, commits⟩ := settle_cases operation.transaction now
    · rw [store_step, aborted]
      exact .inl ⟨reached, found⟩
    · rw [← store_step] at commits
      have sound := sound_of_reachable reached
      obtain same | step := operation.stepped sound commits effort.id
      · exact .inl ⟨reached.step operation, by rw [same]; exact found⟩
      · obtain next | ⟨targetSha, composition, completes⟩ | cancels :=
          step.keeps_pending (sound _) found moving
        · exact .inl ⟨reached.step operation, next⟩
        · obtain ⟨stamp, rfl⟩ := completes
          obtain ⟨rfl, recomposed, clean⟩ := recomposed_of_complete found moving commits
          exact .inr (.inl ⟨composition, ⟨stamp, rfl⟩, clean, recomposed⟩)
        · exact .inr (.inr cancels)

/-- The movement of the sample run is kept by a repeated call and a preparation. -/
theorem pending_move_is_kept_prepared : ∃ effort pending,
    Sample.Moves (Sample.after Sample.moving) effort pending ∧
    let operations : List Operation :=
      [.beginTargetMove "effort" Sample.newTargetSha none (Sample.stampOf "again"),
        .prepareTargetRecomposition "effort" Sample.newTargetSha none]
    (store.run (Sample.after Sample.moving) operations).efforts.find? "effort" = some effort ∨
      ∃ earlier operation rest, operations = earlier ++ operation :: rest ∧
        (store.run (Sample.after Sample.moving) earlier).efforts.find? "effort" = some effort ∧
        EndsMovement effort pending (store.run (Sample.after Sample.moving) earlier) operation := by
  obtain ⟨effort, pending, moves⟩ := Sample.moves_moving
  have named : effort.id = "effort" := moves.2.1
  have moving := moves.2.2.1
  have kept := @pending_move_is_kept _ effort pending (Sample.reachable Sample.moving)
    (by rw [named]; exact moves.1) moving
    [.beginTargetMove "effort" Sample.newTargetSha none (Sample.stampOf "again"),
      .prepareTargetRecomposition "effort" Sample.newTargetSha none]
  rw [named] at kept
  exact ⟨effort, pending, moves, kept⟩

/-- In every reachable state a pending movement is completed by exactly the calls that name its
target, bring a composition in the object format of the item, and come after the cleanup of the
old candidate's reference, while cycle numbers are left. -/
theorem pending_move_completes_iff (reachable : store.Reachable db)
    (stored : db.efforts.find? effort.id = some effort)
    (moving : effort.state = .targetMovePending pending) :
    (Operation.completeTargetRecomposition effort.id targetSha composition stamp).CommitsIn db ↔
      targetSha = pending.targetSha ∧
      (∃ format, db.formatOf effort.itemId = some format ∧
        composition.validate format false = .ok ()) ∧
      (∀ candidateSha, pending.previous.candidateSha = some candidateSha →
        db.Cleaned effort candidateSha) ∧
      db.maxCycleNumber effort.id < 255 := by
  constructor
  · rintro ⟨outcome, later, commits⟩
    have room := commits
    have composed := commits
    obtain ⟨same, -, clean⟩ := recomposed_of_complete stored moving commits
    obtain ⟨_, room, -⟩ := commits_map.mp room
    simp only [Operation.transaction, commits_map, Iq.completeTargetRecomposition,
      effortObjectFormat, commits_requiredEffort_bind, commits_itemObjectFormat_bind,
      commits_ensure_bind] at composed
    obtain ⟨_, ⟨other, found, -, policy, of_item, _, -, ⟨⟩, composed, -⟩, -⟩ := composed
    obtain rfl : other = effort := Option.some_inj.mp (found.symm.trans stored)
    exact ⟨same, ⟨_, formatOf_eq_some of_item, composed⟩, clean,
      (completeTargetRecomposition_steps room).2.1⟩
  · rintro ⟨rfl, ⟨format, of_item, composed⟩, clean, room⟩
    obtain ⟨later, commits⟩ := @completeTargetRecomposition_accepted db effort stamp pending
      composition reachable stored moving format of_item composed clean room
    exact ⟨.done, later, commits_map.mpr ⟨(), commits, rfl⟩⟩

/-- The movement of the sample run can be completed while no cleanup is scheduled. -/
theorem pending_move_completes_iff_clean : ∃ effort pending,
    Sample.Moves (Sample.after Sample.moving) effort pending ∧
    ((Operation.completeTargetRecomposition "effort" Sample.newTargetSha (.clean Sample.treeSha)
      (Sample.stampOf "complete")).CommitsIn (Sample.after Sample.moving) ↔
      Sample.newTargetSha = pending.targetSha ∧
      (∃ format, (Sample.after Sample.moving).formatOf effort.itemId = some format ∧
        (CompositionEvidence.clean Sample.treeSha).validate format false = .ok ()) ∧
      (∀ candidateSha, pending.previous.candidateSha = some candidateSha →
        (Sample.after Sample.moving).Cleaned effort candidateSha) ∧
      (Sample.after Sample.moving).maxCycleNumber "effort" < 255) := by
  obtain ⟨effort, pending, moves⟩ := Sample.moves_moving
  have named : effort.id = "effort" := moves.2.1
  have moving := moves.2.2.1
  have completes := @pending_move_completes_iff _ effort Sample.newTargetSha
    (Sample.stampOf "complete") pending (.clean Sample.treeSha) (Sample.reachable Sample.moving)
    (by rw [named]; exact moves.1) moving
  rw [named] at completes
  exact ⟨effort, pending, moves, completes⟩

/-! ## Repeated calls -/

/-- Beginning a movement that is pending changes nothing, and is accepted when it is the same. -/
theorem commits_begin_of_pending (reachable : store.Reachable db)
    (stored : db.efforts.find? effort.id = some effort)
    (moving : effort.state = .targetMovePending pending) :
    (beginTargetMoveWithResolution effort.id targetSha rejection stamp).Commits db () later ↔
      (targetSha = pending.targetSha ∧ targetMoveCauseMatches pending.cause rejection = true) ∧
        later = db := by
  have mem := (Table.find?_eq_some.mp stored).1
  have linked := linked_of_reachable reachable
  have fits := movesFit_of_reachable reachable effort mem pending moving
  obtain ⟨format, of_item, observed⟩ := fits.target
  have active : effort.state.isActive = true := by
    rw [moving]
    rfl
  obtain ⟨item, serves⟩ := linked.serves mem active
  obtain ⟨policy, policyOf, -⟩ := serves.admitted
  have same_format := Option.some_inj.mp ((formatOf_eq_some policyOf).symm.trans of_item)
  simp only [beginTargetMoveWithResolution, effortObjectFormat, commits_requiredEffort_bind,
    commits_itemObjectFormat_bind, commits_ensure_bind]
  constructor
  · rintro ⟨other, found, -, _, -, _, -, rest⟩
    obtain rfl : other = effort := Option.some_inj.mp (found.symm.trans stored)
    rw [moving] at rest
    obtain ⟨⟨same, -, matching⟩, rfl⟩ := commits_require.mp rest
    exact ⟨⟨same.symm, matching⟩, rfl⟩
  · rintro ⟨⟨rfl, matching⟩, rfl⟩
    refine ⟨effort, stored, (linked.owned effort mem).valid, policy, policyOf, (), ?_, ?_⟩
    · rw [same_format]
      exact check_eq_ok.mpr observed
    · rw [moving]
      exact commits_require.mpr ⟨⟨rfl, fits.source, matching⟩, rfl⟩

/-- A cleanup is scheduled unless another debt holds its reference. -/
theorem commits_scheduleCleanup_iff {debt : PrivateRefCleanupDebt} {differs : String} :
    (∃ later, (scheduleCleanup debt differs).Commits db () later) ↔
      ∀ other, db.privateRefDebts.find? debt.key = some other → other = debt := by
  simp only [scheduleCleanup, commits_query_bind]
  cases present : db.privateRefDebts.find? debt.key with
  | some stored =>
    simp only [commits_require, Option.some.injEq]
    constructor
    · rintro ⟨later, rfl, -⟩ other rfl
      rfl
    · exact fun same => ⟨db, same stored rfl, rfl⟩
  | none =>
    simp only [commits_lookup_bind, commits_write]
    constructor
    · rintro - other ⟨⟩
    · intro
      have fresh := Table.find?_eq_none.mp present
      obtain ⟨debts, inserted⟩ := Option.isSome_iff_exists.mp (Table.insert?_isSome.mpr fresh)
      exact ⟨_, debts, inserted, trivial, rfl⟩

/-- A scheduled cleanup is a debt, and nothing else changed. -/
theorem scheduleCleanup_spec {debt : PrivateRefCleanupDebt} {differs : String} {done : Unit}
    (commits : (scheduleCleanup debt differs).Commits db done later) :
    ∃ debts, later = { db with privateRefDebts := debts } ∧ debts.find? debt.key = some debt := by
  simp only [scheduleCleanup, commits_query_bind] at commits
  cases present : db.privateRefDebts.find? debt.key with
  | some stored =>
    rw [present] at commits
    obtain ⟨rfl, rfl⟩ := commits_require.mp commits
    exact ⟨_, rfl, present⟩
  | none =>
    rw [present] at commits
    simp only [commits_lookup_bind, commits_write] at commits
    obtain ⟨debts, inserted, -, rfl⟩ := commits
    refine ⟨debts, rfl, ?_⟩
    rw [Table.find?_of_insert? _ inserted, if_pos rfl]

/-- Scheduling a cleanup that is owed changes nothing. -/
theorem commits_scheduleCleanup_again {debt : PrivateRefCleanupDebt} {differs : String}
    (owed : db.privateRefDebts.find? debt.key = some debt) :
    (scheduleCleanup debt differs).Commits db () db := by
  simp only [scheduleCleanup, commits_query_bind]
  rw [owed]
  exact commits_require.mpr ⟨rfl, rfl⟩

/-- What preparing the recomposition of a pending movement comes down to: the call names the
movement, and the cleanup of the old candidate is scheduled. -/
theorem commits_prepare_of_pending (reachable : store.Reachable db)
    (stored : db.efforts.find? effort.id = some effort)
    (moving : effort.state = .targetMovePending pending) :
    ∃ item candidateSha, db.items.find? effort.itemId = some item ∧
      pending.previous.candidateSha = some candidateSha ∧ ∀ later,
        (prepareTargetRecompositionWithResolution effort.id targetSha rejection).Commits db ()
            later ↔
          (targetSha = pending.targetSha ∧
            targetMoveCauseMatches pending.cause rejection = true) ∧
          (scheduleCleanup (effort.cleanupDebt item candidateSha)
            "old landing-ref cleanup debt differs from recomposition authority").Commits db ()
            later := by
  have mem := (Table.find?_eq_some.mp stored).1
  have linked := linked_of_reachable reachable
  have fits := movesFit_of_reachable reachable effort mem pending moving
  obtain ⟨format, of_item, observed⟩ := fits.target
  obtain ⟨candidateSha, old⟩ := fits.candidate
  have active : effort.state.isActive = true := by
    rw [moving]
    rfl
  obtain ⟨item, serves⟩ := linked.serves mem active
  obtain ⟨policy, policyOf, -⟩ := serves.admitted
  have same_format := Option.some_inj.mp ((formatOf_eq_some policyOf).symm.trans of_item)
  have carried : effort.state.candidateSha = some candidateSha := by
    rw [moving]
    exact old
  obtain ⟨attempt, found, recorded⟩ := Option.bind_eq_some_iff.mp
    (bound_of_reachable reachable effort mem candidateSha carried)
  have owned : attempt.itemId = effort.itemId := by
    obtain ⟨own, there, item, -⟩ := (linked.owned effort mem).attempt
    obtain rfl := Option.some_inj.mp (there.symm.trans found)
    exact item
  have quiet : requireMoveUnlessPending effort rejection = pure () := by
    unfold requireMoveUnlessPending
    rw [moving]
    rfl
  refine ⟨item, candidateSha, serves.found, old, fun later => ?_⟩
  simp only [prepareTargetRecompositionWithResolution, effortObjectFormat,
    commits_requiredEffort_bind, commits_itemObjectFormat_bind, commits_ensure_bind]
  constructor
  · rintro ⟨other, read, -, _, -, _, -, rest⟩
    obtain rfl : other = effort := Option.some_inj.mp (read.symm.trans stored)
    simp only [quiet, commits_pure_bind, commits_expect_bind, commits_require_bind,
      commits_lookup_bind, IntegrationEffortState.targetMovePending?_eq_some] at rest
    obtain ⟨waiting, moves, ⟨same, -, matching⟩, candidate, captured, _, -, of_effort, there, -,
      rest⟩ := rest
    obtain rfl : pending = waiting := by
      rw [moving] at moves
      cases moves
      rfl
    obtain rfl := Option.some_inj.mp (captured.symm.trans old)
    obtain rfl := Option.some_inj.mp (there.symm.trans serves.found)
    exact ⟨⟨same.symm, matching⟩, rest⟩
  · rintro ⟨⟨rfl, matching⟩, rest⟩
    refine ⟨effort, stored, (linked.owned effort mem).valid, policy, policyOf, (), ?_, ?_⟩
    · rw [same_format]
      exact check_eq_ok.mpr observed
    · simp only [quiet, commits_pure_bind, commits_expect_bind, commits_require_bind,
        commits_lookup_bind, IntegrationEffortState.targetMovePending?_eq_some]
      refine ⟨pending, moving, ⟨rfl, fits.source, matching⟩, candidateSha, old, attempt, ?_, item,
        serves.found, recorded, rest⟩
      exact Option.filter_eq_some_iff.mpr ⟨found, beq_iff_eq.mpr owned⟩

/-- In every reachable state the calls that lead to a recomposition can be repeated. Beginning the
pending movement again leaves the database as it is, and preparing it again leaves what the first
call left: the debt for the reference of the old candidate. Both are accepted exactly when they
name the target and the cause of the movement, the second only while no other debt holds the
reference. -/
theorem pending_move_replays (reachable : store.Reachable db)
    (stored : db.efforts.find? effort.id = some effort)
    (moving : effort.state = .targetMovePending pending) :
    let again := Operation.beginTargetMove effort.id targetSha rejection stamp
    let prepare := Operation.prepareTargetRecomposition effort.id targetSha rejection
    let same := targetSha = pending.targetSha ∧
      targetMoveCauseMatches pending.cause rejection = true
    (store.step db again = db ∧ (again.CommitsIn db ↔ same)) ∧
      ∃ item candidateSha, db.items.find? effort.itemId = some item ∧
        pending.previous.candidateSha = some candidateSha ∧
        store.step (store.step db prepare) prepare = store.step db prepare ∧
        (prepare.CommitsIn db ↔ same ∧ ∀ debt, db.privateRefDebts.find?
          (effort.cleanupDebt item candidateSha).key = some debt →
            debt = effort.cleanupDebt item candidateSha) ∧
        (prepare.CommitsIn db →
          effort.cleanupDebt item candidateSha ∈ (store.step db prepare).privateRefDebts) := by
  intro again prepare same
  have begins := fun later => @commits_begin_of_pending db later effort targetSha stamp pending
    rejection reachable stored moving
  refine ⟨⟨?_, ?_⟩, ?_⟩
  · obtain aborted | ⟨outcome, commits⟩ := settle_cases again.transaction db
    · exact aborted
    · obtain ⟨_, begun, -⟩ := commits_map.mp commits
      exact ((begins _).mp begun).2
  · constructor
    · rintro ⟨outcome, later, commits⟩
      obtain ⟨_, begun, -⟩ := commits_map.mp commits
      exact ((begins later).mp begun).1
    · exact fun named => ⟨.done, db, commits_map.mpr ⟨(), (begins db).mpr ⟨named, rfl⟩, rfl⟩⟩
  · obtain ⟨item, candidateSha, found, old, prepares⟩ :=
      @commits_prepare_of_pending db effort targetSha pending rejection reachable stored moving
    have committed : ∀ {outcome later}, prepare.transaction.Commits db outcome later →
        same ∧ (scheduleCleanup (effort.cleanupDebt item candidateSha)
          "old landing-ref cleanup debt differs from recomposition authority").Commits db ()
          later := by
      intro outcome later commits
      obtain ⟨_, prepared, -⟩ := commits_map.mp commits
      exact (prepares later).mp prepared
    refine ⟨item, candidateSha, found, old, ?_, ?_, ?_⟩
    · obtain aborted | ⟨outcome, commits⟩ := settle_cases prepare.transaction db
      · rw [store_step db, aborted]
        exact aborted
      · rw [← store_step] at commits
        obtain ⟨named, scheduled⟩ := committed commits
        obtain ⟨debts, shape, owed⟩ := scheduleCleanup_spec scheduled
        have reached := reachable.step prepare
        obtain ⟨item', candidateSha', found', old', repeats⟩ :=
          @commits_prepare_of_pending _ effort targetSha pending rejection reached
            (by rw [shape]; exact stored) moving
        rw [shape] at found'
        obtain rfl := Option.some_inj.mp (found'.symm.trans found)
        obtain rfl := Option.some_inj.mp (old'.symm.trans old)
        have owed' : (store.step db prepare).privateRefDebts.find?
            (effort.cleanupDebt item' candidateSha').key =
              some (effort.cleanupDebt item' candidateSha') := by
          rw [shape]
          exact owed
        have repeated : prepare.transaction.Commits (store.step db prepare) .done
            (store.step db prepare) :=
          commits_map.mpr ⟨(), (repeats _).mpr ⟨named, commits_scheduleCleanup_again owed'⟩, rfl⟩
        exact settle_of_commits repeated
    · constructor
      · rintro ⟨outcome, later, commits⟩
        obtain ⟨named, scheduled⟩ := committed commits
        exact ⟨named, commits_scheduleCleanup_iff.mp ⟨later, scheduled⟩⟩
      · rintro ⟨named, free⟩
        obtain ⟨later, scheduled⟩ := (@commits_scheduleCleanup_iff db _
          "old landing-ref cleanup debt differs from recomposition authority").mpr free
        exact ⟨.done, later, commits_map.mpr ⟨(), (prepares later).mpr ⟨named, scheduled⟩, rfl⟩⟩
    · rintro ⟨outcome, later, commits⟩
      obtain ⟨debts, shape, owed⟩ := scheduleCleanup_spec (committed commits).2
      rw [store_step, settle_of_commits commits, shape]
      exact (Table.find?_eq_some.mp owed).1

/-- The movement of the sample run begins again and is prepared twice. -/
theorem pending_move_replays_sample : ∃ effort pending,
    Sample.Moves (Sample.after Sample.moving) effort pending ∧
    let db := Sample.after Sample.moving
    let again :=
      Operation.beginTargetMove "effort" Sample.newTargetSha none (Sample.stampOf "again")
    let prepare := Operation.prepareTargetRecomposition "effort" Sample.newTargetSha none
    let same := Sample.newTargetSha = pending.targetSha ∧
      targetMoveCauseMatches pending.cause none = true
    (store.step db again = db ∧ (again.CommitsIn db ↔ same)) ∧
      ∃ item candidateSha, db.items.find? effort.itemId = some item ∧
        pending.previous.candidateSha = some candidateSha ∧
        store.step (store.step db prepare) prepare = store.step db prepare ∧
        (prepare.CommitsIn db ↔ same ∧ ∀ debt, db.privateRefDebts.find?
          (effort.cleanupDebt item candidateSha).key = some debt →
            debt = effort.cleanupDebt item candidateSha) ∧
        (prepare.CommitsIn db →
          effort.cleanupDebt item candidateSha ∈ (store.step db prepare).privateRefDebts) := by
  obtain ⟨effort, pending, moves⟩ := Sample.moves_moving
  have named : effort.id = "effort" := moves.2.1
  have moving := moves.2.2.1
  have replays := @pending_move_replays _ effort Sample.newTargetSha (Sample.stampOf "again")
    pending none (Sample.reachable Sample.moving) (by rw [named]; exact moves.1) moving
  rw [named] at replays
  exact ⟨effort, pending, moves, replays⟩

end Iq
