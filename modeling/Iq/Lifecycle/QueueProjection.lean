import Mathlib.Data.List.TakeWhile
import Iq.Store.QueueRow
import Iq.Lifecycle.Identifiers

/-!
# The projection of an effort onto its queue row

The state of an effort is projected onto the row of its item by a match of the program, and checked
by triggers that spell the mapping out again. Here the two agree: the guard accepts exactly the
rows that `projectionMatches` accepts, and the row written for a state of an effort is accepted by
the three triggers, whatever the row was before. What the triggers ask of the landing column are
object identifiers, which every landing state of a reachable database has.
-/

namespace Iq

open Library Library.Sql Library.Transaction

/-! ## Object identifiers in stored text -/

/-- A hexadecimal text has its length in SQL. -/
theorem length_of_isHexadecimal {digits : Nat} {value : String}
    (hexadecimal : isHexadecimal digits value = true) : length (some value) = some digits := by
  rcases isHexDigit_of_isHexadecimal hexadecimal with ⟨hex, size⟩
  have whole : value.toList.takeWhile (fun character => character != '\x00') = value.toList := by
    rw [List.takeWhile_eq_self_iff]
    intro character mem
    have digit := hex character mem
    rw [bne_iff_ne]
    rintro rfl
    exact absurd digit (by decide)
  rw [length, Option.map_some, whole, size]

/-- A hexadecimal text has no other character in SQL. -/
theorem globOutsideHex_of_isHexadecimal {digits : Nat} {value : String}
    (hexadecimal : isHexadecimal digits value = true) : globOutsideHex (some value) = some false := by
  have hex := (isHexDigit_of_isHexadecimal hexadecimal).1
  rw [globOutsideHex, Option.map_some, Option.some_inj, List.any_eq_false]
  intro character mem
  simp [hex character mem]

/-! ## The guard spells out the projection -/

variable {effort row : IntegrationEffort} {item : QueueItem} {new : QueueRow}
  {state : IntegrationEffortState} {landing : LandingState} {candidateSha expectedSha : String}

/-- Statuses are told apart by their texts. -/
theorem QueueStatus.text_injective : Function.Injective QueueStatus.text := by
  intro first second same
  cases first <;> cases second <;> first | rfl | exact absurd same (by decide)

/-- Phases are told apart by their texts. -/
theorem BlockedPhase.text_injective : Function.Injective BlockedPhase.text := by
  intro first second same
  cases first <;> cases second <;> first | rfl | exact absurd same (by decide)

/-- Reasons are told apart by their texts. -/
theorem BlockedReason.text_injective : Function.Injective BlockedReason.text := by
  intro first second same
  cases first <;> cases second <;> first | rfl | exact absurd same (by decide)

/-- `COALESCE` to the empty text keeps optional names apart. -/
theorem getD_text_inj {α : Type} {text : α → String} (injective : Function.Injective text)
    (named : ∀ value, text value ≠ "") {first second : Option α} :
    (first.map text).getD "" = (second.map text).getD "" ↔ first = second := by
  cases first with
  | none =>
    cases second with
    | none => exact iff_of_true rfl rfl
    | some value => exact iff_of_false (named value).symm nofun
  | some value =>
    cases second with
    | none => exact iff_of_false (named value) nofun
    | some other =>
      constructor
      · intro same
        exact congrArg some (injective same)
      · rintro ⟨⟩
        rfl

/-- The status that the guard demands of a state. -/
theorem expectedStatus_columns :
    effort.columns.expectedStatus new = some (if effort.state.name = .replacementPending ∧
      new.currentAttemptId ≠ none ∧ new.currentAttemptId ≠ some effort.attemptId then .merging
      else effort.state.projection.status : QueueStatus).text := by
  rcases effort with ⟨id, itemId, attemptId, targetSha, sourceSha, source, variant, composition,
    workspace, runner, repository, failedCycles, state⟩
  cases state with
  | replacementPending value =>
    show case [((isNull new.currentAttemptId).or (equals new.currentAttemptId (some attemptId)),
      some "ready")] (some "merging") = _
    by_cases own : new.currentAttemptId = none ∨ new.currentAttemptId = some attemptId
    · rw [case_of_true, if_neg (fun other => own.elim other.2.1 other.2.2)]
      · rfl
      · simpa using own
    · rw [not_or] at own
      rw [case_of_not_true, if_pos ⟨rfl, own⟩]
      · rfl
      · simpa using own
  | validating value =>
    rcases value with ⟨candidateSha, policyDigest, stage⟩
    cases stage <;> rfl
  | _ => rfl

/-- The phase that the trigger expects is that of the projection. -/
theorem expectedPhase_columns :
    effort.columns.expectedPhase =
      some ((effort.state.projection.blockedPhase.map BlockedPhase.text).getD "") := by
  rcases effort with ⟨id, itemId, attemptId, targetSha, sourceSha, source, variant, composition,
    workspace, runner, repository, failedCycles, state⟩
  cases state with
  | infrastructureBlocked value =>
    rcases value with ⟨blocker, resume⟩
    cases resume with
    | validating value =>
      rcases value with ⟨candidateSha, policyDigest, stage⟩
      cases stage <;> rfl
    | _ => rfl
  | validating value =>
    rcases value with ⟨candidateSha, policyDigest, stage⟩
    cases stage <;> rfl
  | _ => rfl

/-- The reason that the trigger expects is that of the projection. -/
theorem expectedReason_columns :
    effort.columns.expectedReason =
      some ((effort.state.projection.blockedReason.map BlockedReason.text).getD "") := by
  rcases effort with ⟨id, itemId, attemptId, targetSha, sourceSha, source, variant, composition,
    workspace, runner, repository, failedCycles, state⟩
  cases state with
  | validating value =>
    rcases value with ⟨candidateSha, policyDigest, stage⟩
    cases stage <;> rfl
  | _ => rfl

/-- The commit that the trigger expects is the landed one. -/
theorem expectedLandedCommit_columns :
    effort.columns.expectedLandedCommit = effort.state.landedCommit := by
  rcases effort with ⟨id, itemId, attemptId, targetSha, sourceSha, source, variant, composition,
    workspace, runner, repository, failedCycles, state⟩
  cases state <;> rfl

/-- The landing column without a landing. -/
theorem isLanding_ready :
    EffortRow.isLanding landing.json "ready" 1 = some true ↔ landing = .ready := by
  cases landing with
  | ready => exact iff_of_true rfl rfl
  | uncertain candidate expected => exact iff_of_false (nomatch ·) nofun
  | landed candidate commit => exact iff_of_false (nomatch ·) nofun

/-- The landing column of a landing whose effect is unknown. -/
theorem isLanding_uncertain :
    (((EffortRow.isLanding landing.json "uncertain" 3).and
        (equals (landing.json.extract ["candidate_sha"]) (some candidateSha))).and
      (equals (landing.json.extract ["expected_target_sha"]) (some expectedSha))) = some true ↔
      landing = .uncertain candidateSha expectedSha := by
  cases landing with
  | ready =>
    have other : EffortRow.isLanding LandingState.ready.json "uncertain" 3 = some false := by decide
    simp [other]
  | uncertain candidate expected =>
    have named : EffortRow.isLanding (LandingState.uncertain candidate expected).json "uncertain" 3 =
        some true := rfl
    have first : (LandingState.uncertain candidate expected).json.extract ["candidate_sha"] =
        some candidate := rfl
    have second : (LandingState.uncertain candidate expected).json.extract
        ["expected_target_sha"] = some expected := rfl
    simp only [named, first, second, Truth.and_eq_true, equals_some_iff, true_and,
      LandingState.uncertain.injEq]
  | landed candidate commit =>
    have other : EffortRow.isLanding (LandingState.landed candidate commit).json "uncertain" 3 =
        some false := rfl
    simp [other]

/-- The landing column of a landing that happened. -/
theorem isLanding_landed :
    (((EffortRow.isLanding landing.json "landed" 3).and
        (equals (landing.json.extract ["candidate_sha"]) (some candidateSha))).and
      (equals (landing.json.extract ["commit_sha"]) (some expectedSha))) = some true ↔
      landing = .landed candidateSha expectedSha := by
  cases landing with
  | ready =>
    have other : EffortRow.isLanding LandingState.ready.json "landed" 3 = some false := by decide
    simp [other]
  | uncertain candidate expected =>
    have other : EffortRow.isLanding (LandingState.uncertain candidate expected).json "landed" 3 =
        some false := rfl
    simp [other]
  | landed candidate commit =>
    have named : EffortRow.isLanding (LandingState.landed candidate commit).json "landed" 3 =
        some true := rfl
    have first : (LandingState.landed candidate commit).json.extract ["candidate_sha"] =
        some candidate := rfl
    have second : (LandingState.landed candidate commit).json.extract ["commit_sha"] =
        some commit := rfl
    simp only [named, first, second, Truth.and_eq_true, equals_some_iff, true_and,
      LandingState.landed.injEq]

/-- The landing column that the guard demands of a state. -/
theorem landingMatches_columns :
    effort.columns.landingMatches landing.json = some true ↔
      landing = effort.state.legacyLanding := by
  rcases effort with ⟨id, itemId, attemptId, targetSha, sourceSha, source, variant, composition,
    workspace, runner, repository, failedCycles, state⟩
  cases state with
  | landingUncertain value => exact isLanding_uncertain
  | integrated value => exact isLanding_landed
  | infrastructureBlocked value | providerBlocked value =>
    rcases value with ⟨blocker, resume⟩
    cases resume with
    | landingUncertain value => exact isLanding_uncertain
    | validating value => 
      rcases value with ⟨c, p, stage⟩
      exact isLanding_ready
    | _ => exact isLanding_ready
  | _ => exact isLanding_ready

/-- The guard accepts a row exactly when the row is the projection of the effort in the model of the
store, and asks nothing of its owner. -/
theorem projects_row_iff {promptId : Option String} {workspace : WorkspaceColumns} :
    effort.columns.projects (item.row promptId workspace) = some true ↔
      promptId = none ∧ projectionMatches effort item = true := by
  have phases : ∀ phase : BlockedPhase, phase.text ≠ "" := by
    rintro (- | - | -) <;> decide
  have reasons : ∀ reason : BlockedReason, reason.text ≠ "" := by
    rintro (- | - | - | - | - | -) <;> decide
  simp only [EffortRow.projects, Truth.and_eq_true, isNull_eq_true, same_eq_true,
    expectedStatus_columns, expectedPhase_columns, expectedReason_columns,
    expectedLandedCommit_columns, equals_some_iff, QueueItem.row, landingMatches_columns,
    getD_text_inj BlockedPhase.text_injective phases,
    getD_text_inj BlockedReason.text_injective reasons, projectionMatches_iff,
    QueueStatus.text_injective.eq_iff, and_assoc]

/-- The item that a write of its columns leaves. -/
theorem written_of_updateQueueItem {db later : Database} {done : Unit} {itemId lost : String}
    {expected : QueueItem → Bool} {change : QueueItem → QueueItem}
    {kept : ∀ row, (change row).id = row.id}
    (commits : (updateQueueItem itemId expected change kept lost).Commits db done later) :
    ∃ item, db.items.find? itemId = some item ∧ expected item = true ∧ item.id = itemId ∧
      later.items.find? itemId = some (change item) := by
  rcases commits_updateQueueItem commits with ⟨item, found, passes, -, rfl⟩
  exact ⟨item, found, passes, (Table.find?_eq_some.mp found).2,
    Table.find?_update_key change kept found⟩

/-- The projection of the store writes, in stored form, what the statements write on the stored
row. -/
theorem projectQueueRow_of_commits {db later : Database} {done : Unit} {promptId : Option String}
    {workspace : WorkspaceColumns}
    (commits : (projectQueueState effort state).Commits db done later) :
    ∃ item written, db.items.find? effort.itemId = some item ∧
      later.items.find? effort.itemId = some written ∧
      projectQueueRow effort state (item.row promptId workspace) =
        some (written.row none workspace) := by
  cases state with
  | integrated value =>
    rcases written_of_updateQueueItem commits with ⟨item, found, -, key, written⟩
    refine ⟨item, _, found, written, ?_⟩
    exact if_pos key
  | validating value =>
    rcases value with ⟨candidateSha, policyDigest, stage⟩
    rcases written_of_updateQueueItem commits with ⟨item, found, owned, key, written⟩
    refine ⟨item, _, found, written, ?_⟩
    cases stage <;> exact if_pos ⟨key, beq_iff_eq.mp owned⟩
  | _ =>
    rcases written_of_updateQueueItem commits with ⟨item, found, owned, key, written⟩
    refine ⟨item, _, found, written, ?_⟩
    exact if_pos ⟨key, beq_iff_eq.mp owned⟩

/-! ## Legal steps -/

variable {view before after : EffortView} {operation : Operation} {objectId : String}
  {db later : Database} {rejection : Option DefiniteLandingRejection} {failedCycles : Nat}

/-- Nothing leaves the integrated state. -/
theorem integrated_of_transition {name : StateName}
    (allowed : transitionAllowed .integrated name = true) : name = .integrated := by
  cases name <;> first | rfl | cases allowed

/-- A row belongs to the item of the row before it and leaves the integrated state never. -/
def KeepsItem (effort row : IntegrationEffort) : Prop :=
  row.itemId = effort.itemId ∧ (effort.state.name = .integrated → row.state.name = .integrated)

/-- A written state keeps the item and the attempt. -/
theorem Writes.keepsItem (writes : Writes rejection before effort state failedCycles after)
    (stored : after.effort = some row) : KeepsItem effort row := by
  rw [writes.row_eq stored]
  refine ⟨rfl, fun ended => integrated_of_transition ?_⟩
  rw [← ended]
  exact writes.transition

/-- A step of the effort keeps what the projection reads. -/
theorem EffortStep.keepsItem (step : EffortStep operation view after)
    (found : view.effort = some effort) (stored : after.effort = some row) :
    KeepsItem effort row := by
  have same : ∀ {other : IntegrationEffort}, view.effort = some other → other = effort :=
    fun stored => Option.some_inj.mp (stored.symm.trans found)
  cases step with
  | create absent => exact nomatch absent.symm.trans found
  | @replace _ other _ new _ _ before waiting =>
    rw [← same before]
    cases stored
    refine ⟨rfl, fun ended => ?_⟩
    rw [waiting] at ended
    cases ended
  | surrenderCancelled before | acknowledgeCancelled before | deleteDebt before =>
    obtain rfl := Option.some_inj.mp (stored.symm.trans found)
    exact ⟨rfl, id⟩
  | prepare _ _ _ _ writes | surrender _ _ writes | started _ _ _ _ _ _ _ writes
  | result _ writes | resetBuild _ writes | requireGuidance _ _ _ writes | answer _ _ writes
  | retryLimit _ writes | requestChanges _ _ writes | cancel _ _ _ writes
  | markReplacement _ writes | accept _ _ writes | consume _ writes | reject _ _ _ writes
  | record _ _ _ _ writes | startValidation _ writes | completeValidation _ writes
  | release _ writes | blockInfrastructure _ writes | blockProvider _ writes | retry _ writes
  | resumeProvider _ writes | beginLanding _ writes | integrate _ writes | approve _ _ writes =>
    rw [← same writes.stored]
    exact writes.keepsItem stored
  | acknowledgeLaunching _ _ fails | acknowledgeRunning _ fails | reset _ fails =>
    rw [← same fails.writes.stored]
    exact fails.writes.keepsItem stored
  | @moveTarget _ _ other _ _ _ _ movable captured writes =>
    have before : view.effort = some other := by
      have moved := writes.stored
      unfold EffortView.supersedeReview at moved
      split at moved <;> exact moved
    rw [← same before]
    exact writes.keepsItem stored
  | recompose before moving composed writes =>
    rw [← same before]
    exact writes.keepsItem stored

namespace Database

/-- A lifecycle step of an effort of a database, whose arguments passed the identifier checks of its
operation, leaves the effort as the given row. -/
def LegalStep (db : Database) (row : IntegrationEffort) : Prop :=
  ∃ effort operation after, effort ∈ db.efforts ∧
    EffortStep operation (db.view effort.id) after ∧ after.effort = some row ∧
    ∀ objectId, operation.Brings objectId → IsObjectId objectId

/-- Every committed operation takes a legal step at each effort it changes. -/
theorem legalStep_of_commits {outcome : Outcome} (reachable : store.Reachable db)
    (commits : operation.transaction.Commits db outcome later) (mem : effort ∈ db.efforts)
    (stored : (later.view effort.id).effort = some row) : row = effort ∨ db.LegalStep row := by
  rcases operation.stepped (sound_of_reachable reachable) commits effort.id with same | step
  · rw [same] at stored
    have found : (db.view effort.id).effort = some effort :=
      view_effort_eq_some.mpr ⟨mem, rfl⟩
    exact .inl (Option.some_inj.mp (stored.symm.trans found))
  · exact .inr ⟨effort, operation, _, mem, step, stored,
      fun _ => operation.isObjectId_of_commits commits⟩

/-- A step of a run that gives an effort another state is legal. -/
theorem legalStep_of_step {effortId : String} (reachable : store.Reachable db)
    (found : db.efforts.find? effortId = some effort)
    (stored : (store.step db operation).efforts.find? effortId = some row)
    (moved : effort.state.name ≠ row.state.name) : db.LegalStep row := by
  rcases Table.find?_eq_some.mp found with ⟨mem, rfl⟩
  rw [store_step] at stored
  rcases settle_cases operation.transaction db with same | ⟨outcome, commits⟩
  · rw [same, found] at stored
    cases stored
    exact absurd rfl moved
  · rcases legalStep_of_commits reachable commits mem stored with same | legal
    · rw [same] at moved
      exact absurd rfl moved
    · exact legal

end Database

/-- The projection of a legal step of a run: the step leaves the effort as `row`, and the stored row
of its item, which has its workspace still, is written as the projection of the new state. -/
structure Projected (db : Database) (row : IntegrationEffort) (prior written : QueueRow) :
    Prop where
  reachable : store.Reachable db
  legal : db.LegalStep row
  stored : ∃ item promptId workspace, db.items.find? row.itemId = some item ∧
    workspace.Retained ∧ prior = item.row promptId workspace
  writes : projectQueueRow row row.state prior = some written

variable {prior written : QueueRow}

/-- The landed commit of an item before a legal step is there only when the step leaves its effort
integrated. -/
theorem Projected.unlanded (projected : Projected db row prior written)
    (other : row.state.name ≠ .integrated) : prior.landedCommitSha = none := by
  rcases projected.legal with ⟨effort, operation, after, mem, step, stored, -⟩
  rcases projected.stored with ⟨item, promptId, workspace, found, -, rfl⟩
  have before : (db.view effort.id).effort = some effort :=
    Database.view_effort_eq_some.mpr ⟨mem, rfl⟩
  have keeps := step.keepsItem before stored
  rcases ((linked_of_reachable projected.reachable).owned effort mem).item with
    ⟨owned, foundOwned, matched, -⟩
  rw [keeps.1, foundOwned] at found
  obtain rfl := Option.some_inj.mp found
  have landed : owned.landedCommitSha = effort.state.landedCommit :=
    (projectionMatches_iff.mp matched).2.2.2.1
  show owned.landedCommitSha = none
  rw [landed]
  cases state : effort.state with
  | integrated value =>
    exact absurd (keeps.2 (by rw [state]; rfl)) other
  | _ => rfl

/-- The columns that a projection writes are those of the state. -/
theorem Projected.columns (projected : Projected db row prior written) :
    written.toLifecycleColumns = row.state.columns := by
  have unlanded := projected.unlanded
  have writes := projected.writes
  cases state : row.state with
  | integrated value =>
    rw [state] at writes
    simp only [projectQueueRow, Option.ite_none_right_eq_some, Option.some.injEq] at writes
    rw [← writes.2]
    rfl
  | _ =>
    rw [state] at writes unlanded
    simp only [projectQueueRow, Option.ite_none_right_eq_some, Option.some.injEq] at writes
    rw [← writes.2, unlanded nofun]
    rfl

/-- What is written keeps the workspace, the item and the attempt. -/
theorem Projected.keeps (projected : Projected db row prior written) :
    written.workspace = prior.workspace ∧ prior.id = row.itemId ∧
      (row.state.name ≠ .integrated → written.currentAttemptId = some row.attemptId) := by
  have writes := projected.writes
  cases state : row.state with
  | integrated value =>
    rw [state] at writes
    simp only [projectQueueRow, Option.ite_none_right_eq_some, Option.some.injEq] at writes
    rw [← writes.2]
    exact ⟨rfl, writes.1, (absurd rfl ·)⟩
  | _ =>
    rw [state] at writes
    simp only [projectQueueRow, Option.ite_none_right_eq_some, Option.some.injEq] at writes
    rw [← writes.2]
    exact ⟨rfl, writes.1.1, fun _ => writes.1.2⟩

/-! ## The triggers -/

/-- The columns of a state are what the guard demands. -/
theorem projects_of_columns (columns : new.toLifecycleColumns = effort.state.columns)
    (owned : effort.state.name = .replacementPending →
      new.currentAttemptId = some effort.attemptId) :
    effort.columns.projects new = some true := by
  have status : effort.columns.expectedStatus new = some effort.state.projection.status.text := by
    rw [expectedStatus_columns, if_neg]
    rintro ⟨waits, -, other⟩
    exact other (owned waits)
  have landing : effort.columns.landingMatches effort.state.legacyLanding.json = some true :=
    landingMatches_columns.mpr rfl
  simp only [EffortRow.projects, Truth.and_eq_true, isNull_eq_true, same_eq_true, status,
    expectedPhase_columns, expectedReason_columns, expectedLandedCommit_columns, equals_some_iff,
    columns, IntegrationEffortState.columns, landing, and_self]

/-- The guard demands of its effort what a legal step projects. -/
theorem Projected.demanded (projected : Projected db row prior written) :
    row.columns.projects written = some true := by
  refine projects_of_columns projected.columns fun waits => projected.keeps.2.2 ?_
  rw [waits]
  nofun

/-- The item that the store leaves when it commits the projection is what the statements write, and
the projection of its effort. -/
theorem Projected.committed (projected : Projected db row prior written) {done : Unit}
    (commits : (projectQueueState row row.state).Commits db done later) :
    ∃ item, later.items.find? row.itemId = some item ∧ written = item.row none prior.workspace ∧
      projectionMatches row item = true := by
  have demanded := projected.demanded
  rcases projected.stored with ⟨stored, promptId, workspace, found, -, rfl⟩
  rcases @projectQueueRow_of_commits row row.state db later done promptId workspace commits with
    ⟨before, item, selected, left, wrote⟩
  obtain rfl := Option.some_inj.mp (selected.symm.trans found)
  have same : written = item.row none workspace :=
    Option.some_inj.mp (projected.writes.symm.trans wrote)
  rw [same] at demanded
  exact ⟨item, left, same, (projects_row_iff.mp demanded).2⟩

/-- The guard accepts the projection of a legal step. -/
theorem Projected.guard (projected : Projected db row prior written)
    {efforts : List IntegrationEffort} (mem : row ∈ efforts) :
    queueEffortProjectionGuard (efforts.map IntegrationEffort.columns) prior written = false := by
  have owned := projected.demanded
  have same : row.columns.itemId = prior.id := projected.keeps.2.1.symm
  have found : ((efforts.map IntegrationEffort.columns).any fun effort =>
      effort.itemId == prior.id && (effort.projects written).holds) = true := by
    rw [List.any_eq_true]
    refine ⟨row.columns, List.mem_map_of_mem mem, ?_⟩
    simp [same, owned]
  unfold queueEffortProjectionGuard
  rw [found]
  simp

/-- What the landing column of a state can be. -/
theorem legacyLanding_cases (state : IntegrationEffortState) :
    state.legacyLanding = .ready ∧ state.projection.status ≠ .integrated ∨
    (∃ candidateSha ∈ state.landingIds, ∃ expectedSha ∈ state.landingIds,
      state.legacyLanding = .uncertain candidateSha expectedSha ∧
        (state.projection.status = .integrating ∨
          state.projection.status = .blocked ∧
            state.projection.blockedPhase = some .integrating)) ∨
    ∃ value, state = .integrated value := by
  cases state with
  | landingUncertain value =>
    exact .inr (.inl ⟨_, List.mem_cons_self, _, List.mem_cons_of_mem _ List.mem_cons_self, rfl,
      .inl rfl⟩)
  | integrated value => exact .inr (.inr ⟨value, rfl⟩)
  | infrastructureBlocked value | providerBlocked value =>
    rcases value with ⟨blocker, resume⟩
    cases resume with
    | landingUncertain value =>
      exact .inr (.inl ⟨_, List.mem_cons_self, _, List.mem_cons_of_mem _ List.mem_cons_self, rfl,
        .inr ⟨rfl, rfl⟩⟩)
    | _ => exact .inl ⟨rfl, nofun⟩
  | validating value =>
    rcases value with ⟨candidateSha, policyDigest, stage⟩
    cases stage <;> exact .inl ⟨rfl, nofun⟩
  | _ => exact .inl ⟨rfl, nofun⟩

/-- An object identifier passes the check of the landing trigger. -/
theorem isObjectId_extract {landing : Json} {key : String} (id : IsObjectId objectId)
    (named : landing.extract [key] = some objectId) : isObjectId landing key = some true := by
  rcases id with ⟨format, oid⟩
  unfold isObjectId
  rw [named, Truth.and_eq_true, Truth.not_eq_true, length_of_isHexadecimal oid,
    globOutsideHex_of_isHexadecimal oid]
  cases format <;> exact ⟨rfl, rfl⟩

/-- The landing trigger accepts the columns of a state that lands object identifiers. -/
theorem landing_accepts (columns : new.toLifecycleColumns = state.columns)
    (ids : ∀ objectId ∈ state.landingIds, IsObjectId objectId) :
    queueItemsLandingStateUpdate new = false := by
  apply Truth.not_holds_of_true
  simp only [columns, IntegrationEffortState.columns]
  rcases legacyLanding_cases state with ⟨ready, other⟩ |
    ⟨candidateSha, carried, expectedSha, expected, uncertain, status⟩ | ⟨value, rfl⟩
  · rw [Truth.or_eq_true, Truth.or_eq_true]
    refine .inl (.inl ?_)
    rw [ready, Truth.and_eq_true]
    refine ⟨rfl, ?_⟩
    have apart : state.projection.status.text ≠ "integrated" := fun same =>
      other (QueueStatus.text_injective same)
    simp [equals, Truth.not, apart]
  · rw [Truth.or_eq_true, Truth.or_eq_true]
    refine .inl (.inr ?_)
    rw [uncertain]
    simp only [Truth.and_eq_true, Truth.or_eq_true]
    refine ⟨⟨⟨rfl, ?_⟩, isObjectId_extract (ids _ carried) rfl⟩,
      isObjectId_extract (ids _ expected) rfl⟩
    rcases status with status | ⟨status, phase⟩
    · rw [status]
      exact .inl rfl
    · rw [status, phase]
      exact .inr ⟨rfl, rfl⟩
  · rw [Truth.or_eq_true]
    refine .inr ?_
    simp only [Truth.and_eq_true]
    refine ⟨⟨⟨rfl, rfl⟩, isObjectId_extract (ids _ List.mem_cons_self) rfl⟩, ?_⟩
    exact equals_some_iff.mpr rfl

/-- The workspace trigger accepts every status of an item that has its workspace. -/
theorem workspace_accepts {status : QueueStatus} (named : new.status = status.text)
    (retained : new.workspace.Retained) : queueItemsWorkspaceStateUpdate new = false := by
  apply Truth.not_holds_of_true
  simp only [Truth.or_eq_true, Truth.and_eq_true, isNull_eq_true, not_isNull_eq_true, named]
  refine .inl (.inr ⟨⟨⟨⟨retained.cleanedAt, retained.path⟩, retained.riftId⟩,
    retained.sourceRiftId⟩, ?_⟩)
  cases status <;> rfl

/-! ## The projection of every legal step -/

/-- The three triggers accept the write of an item from one row to another, whatever the efforts of
the other items are. -/
structure TriggersAccept (row : IntegrationEffort) (prior written : QueueRow) : Prop where
  guard : ∀ efforts : List IntegrationEffort, row ∈ efforts →
    queueEffortProjectionGuard (efforts.map IntegrationEffort.columns) prior written = false
  landing : queueItemsLandingStateUpdate written = false
  workspace : queueItemsWorkspaceStateUpdate written = false

/-- The three triggers accept the projection of every legal step onto an item that has its
workspace; a commit of the projection by the store leaves that row, which is the projection of the
effort; and the columns it writes are the same in every run that gives the effort that state. -/
theorem projection_accepted (projected : Projected db row prior written) :
    TriggersAccept row prior written ∧
      (∀ {done : Unit} {later : Database},
        (projectQueueState row row.state).Commits db done later →
          ∃ item, later.items.find? row.itemId = some item ∧
            written = item.row none prior.workspace ∧ projectionMatches row item = true) ∧
      ∀ {otherDb : Database} {other : IntegrationEffort} {otherPrior otherWritten : QueueRow},
        Projected otherDb other otherPrior otherWritten → other.state = row.state →
          otherWritten.toLifecycleColumns = written.toLifecycleColumns := by
  have columns := projected.columns
  refine ⟨⟨fun efforts mem => projected.guard mem, ?_, ?_⟩, fun commits =>
    projected.committed commits, fun others same => ?_⟩
  · refine landing_accepts columns fun objectId carried => ?_
    rcases projected.legal with ⟨effort, operation, after, mem, step, stored, checked⟩
    rcases step.followsIds stored objectId carried with brings | ⟨before, found, carried⟩
    · exact checked objectId brings
    · exact landingIds_of_reachable projected.reachable before
        (Database.view_effort_eq_some.mp found).1 objectId carried
  · have named : written.status = row.state.projection.status.text := by
      rw [columns]
      rfl
    refine workspace_accepts named ?_
    rcases projected.stored with ⟨item, promptId, workspace, -, retained, rfl⟩
    rw [projected.keeps.1]
    exact retained
  · rw [others.columns, columns, same]

namespace Sample

/-- The landing of the sample run before and after its release, with the row of its item. -/
def prepared : Database := Sample.after (gated ++ [Sample.landing])

/-- The release of the landing. -/
def releasing : Operation := .releaseLanding "effort" "command" (stampOf "released")

/-- The effort after the release. -/
def uncertain : IntegrationEffort :=
  ((store.step prepared releasing).efforts.find? "effort").get (by decide +kernel)

/-- The item before the release. -/
def preparedItem : QueueItem := (prepared.items.find? "item").get (by decide +kernel)

/-- The columns of a workspace that is kept. -/
def workspace : WorkspaceColumns := ⟨some "/workspace", some "rift", some "source", none⟩

/-- The sample's workspace is retained. -/
theorem workspace_retained : workspace.Retained := ⟨nofun, nofun, nofun, rfl⟩

/-- The item's row before the release. -/
def storedRow : QueueRow := preparedItem.row (some "prompt") workspace

/-- The item's row after the release. -/
def projectedRow : QueueRow :=
  (projectQueueRow uncertain uncertain.state storedRow).get (by decide +kernel)

/-- The effort before the release. -/
def preparedEffort : IntegrationEffort :=
  (prepared.efforts.find? "effort").get (by decide +kernel)

/-- The sample's row is projected. -/
theorem projected : Projected prepared uncertain storedRow projectedRow := by
  have item : prepared.items.find? uncertain.itemId = some preparedItem := by
    have same : uncertain.itemId = "item" := by decide +kernel
    rw [same]
    exact (Option.some_get _).symm
  have moved : preparedEffort.state.name ≠ uncertain.state.name := by decide +kernel
  exact ⟨reachable _, Database.legalStep_of_step (reachable _) (Option.some_get _).symm
    (Option.some_get _).symm moved, ⟨preparedItem, _, workspace, item, workspace_retained, rfl⟩,
    (Option.some_get _).symm⟩

end Sample

/-- The released landing of a sample run is projected with its candidate and target. -/
theorem projection_accepted_released :
    TriggersAccept Sample.uncertain Sample.storedRow Sample.projectedRow :=
  (projection_accepted Sample.projected).1

end Iq
