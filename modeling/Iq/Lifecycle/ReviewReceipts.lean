import Iq.Lifecycle.CandidateEvidence
import Iq.Lifecycle.Footprint

/-!
# Candidate review commands

The receipt ledger makes review commands exact: a command that has a receipt is answered from it,
and a command without one is applied only to the open review it names. A review that was decided
stays decided, so at most one command is ever applied to it; every other answer leaves the effort
and its candidate as they are.
-/

namespace Iq

open Library Library.Transaction

variable {db later : Database} {view after : EffortView} {effort : IntegrationEffort}
  {command : CandidateReviewCommand} {effortId : String} {responder : ResponderIdentity}
  {daemonUid : Nat} {stamp : Stamp} {receipt : CandidateReviewReceipt}

/-! ## Decided reviews -/

/-- A change of open reviews leaves a decided one. -/
theorem EffortView.mem_setReviews_of_decided {chosen : CandidateReviewRow → Bool}
    {status : ReviewStatus} {responder : Option ResponderIdentity} {text : Option String}
    {row : CandidateReviewRow} (opened : chosen row = true → row.status = .required)
    (mem : row ∈ view.reviews) (decided : row.status ≠ .required) :
    row ∈ (view.setReviews chosen status responder text).reviews := by
  have other : ¬chosen row = true := fun hit => decided (opened hit)
  exact List.mem_map.mpr ⟨row, mem, Table.rewrite_of_not_chosen other⟩

/-- A write of a state leaves the reviews. -/
theorem Writes.reviews {rejection : Option DefiniteLandingRejection} {before : EffortView}
    {row : IntegrationEffort} {state : IntegrationEffortState} {failedCycles : Nat}
    (writes : Writes rejection before row state failedCycles after) :
    after.reviews = before.reviews := by
  rw [writes.written]
  rfl

/-- A step never touches a decided review. -/
theorem EffortStep.keepsDecided {operation : Operation} (step : EffortStep operation view after)
    {row : CandidateReviewRow} (mem : row ∈ view.reviews) (decided : row.status ≠ .required) :
    row ∈ after.reviews := by
  cases step with
  | create | replace | surrenderCancelled | acknowledgeCancelled | deleteDebt => exact mem
  | acknowledgeLaunching launching surrendered fails => rwa [fails.writes.reviews]
  | acknowledgeRunning started fails => rwa [fails.writes.reviews]
  | reset launching fails => rwa [fails.writes.reviews]
  | prepare fresh ready within unused writes => rwa [writes.reviews]
  | surrender launching opened writes => rwa [writes.reviews]
  | started launching surrendered sameLaunch sameCycle sameUnit presented active writes =>
    rwa [writes.reviews]
  | result started writes => rwa [writes.reviews]
  | accept started same writes =>
    rw [writes.reviews]
    exact mem
  | @record view after effort building observation stamp reviews built same opened unopened writes =>
    rw [writes.reviews]
    change row ∈ reviews
    cases kind : building.classification with
    | semantic =>
      rw [(opened kind).2]
      exact List.mem_append_left _ mem
    | mechanical => rwa [unopened kind]
  | resetBuild built writes => rwa [writes.reviews]
  | startValidation ready writes => rwa [writes.reviews]
  | completeValidation validated writes => rwa [writes.reviews]
  | requireGuidance started same unopened writes => rwa [writes.reviews]
  | answer waiting applies writes => rwa [writes.reviews]
  | blockInfrastructure captured writes => rwa [writes.reviews]
  | blockProvider captured writes => rwa [writes.reviews]
  | consume active writes => rwa [writes.reviews]
  | reject candidate exact active writes => rwa [writes.reviews]
  | retryLimit limited writes => rwa [writes.reviews]
  | retry suspended writes => rwa [writes.reviews]
  | resumeProvider suspended writes => rwa [writes.reviews]
  | beginLanding validated writes => rwa [writes.reviews]
  | release prepared writes => rwa [writes.reviews]
  | integrate landed writes => rwa [writes.reviews]
  | markReplacement limited writes => rwa [writes.reviews]
  | @moveTarget view after effort targetSha previous rejection stamp movable captured writes =>
    rw [writes.reviews]
    unfold EffortView.supersedeReview
    split
    · exact EffortView.mem_setReviews_of_decided (by grind) mem decided
    · exact mem
  | recompose stored moving composed writes =>
    rw [writes.reviews]
    exact EffortView.mem_setReviews_of_decided (by grind) mem decided
  | approve decides decision writes =>
    rw [writes.reviews]
    exact EffortView.mem_setReviews_of_decided (by grind [EffortView.isOpenReview]) mem decided
  | requestChanges decides decision writes =>
    rw [writes.reviews]
    exact EffortView.mem_setReviews_of_decided (by grind [EffortView.isOpenReview]) mem decided
  | cancel free active owed writes =>
    rw [writes.reviews]
    exact EffortView.mem_setReviews_of_decided (by grind) mem decided

/-- A committed operation never touches a decided review. -/
theorem Operation.keepsDecided {operation : Operation} {outcome : Outcome} (sound : db.Sound)
    (commits : operation.transaction.Commits db outcome later) {row : CandidateReviewRow}
    (mem : row ∈ db.reviews) (decided : row.status ≠ .required) : row ∈ later.reviews := by
  have seen : row ∈ (db.view row.effortId).reviews := Database.mem_view_reviews.mpr ⟨mem, rfl⟩
  rcases operation.stepped sound commits row.effortId with same | step
  · rw [← same] at seen
    exact (Database.mem_view_reviews.mp seen).1
  · exact (Database.mem_view_reviews.mp (step.keepsDecided seen decided)).1

/-! ## The open review -/

/-- A written state has the rows it needs. -/
theorem Writes.related_of_effort {rejection : Option DefiniteLandingRejection} {before : EffortView}
    {row : IntegrationEffort} {state : IntegrationEffortState} {failedCycles : Nat}
    (writes : Writes rejection before row state failedCycles after)
    (found : after.effort = some effort) : after.Related effort := by
  rw [writes.effort] at found
  cases found
  exact writes.related

/-- An effort that waits for a review has the row of that review. -/
def EffortView.ReviewOpen (view : EffortView) : Prop :=
  ∀ effort review, view.effort = some effort → effort.state = .reviewRequired review →
    view.Related effort

/-- An effort in another state waits for no review. -/
theorem EffortView.reviewOpen_of_state (found : view.effort = some effort)
    (apart : effort.state.reviewRequired? = none) : view.ReviewOpen := by
  intro other review stored waiting
  cases found.symm.trans stored
  rw [IntegrationEffortState.reviewRequired?_eq_some.mpr waiting] at apart
  cases apart

/-- After a written state its review is open. -/
theorem Writes.reviewOpen {rejection : Option DefiniteLandingRejection} {before : EffortView}
    {row : IntegrationEffort} {state : IntegrationEffortState} {failedCycles : Nat}
    (writes : Writes rejection before row state failedCycles after) : after.ReviewOpen :=
  fun _ _ found _ => writes.related_of_effort found

/-- Every step leaves an effort that waits for a review with the row of that review. -/
theorem EffortStep.reviewOpen {operation : Operation} (step : EffortStep operation view after) :
    after.ReviewOpen := by
  cases step with
  | create absent idle composed => exact EffortView.reviewOpen_of_state rfl rfl
  | replace stored waiting another composed => exact EffortView.reviewOpen_of_state rfl rfl
  | surrenderCancelled stored ended owed requested =>
    exact EffortView.reviewOpen_of_state stored (by rw [ended]; rfl)
  | acknowledgeCancelled stored ended owed surrendered =>
    exact EffortView.reviewOpen_of_state stored (by rw [ended]; rfl)
  | deleteDebt stored ended owed =>
    exact EffortView.reviewOpen_of_state stored (by rw [ended]; rfl)
  | acknowledgeLaunching launching surrendered fails => exact fails.writes.reviewOpen
  | acknowledgeRunning started fails => exact fails.writes.reviewOpen
  | reset launching fails => exact fails.writes.reviewOpen
  | accept started same writes =>
    exact EffortView.reviewOpen_of_state writes.effort rfl
  | prepare | surrender | started | result | record | resetBuild | startValidation
  | completeValidation | requireGuidance | answer | blockInfrastructure | blockProvider | consume
  | reject | retryLimit | retry | resumeProvider | beginLanding | release | integrate | moveTarget
  | recompose | approve | requestChanges | cancel | markReplacement =>
    rename_i writes
    exact writes.reviewOpen

/-- Every reachable effort that waits for a review has the row of that review. -/
theorem reviewOpen_of_reachable (reachable : store.Reachable db) (effortId : String) :
    (db.view effortId).ReviewOpen :=
  view_invariant (by rintro _ _ ⟨⟩) (fun step _ _ _ => step.reviewOpen) reachable effortId

/-! ## Outcomes of a command -/

/-- A property of the reviews and their receipts alone. -/
class OfReviews (property : Database → Prop) : Prop where
  same : ∀ db later, later.reviews = db.reviews → later.reviewReceipts = db.reviewReceipts →
    property db → property later

variable {property : Database → Prop}

/-- A property of the reviews and their receipts ignores the other tables. -/
theorem OfReviews.ignores [quiet : OfReviews property] {table : TableName}
    (reviews : table ≠ .reviews) (receipts : table ≠ .reviewReceipts) :
    Ignores property table where
  keep db later same := by
    have elsewhere : (∀ now : Database, (now.without table).reviews = now.reviews) ∧
        ∀ now : Database, (now.without table).reviewReceipts = now.reviewReceipts := by
      cases table <;>
        first | exact absurd rfl reviews | exact absurd rfl receipts | exact ⟨fun _ => rfl, fun _ => rfl⟩
    exact quiet.same db later (Database.read_of_without elsewhere.1 same)
      (Database.read_of_without elsewhere.2 same)

section Instances

variable [OfReviews property]

instance OfReviews.ignoresEfforts : Ignores property .efforts := OfReviews.ignores nofun nofun

instance OfReviews.ignoresItems : Ignores property .items := OfReviews.ignores nofun nofun

instance OfReviews.ignoresAttempts : Ignores property .attempts := OfReviews.ignores nofun nofun

instance OfReviews.ignoresInvocations : Ignores property .invocations :=
  OfReviews.ignores nofun nofun

instance OfReviews.ignoresEvidence : Ignores property .evidence := OfReviews.ignores nofun nofun

instance OfReviews.ignoresEvents : Ignores property .events := OfReviews.ignores nofun nofun

end Instances

/-- A database with the given receipts and a review among its rows. -/
def Database.Holds (receipts : Table CandidateReviewReceiptRow.externalId)
    (row : CandidateReviewRow) (db : Database) : Prop :=
  db.reviewReceipts = receipts ∧ row ∈ db.reviews

instance {receipts : Table CandidateReviewReceiptRow.externalId} {row : CandidateReviewRow} :
    OfReviews (Database.Holds receipts row) where
  same _ _ reviews kept holds := ⟨kept.trans holds.1, reviews ▸ holds.2⟩

/-- Deciding the one open review that is chosen. -/
theorem spec_updateReviews {chosen : CandidateReviewRow → Bool} {status : ReviewStatus}
    {text : Option String}
    (commits : (updateReviews chosen status (some responder) text).Commits db 1 later)
    (decided : status ≠ .required) :
    ∃ row ∈ db.reviews, chosen row = true ∧ ∃ changed : CandidateReviewRow, changed.id = row.id ∧
      changed.status ≠ .required ∧ later.Holds db.reviewReceipts changed := by
  rcases commits_write.mp commits with ⟨one, rfl⟩
  have positive : 0 < db.reviews.count chosen := by
    rw [show db.reviews.count chosen = 1 from one]
    decide
  rcases Table.count_pos.mp positive with ⟨row, mem, hit⟩
  refine ⟨row, mem, hit, { row with
    status, responder := (some responder).or row.responder, reviewText := text.or row.reviewText },
    rfl, decided, rfl, ?_⟩
  simp only [Table.mem_update]
  exact ⟨row, mem, Table.rewrite_of_chosen hit⟩

/-- What an applied decision does to the reviews: it decides the open one that it names. -/
theorem spec_applyReview {review : CandidateReviewRequired} {state : IntegrationEffortState}
    (commits : (applyReview command effort review responder stamp).Commits db state later) :
    later.reviewReceipts = db.reviewReceipts ∧
      ∃ row ∈ db.reviews, row.id = review.reviewId ∧ row.status = .required ∧
        ∃ decided ∈ later.reviews, decided.id = row.id ∧ decided.status ≠ .required := by
  have opened : ∀ {row : CandidateReviewRow}, (row.id == review.reviewId &&
      row.effortId == effort.id && row.status == .required) = true →
      row.id = review.reviewId ∧ row.status = .required := by
    intro row hit
    simp only [Bool.and_eq_true, beq_iff_eq] at hit
    exact ⟨hit.1.1, hit.2⟩
  cases decision : command.decision with
  | approve text =>
    simp only [applyReview, decision, commits_pure_bind] at commits
    rcases commits_bind.mp commits with ⟨changed, first, reviews, rest⟩
    rw [commits_require_bind] at rest
    simp only [reduceCtorEq, if_false] at rest
    rcases rest with ⟨rfl, rest⟩
    rcases spec_updateReviews reviews (by decide) with
      ⟨row, mem, hit, decided, same, settled, holds⟩
    have kept : later.Holds db.reviewReceipts decided := by
      refine Preserves.of_commits ?_ holds rest
      iterate 2 refine preserves_bind (by simp) fun _ => ?_
      exact preserves_pure
    exact ⟨kept.1, row, mem, (opened hit).1, (opened hit).2, decided, kept.2, same, settled⟩
  | requestChanges text =>
    simp only [applyReview, decision, commits_nextCycleNumber_bind, if_true] at commits
    rcases commits_bind.mp commits.2 with ⟨changed, first, reviews, rest⟩
    rw [commits_require_bind] at rest
    rcases rest with ⟨rfl, rest⟩
    rcases spec_updateReviews reviews (by decide) with
      ⟨row, mem, hit, decided, same, settled, holds⟩
    have kept : later.Holds db.reviewReceipts decided := by
      refine Preserves.of_commits ?_ holds rest
      iterate 2 refine preserves_bind (by simp) fun _ => ?_
      refine preserves_bind ignores_updateAttempts fun _ => ?_
      iterate 2 refine preserves_bind (by simp) fun _ => ?_
      exact preserves_pure
    exact ⟨kept.1, row, mem, (opened hit).1, (opened hit).2, decided, kept.2, same, settled⟩

/-- The ledger row of a command. -/
def CandidateReviewCommand.ledgerRow (command : CandidateReviewCommand)
    (responder : ResponderIdentity) (receipt : CandidateReviewReceipt) :
    CandidateReviewReceiptRow :=
  ⟨command.externalId, command.effortId, command, responder, receipt⟩

/-- What one call does: it answers from the ledger, records a refusal, or applies a decision. -/
inductive ReviewOutcome (db : Database) (command : CandidateReviewCommand) (effortId : String)
    (responder : ResponderIdentity) (daemonUid : Nat) (stamp : Stamp) :
    CandidateReviewReceipt → Database → Prop where
  | replayed {stored : CandidateReviewReceiptRow}
      (found : db.reviewReceipts.find? command.externalId = some stored)
      (same : command = stored.command ∧ responder = stored.responder) :
      ReviewOutcome db command effortId responder daemonUid stamp stored.receipt db
  | conflicted {stored : CandidateReviewReceiptRow}
      (found : db.reviewReceipts.find? command.externalId = some stored)
      (differs : ¬(command = stored.command ∧ responder = stored.responder)) :
      ReviewOutcome db command effortId responder daemonUid stamp
        ⟨command, conflictingDisposition stored command responder, none⟩ db
  | recorded {disposition : AnswerDisposition}
      {receipts : Table CandidateReviewReceiptRow.externalId}
      (fresh : db.reviewReceipts.find? command.externalId = none)
      (refused : disposition ≠ .applied)
      (inserted : db.reviewReceipts.insert?
        (command.ledgerRow responder ⟨command, disposition, none⟩) = some receipts) :
      ReviewOutcome db command effortId responder daemonUid stamp ⟨command, disposition, none⟩
        { db with reviewReceipts := receipts }
  | decided {effort : IntegrationEffort} {item : QueueItem} {review : CandidateReviewRequired}
      {state : IntegrationEffortState} {middle : Database}
      {receipts : Table CandidateReviewReceiptRow.externalId}
      (fresh : db.reviewReceipts.find? command.externalId = none)
      (stored : db.efforts.find? effortId = some effort)
      (queued : db.items.find? effort.itemId = some item)
      (decides : Decides command effort review responder daemonUid)
      (names : command.matchesReview effort item.targetRef review = true)
      (applies : (applyReview command effort review responder stamp).Commits db state middle)
      (inserted : middle.reviewReceipts.insert?
        (command.ledgerRow responder ⟨command, .applied, some state.name.text⟩) = some receipts) :
      ReviewOutcome db command effortId responder daemonUid stamp
        ⟨command, .applied, some state.name.text⟩ { middle with reviewReceipts := receipts }

/-- A receipt is inserted under a free key. -/
theorem spec_insertReviewReceipt {value : CandidateReviewReceipt}
    (commits : (insertReviewReceipt command responder receipt).Commits db value later) :
    value = receipt ∧ ∃ receipts,
      db.reviewReceipts.insert? (command.ledgerRow responder receipt) = some receipts ∧
        later = { db with reviewReceipts := receipts } := by
  simp only [insertReviewReceipt, commits_lookup_bind, commits_write] at commits
  rcases commits with ⟨receipts, inserted, rfl, rfl⟩
  exact ⟨rfl, receipts, inserted, rfl⟩

/-- Every call has one of these outcomes. -/
theorem reviewCandidateForEffort_outcome
    (commits : (reviewCandidateForEffort command effortId responder daemonUid stamp).Commits db
      receipt later) :
    ReviewOutcome db command effortId responder daemonUid stamp receipt later := by
  simp only [reviewCandidateForEffort, commits_query_bind] at commits
  split at commits
  · rename_i stored found
    rw [commits_ite] at commits
    rcases commits with ⟨same, answered⟩ | ⟨differs, answered⟩
    · rcases commits_pure.mp answered with ⟨rfl, rfl⟩
      exact .replayed found same
    · rcases commits_pure.mp answered with ⟨rfl, rfl⟩
      exact .conflicted found differs
  · rename_i fresh
    simp only [effortObjectFormat, commits_requiredEffort_bind, commits_lookup_bind,
      commits_itemObjectFormat_bind, commits_ite, commits_expect_bind,
      IntegrationEffortState.reviewRequired?_eq_some] at commits
    rcases commits with ⟨effort, stored, -, item, queued, policy, -, ⟨applies, review, waiting,
      rest⟩ | ⟨refused, rest⟩⟩
    · rcases commits_bind.mp rest with ⟨state, middle, apply, insert⟩
      rcases spec_insertReviewReceipt insert with ⟨rfl, receipts, inserted, rfl⟩
      rcases CandidateReviewCommand.disposition_eq_applied.mp applies with
        ⟨authorized, -, wellFormed, named, open', names⟩
      cases waiting.symm.trans open'
      exact .decided fresh stored queued ⟨waiting, authorized, wellFormed, _, names⟩ names apply
        inserted
    · rcases spec_insertReviewReceipt rest with ⟨rfl, receipts, inserted, rfl⟩
      exact .recorded fresh refused inserted

/-- A command whose external identity has a receipt is answered without a change. -/
theorem commits_of_receipt {stored : CandidateReviewReceiptRow}
    (found : db.reviewReceipts.find? command.externalId = some stored) :
    (reviewCandidateForEffort command effortId responder daemonUid stamp).Commits db
      (if command = stored.command ∧ responder = stored.responder then stored.receipt
        else ⟨command, conflictingDisposition stored command responder, none⟩) db := by
  simp only [reviewCandidateForEffort, commits_query_bind, found, commits_ite, commits_pure]
  split_ifs with same
  · exact .inl ⟨same, rfl, trivial⟩
  · exact .inr ⟨same, rfl, trivial⟩

/-- A conflicting command is not applied. -/
theorem conflictingDisposition_ne_applied {stored : CandidateReviewReceiptRow} :
    conflictingDisposition stored command responder ≠ .applied := by
  unfold conflictingDisposition
  split_ifs <;> nofun

/-! ## The ledger over runs -/

/-- An operation that does not write the ledger leaves it. -/
theorem Operation.keepsReceipts {operation : Operation} {outcome : Outcome}
    (outside : .reviewReceipts ∉ operation.footprint)
    (commits : operation.transaction.Commits db outcome later) :
    later.reviewReceipts = db.reviewReceipts := by
  have quiet : operation.transaction.Preserves fun now =>
      now.reviewReceipts = db.reviewReceipts := by
    refine Operation.preserves fun table mem => .of_ignores ⟨fun now next same kept => ?_⟩
    have elsewhere : ∀ now : Database, (now.without table).reviewReceipts = now.reviewReceipts := by
      cases table with
      | reviewReceipts => exact absurd mem outside
      | _ => exact fun _ => rfl
    exact (Database.read_of_without elsewhere same).trans kept
  exact quiet.of_commits rfl commits

/-- A review command is a review operation of the store. -/
theorem commits_reviewCandidate {outcome : Outcome} :
    (Operation.reviewCandidate command effortId responder daemonUid stamp).transaction.Commits db
        outcome later ↔
      ∃ receipt, (reviewCandidateForEffort command effortId responder daemonUid stamp).Commits db
        receipt later ∧ .reviewed receipt = outcome :=
  commits_map

/-- A call leaves the receipts it finds. -/
theorem ReviewOutcome.keepsReceipt
    (outcome : ReviewOutcome db command effortId responder daemonUid stamp receipt later)
    {externalId : String} {stored : CandidateReviewReceiptRow}
    (found : db.reviewReceipts.find? externalId = some stored) :
    later.reviewReceipts.find? externalId = some stored := by
  have kept : ∀ {row : CandidateReviewReceiptRow}
      {receipts : Table CandidateReviewReceiptRow.externalId},
      db.reviewReceipts.find? row.externalId = none →
      db.reviewReceipts.insert? row = some receipts → receipts.find? externalId = some stored := by
    intro row receipts fresh inserted
    rw [Table.find?_of_insert? _ inserted]
    split_ifs with same
    · rw [same, found] at fresh
      cases fresh
    · exact found
  cases outcome with
  | replayed | conflicted => exact found
  | recorded fresh refused inserted => exact kept fresh inserted
  | decided fresh stored queued decides names applies inserted =>
    rw [(spec_applyReview applies).1] at inserted
    exact kept fresh inserted

/-- A receipt is kept by every operation. -/
theorem receipt_of_step {externalId : String} {stored : CandidateReviewReceiptRow}
    (found : db.reviewReceipts.find? externalId = some stored) (operation : Operation) :
    (store.step db operation).reviewReceipts.find? externalId = some stored := by
  rcases settle_cases operation.transaction db with same | ⟨outcome, commits⟩
  · rwa [store_step, same]
  · rw [store_step]
    cases operation with
    | reviewCandidate =>
      rcases commits_reviewCandidate.mp commits with ⟨receipt, called, -⟩
      exact (reviewCandidateForEffort_outcome called).keepsReceipt found
    | _ => rwa [Operation.keepsReceipts (by simp [Operation.footprint, stateTables]) commits]

/-- A receipt is kept by every run. -/
theorem receipt_of_run {externalId : String} {stored : CandidateReviewReceiptRow}
    (found : db.reviewReceipts.find? externalId = some stored) (operations : List Operation) :
    (store.run db operations).reviewReceipts.find? externalId = some stored := by
  have rule := @Machine.run_keeps _ _ store fun now =>
    now.reviewReceipts.find? externalId = some stored
  exact rule (fun _ operation held => receipt_of_step held operation) found operations

/-- What the ledger says about the reviews: an applied receipt names a decided review, and no two
name the same one. -/
structure Database.ExactLedger (db : Database) : Prop where
  settled : ∀ stored ∈ db.reviewReceipts, stored.receipt.disposition = .applied →
    ∃ row ∈ db.reviews, row.id = stored.command.reviewId ∧ row.status ≠ .required
  single : ∀ stored ∈ db.reviewReceipts, ∀ other ∈ db.reviewReceipts,
    stored.receipt.disposition = .applied → other.receipt.disposition = .applied →
    stored.command.reviewId = other.command.reviewId → stored = other

/-- The ledger stays exact when reviews stay decided and no receipt is added. -/
theorem Database.ExactLedger.of_same (exact : db.ExactLedger)
    (receipts : later.reviewReceipts = db.reviewReceipts)
    (kept : ∀ row ∈ db.reviews, row.status ≠ .required → row ∈ later.reviews) :
    later.ExactLedger where
  settled stored mem applied := by
    rw [receipts] at mem
    rcases exact.settled stored mem applied with ⟨row, found, named, decided⟩
    exact ⟨row, kept row found decided, named, decided⟩
  single stored mem other mem' := by
    rw [receipts] at mem mem'
    exact exact.single stored mem other mem'

/-- The ledger stays exact when a receipt is added, unless it claims a review that has one. -/
theorem Database.ExactLedger.of_insert (exact : db.ExactLedger) {row : CandidateReviewReceiptRow}
    (inserted : db.reviewReceipts.insert? row = some later.reviewReceipts)
    (kept : ∀ review ∈ db.reviews, review.status ≠ .required → review ∈ later.reviews)
    (claims : row.receipt.disposition = .applied →
      (∃ review ∈ later.reviews, review.id = row.command.reviewId ∧ review.status ≠ .required) ∧
        ∃ review ∈ db.reviews, review.id = row.command.reviewId ∧ review.status = .required) :
    later.ExactLedger := by
  have unclaimed : ∀ stored ∈ db.reviewReceipts, stored.receipt.disposition = .applied →
      row.receipt.disposition = .applied → stored.command.reviewId ≠ row.command.reviewId := by
    intro stored mem applied claimed same
    rcases exact.settled stored mem applied with ⟨review, found, named, decided⟩
    rcases (claims claimed).2 with ⟨opened, found', named', required⟩
    have one : review = opened := Table.eq_of_key found found' (named.trans (same.trans named'.symm))
    exact decided (one ▸ required)
  constructor
  · intro stored mem applied
    rcases (Table.mem_of_insert? inserted).mp mem with old | rfl
    · rcases exact.settled stored old applied with ⟨review, found, named, decided⟩
      exact ⟨review, kept review found decided, named, decided⟩
    · exact (claims applied).1
  · intro stored mem other mem' applied applied' same
    rcases (Table.mem_of_insert? inserted).mp mem with old | rfl
    · rcases (Table.mem_of_insert? inserted).mp mem' with old' | rfl
      · exact exact.single stored old other old' applied applied' same
      · exact absurd same (unclaimed stored old applied applied')
    · rcases (Table.mem_of_insert? inserted).mp mem' with old' | rfl
      · exact absurd same.symm (unclaimed other old' applied' applied)
      · rfl

/-- A call keeps the ledger exact. -/
theorem ReviewOutcome.exactLedger
    (outcome : ReviewOutcome db command effortId responder daemonUid stamp receipt later)
    (exact : db.ExactLedger)
    (kept : ∀ row ∈ db.reviews, row.status ≠ .required → row ∈ later.reviews) :
    later.ExactLedger := by
  cases outcome with
  | replayed | conflicted => exact exact
  | recorded fresh refused inserted =>
    exact exact.of_insert inserted kept fun applied => absurd applied refused
  | decided fresh stored queued decides names applies inserted =>
    rcases spec_applyReview applies with ⟨receipts, row, mem, named, required, settled⟩
    rcases settled with ⟨decided, there, same, closed⟩
    have id : row.id = command.reviewId := by
      simp only [CandidateReviewCommand.matchesReview, Bool.and_eq_true, beq_iff_eq] at names
      exact named.trans names.1.1.1.1.1.1.2
    rw [receipts] at inserted
    refine exact.of_insert inserted kept fun _ => ⟨⟨decided, there, ?_, closed⟩, row, mem, id, required⟩
    exact same.trans id

/-- Every reachable ledger is exact. -/
theorem exactLedger_of_reachable (reachable : store.Reachable db) : db.ExactLedger := by
  have rule := @Machine.Reachable.invariant_of_reachable _ _ store Database.ExactLedger
  refine rule ?_ ?_ reachable
  · intro start initial
    constructor
    · intro stored mem
      rw [initial.reviewReceipts] at mem
      exact absurd mem (Table.not_mem_empty stored)
    · intro stored mem
      rw [initial.reviewReceipts] at mem
      exact absurd mem (Table.not_mem_empty stored)
  · intro now operation reached exact
    rcases settle_cases operation.transaction now with same | ⟨outcome, commits⟩
    · rwa [store_step, same]
    · rw [store_step]
      have kept : ∀ row ∈ now.reviews, row.status ≠ .required →
          row ∈ (operation.transaction.settle now).reviews := fun _ mem decided =>
        operation.keepsDecided (sound_of_reachable reached) commits mem decided
      cases operation with
      | reviewCandidate =>
        rcases commits_reviewCandidate.mp commits with ⟨receipt, called, -⟩
        exact (reviewCandidateForEffort_outcome called).exactLedger exact kept
      | _ =>
        have receipts := Operation.keepsReceipts (by simp [Operation.footprint, stateTables]) commits
        exact exact.of_same receipts kept

/-! ## Review commands are exact -/

/-- A command of a responder has a receipt in the ledger. -/
def Database.Receipted (db : Database) (command : CandidateReviewCommand)
    (responder : ResponderIdentity) (receipt : CandidateReviewReceipt) : Prop :=
  ∃ stored, db.reviewReceipts.find? command.externalId = some stored ∧
    stored.command = command ∧ stored.responder = responder ∧ stored.receipt = receipt

/-- The open review of an effort, which a command names in every respect. -/
structure Database.NamesOpenReview (db : Database) (command : CandidateReviewCommand)
    (effortId : String) (effort : IntegrationEffort) (item : QueueItem) (row : CandidateReviewRow) :
    Prop where
  stored : db.efforts.find? effortId = some effort
  queued : db.items.find? effort.itemId = some item
  opened : row ∈ db.reviews
  required : row.status = .required
  waiting : effort.state = .reviewRequired ⟨row.id, row.cycleId, row.candidateSha⟩
  reviewId : row.id = command.reviewId
  sameEffort : effort.id = command.effortId ∧ row.effortId = command.effortId
  sameAttempt : effort.attemptId = command.attemptId ∧ row.attemptId = command.attemptId
  cycleId : row.cycleId = command.cycleId
  targetRef : item.targetRef = command.targetRef
  sameTarget : effort.targetSha = command.targetSha ∧ row.targetSha = command.targetSha
  sameSource : effort.sourceSha = command.sourceSha ∧ row.sourceSha = command.sourceSha
  candidateSha : row.candidateSha = command.candidateSha

/-- A decision that is applied is applied to the open review it names. -/
theorem names_of_decides {item : QueueItem} {review : CandidateReviewRequired}
    (reachable : store.Reachable db) (stored : db.efforts.find? effortId = some effort)
    (queued : db.items.find? effort.itemId = some item) (waiting : effort.state = .reviewRequired review)
    (names : command.matchesReview effort item.targetRef review = true) :
    ∃ row, db.NamesOpenReview command effortId effort item row := by
  have related := reviewOpen_of_reachable reachable effortId effort review stored waiting
  unfold EffortView.Related at related
  rw [waiting] at related
  rcases related with ⟨-, row, seen, named, attempt, cycle, target, source, candidate, required⟩
  rcases Database.mem_view_reviews.mp seen with ⟨mem, owned⟩
  have id : effort.id = effortId := Database.id_of_view_effort stored
  simp only [CandidateReviewCommand.matchesReview, Bool.and_eq_true, beq_iff_eq] at names
  rcases names with ⟨⟨⟨⟨⟨⟨⟨sameEffort, reviewId⟩, sameAttempt⟩, cycleId⟩, targetRef⟩, sameTarget⟩,
    sameSource⟩, candidateSha⟩
  refine ⟨row, stored, queued, mem, required, ?_, named.trans reviewId,
    ⟨sameEffort, owned.trans (id.symm.trans sameEffort)⟩,
    ⟨sameAttempt, attempt.trans sameAttempt⟩, cycle.trans cycleId, targetRef,
    ⟨sameTarget, target.trans sameTarget⟩, ⟨sameSource, source.trans sameSource⟩,
    candidate.trans candidateSha⟩
  rw [waiting, named, cycle, candidate]

/-- What a review command does in a database, at this moment and later. -/
structure Database.ExactCommand (db : Database) (command : CandidateReviewCommand)
    (effortId : String) (responder : ResponderIdentity) (daemonUid : Nat) (stamp : Stamp) :
    Prop where
  /-- A command that has a receipt is answered with it at any later time, without a change. -/
  replays : ∀ receipt, db.Receipted command responder receipt → ∀ operations,
    (reviewCandidateForEffort command effortId responder daemonUid stamp).Commits
      (store.run db operations) receipt (store.run db operations)
  /-- A call whose external identity has no receipt leaves one. -/
  receipted : ∀ receipt later, db.reviewReceipts.find? command.externalId = none →
    (reviewCandidateForEffort command effortId responder daemonUid stamp).Commits db receipt later →
    later.Receipted command responder receipt
  /-- An external identity that is in use is refused to another command or responder. -/
  conflicts : ∀ stored, db.reviewReceipts.find? command.externalId = some stored →
    ¬(stored.command = command ∧ stored.responder = responder) →
    ∃ receipt, receipt.disposition ≠ .applied ∧
      (reviewCandidateForEffort command effortId responder daemonUid stamp).Commits db receipt db
  /-- A call that applies names the open review and is authorised. -/
  applies : ∀ receipt later, db.reviewReceipts.find? command.externalId = none →
    (reviewCandidateForEffort command effortId responder daemonUid stamp).Commits db receipt later →
    receipt.disposition = .applied → ∃ effort item row,
      db.NamesOpenReview command effortId effort item row ∧
        isAuthorizedResponder effort responder daemonUid = true
  /-- After a call was applied, a call on its review that is applied again is its resubmission. -/
  once : ∀ receipt later,
    (reviewCandidateForEffort command effortId responder daemonUid stamp).Commits db receipt later →
    receipt.disposition = .applied → ∀ operations other otherEffortId otherResponder otherUid
      otherStamp answer final, other.reviewId = command.reviewId →
    (reviewCandidateForEffort other otherEffortId otherResponder otherUid otherStamp).Commits
      (store.run later operations) answer final → answer.disposition = .applied →
    other = command ∧ otherResponder = responder ∧ answer = receipt ∧
      final = store.run later operations
  /-- A call that does not apply changes the ledger only. -/
  contained : (¬∃ receipt later, receipt.disposition = .applied ∧
      (reviewCandidateForEffort command effortId responder daemonUid stamp).Commits db receipt
        later) →
    ∃ reviewReceipts, (reviewCandidateForEffort command effortId responder daemonUid stamp).settle
      db = { db with reviewReceipts }

/-- The receipt of a call that is applied is in the ledger. -/
theorem ReviewOutcome.receipted
    (outcome : ReviewOutcome db command effortId responder daemonUid stamp receipt later)
    (recorded : db.reviewReceipts.find? command.externalId = none ∨
      receipt.disposition = .applied) : later.Receipted command responder receipt := by
  cases outcome with
  | replayed found same => exact ⟨_, found, same.1.symm, same.2.symm, rfl⟩
  | conflicted found differs =>
    rcases recorded with fresh | applied
    · rw [found] at fresh
      cases fresh
    · exact absurd applied conflictingDisposition_ne_applied
  | recorded fresh refused inserted =>
    refine ⟨command.ledgerRow responder _, ?_, rfl, rfl, rfl⟩
    exact (Table.find?_of_insert? _ inserted).trans (if_pos rfl)
  | decided fresh stored queued decides names applies inserted =>
    refine ⟨command.ledgerRow responder _, ?_, rfl, rfl, rfl⟩
    exact (Table.find?_of_insert? _ inserted).trans (if_pos rfl)

/-- A call that does not apply changes the ledger only. -/
theorem ReviewOutcome.contained
    (outcome : ReviewOutcome db command effortId responder daemonUid stamp receipt later)
    (refused : receipt.disposition ≠ .applied) :
    ∃ reviewReceipts, later = { db with reviewReceipts } := by
  cases outcome with
  | replayed | conflicted => exact ⟨db.reviewReceipts, rfl⟩
  | recorded => exact ⟨_, rfl⟩
  | decided => exact absurd rfl refused

/-- A call that commits is a step of the store. -/
theorem reachable_of_call (reachable : store.Reachable db)
    (called : (reviewCandidateForEffort command effortId responder daemonUid stamp).Commits db
      receipt later) : store.Reachable later := by
  have commits := commits_reviewCandidate.mpr ⟨receipt, called, rfl⟩
  have step := reachable.step (.reviewCandidate command effortId responder daemonUid stamp)
  rwa [store_step, settle_of_commits commits] at step

/-- Once a review has an applied receipt, a call on it is applied only by that receipt. -/
theorem ReviewOutcome.eq_of_receipted {other : CandidateReviewCommand}
    {otherResponder : ResponderIdentity} {answer : CandidateReviewReceipt}
    (outcome : ReviewOutcome db other effortId otherResponder daemonUid stamp answer later)
    (exact : db.ExactLedger) (receipted : db.Receipted command responder receipt)
    (applied : receipt.disposition = .applied) (again : answer.disposition = .applied)
    (same : other.reviewId = command.reviewId) :
    other = command ∧ otherResponder = responder ∧ answer = receipt ∧ later = db := by
  rcases receipted with ⟨stored, found, rfl, rfl, rfl⟩
  have mem := (Table.find?_eq_some.mp found).1
  cases outcome with
  | @replayed stored' found' same' =>
    have mem' := (Table.find?_eq_some.mp found').1
    have one : stored' = stored :=
      exact.single stored' mem' stored mem again applied (by rw [← same'.1]; exact same)
    rw [← one]
    exact ⟨same'.1, same'.2, rfl, rfl⟩
  | conflicted => exact absurd again conflictingDisposition_ne_applied
  | recorded fresh refused => exact absurd again refused
  | decided fresh there queued decides names applies =>
    -- The open review it names was decided by the applied receipt.
    rcases spec_applyReview applies with ⟨-, row, opened, named, required, -⟩
    rcases exact.settled stored mem applied with ⟨decided, closed, id, settled⟩
    simp only [CandidateReviewCommand.matchesReview, Bool.and_eq_true, beq_iff_eq] at names
    have reviewId : row.id = other.reviewId := named.trans names.1.1.1.1.1.1.2
    have one : decided = row :=
      Table.eq_of_key closed opened (id.trans (same.symm.trans reviewId.symm))
    exact absurd (one ▸ required) settled

/-- Review commands are exact in every reachable database: a retry is answered with its receipt, a
reused identity is refused, one command at most is applied to a review, which it names in every
respect, and every other call leaves all but the ledger. -/
theorem review_commands_exact (reachable : store.Reachable db) :
    db.ExactCommand command effortId responder daemonUid stamp where
  replays receipt receipted operations := by
    rcases receipted with ⟨stored, found, rfl, rfl, rfl⟩
    have answered := @commits_of_receipt _ stored.command effortId stored.responder daemonUid stamp _
      (receipt_of_run found operations)
    rwa [if_pos ⟨rfl, rfl⟩] at answered
  receipted receipt later fresh called :=
    (reviewCandidateForEffort_outcome called).receipted (.inl fresh)
  conflicts stored found differs := by
    have answered := @commits_of_receipt _ command effortId responder daemonUid stamp _ found
    rw [if_neg fun same => differs ⟨same.1.symm, same.2.symm⟩] at answered
    exact ⟨_, conflictingDisposition_ne_applied, answered⟩
  applies receipt later fresh called applied := by
    cases reviewCandidateForEffort_outcome called with
    | replayed found | conflicted found =>
      rw [fresh] at found
      cases found
    | recorded fresh refused => exact absurd applied refused
    | decided fresh stored queued decides names =>
      rcases names_of_decides reachable stored queued decides.waiting names with ⟨row, open'⟩
      exact ⟨_, _, row, open', decides.authorized⟩
  once receipt later called applied operations other otherEffortId otherResponder otherUid otherStamp
      answer final same again appliedAgain := by
    have receipted := (reviewCandidateForEffort_outcome called).receipted (.inr applied)
    rcases receipted with ⟨stored, found, rest⟩
    have held : (store.run later operations).Receipted command responder receipt :=
      ⟨stored, receipt_of_run found operations, rest⟩
    have exact := exactLedger_of_reachable ((reachable_of_call reachable called).run operations)
    exact (reviewCandidateForEffort_outcome again).eq_of_receipted exact held applied appliedAgain
      same
  contained unapplied := by
    rcases settle_cases (reviewCandidateForEffort command effortId responder daemonUid stamp) db with
      same | ⟨receipt, called⟩
    · exact ⟨db.reviewReceipts, same⟩
    · have refused : receipt.disposition ≠ .applied :=
        fun applied => unapplied ⟨receipt, _, applied, called⟩
      exact (reviewCandidateForEffort_outcome called).contained refused

namespace Sample

/-- A candidate of a conflicted composition waits for its review. -/
def reviewing : List Operation := created (.conflicted digest) .direct ++ built 1

/-- The approval of that candidate. -/
def approval : CandidateReviewCommand := reviewCommand 1 "approve" (.approve none)

/-- The owner of the daemon submits the approval. -/
def approve : Tx CandidateReviewReceipt :=
  reviewCandidateForEffort approval "effort" (.localPeer 0) 0 (stampOf "approve")

/-- The sample's approval is applied. -/
theorem approve_applies :
    ∃ receipt later, approve.Commits (Sample.after reviewing) receipt later ∧
      receipt.disposition = .applied := by
  have applied : (approve (Sample.after reviewing)).toOption.map (fun outcome => outcome.1.disposition) =
      some .applied := by decide +kernel
  cases called : approve (Sample.after reviewing) with
  | error reason =>
    rw [called] at applied
    cases applied
  | ok outcome =>
    rw [called] at applied
    exact ⟨outcome.1, outcome.2, called, Option.some_inj.mp applied⟩

end Sample

/-- Review commands are exact while the approval of a semantic candidate is outstanding. -/
theorem review_commands_exact_reviewing :
    (Sample.after Sample.reviewing).ExactCommand Sample.approval "effort" (.localPeer 0) 0
      (Sample.stampOf "approve") :=
  review_commands_exact (Sample.reachable Sample.reviewing)

/-- More than one call is applied to a review: an approval and its resubmission. -/
theorem review_applied_again :
    ¬∀ (db later final : Database) (operations : List Operation)
      (first second : CandidateReviewCommand) (effortId otherEffortId : String)
      (responder otherResponder : ResponderIdentity) (daemonUid otherUid : Nat)
      (stamp otherStamp : Stamp) (receipt answer : CandidateReviewReceipt),
      store.Reachable db → second.reviewId = first.reviewId →
      (reviewCandidateForEffort first effortId responder daemonUid stamp).Commits db receipt later →
      (reviewCandidateForEffort second otherEffortId otherResponder otherUid otherStamp).Commits
        (store.run later operations) answer final →
      ¬(receipt.disposition = .applied ∧ answer.disposition = .applied) := by
  intro once
  rcases Sample.approve_applies with ⟨receipt, later, called, applied⟩
  rcases (reviewCandidateForEffort_outcome called).receipted (.inr applied) with
    ⟨stored, found, same, responded, answered⟩
  have again := @commits_of_receipt _ Sample.approval "effort" (.localPeer 0) 0
    (Sample.stampOf "again") _ found
  rw [if_pos ⟨same.symm, responded.symm⟩, answered] at again
  exact once _ _ _ [] _ _ _ _ _ _ _ _ _ _ _ _ (Sample.reachable Sample.reviewing) rfl called again
    ⟨applied, applied⟩

end Iq
