import Iq.Lifecycle.CycleLimit
import Iq.Lifecycle.Footprint

/-!
# Answers to guidance requests

An answer is applied at most once to a guidance request. A request that was closed stays closed, an
effort waits for guidance with the row of its request, and an external identity that has a receipt
is answered without a change. What is not applied leaves everything but the ledger.
-/

namespace Iq

open Library Library.Transaction

variable {db later : Database} {view after : EffortView} {effort : IntegrationEffort}
  {command : AnswerCommand} {effortId : String} {responder : ResponderIdentity}
  {daemonUid : Nat} {stamp : Stamp} {disposition : AnswerDisposition} {row : GuidanceRequest}

/-! ## Closed requests -/

/-- A change of open requests leaves a closed one. -/
theorem EffortView.mem_setGuidance_of_closed {chosen : GuidanceRequest → Bool}
    {status : GuidanceStatus} (opened : chosen row = true → row.status = .open)
    (mem : row ∈ view.guidance) (closed : row.status ≠ .open) :
    row ∈ (view.setGuidance chosen status).guidance := by
  have other : ¬chosen row = true := fun hit => closed (opened hit)
  exact List.mem_map.mpr ⟨row, mem, Table.rewrite_of_not_chosen other⟩

/-- A write of a state leaves the requests. -/
theorem Writes.guidance {rejection : Option DefiniteLandingRejection} {before : EffortView}
    {written : IntegrationEffort} {state : IntegrationEffortState} {failedCycles : Nat}
    (writes : Writes rejection before written state failedCycles after) :
    after.guidance = before.guidance := by
  rw [writes.written]
  rfl

/-- A step never touches a closed request. -/
theorem EffortStep.keepsClosed {operation : Operation} (step : EffortStep operation view after)
    (mem : row ∈ view.guidance) (closed : row.status ≠ .open) : row ∈ after.guidance := by
  cases step with
  | create | replace | surrenderCancelled | acknowledgeCancelled | deleteDebt => exact mem
  | acknowledgeLaunching launching surrendered fails => rwa [fails.writes.guidance]
  | acknowledgeRunning started fails => rwa [fails.writes.guidance]
  | reset launching fails => rwa [fails.writes.guidance]
  | accept started same writes =>
    rw [writes.guidance]
    exact mem
  | requireGuidance started same unopened writes =>
    rw [writes.guidance]
    exact List.mem_append_left _ mem
  | answer waiting applies writes =>
    rw [writes.guidance]
    exact EffortView.mem_setGuidance_of_closed (by grind) mem closed
  | cancel free active owed writes =>
    rw [writes.guidance]
    exact EffortView.mem_setGuidance_of_closed (by grind) mem closed
  | moveTarget movable captured writes =>
    rw [writes.guidance]
    unfold EffortView.supersedeReview
    split
    · exact mem
    · exact mem
  | prepare | surrender | started | result | record | resetBuild | startValidation
  | completeValidation | blockInfrastructure | blockProvider | consume | reject | retryLimit | retry
  | resumeProvider | beginLanding | release | integrate | recompose | approve | requestChanges
  | markReplacement =>
    rename_i writes
    rw [writes.guidance]
    exact mem

/-- A committed operation never touches a closed request. -/
theorem Operation.keepsClosed {operation : Operation} {outcome : Outcome} (sound : db.Sound)
    (commits : operation.transaction.Commits db outcome later) (mem : row ∈ db.guidance)
    (closed : row.status ≠ .open) : row ∈ later.guidance := by
  have seen : row ∈ (db.view row.effortId).guidance := by
    simpa [Database.view] using mem
  have after : row ∈ (later.view row.effortId).guidance := by
    rcases operation.stepped sound commits row.effortId with same | step
    · rw [same]
      exact seen
    · exact step.keepsClosed seen closed
  exact (Table.mem_select.mp after).1

/-- A closed request stays in every run. -/
theorem closed_of_run (reachable : store.Reachable db) (mem : row ∈ db.guidance)
    (closed : row.status ≠ .open) (operations : List Operation) :
    row ∈ (store.run db operations).guidance := by
  have rule := @Machine.run_keeps _ _ store fun now => store.Reachable now ∧ row ∈ now.guidance
  refine (rule ?_ ⟨reachable, mem⟩ operations).2
  rintro now operation ⟨reached, held⟩
  refine ⟨reached.step operation, ?_⟩
  rcases settle_cases operation.transaction now with same | ⟨outcome, commits⟩
  · rw [store_step, same]
    exact held
  · rw [store_step]
    exact operation.keepsClosed (sound_of_reachable reached) commits held closed

/-! ## The open request -/

/-- An effort that waits for guidance has the row of its request, which is open. -/
def EffortView.GuidanceOpen (view : EffortView) : Prop :=
  ∀ effort guidance, view.effort = some effort → effort.state.guidance? = some guidance →
    ⟨guidance.requestId, effort.id, guidance.identity.cycleId, guidance, .open⟩ ∈ view.guidance

/-- An effort in another state waits for no guidance. -/
theorem EffortView.guidanceOpen_of_state (found : view.effort = some effort)
    (apart : effort.state.guidance? = none) : view.GuidanceOpen := by
  intro other guidance stored waiting
  obtain rfl := Option.some_inj.mp (found.symm.trans stored)
  rw [apart] at waiting
  cases waiting

/-- A written state that asks nothing needs no open request. -/
theorem Writes.guidanceOpen_of_state {rejection : Option DefiniteLandingRejection}
    {before : EffortView} {written : IntegrationEffort} {state : IntegrationEffortState}
    {failedCycles : Nat} (writes : Writes rejection before written state failedCycles after)
    (apart : state.guidance? = none) : after.GuidanceOpen :=
  EffortView.guidanceOpen_of_state writes.effort apart

/-- The state after a failure asks nothing. -/
theorem EffortView.guidance?_failedState {cycleId eventId : String} {failure : CycleFailure}
    {count next : Nat} : (view.failedState cycleId failure count next eventId).guidance? = none := by
  unfold EffortView.failedState EffortView.limitState
  split <;> rfl

/-- The state of a built candidate asks nothing. -/
theorem CandidateBuilding.guidance?_candidateState (building : CandidateBuilding)
    {candidateSha reviewId : String} :
    (building.candidateState candidateSha reviewId).guidance? = none := by
  unfold CandidateBuilding.candidateState
  split <;> rfl

/-- No suspended state asks for guidance. -/
theorem ResumeState.guidance?_restore (resume : ResumeState) : resume.restore.guidance? = none := by
  cases resume <;> rfl

/-- Every step leaves an effort that waits for guidance with the row of its request. -/
theorem EffortStep.guidanceOpen {operation : Operation} (step : EffortStep operation view after) :
    after.GuidanceOpen := by
  cases step with
  | create absent idle composed => exact EffortView.guidanceOpen_of_state rfl rfl
  | replace stored waiting another composed => exact EffortView.guidanceOpen_of_state rfl rfl
  | surrenderCancelled stored ended owed requested =>
    exact EffortView.guidanceOpen_of_state stored (by rw [ended]; rfl)
  | acknowledgeCancelled stored ended owed surrendered =>
    exact EffortView.guidanceOpen_of_state stored (by rw [ended]; rfl)
  | deleteDebt stored ended owed =>
    exact EffortView.guidanceOpen_of_state stored (by rw [ended]; rfl)
  | acknowledgeLaunching launching surrendered fails =>
    exact fails.writes.guidanceOpen_of_state rfl
  | acknowledgeRunning started fails => exact fails.writes.guidanceOpen_of_state rfl
  | reset launching fails => exact fails.writes.guidanceOpen_of_state rfl
  | accept started same writes => exact EffortView.guidanceOpen_of_state writes.effort rfl
  | requireGuidance started same unopened writes =>
    intro waiting guidance found required
    rw [writes.effort] at found
    cases found
    cases required
    rw [writes.guidance, same]
    exact List.mem_append_right _ (List.mem_singleton_self _)
  | record built same opened unopened writes =>
    exact writes.guidanceOpen_of_state (CandidateBuilding.guidance?_candidateState _)
  | consume active writes =>
    exact writes.guidanceOpen_of_state EffortView.guidance?_failedState
  | reject candidate exact active writes =>
    exact writes.guidanceOpen_of_state EffortView.guidance?_failedState
  | retry suspended writes =>
    exact writes.guidanceOpen_of_state (ResumeState.guidance?_restore _)
  | resumeProvider suspended writes =>
    exact writes.guidanceOpen_of_state (ResumeState.guidance?_restore _)
  | prepare | surrender | started | result | resetBuild | startValidation | completeValidation
  | answer | blockInfrastructure | blockProvider | retryLimit | beginLanding | release | integrate
  | moveTarget | recompose | approve | requestChanges | cancel | markReplacement =>
    rename_i writes
    exact writes.guidanceOpen_of_state rfl

/-- Every reachable effort that waits for guidance has the open row of its request. -/
theorem guidanceOpen_of_reachable (reachable : store.Reachable db) (effortId : String) :
    (db.view effortId).GuidanceOpen :=
  view_invariant (by rintro _ _ ⟨⟩) (fun step _ _ _ => step.guidanceOpen) reachable effortId

/-! ## Outcomes of an answer -/

/-- The answers are the given ones. -/
def Database.HasAnswers (answers : Table AnswerReceipt.externalId) (db : Database) : Prop :=
  db.answers = answers

/-- The answers are read from their table only. -/
theorem Database.HasAnswers.ignores {answers : Table AnswerReceipt.externalId} {table : TableName}
    (apart : table ≠ .answers) : Ignores (Database.HasAnswers answers) table where
  keep now next same held := by
    have elsewhere : ∀ now : Database, (now.without table).answers = now.answers := by
      cases table <;> first | exact absurd rfl apart | exact fun _ => rfl
    exact (Database.read_of_without elsewhere same).trans held

/-- An applied answer leaves the ledger as it is. -/
theorem answers_of_applyAnswer {done : Unit}
    (commits : (applyAnswer command effort stamp).Commits db done later) :
    later.answers = db.answers := by
  have events := @Database.HasAnswers.ignores db.answers .events nofun
  have guidance := @Database.HasAnswers.ignores db.answers .guidance nofun
  have efforts := @Database.HasAnswers.ignores db.answers .efforts nofun
  have items := @Database.HasAnswers.ignores db.answers .items nofun
  have kept : (applyAnswer command effort stamp).Preserves (Database.HasAnswers db.answers) :=
    preserves_applyAnswer
  exact kept.of_commits rfl commits

/-- An operation that does not write the ledger leaves it. -/
theorem Operation.keepsAnswers {operation : Operation} {outcome : Outcome}
    (outside : .answers ∉ operation.footprint)
    (commits : operation.transaction.Commits db outcome later) : later.answers = db.answers := by
  have kept : operation.transaction.Preserves (Database.HasAnswers db.answers) :=
    Operation.preserves fun table mem => .of_ignores <| Database.HasAnswers.ignores <| by
      rintro rfl
      exact outside mem
  exact kept.of_commits rfl commits

/-- The receipt of an answer. -/
def AnswerCommand.receipt (command : AnswerCommand) (effort : IntegrationEffort)
    (responder : ResponderIdentity) (disposition : AnswerDisposition) (stamp : Stamp) :
    AnswerReceipt :=
  ⟨command.externalId, effort.id, command.requestId, responder, command.answer, disposition,
    stamp.now⟩

/-- A receipt is inserted under a free key. -/
theorem commits_insertAnswerReceipt {value : AnswerDisposition} :
    (insertAnswerReceipt command effort responder disposition stamp).Commits db value later ↔
      value = disposition ∧ ∃ answers,
        db.answers.insert? (command.receipt effort responder disposition stamp) = some answers ∧
          later = { db with answers } := by
  simp only [insertAnswerReceipt, commits_lookup_bind, commits_write, AnswerCommand.receipt]
  constructor
  · rintro ⟨answers, inserted, same, rfl⟩
    exact ⟨same.symm, answers, inserted, rfl⟩
  · rintro ⟨same, answers, inserted, rfl⟩
    exact ⟨answers, inserted, same.symm, rfl⟩

/-- What one answer does: it finds a receipt, records a refusal, or is applied. -/
inductive AnswerOutcome (db : Database) (command : AnswerCommand) (effortId : String)
    (responder : ResponderIdentity) (daemonUid : Nat) (stamp : Stamp) :
    AnswerDisposition → Database → Prop where
  | duplicate {stored : AnswerReceipt}
      (found : db.answers.find? command.externalId = some stored) :
      AnswerOutcome db command effortId responder daemonUid stamp .duplicate db
  | recorded {effort : IntegrationEffort} {disposition : AnswerDisposition}
      {answers : Table AnswerReceipt.externalId}
      (fresh : db.answers.find? command.externalId = none)
      (stored : db.efforts.find? effortId = some effort)
      (decided : command.disposition effort responder daemonUid = disposition)
      (refused : disposition ≠ .applied)
      (inserted : db.answers.insert? (command.receipt effort responder disposition stamp) =
        some answers) :
      AnswerOutcome db command effortId responder daemonUid stamp disposition { db with answers }
  | applied {effort : IntegrationEffort} {middle : Database}
      {answers : Table AnswerReceipt.externalId}
      (fresh : db.answers.find? command.externalId = none)
      (stored : db.efforts.find? effortId = some effort)
      (decided : command.disposition effort responder daemonUid = .applied)
      (applies : (applyAnswer command effort stamp).Commits db () middle)
      (inserted : db.answers.insert? (command.receipt effort responder .applied stamp) =
        some answers) :
      AnswerOutcome db command effortId responder daemonUid stamp .applied { middle with answers }

/-- Every answer has one of these outcomes. -/
theorem answerForEffort_outcome
    (commits : (answerForEffort command effortId responder daemonUid stamp).Commits db disposition
      later) : AnswerOutcome db command effortId responder daemonUid stamp disposition later := by
  simp only [answerForEffort, commits_query_bind, commits_ite, commits_pure,
    commits_requiredEffort_bind, commits_requireItemObligation_bind] at commits
  rcases commits with ⟨present, rfl, rfl⟩ | ⟨absent, effort, stored, -, -, ⟨decided, rest⟩ |
    ⟨refused, rest⟩⟩
  · obtain ⟨stored, found⟩ := Option.isSome_iff_exists.mp present
    exact .duplicate found
  · have fresh : db.answers.find? command.externalId = none := by simpa using absent
    obtain ⟨⟨⟩, middle, applies, insert⟩ := commits_bind.mp rest
    obtain ⟨same, answers, inserted, rfl⟩ := commits_insertAnswerReceipt.mp insert
    rw [decided] at same inserted
    subst same
    rw [answers_of_applyAnswer applies] at inserted
    exact .applied fresh stored decided applies inserted
  · have fresh : db.answers.find? command.externalId = none := by simpa using absent
    obtain ⟨rfl, answers, inserted, rfl⟩ := commits_insertAnswerReceipt.mp rest
    exact .recorded fresh stored rfl refused inserted

/-- An answer whose external identity has a receipt is a duplicate. -/
theorem commits_of_answered {stored : AnswerReceipt}
    (found : db.answers.find? command.externalId = some stored) :
    (answerForEffort command effortId responder daemonUid stamp).Commits db .duplicate db := by
  simp only [answerForEffort, commits_query_bind, found, Option.isSome_some, if_true, commits_pure]
  trivial

/-- An answer is an operation of the store. -/
theorem commits_answer {outcome : Outcome} :
    (Operation.answer command effortId responder daemonUid stamp).transaction.Commits db outcome
        later ↔
      ∃ disposition, (answerForEffort command effortId responder daemonUid stamp).Commits db
        disposition later ∧ .answered disposition = outcome :=
  commits_map

/-- A receipt that is there stays. -/
theorem AnswerOutcome.keepsReceipt {externalId : String} {stored : AnswerReceipt}
    (outcome : AnswerOutcome db command effortId responder daemonUid stamp disposition later)
    (found : db.answers.find? externalId = some stored) :
    later.answers.find? externalId = some stored := by
  have kept : ∀ {receipt : AnswerReceipt} {answers : Table AnswerReceipt.externalId},
      db.answers.insert? receipt = some answers → answers.find? externalId = some stored := by
    intro receipt answers inserted
    obtain ⟨mem, named⟩ := Table.find?_eq_some.mp found
    rw [Table.find?_of_insert? _ inserted, if_neg]
    · exact found
    · rintro rfl
      exact Table.fresh_of_insert? inserted mem named
  cases outcome with
  | duplicate => exact found
  | recorded fresh there decided refused inserted => exact kept inserted
  | applied fresh there decided applies inserted => exact kept inserted

/-- A receipt is kept by every run. -/
theorem answered_of_run {externalId : String} {stored : AnswerReceipt}
    (found : db.answers.find? externalId = some stored) (operations : List Operation) :
    (store.run db operations).answers.find? externalId = some stored := by
  have rule := @Machine.run_keeps _ _ store fun now => now.answers.find? externalId = some stored
  refine rule (fun now operation held => ?_) found operations
  rcases settle_cases operation.transaction now with same | ⟨outcome, commits⟩
  · rw [store_step, same]
    exact held
  · rw [store_step]
    cases operation with
    | answer =>
      obtain ⟨disposition, answered, -⟩ := commits_answer.mp commits
      exact (answerForEffort_outcome answered).keepsReceipt held
    | _ =>
      rw [Operation.keepsAnswers (by simp [Operation.footprint, stateTables]) commits]
      exact held

/-! ## Applied answers -/

/-- An answer that names the open guidance request of its effort in every respect. -/
structure Database.NamesOpenRequest (db : Database) (command : AnswerCommand) (effortId : String)
    (effort : IntegrationEffort) (guidance : SemanticGuidanceBlocker) : Prop where
  stored : db.efforts.find? effortId = some effort
  waiting : effort.state.guidance? = some guidance
  opened : ⟨command.requestId, command.effortId, command.cycleId, guidance, .open⟩ ∈ db.guidance
  requestId : guidance.requestId = command.requestId
  sameEffort : effort.id = command.effortId
  attemptId : guidance.identity.attemptId = command.attemptId
  cycleId : guidance.identity.cycleId = command.cycleId
  targetSha : guidance.identity.targetSha = command.targetSha
  sourceSha : guidance.identity.sourceSha = command.sourceSha
  candidateSha : guidance.identity.candidateSha = command.candidateSha

/-- What an answer changes when it is applied: its request is answered, and its effort is ready for
the next cycle. -/
structure Database.Answered (db : Database) (command : AnswerCommand)
    (effort : IntegrationEffort) (guidance : SemanticGuidanceBlocker) (later : Database) : Prop where
  ready : ∃ next, later.efforts.find? effort.id = some { effort with state := .agentReady ⟨next⟩ }
  closed : ⟨command.requestId, command.effortId, command.cycleId, guidance, .answered⟩ ∈
    later.guidance

/-- An answer that is decided to be applied names the open request of its effort. -/
theorem names_of_applied (reachable : store.Reachable db)
    (stored : db.efforts.find? effortId = some effort)
    (decided : command.disposition effort responder daemonUid = .applied) :
    isAuthorizedResponder effort responder daemonUid = true ∧
      ∃ guidance, db.NamesOpenRequest command effortId effort guidance := by
  obtain ⟨authorized, -, -, guidance, waiting, names⟩ :=
    AnswerCommand.disposition_eq_applied.mp decided
  simp only [AnswerCommand.matchesGuidance, Bool.and_eq_true, beq_iff_eq] at names
  obtain ⟨⟨⟨⟨⟨⟨sameEffort, requestId⟩, attemptId⟩, cycleId⟩, targetSha⟩, sourceSha⟩, candidateSha⟩ :=
    names
  have seen := guidanceOpen_of_reachable reachable effortId effort guidance stored waiting
  have opened := (Table.mem_select.mp seen).1
  rw [requestId, sameEffort, cycleId] at opened
  exact ⟨authorized, guidance, stored, waiting, opened, requestId, sameEffort, attemptId, cycleId,
    targetSha, sourceSha, candidateSha⟩

/-- An answer that is applied closes its request and makes its effort ready. -/
theorem answered_of_applyAnswer {guidance : SemanticGuidanceBlocker} {done : Unit}
    (names : db.NamesOpenRequest command effortId effort guidance)
    (applies : (applyAnswer command effort stamp).Commits db done later) :
    db.Answered command effort guidance later := by
  have id : effort.id = effortId := Database.id_of_view_effort names.stored
  have stored : db.efforts.find? effort.id = some effort := by
    rw [id]
    exact names.stored
  have writes := (applyAnswer_writes stored applies).2
  refine ⟨⟨_, writes.effort⟩, ?_⟩
  have seen : ⟨command.requestId, command.effortId, command.cycleId, guidance, .answered⟩ ∈
      (later.view effort.id).guidance := by
    rw [writes.guidance]
    refine List.mem_map.mpr ⟨⟨command.requestId, command.effortId, command.cycleId, guidance,
      .open⟩, ?_, ?_⟩
    · exact Table.mem_select.mpr ⟨names.opened, beq_iff_eq.mpr names.sameEffort.symm⟩
    · exact Table.rewrite_of_chosen (by simp [names.sameEffort])
  exact (Table.mem_select.mp seen).1

/-- What an answer does in a database, at this moment and later. -/
structure Database.ExactAnswer (db : Database) (command : AnswerCommand) (effortId : String)
    (responder : ResponderIdentity) (daemonUid : Nat) (stamp : Stamp) : Prop where
  /-- An answer whose external identity has a receipt is a duplicate at any later time, and changes
  nothing. -/
  retries : ∀ stored, db.answers.find? command.externalId = some stored → ∀ operations,
    (answerForEffort command effortId responder daemonUid stamp).Commits (store.run db operations)
      .duplicate (store.run db operations)
  /-- An answer whose external identity has no receipt leaves one with its disposition. -/
  receipted : ∀ disposition later, db.answers.find? command.externalId = none →
    (answerForEffort command effortId responder daemonUid stamp).Commits db disposition later →
    ∃ stored, later.answers.find? command.externalId = some stored ∧
      stored.disposition = disposition
  /-- An answer that is applied comes from an authorised responder and names the open request of
  its effort, which it closes; its effort becomes ready. -/
  applies : ∀ later, (answerForEffort command effortId responder daemonUid stamp).Commits db
      .applied later →
    ∃ effort guidance, isAuthorizedResponder effort responder daemonUid = true ∧
      db.NamesOpenRequest command effortId effort guidance ∧
      db.Answered command effort guidance later
  /-- After an answer was applied, no answer to its request is applied again. -/
  once : ∀ later, (answerForEffort command effortId responder daemonUid stamp).Commits db .applied
      later → ∀ operations other otherEffortId otherResponder otherUid otherStamp final,
    other.requestId = command.requestId →
    ¬(answerForEffort other otherEffortId otherResponder otherUid otherStamp).Commits
      (store.run later operations) .applied final
  /-- An answer that is not applied changes the ledger only. -/
  contained : (¬∃ later, (answerForEffort command effortId responder daemonUid stamp).Commits db
      .applied later) →
    ∃ answers, (answerForEffort command effortId responder daemonUid stamp).settle db =
      { db with answers }

/-- An answer that commits is a step of the store. -/
theorem reachable_of_answer (reachable : store.Reachable db)
    (called : (answerForEffort command effortId responder daemonUid stamp).Commits db disposition
      later) : store.Reachable later := by
  have commits := commits_answer.mpr ⟨disposition, called, rfl⟩
  have step := reachable.step (.answer command effortId responder daemonUid stamp)
  rw [store_step, settle_of_commits commits] at step
  exact step

/-- An answer that is applied, with the request that it names. -/
theorem spec_answer_applied (reachable : store.Reachable db)
    (called : (answerForEffort command effortId responder daemonUid stamp).Commits db .applied
      later) :
    ∃ effort guidance, isAuthorizedResponder effort responder daemonUid = true ∧
      db.NamesOpenRequest command effortId effort guidance ∧
      db.Answered command effort guidance later := by
  generalize same : AnswerDisposition.applied = disposition at called
  cases answerForEffort_outcome called with
  | duplicate => cases same
  | recorded fresh stored decided refused => exact absurd same.symm refused
  | @applied effort middle answers fresh stored decided applies inserted =>
    obtain ⟨authorized, guidance, names⟩ := names_of_applied reachable stored decided
    have answered := answered_of_applyAnswer names applies
    exact ⟨effort, guidance, authorized, names, answered.ready, answered.closed⟩

/-- Answers are exact in every reachable database: a retry changes nothing, one answer at most is
applied to a request, which it names in every respect, and every other answer leaves all but the
ledger. -/
theorem answers_exact (reachable : store.Reachable db) :
    db.ExactAnswer command effortId responder daemonUid stamp where
  retries stored found operations := commits_of_answered (answered_of_run found operations)
  receipted disposition later fresh called := by
    cases answerForEffort_outcome called with
    | duplicate found =>
      rw [fresh] at found
      cases found
    | recorded fresh stored decided refused inserted =>
      exact ⟨_, (Table.find?_of_insert? _ inserted).trans (if_pos rfl), rfl⟩
    | applied fresh stored decided applies inserted =>
      exact ⟨_, (Table.find?_of_insert? _ inserted).trans (if_pos rfl), rfl⟩
  applies later called := spec_answer_applied reachable called
  once later called operations other otherEffortId otherResponder otherUid otherStamp final same
      again := by
    obtain ⟨effort, guidance, -, names, answered⟩ := spec_answer_applied reachable called
    have reached := reachable_of_answer reachable called
    -- The request that the first answer closed stays closed, and the second one would need it open.
    have closed := closed_of_run reached answered.closed nofun operations
    obtain ⟨_, _, -, opened, -⟩ := spec_answer_applied (reached.run operations) again
    have one := Table.eq_of_key closed opened.opened same.symm
    injection one with _ _ _ _ status
    cases status
  contained unapplied := by
    rcases settle_cases (answerForEffort command effortId responder daemonUid stamp) db with
      same | ⟨disposition, called⟩
    · exact ⟨db.answers, same⟩
    · generalize (answerForEffort command effortId responder daemonUid stamp).settle db = later
        at called
      cases answerForEffort_outcome called with
      | duplicate => exact ⟨db.answers, rfl⟩
      | recorded => exact ⟨_, rfl⟩
      | applied => exact absurd ⟨_, called⟩ unapplied

namespace Sample

/-- The first cycle asks for guidance. -/
def asking : List Operation :=
  created (.conflicted digest) .direct ++ started 1 ++
    [.requireGuidance "effort" (guidance 1) (stampOf "guidance")]

/-- The answer to that request. -/
def reply : AnswerCommand where
  externalId := "answer"
  requestId := "request"
  effortId := "effort"
  attemptId := "attempt"
  cycleId := cycleId 1
  targetSha := targetSha
  sourceSha := sourceSha
  candidateSha := none
  answer := "answer"

/-- The owner of the daemon answers. -/
def answered : List Operation :=
  asking ++ [.answer reply "effort" (.localPeer 0) 0 (stampOf "answer")]

end Sample

/-- Answers are exact after the request of the sample cycle was answered. -/
theorem answers_exact_answered :
    (Sample.after Sample.answered).ExactAnswer Sample.reply "effort" (.localPeer 0) 0
      (Sample.stampOf "again") :=
  answers_exact (Sample.reachable Sample.answered)

/-- The retry of an answer that was applied is not answered with the recorded disposition. -/
theorem retried_answer_is_duplicate :
    ∃ stored, store.Reachable (Sample.after Sample.answered) ∧
      (Sample.after Sample.answered).answers.find? Sample.reply.externalId = some stored ∧
      stored.disposition = .applied ∧
      ¬∃ later, (answerForEffort Sample.reply "effort" (.localPeer 0) 0
        (Sample.stampOf "again")).Commits (Sample.after Sample.answered) stored.disposition
          later := by
  have found : (Sample.after Sample.answered).answers.find? Sample.reply.externalId =
      some ⟨"answer", "effort", "request", .localPeer 0, "answer", .applied, "now"⟩ := by
    decide +kernel
  refine ⟨_, Sample.reachable _, found, rfl, ?_⟩
  rintro ⟨later, called⟩
  have retried := @commits_of_answered _ Sample.reply "effort" (.localPeer 0) 0
    (Sample.stampOf "again") _ found
  have one := called.symm.trans retried
  injection one with one
  cases one

end Iq
