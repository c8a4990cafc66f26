import Iq.Store.Candidate

/-!
# Blocking, failing and retrying

The transactions that suspend an effort, consume a failed cycle, reject a candidate, and bring a
blocked effort back: guidance with its answer, infrastructure and provider blocks, the automatic
cycle limit, and the explicit retry.
-/

namespace Iq

open Library Library.Transaction

/-! ## Guidance -/

/-- `INSERT INTO guidance_requests` with its unique index and foreign key. -/
def insertGuidance (row : GuidanceRequest) : Tx Unit := do
  let cycle ← query fun db => db.cycles.any fun cycle =>
    cycle.id == row.cycleId && cycle.effortId == row.effortId
  require (cycle = true) (.constraint (.foreignKey "guidance_requests"))
  let open' ← query fun db => db.guidance.any fun other =>
    other.effortId == row.effortId && other.status == .open
  require (open' = false) (.constraint (.unique "one_open_guidance_per_effort"))
  let guidance ← lookup (fun db => db.guidance.insert? row)
    (.constraint (.unique "guidance_requests"))
  write fun db => ((), { db with guidance })

/-- `require_guidance`. -/
def requireGuidance (effortId : String) (guidance : SemanticGuidanceBlocker) (stamp : Stamp) :
    Tx Unit := do
  let effort ← requiredEffort effortId
  let running ← expect effort.state.agentRunning?
    (.refused "guidance requires agent_running effort")
  require (guidance.identity.cycleId = running.cycleId)
    (.refused "guidance identity differs from running cycle")
  let count := effort.failedCycles + 1
  let _ ← updateCycles (fun row => row.id == running.cycleId && row.status == .running)
    .guidanceRequired none
  insertGuidance ⟨guidance.requestId, effortId, running.cycleId, guidance, .open⟩
  let next ← nextCycleNumber effortId
  let state := .guidanceRequired ⟨.semanticGuidance guidance, .agentReady ⟨next⟩⟩
  updateStateAndCount effort state count
  appendEvent effort stamp.eventId "guidance_required" (.state state) true

/-- Who may answer an effort: the local owner of a local effort, or an allowed provider actor. -/
def isAuthorizedResponder (effort : IntegrationEffort) (responder : ResponderIdentity)
    (daemonUid : Nat) : Bool :=
  match responder with
  | .localPeer uid => uid == daemonUid && effort.stateRepository == .local
  | .provider actor => effort.stateRepository.permitsActor actor

/-- Whether an answer names exactly the open guidance request of an effort. -/
def AnswerCommand.matchesGuidance (command : AnswerCommand) (effort : IntegrationEffort)
    (guidance : SemanticGuidanceBlocker) : Bool :=
  effort.id == command.effortId && guidance.requestId == command.requestId &&
    guidance.identity.attemptId == command.attemptId &&
    guidance.identity.cycleId == command.cycleId &&
    guidance.identity.targetSha == command.targetSha &&
    guidance.identity.sourceSha == command.sourceSha &&
    guidance.identity.candidateSha == command.candidateSha

/-- The guidance request that an effort waits for. -/
def IntegrationEffortState.guidance? : IntegrationEffortState → Option SemanticGuidanceBlocker
  | .guidanceRequired ⟨.semanticGuidance guidance, _⟩ => some guidance
  | _ => none

/-- The question of an effort that waits for guidance. -/
theorem IntegrationEffortState.guidance?_eq_some {state : IntegrationEffortState}
    {guidance : SemanticGuidanceBlocker} (waiting : state.guidance? = some guidance) :
    ∃ resume, state = .guidanceRequired ⟨.semanticGuidance guidance, resume⟩ := by
  unfold guidance? at waiting
  split at waiting
  · cases waiting
    exact ⟨_, rfl⟩
  · cases waiting

/-- The disposition of an answer before it is applied. -/
def AnswerCommand.disposition (command : AnswerCommand) (effort : IntegrationEffort)
    (responder : ResponderIdentity) (daemonUid : Nat) : AnswerDisposition :=
  if isAuthorizedResponder effort responder daemonUid = false then .unauthorized
  else if isBlank command.answer ∨ ¬isTrimmed command.answer then .malformed
  else if effort.state.guidance?.any (command.matchesGuidance effort) then .applied
  else .stale

/-- An answer is applied exactly when its responder is authorised, its text is well formed and the
effort waits for the request it names. -/
theorem AnswerCommand.disposition_eq_applied {command : AnswerCommand} {effort : IntegrationEffort}
    {responder : ResponderIdentity} {daemonUid : Nat} :
    command.disposition effort responder daemonUid = .applied ↔
      isAuthorizedResponder effort responder daemonUid = true ∧ isBlank command.answer = false ∧
        isTrimmed command.answer = true ∧ ∃ guidance, effort.state.guidance? = some guidance ∧
          command.matchesGuidance effort guidance = true := by
  rw [← Option.any_eq_true]
  unfold disposition
  split_ifs <;> grind

/-- What an applied answer does to its guidance request and its effort. -/
def applyAnswer (command : AnswerCommand) (effort : IntegrationEffort) (stamp : Stamp) :
    Tx Unit := do
  let next ← nextCycleNumber effort.id
  let answered ← updateGuidance (fun row => row.id == command.requestId &&
    row.effortId == effort.id && row.status == .open) .answered
  require (answered = 1) (.refused "open guidance request authority changed before answer")
  updateState effort (.agentReady ⟨next⟩)
  appendEvent effort stamp.eventId "answer_applied"
    (.fields [("request_id", .text command.requestId)]) false

/-- Store the receipt of an answer and return its disposition. -/
def insertAnswerReceipt (command : AnswerCommand) (effort : IntegrationEffort)
    (responder : ResponderIdentity) (disposition : AnswerDisposition) (stamp : Stamp) :
    Tx AnswerDisposition := do
  let answers ← lookup (fun db => db.answers.insert?
      ⟨command.externalId, effort.id, command.requestId, responder, command.answer, disposition,
        stamp.now⟩)
    (.constraint (.unique "answer_receipts"))
  write fun db => (disposition, { db with answers })

/-- `answer_for_effort`. -/
def answerForEffort (command : AnswerCommand) (effortId : String) (responder : ResponderIdentity)
    (daemonUid : Nat) (stamp : Stamp) : Tx AnswerDisposition := do
  let existing ← query fun db => db.answers.find? command.externalId
  if existing.isSome then
    pure .duplicate
  else do
    let effort ← requiredEffort effortId
    requireItemObligation effort.itemId
    let disposition := command.disposition effort responder daemonUid
    if disposition = .applied then applyAnswer command effort stamp
    insertAnswerReceipt command effort responder disposition stamp

/-! ## Suspension -/

/-- `block_infrastructure`. -/
def blockInfrastructure (effortId : String) (blocker : InfrastructureBlocker) (stamp : Stamp) :
    Tx Unit := do
  let effort ← requiredEffort effortId
  let resume ← expect (ResumeState.capture? effort.state)
    (.refused "effort state cannot be suspended for external repair")
  let state := .infrastructureBlocked ⟨.infrastructure blocker, resume⟩
  updateState effort state
  appendEvent effort stamp.eventId "infrastructure_blocked" (.state state) true

/-- `block_provider`. -/
def blockProvider (effortId : String) (blocker : ProviderSignoffBlocker) (stamp : Stamp) :
    Tx Unit := do
  let effort ← requiredEffort effortId
  let resume ← expect (ResumeState.capture? effort.state)
    (.refused "effort state cannot be suspended for external repair")
  let state := .providerBlocked ⟨.providerSignoff blocker, resume⟩
  updateState effort state
  appendEvent effort stamp.eventId "provider_blocked" (.state state) true

/-! ## Failed cycles -/

/-- The blocked state of the tenth failed cycle. -/
def cycleLimitState (db : Database) (effortId cycleId : String) (failure : CycleFailure)
    (count next : Nat) (eventId : String) : IntegrationEffortState :=
  .cycleLimitBlocked ⟨.cycleLimit ⟨count, cycleIds db effortId cycleId, failure, eventId⟩,
    .agentReady ⟨next⟩⟩

/-- The state after a failed cycle: blocked at the limit, otherwise ready for the next cycle. -/
def failedState (db : Database) (effortId cycleId : String) (failure : CycleFailure)
    (count next : Nat) (eventId : String) : IntegrationEffortState :=
  if count = automaticCycleLimit then
    cycleLimitState db effortId cycleId failure count next eventId
  else
    .agentReady ⟨next⟩

/-- The alert of the tenth failed cycle, which carries the state it announces. -/
def reportLimit (effort : IntegrationEffort) (state : IntegrationEffortState) (count : Nat)
    (stamp : Stamp) : Tx Unit :=
  if count = automaticCycleLimit then
    appendEvent effort stamp.eventId "cycle_limit" (.state state) true
  else
    pure ()

/-- The event of a failed cycle below the limit. -/
def reportFailure (effort : IntegrationEffort) (eventType : String) (failure : CycleFailure)
    (count : Nat) (stamp : Stamp) : Tx Unit :=
  if count < automaticCycleLimit then
    appendEvent effort stamp.eventId eventType (.failure failure) false
  else
    pure ()

/-- `consume_cycle_failure`. -/
def consumeCycleFailure (effortId cycleId : String) (failure : CycleFailure) (stamp : Stamp) :
    Tx Unit := do
  let effort ← requiredEffort effortId
  let count := effort.failedCycles + 1
  require (count ≤ automaticCycleLimit) (.refused "automatic cycle limit is already reached")
  let next ← nextCycleNumber effortId
  let state ← query fun db => failedState db effortId cycleId failure count next stamp.eventId
  reportLimit effort state count stamp
  let rows ← updateCycles (isCycleOf effortId cycleId .running) .failed (some failure)
  require (rows = 1) (.refused "failed cycle does not match one running cycle authority")
  updateStateAndCount effort state count
  reportFailure effort "cycle_failed" failure count stamp

/-- The cycle whose candidate a rejection fails, found from the state or from the evidence. -/
def rejectedCycle (db : Database) (effort : IntegrationEffort) : Except Refusal String :=
  let fromEvidence (candidateSha : String) : Except Refusal String :=
    match (db.evidence.find? effort.id).filter fun row => row.candidateSha == candidateSha with
    | some candidate => .ok candidate.cycleId
    | none => .error (.refused "Query returned no rows")
  match effort.state with
  | .candidateReady candidate => .ok candidate.cycleId
  | .validating validating => fromEvidence validating.candidateSha
  | .landing landing => fromEvidence landing.candidateSha
  | _ => .error (.refused "candidate rejection requires current candidate authority")

/-- Read the cycle of `rejectedCycle`. -/
def readRejectedCycle (effort : IntegrationEffort) : Tx String := fun db =>
  match rejectedCycle db effort with
  | .ok cycleId => .ok (cycleId, db)
  | .error refusal => .error refusal

/-- The next cycle of a rejected candidate: at the limit after the stored cycles, below it after
the failed count. -/
def rejectedNextCycle (effortId : String) (count : Nat) : Tx Nat :=
  if count = automaticCycleLimit then nextCycleNumber effortId else pure (count + 1)

/-- `reject_candidate`. -/
def rejectCandidate (effortId evidence : String) (stamp : Stamp) : Tx Unit := do
  ensure (requireExactText evidence "candidate defect evidence")
  let effort ← requiredEffort effortId
  require (effort.state.containsExternalLandingAuthority = false)
    (.refused "external landing authority cannot be replaced by candidate rejection")
  let cycleId ← readRejectedCycle effort
  let count := effort.failedCycles + 1
  let failure := CycleFailure.candidateDefect evidence
  require (count ≤ automaticCycleLimit) (.refused "automatic cycle limit is already reached")
  let next ← rejectedNextCycle effortId count
  let state ← query fun db => failedState db effortId cycleId failure count next stamp.eventId
  reportLimit effort state count stamp
  let rows ← updateCycles (isCycleOf effortId cycleId .resolved) .failed (some failure)
  require (rows = 1) (.refused "candidate cycle is not available for one defect classification")
  deleteEvidence effortId
  invalidateValidationInvocations effort.attemptId stamp.now
  let _ ← updateAttempts (fun row => row.id == effort.attemptId) Attempt.withoutCandidate
    fun _ => rfl
  updateStateAndCount effort state count
  reportFailure effort "candidate_rejected" failure count stamp

/-! ## Retry -/

/-- The operation-state check of `retry_blocked`. -/
def requireRetryObligation (state : OperationState) (itemId : String) : Check :=
  match state with
  | .enabled => .ok ()
  | .draining obligations =>
    check (obligations.contains (.queueItem itemId))
      "retry is not a captured draining obligation"
  | .disabled => .error "repository is disabled"

/-- `retry_blocked`. -/
def retryBlocked (effortId : String) (responder : ResponderIdentity) (daemonUid : Nat)
    (stamp : Stamp) : Tx Unit := do
  let effort ← requiredEffort effortId
  require (responder = .localPeer daemonUid) (.refused "explicit blocker retry is not authorized")
  let policy ← lookup (fun db => db.policyOf effort.itemId) (.refused "Query returned no rows")
  ensure (requireRetryObligation policy.operationState effort.itemId)
  match effort.state with
  | .cycleLimitBlocked _ => do
    let next ← nextCycleNumber effortId
    updateStateAndCount effort (.agentReady ⟨next⟩) 0
    appendEvent effort stamp.eventId "cycle_limit_retry_authorized" (.responder responder) false
  | .infrastructureBlocked blocked => do
    updateStateAndCount effort blocked.resume.restore effort.failedCycles
    appendEvent effort stamp.eventId "infrastructure_retry_authorized" (.responder responder) false
  | .providerBlocked blocked => do
    updateStateAndCount effort blocked.resume.restore effort.failedCycles
    appendEvent effort stamp.eventId "provider_retry_authorized" (.responder responder) false
  | _ => abort (.refused "effort is not explicitly retryable")

/-- `resume_provider_reconciliation`. -/
def resumeProviderReconciliation (effortId : String) (stamp : Stamp) : Tx Unit := do
  let effort ← requiredEffort effortId
  let blocked ← expect effort.state.providerBlocked?
    (.refused "provider reconciliation requires provider_blocked effort")
  let state := blocked.resume.restore
  updateState effort state
  appendEvent effort stamp.eventId "provider_reconciliation_resumed" (.state state) false

end Iq
