import Iq.Agent.Protocol
import Iq.Library.Session
import Iq.Lifecycle.CycleAcceptance

/-!
# Automatic agent cycles

The loop of the integrator that runs one agent cycle after another: `run_agent_cycle`, which
launches a runner; `classify_agent_result`, which follows its result; and `consume_agent_failure`,
which consumes a failed cycle and runs the next one while the effort stays ready. Each is a session
over the control store. What the launcher draws and what the sandbox, the workspace and Git answer
in a cycle is its turn; the loop is given a turn for every cycle it may come to.
-/

namespace Iq

open Library Library.Transaction

/-- Why the loop stops with an error. -/
inductive CycleStop where
  /-- A transaction of the control store aborted. -/
  | refused (refusal : Refusal)
  /-- Anything else failed: the workspace, Git, a sandbox, a read. -/
  | failed (message : String)
  /-- The recursion was cut off. -/
  | exhausted
  deriving DecidableEq, Repr

/-- A session of the integrator on the control store. -/
abbrev CycleSession (α : Type) : Type := Session store CycleStop α

/-- What the sandbox of a started runner ends with. -/
inductive SandboxEnd where
  /-- The admission gate of the started runner cannot be written. -/
  | unreleased (message : String)
  /-- `run` returns an error. -/
  | failed (message : String)
  /-- The queue or the repository lease took the authority away. -/
  | authorityLost
  | timedOut
  /-- The runner wrote more than its bounds allow. -/
  | exceeded
  | missing (exitCode : Option Int)
  /-- The exported result is not accepted. -/
  | rejected (reason : String)
  /-- The result is accepted; its publication fails with a reason, or publishes it. -/
  | accepted (device inode : Nat) (published : Except String (AgentResult × String))

/-- What the candidate builder comes to: the intent it stores, and what it then observes. -/
inductive CandidateBuild where
  | failed (message : String)
  | intended (intent : CandidateIntent) (observed : Except String CandidateObservation)

/-- What the surroundings give one cycle. -/
structure CycleTurn where
  /-- The reads before the runner: an error, a sandbox that is not capable, or neither. -/
  admission : Except String (Option InfrastructureBlocker)
  cycleId : String
  launchOperationId : String
  authorityLeaseId : String
  launcher : LauncherAuthority
  inputSha256 : String
  protocolDirectory : String
  preparedAt : String
  /-- Whether the launcher is the live process that it says it is. -/
  alive : Bool
  /-- Whether the service was spawned and identified. -/
  spawned : Bool
  pid : Nat
  processStartTicks : Nat
  controlGroup : String
  sandboxId : String
  startedAt : String
  sandbox : SandboxEnd
  /-- What `import_staged_result` answers, and whether unresolved index entries are left. -/
  imported : Except String Unit
  unresolved : Bool
  build : CandidateBuild
  /-- Whether the unit of a failed spawn was found stopped. -/
  stopped : Bool
  /-- Whether the protocol directory of the cycle can be removed. -/
  removable : Bool
  requestId : String
  stamp : Stamp

/-- The launch that a turn prepares. -/
def CycleTurn.launch (turn : CycleTurn) (cycleNumber : Nat) : AgentLaunching where
  launchOperationId := turn.launchOperationId
  unitName := systemdUnitName turn.cycleId
  cycleId := turn.cycleId
  cycleNumber := cycleNumber
  authorityLeaseId := turn.authorityLeaseId
  launcher := turn.launcher
  inputSha256 := turn.inputSha256
  protocolDirectory := turn.protocolDirectory
  preparedAt := turn.preparedAt
  spawnAuthority := .open

/-- The runner that a turn starts. -/
def CycleTurn.running (turn : CycleTurn) (cycleNumber : Nat) : AgentRunning where
  launchOperationId := turn.launchOperationId
  unitName := systemdUnitName turn.cycleId
  cycleId := turn.cycleId
  cycleNumber := cycleNumber
  pid := turn.pid
  processStartTicks := turn.processStartTicks
  controlGroup := turn.controlGroup
  authorityLeaseId := turn.authorityLeaseId
  launcher := turn.launcher
  sandboxId := turn.sandboxId
  inputSha256 := turn.inputSha256
  result := .absent
  startedAt := turn.startedAt

/-- What a launcher presents. -/
def CycleTurn.identity (turn : CycleTurn) : LaunchIdentity :=
  ⟨turn.launchOperationId, turn.authorityLeaseId, turn.launcher⟩

/-- `RunnerOutcome`. -/
inductive RunnerOutcome where
  | complete (result : AgentResult) (resultState : AtomicResultState)
  | missingResult (exitCode : Option Int)
  | timedOut
  | authorityLost
  | invalidResult (reason : String)

/-! ## The calls of the store -/

/-- The answer of a transaction, which leaves the database as it was when it aborts. -/
def Operation.reply (operation : Operation) (db : Database) : Except CycleStop Outcome :=
  match operation.transaction db with
  | .ok (outcome, _) => .ok outcome
  | .error refusal => .error (.refused refusal)

/-- Perform a transaction of the control store. -/
def transact (operation : Operation) : CycleSession Outcome :=
  Session.perform operation.reply operation

/-- The value of a transaction that returns a flag. -/
def Outcome.isFlag : Outcome → Bool
  | .flag value => value
  | _ => false

/-- `effort_for_item`, with the context of its caller when there is none. -/
def effortForItem (itemId missing : String) : CycleSession IntegrationEffort :=
  Session.read fun db =>
    match db.effortOfItem itemId with
    | none => .error (.failed missing)
    | some effort =>
      match effort.state.validateForCount effort.failedCycles with
      | .ok () => .ok effort
      | .error _ => .error (.failed "read integration effort")

/-- `candidate_publication_waits_for_cleanup`. -/
def candidatePublicationWaitsForCleanup (effort : IntegrationEffort) : CycleSession Bool :=
  Session.read fun db => .ok (db.landingCleanupPending effort.attemptId)

/-- `acknowledge_cycle_spawn_failed`: read the unit of the launch, find it stopped, acknowledge. -/
def acknowledgeCycleSpawnFailed (effort : IntegrationEffort) (turn : CycleTurn) :
    CycleSession Unit := do
  let _ ← Session.read fun db =>
    match failedSpawnUnit effort.id turn.identity db with
    | .ok (unit, _) => .ok unit
    | .error refusal => .error (.refused refusal)
  if turn.stopped then do
    let _ ← transact (.acknowledgeTerminatedCycleSpawn effort.id turn.identity)
    pure ()
  else Session.raise (.failed "failed runner spawn unit is not terminal")

/-- `record_cycle_log`, without the log: the cycle that it belongs to is running. -/
def recordCycleLog (effort : IntegrationEffort) (turn : CycleTurn) : CycleSession Unit :=
  Session.read fun db =>
    if db.cycles.count (isCycleOf effort.id turn.cycleId .running) = 1 then .ok ()
    else .error (.failed "running cycle authority changed before log recording")

/-- `remove_cycle_protocol`. -/
def removeCycleProtocol (turn : CycleTurn) : CycleSession Unit :=
  if turn.removable then pure () else Session.raise (.failed "remove cycle protocol")

/-! ## The runner -/

/-- `run` from the admission gate of the started runner to its outcome. -/
def runnerOutcome (effort : IntegrationEffort) (turn : CycleTurn) : CycleSession RunnerOutcome :=
  match turn.sandbox with
  | .unreleased message => do
    -- `abort_unrecorded_spawn`
    let _ ← (acknowledgeCycleSpawnFailed effort turn).attempt
    Session.raise (.failed ("release runner admission gate: " ++ message))
  | .failed message => Session.raise (.failed message)
  | .authorityLost => pure .authorityLost
  | .timedOut => pure .timedOut
  | .exceeded => pure (.invalidResult "runner output exceeded a configured bound")
  | .missing exitCode => pure (.missingResult exitCode)
  | .rejected reason => pure (.invalidResult reason)
  | .accepted device inode published => do
    let recorded ← (transact
      (.recordResultState effort.id turn.cycleId (.writing device inode))).attempt
    match recorded, published with
    | .error _, _ => pure (.invalidResult "persist result publication intent")
    | .ok _, .error reason => pure (.invalidResult reason)
    | .ok _, .ok (result, sha256) => pure (.complete result (.complete device inode sha256))

/-- `run` from the surrender of the spawn authority of its prepared launch. -/
def runnerLaunched (effort : IntegrationEffort) (cycleNumber : Nat) (turn : CycleTurn) :
    CycleSession RunnerOutcome := do
  let surrendered ← transact
    (.surrenderCycleSpawnAuthority effort.id turn.identity turn.alive turn.stamp)
  if surrendered.isFlag = false then pure .authorityLost
  else do
    let authorized ← transact (.authorizeCycleSpawn effort.id turn.identity turn.alive)
    if authorized.isFlag = false then do
      acknowledgeCycleSpawnFailed effort turn
      pure .authorityLost
    else if turn.spawned = false then do
      acknowledgeCycleSpawnFailed effort turn
      Session.raise (.failed "launch OpenCode sandbox in user-systemd service")
    else do
      let started ← (transact (.recordCycleStarted effort.id (turn.running cycleNumber)
        turn.authorityLeaseId turn.launcher turn.stamp)).attempt
      match started with
      | .error reason => do
        let _ ← (acknowledgeCycleSpawnFailed effort turn).attempt
        Session.raise reason
      | .ok outcome =>
        if outcome.isFlag = false then do
          acknowledgeCycleSpawnFailed effort turn
          pure .authorityLost
        else runnerOutcome effort turn

/-- `OpenCodeRunner::run`, with the lifecycle that `run_agent_cycle` gives it. -/
def runnerRun (effort : IntegrationEffort) (cycleNumber : Nat) (turn : CycleTurn) :
    CycleSession RunnerOutcome := do
  let _ ← transact (.prepareCycleLaunch effort.id (turn.launch cycleNumber) turn.stamp)
  runnerLaunched effort cycleNumber turn

/-! ## The loop -/

/-- `consume_agent_failure`; `again` is the recursive call. -/
def consumeAgentFailure (again : CycleSession Unit) (effort : IntegrationEffort)
    (turn : CycleTurn) (failure : CycleFailure) : CycleSession Unit := do
  let _ ← transact (.consumeCycleFailure effort.id turn.cycleId failure turn.stamp)
  let refreshed ← effortForItem effort.itemId "effort disappeared"
  match refreshed.state with
  | .agentReady _ => again
  | _ => pure ()

/-- Consume a failure, and remove the protocol of the cycle whatever came of it. -/
def consumeThenRemove (again : CycleSession Unit) (effort : IntegrationEffort) (turn : CycleTurn)
    (failure : CycleFailure) : CycleSession Unit := do
  let result ← (consumeAgentFailure again effort turn failure).attempt
  removeCycleProtocol turn
  Session.read fun _ => result

/-- `build_candidate`, as far as the control store sees it. -/
def buildCandidate (effort : IntegrationEffort) (turn : CycleTurn) : CycleSession Unit :=
  match turn.build with
  | .failed message => Session.raise (.failed message)
  | .intended intent observed => do
    let _ ← transact (.acceptResolvedCycle effort.id intent turn.stamp)
    match observed with
    | .error message => Session.raise (.failed message)
    | .ok observation => do
      let _ ← transact (.recordCandidate effort.id observation turn.stamp)
      pure ()

/-- `classify_agent_result`. -/
def classifyAgentResult (again : CycleSession Unit) (effort : IntegrationEffort)
    (identity : ExactEffortIdentity) (turn : CycleTurn) : AgentResult → CycleSession Unit
  | .resolved _ => do
    match turn.imported with
    | .error error => do
      removeCycleProtocol turn
      consumeAgentFailure again effort turn (.invalidResult ("staged result rejected: " ++ error))
    | .ok () => do
      removeCycleProtocol turn
      if turn.unresolved then
        consumeAgentFailure again effort turn
          (.invalidResult "resolved result left unresolved index entries")
      else buildCandidate effort turn
  | .guidanceRequired guidance => do
    let _ ← transact (.requireGuidance effort.id
      ⟨turn.requestId, guidance.question, guidance.affectedContracts, guidance.affectedPaths,
        guidance.alternatives, guidance.evidence, identity⟩ turn.stamp)
    removeCycleProtocol turn
  | .mechanicalFailure failure =>
    consumeThenRemove again effort turn
      (.mechanical failure.operation failure.reason failure.evidence)

/-- The identity of a cycle in its input. -/
def IntegrationEffort.cycleIdentity (effort : IntegrationEffort) (cycleId : String) :
    ExactEffortIdentity :=
  ⟨effort.id, effort.itemId, effort.attemptId, cycleId, effort.targetSha, effort.sourceSha, none⟩

/-- What `run_agent_cycle` makes of the outcome of its runner. -/
def followOutcome (again : CycleSession Unit) (effort : IntegrationEffort) (turn : CycleTurn) :
    RunnerOutcome → CycleSession Unit
  | .complete result resultState => do
    recordCycleLog effort turn
    let _ ← transact (.recordResultState effort.id turn.cycleId resultState)
    classifyAgentResult again effort (effort.cycleIdentity turn.cycleId) turn result
  | .missingResult exitCode => do
    recordCycleLog effort turn
    consumeThenRemove again effort turn (.runnerCrash exitCode)
  | .timedOut => do
    recordCycleLog effort turn
    consumeThenRemove again effort turn .timeout
  | .authorityLost => do
    let cancelled ← Session.read fun db => .ok <|
      (db.items.find? effort.itemId).any fun item => item.status == .cancelled
    if cancelled then removeCycleProtocol turn
    else do
      recordCycleLog effort turn
      Session.raise (.failed "runner lost repository or queue authority")
  | .invalidResult reason => do
    recordCycleLog effort turn
    removeCycleProtocol turn
    consumeAgentFailure again effort turn (.invalidResult reason)

/-- `run_agent_cycle`, with a bound on the depth of the recursion and a turn for each depth. -/
def runAgentCycle (itemId : String) : Nat → (Nat → CycleTurn) → CycleSession Unit
  | 0, _ => Session.raise .exhausted
  | depth + 1, turns => do
    let effort ← effortForItem itemId "composed item has no integration effort"
    match effort.state with
    | .agentReady ready => do
      let waits ← candidatePublicationWaitsForCleanup effort
      if waits then pure ()
      else
        let turn := turns 0
        match turn.admission with
        | .error message => Session.raise (.failed message)
        | .ok (some blocker) => do
          let _ ← transact (.blockInfrastructure effort.id blocker turn.stamp)
          pure ()
        | .ok none => do
          let outcome ← runnerRun effort ready.nextCycle turn
          followOutcome (runAgentCycle itemId depth fun index => turns (index + 1)) effort turn
            outcome
    | _ => Session.raise (.failed "integration effort is not ready for an agent cycle")

/-! ## The count while a cycle runs -/

/-- Whether an operation launches a cycle. -/
def Operation.launches : Operation → Bool
  | .prepareCycleLaunch .. => true
  | _ => false

/-- The steps of a launch and of its runner. -/
def Operation.isLaunchStep : Operation → Bool
  | .prepareCycleLaunch .. | .surrenderCycleSpawnAuthority .. | .authorizeCycleSpawn ..
  | .acknowledgeTerminatedCycleSpawn .. | .recordCycleStarted .. | .recordResultState .. => true
  | _ => false

/-- A reachable database that stores an effort of the item with a count. -/
structure Database.Counted (db : Database) (effort : IntegrationEffort) (count : Nat) : Prop where
  reachable : store.Reachable db
  stored : ∃ row, db.efforts.find? effort.id = some row ∧ row.itemId = effort.itemId ∧
    row.failedCycles = count

variable {db later : Database} {effort row : IntegrationEffort} {count : Nat} {turn : CycleTurn}
  {operation : Operation} {view after : EffortView}

/-- A step of a launch keeps the item and the count of the effort. -/
theorem EffortStep.keepsCount (step : EffortStep operation view after)
    (quiet : operation.isLaunchStep = true) (stored : view.effort = some row) :
    ∃ next, after.effort = some next ∧ next.itemId = row.itemId ∧
      next.failedCycles = row.failedCycles := by
  have written : ∀ {rejection before effort state},
      Writes rejection before effort state effort.failedCycles after →
      before.effort = view.effort → ∃ next, after.effort = some next ∧
        next.itemId = row.itemId ∧ next.failedCycles = row.failedCycles := by
    intro rejection before effort state writes same
    have read := writes.stored
    rw [same, stored] at read
    obtain rfl := Option.some_inj.mp read
    exact ⟨_, writes.effort, rfl, rfl⟩
  cases step with
  | prepare fresh ready within unused writes => exact written writes rfl
  | surrender launching opened writes => exact written writes rfl
  | surrenderCancelled | acknowledgeCancelled => exact ⟨row, stored, rfl, rfl⟩
  | acknowledgeLaunching launching surrendered fails => exact written fails.writes rfl
  | acknowledgeRunning started fails => exact written fails.writes rfl
  | started launching surrendered sameLaunch sameCycle sameUnit presented active writes =>
    exact written writes rfl
  | result started writes => exact written writes rfl
  | _ => cases quiet

namespace Database.Counted

/-- A quiet operation leaves the count. -/
theorem step (counted : db.Counted effort count) (quiet : operation.isLaunchStep = true) :
    (store.step db operation).Counted effort count := by
  refine ⟨counted.reachable.step operation, ?_⟩
  obtain ⟨row, stored, same, exact⟩ := counted.stored
  rw [store_step]
  rcases settle_cases operation.transaction db with settled | ⟨outcome, commits⟩
  · rw [settled]
    exact ⟨row, stored, same, exact⟩
  · rcases operation.stepped (sound_of_reachable counted.reachable) commits effort.id with
      unchanged | step
    · have kept : (settle operation.transaction db).efforts.find? effort.id =
          db.efforts.find? effort.id := congrArg EffortView.effort unchanged
      rw [kept]
      exact ⟨row, stored, same, exact⟩
    · obtain ⟨next, written, item, failed⟩ := step.keepsCount quiet stored
      exact ⟨next, written, item.trans same, failed.trans exact⟩

/-- Quiet operations leave the count. -/
theorem run (counted : db.Counted effort count) {labels : List Operation}
    (quiet : ∀ label ∈ labels, label.isLaunchStep = true) :
    (store.run db labels).Counted effort count := by
  induction labels generalizing db with
  | nil => exact counted
  | cons label rest run_rest =>
    rw [Machine.run_cons]
    apply run_rest (counted.step (quiet label List.mem_cons_self))
    exact fun other mem => quiet other (List.mem_cons_of_mem _ mem)

/-- A committed failure of a cycle raises the count by one. -/
theorem consume (counted : db.Counted effort count) {cycleId : String} {failure : CycleFailure}
    {stamp : Stamp} {outcome : Outcome}
    (commits : (Operation.consumeCycleFailure effort.id cycleId failure stamp).transaction.Commits
      db outcome later) : later.Counted effort (count + 1) := by
  obtain ⟨row, stored, same, exact⟩ := counted.stored
  have stays := counted.reachable.step (.consumeCycleFailure effort.id cycleId failure stamp)
  rw [store_step, settle_of_commits commits] at stays
  refine ⟨stays, ?_⟩
  simp only [Operation.transaction, commits_map] at commits
  obtain ⟨_, commits, -⟩ := commits
  have step := (consumeCycleFailure_steps commits).2
  have view : (db.view effort.id).effort = some row := stored
  generalize effort.id = effortId at *
  cases step with
  | @consume _ _ found cycleId failure stamp active writes =>
    obtain rfl := Option.some_inj.mp (writes.stored.symm.trans view)
    exact ⟨_, writes.effort, same, by rw [← exact]⟩

/-- A consumed failure names the running cycle of its effort. -/
theorem running_of_count (counted : db.Counted effort count) {cycleId : String}
    (stored : db.efforts.find? effort.id = some row)
    (one : db.cycles.count (isCycleOf effort.id cycleId .running) = 1) :
    ∃ running, row.state = .agentRunning running ∧ running.cycleId = cycleId := by
  obtain ⟨cycle, mem, hit⟩ := Table.count_pos.mp (show 0 < db.cycles.count _ by rw [one]; decide)
  simp only [isCycleOf, Bool.and_eq_true, beq_iff_eq] at hit
  have there := Database.mem_view_cycles.mpr ⟨mem, hit.1.2⟩
  have named := (sound_of_reachable counted.reachable effort.id).only cycle there
    (by rw [hit.2]; rfl)
  have view : (db.view effort.id).effort = some row := stored
  rw [EffortView.activeCycle?_of_stored view, hit.2, hit.1.1] at named
  cases state : row.state with
  | agentRunning running =>
    rw [state] at named
    cases named
    exact ⟨running, rfl, rfl⟩
  | agentLaunching launch =>
    rw [state] at named
    simp [IntegrationEffortState.activeCycle?] at named
  | _ =>
    rw [state] at named
    cases named

/-- Below the limit a failure of a cycle is consumed, or refused for another reason. -/
theorem consume_cases (counted : db.Counted effort count) (below : count < automaticCycleLimit)
    {cycleId : String} {failure : CycleFailure} {stamp : Stamp} :
    (∃ later, (Operation.consumeCycleFailure effort.id cycleId failure stamp).transaction.Commits db
        .done later) ∨
      (Operation.consumeCycleFailure effort.id cycleId failure stamp).transaction.Aborts db
        (.refused "integration effort exceeds cycle identity range") ∨
      (Operation.consumeCycleFailure effort.id cycleId failure stamp).transaction.Aborts db
        (.refused "failed cycle does not match one running cycle authority") := by
  obtain ⟨row, stored, -, exact⟩ := counted.stored
  have reads := commits_requiredEffort_of_reachable counted.reachable stored
  have low : row.failedCycles + 1 ≤ automaticCycleLimit := by omega
  by_cases within : db.maxCycleNumber effort.id + 1 ≤ 255
  · by_cases one : db.cycles.count (isCycleOf effort.id cycleId .running) = 1
    · left
      obtain ⟨running, state, rfl⟩ := counted.running_of_count stored one
      have named : row.id = effort.id := (Table.find?_eq_some.mp stored).2
      rw [← named] at stored within ⊢
      have stage := CycleStage.of_stored counted.reachable stored
      rw [state] at stage
      obtain ⟨later, commits, -⟩ : ∃ later, (Operation.consumeCycleFailure row.id running.cycleId
          failure stamp).transaction.Commits db .done later ∧ _ := stage.consume within
      exact ⟨later, commits⟩
    · right; right
      have numbered : (nextCycleNumber effort.id).Commits db (db.maxCycleNumber effort.id + 1) db :=
        commits_nextCycleNumber.mpr ⟨rfl, within, rfl⟩
      let state := failedState db effort.id cycleId failure (row.failedCycles + 1)
        (db.maxCycleNumber effort.id + 1) stamp.eventId
      obtain ⟨reported, report, same⟩ : ∃ reported,
          (reportLimit row state (row.failedCycles + 1) stamp).Commits db () reported ∧
            reported.cycles = db.cycles := by
        unfold reportLimit
        split
        · exact ⟨_, commits_write.mpr ⟨rfl, rfl⟩, rfl⟩
        · exact ⟨db, commits_pure.mpr ⟨rfl, rfl⟩, rfl⟩
      have other : reported.cycles.count (isCycleOf effort.id cycleId .running) ≠ 1 := by
        rw [same]
        exact one
      simp only [Operation.transaction, aborts_map, consumeCycleFailure]
      refine aborts_bind.mpr (.inr ⟨row, db, reads, aborts_require_bind.mpr (.inr ⟨low, ?_⟩)⟩)
      refine aborts_bind.mpr (.inr ⟨_, db, numbered, aborts_query_bind.mpr ?_⟩)
      refine aborts_bind.mpr (.inr ⟨(), reported, report, ?_⟩)
      refine aborts_bind.mpr (.inr ⟨_, _, commits_write.mpr ⟨rfl, rfl⟩, ?_⟩)
      exact aborts_require_bind.mpr (.inl ⟨other, rfl⟩)
  · right; left
    have exceeds : (nextCycleNumber effort.id).Aborts db
        (.refused "integration effort exceeds cycle identity range") :=
      aborts_query_bind.mpr (aborts_require_bind.mpr (.inl ⟨within, rfl⟩))
    simp only [Operation.transaction, aborts_map, consumeCycleFailure]
    refine aborts_bind.mpr (.inr ⟨row, db, reads, aborts_require_bind.mpr (.inr ⟨low, ?_⟩)⟩)
    exact aborts_bind.mpr (.inl exceeds)

/-- A stored count below the limit is never refused for the limit. -/
theorem consume_unlimited (counted : db.Counted effort count) (below : count < automaticCycleLimit)
    {cycleId : String} {failure : CycleFailure} {stamp : Stamp} :
    ¬(Operation.consumeCycleFailure effort.id cycleId failure stamp).transaction.Aborts db
      (.refused "automatic cycle limit is already reached") := by
  intro aborts
  rcases counted.consume_cases below with ⟨later, commits⟩ | other | other
  · exact commits.not_aborts aborts
  · have same := (reason?_eq_some.mpr other).symm.trans (reason?_eq_some.mpr aborts)
    simp at same
  · have same := (reason?_eq_some.mpr other).symm.trans (reason?_eq_some.mpr aborts)
    simp at same

end Database.Counted

end Iq
