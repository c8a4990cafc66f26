import Iq.Store.Effort

/-!
# Cycle launch

The transactions that launch the runner of one cycle: preparing the launch, surrendering the spawn
authority, authorising the spawn, recording the started process and its result, and the two ways a
launch is taken back. The answers of `exact_process_is_alive` are arguments.
-/

namespace Iq

open Library Library.Transaction

/-- What a launcher presents with every step of its launch. -/
structure LaunchIdentity where
  launchOperationId : String
  authorityLeaseId : String
  launcher : LauncherAuthority
  deriving DecidableEq, Repr

/-- The launch identity of a prepared launch. -/
def AgentLaunching.identity (launch : AgentLaunching) : LaunchIdentity :=
  ⟨launch.launchOperationId, launch.authorityLeaseId, launch.launcher⟩

/-- The launch identity of a running cycle. -/
def AgentRunning.identity (running : AgentRunning) : LaunchIdentity :=
  ⟨running.launchOperationId, running.authorityLeaseId, running.launcher⟩

/-- The one active cycle that an effort names, in the given status. -/
def isCycleOf (effortId cycleId : String) (status : CycleStatus) (row : IntegrationCycle) : Bool :=
  row.id == cycleId && row.effortId == effortId && row.status == status

/-- `INSERT INTO integration_cycles` with its unique indexes. -/
def insertCycle (row : IntegrationCycle) : Tx Unit := do
  let numbered ← query fun db => db.cycles.any fun other =>
    other.effortId == row.effortId && other.cycleNumber == row.cycleNumber
  require (numbered = false) (.constraint (.unique "integration_cycles(effort_id,cycle_number)"))
  let active ← query fun db => db.cycles.any fun other =>
    other.effortId == row.effortId && other.status.isActive
  require (active = false) (.constraint (.unique "one_running_cycle_per_effort"))
  let cycles ← lookup (fun db => db.cycles.insert? row)
    (.constraint (.unique "integration_cycles"))
  write fun db => ((), { db with cycles })

/-- `prepare_cycle_launch`. -/
def prepareCycleLaunch (effortId : String) (launch : AgentLaunching) (stamp : Stamp) : Tx Unit := do
  require (launch.spawnAuthority = .open)
    (.refused "prepared cycle requires open spawn authority")
  let effort ← requiredEffort effortId
  requireItemObligation effort.itemId
  let ready ← expect effort.state.agentReady?
    (.refused "cycle start requires agent_ready effort")
  require (ready.nextCycle = launch.cycleNumber ∧ effort.failedCycles < automaticCycleLimit)
    (.refused "cycle number does not match effort authority")
  insertCycle ⟨launch.cycleId, effortId, launch.cycleNumber, .starting, none⟩
  updateState effort (.agentLaunching launch)
  appendEvent effort stamp.eventId "agent_launching" (.fields
    [("cycle_id", .text launch.cycleId), ("operation_id", .text launch.launchOperationId),
      ("unit_name", .text launch.unitName)]) false

/-- The launch that a debt still has to stop. -/
def RunnerTerminationAuthority.launching? : RunnerTerminationAuthority → Option AgentLaunching
  | .launching launch => some launch
  | .service _ | .legacyScope _ => none

/-- The launch whose termination is authorized. -/
@[simp] theorem RunnerTerminationAuthority.launching?_eq_some
    {authority : RunnerTerminationAuthority} {launch : AgentLaunching} :
    authority.launching? = some launch ↔ authority = .launching launch := by
  cases authority <;> simp [launching?]

/-- The launch of the termination debt of an effort. -/
def Database.debtLaunch (db : Database) (effortId : String) : Option AgentLaunching :=
  (db.terminationDebts.find? effortId).bind fun debt => debt.authority.launching?

/-- `update_cancelled_spawn_authority`: close a debt's launch that has the expected authority. -/
def updateCancelledSpawnAuthority (effortId : String) (identity : LaunchIdentity)
    (expected : SpawnAuthority) : Tx Bool := do
  let stored ← query fun db => (db.debtLaunch effortId).filter fun launch =>
    launch.identity == identity && launch.spawnAuthority == expected
  match stored with
  | none => pure false
  | some launch => do
    write fun db => ((), { db with
      terminationDebts := db.terminationDebts.update (fun row => row.effortId == effortId)
        (fun row => { row with authority := .launching { launch with spawnAuthority := .closed } })
        fun _ => rfl })
    pure true

/-- `require_cancelled_launcher_authority`. -/
def requireCancelledLauncherAuthority (effortId : String) (identity : LaunchIdentity)
    (expected : SpawnAuthority) : Tx Unit := do
  let debt ← lookup (fun db => db.terminationDebts.find? effortId)
    (.refused "Query returned no rows")
  let launch ← expect debt.authority.launching?
    (.refused "cancelled launch acknowledgement has no launch authority")
  require (launch.identity = identity ∧ launch.spawnAuthority = expected)
    (.refused "cancelled launch acknowledgement differs from launcher authority")

/-- `surrender_cycle_spawn_authority`: `true` gives the launcher the right to ask for a spawn. -/
def surrenderCycleSpawnAuthority (effortId : String) (identity : LaunchIdentity) (alive : Bool)
    (stamp : Stamp) : Tx Bool := do
  require (alive = true) (.refused "runner launcher process identity is not alive")
  let effort ← requiredEffort effortId
  match effort.state with
  | .agentLaunching launch => do
    require (launch.identity = identity ∧ launch.spawnAuthority = .open)
      (.refused "runner spawn authority is not open for this launch operation")
    updateState effort (.agentLaunching { launch with spawnAuthority := .surrendered })
    let prepared ← query fun db => db.cycles.count (isCycleOf effortId launch.cycleId .starting)
    require (prepared = 1) (.refused "prepared cycle disappeared before spawn surrender")
    appendEvent effort stamp.eventId "runner_spawn_surrendered" (.fields
      [("cycle_id", .text launch.cycleId),
        ("operation_id", .text identity.launchOperationId)]) false
    pure true
  | .cancelled _ => do
    let closed ← updateCancelledSpawnAuthority effortId identity .closeRequested
    require (closed = true)
      (.refused "runner spawn authority is not open for this launch operation")
    pure false
  | _ => abort (.refused "runner spawn authority is not open for this launch operation")

/-- `authorize_cycle_spawn`: a read, whose answer `true` lets the launcher spawn the unit. -/
def authorizeCycleSpawn (effortId : String) (identity : LaunchIdentity) (alive : Bool) :
    Tx Bool := do
  let effort ← requiredEffort effortId
  match effort.state with
  | .agentLaunching launch => do
    require (launch.identity = identity ∧ launch.spawnAuthority = .surrendered)
      (.refused "runner spawn authorization differs from surrendered authority")
    pure alive
  | .cancelled _ => do
    requireCancelledLauncherAuthority effortId identity .surrendered
    pure false
  | _ => abort (.refused "runner spawn authorization requires agent_launching effort")

/-- The unit that `acknowledge_cycle_spawn_failed` must find terminal before it acknowledges. -/
def failedSpawnUnit (effortId : String) (identity : LaunchIdentity) : Tx String := do
  let effort ← requiredEffort effortId
  match effort.state with
  | .agentLaunching launch => do
    require (launch.identity = identity)
      (.refused "failed spawn does not match durable launch authority")
    pure launch.unitName
  | .agentRunning running => do
    require (running.identity = identity)
      (.refused "failed spawn does not match durable launch authority")
    pure running.unitName
  | .cancelled _ => do
    let debt ← lookup (fun db => db.terminationDebts.find? effortId)
      (.refused "Query returned no rows")
    let launch ← expect debt.authority.launching?
      (.refused "cancelled failed spawn has only systemd termination authority")
    require (launch.identity = identity)
      (.refused "cancelled failed spawn differs from termination authority")
    pure launch.unitName
  | _ => abort (.refused "failed spawn does not match durable launch authority")

/-- Fail the active cycle of a launch that did not produce a runner. -/
def failLaunchedCycle (effort : IntegrationEffort) (cycleId : String) (status : CycleStatus)
    (changed : String) : Tx Unit := do
  let rows ← updateCycles (isCycleOf effort.id cycleId status) .failed (some .interrupted)
  require (rows = 1) (.refused changed)
  let next ← nextCycleNumber effort.id
  updateState effort (.agentReady ⟨next⟩)

/-- `acknowledge_terminated_cycle_spawn`. -/
def acknowledgeTerminatedCycleSpawn (effortId : String) (identity : LaunchIdentity) : Tx Unit := do
  let effort ← requiredEffort effortId
  match effort.state with
  | .agentLaunching launch => do
    require (launch.identity = identity ∧ launch.spawnAuthority = .surrendered)
      (.refused "failed spawn does not match durable launch authority")
    failLaunchedCycle effort launch.cycleId .starting
      "prepared cycle authority changed after failed spawn"
  | .agentRunning running => do
    require (running.identity = identity)
      (.refused "failed spawn does not match durable launch authority")
    failLaunchedCycle effort running.cycleId .running
      "running cycle authority changed after failed launch admission"
  | .cancelled _ => do
    let debt ← lookup (fun db => db.terminationDebts.find? effortId)
      (.refused "cancelled failed spawn has no termination authority")
    let launch ← expect debt.authority.launching?
      (.refused "cancelled failed spawn differs from termination authority")
    require (launch.identity = identity)
      (.refused "cancelled failed spawn differs from termination authority")
    if launch.spawnAuthority = .surrendered then do
      let closed ← updateCancelledSpawnAuthority effortId identity .surrendered
      require (closed = true) (.refused "cancelled failed spawn authority did not close")
  | _ => abort (.refused "failed spawn does not match durable launch authority")

/-- `record_cycle_started`: `false` tells the launcher that the effort was cancelled. -/
def recordCycleStarted (effortId : String) (running : AgentRunning) (authorityLeaseId : String)
    (launcher : LauncherAuthority) (stamp : Stamp) : Tx Bool := do
  let identity : LaunchIdentity := ⟨running.launchOperationId, authorityLeaseId, launcher⟩
  let effort ← requiredEffort effortId
  match effort.state with
  | .agentLaunching launch => do
    require (launch.identity = identity ∧ running.identity = identity ∧
        launch.unitName = running.unitName ∧ launch.cycleId = running.cycleId ∧
        launch.cycleNumber = running.cycleNumber ∧ launch.inputSha256 = running.inputSha256 ∧
        launch.spawnAuthority = .surrendered)
      (.refused "started process differs from prepared launch authority")
    let rows ← updateCycles (isCycleOf effortId running.cycleId .starting) .running none
    require (rows = 1) (.refused "prepared cycle authority changed before process start")
    updateState effort (.agentRunning running)
    appendEvent effort stamp.eventId "agent_running" (.fields
      [("cycle_id", .text running.cycleId), ("operation_id", .text running.launchOperationId),
        ("unit_name", .text running.unitName)]) false
    pure true
  | .cancelled _ => do
    requireCancelledLauncherAuthority effortId identity .surrendered
    pure false
  | _ => abort (.refused "cycle start requires agent_launching effort")

/-- `reset_prepared_launch`. -/
def resetPreparedLaunch (effortId cycleId : String) (alive : Bool) (stamp : Stamp) : Tx Unit := do
  let effort ← requiredEffort effortId
  let launch ← expect effort.state.agentLaunching?
    (.refused "launch reset requires agent_launching effort")
  require (launch.cycleId = cycleId) (.refused "launch reset differs from prepared cycle")
  require (alive = false) (.refused "launch reset cannot revoke a live launcher process")
  failLaunchedCycle effort cycleId .starting "prepared cycle authority changed before reset"
  appendEvent effort stamp.eventId "agent_launch_reset" (.fields
    [("cycle_id", .text cycleId), ("operation_id", .text launch.launchOperationId),
      ("failure", .failure .interrupted)]) false

/-- The transitions of `record_result_state`. -/
def resultTransition : AtomicResultState → AtomicResultState → Bool
  | .absent, .writing _ _ => true
  | .writing device inode, .complete device' inode' _ => device == device' && inode == inode'
  | _, _ => false

/-- `record_result_state`. -/
def recordResultState (effortId cycleId : String) (result : AtomicResultState) : Tx Unit := do
  require (result ≠ .absent)
    (.refused "result state recording requires writing or complete identity")
  let effort ← requiredEffort effortId
  let running ← expect effort.state.agentRunning?
    (.refused "result recording requires agent_running effort")
  require (running.cycleId = cycleId) (.refused "result state differs from running cycle authority")
  require (resultTransition running.result result = true)
    (.refused "result state transition is invalid")
  let rows ← query fun db => db.cycles.count (isCycleOf effortId cycleId .running)
  require (rows = 1) (.refused "running cycle authority changed before result recording")
  updateState effort (.agentRunning { running with result })

end Iq
