import Iq.Library.Checked
import Iq.Lifecycle.Acceptance
import Iq.Lifecycle.FailedCycles

/-!
# Accepted cycles

When the control store accepts the steps of an agent cycle, from its launch to its consumed failure.
`CycleStage` is what a launcher may rely on between two steps: the state and the count of the
effort, the cycles and the alerts that are stored, and whether a landing reference awaits cleanup.
Each step commits at its stage and leads to the next one.
-/

namespace Iq

open Library Library.Transaction Database

variable {db later : Database} {effort : IntegrationEffort} {state : IntegrationEffortState}
  {failedCycles number : Nat} {stamp : Stamp}

/-! ## Stages -/

/-- The alerts that an effort reached the cycle limit. -/
def Database.limitAlerts (db : Database) (effortId : String) : List DurableEvent :=
  db.events.filter fun event => event.effortId == effortId && event.eventType == "cycle_limit"

/-- An effort with another state and count. -/
def IntegrationEffort.at (effort : IntegrationEffort) (state : IntegrationEffortState)
    (failedCycles : Nat) : IntegrationEffort :=
  { effort with state, failedCycles }

/-- What a database stores about the cycles of an effort. -/
structure CycleLog where
  cycleIds : List String
  /-- The greatest number of a cycle of the effort. -/
  number : Nat
  alerts : Nat
  /-- Whether a landing reference of the attempt awaits cleanup. -/
  owed : Bool

/-- A reachable database whose effort is in a state, with a log. -/
structure CycleStage (effort : IntegrationEffort) (state : IntegrationEffortState)
    (failedCycles : Nat) (log : CycleLog) (db : Database) : Prop where
  reachable : store.Reachable db
  stored : db.efforts.find? effort.id = some (effort.at state failedCycles)
  cycleIds : db.cycles.rows.map IntegrationCycle.id = log.cycleIds
  number : db.maxCycleNumber effort.id = log.number
  alerts : (db.limitAlerts effort.id).length = log.alerts
  owed : db.landingCleanupPending effort.attemptId = log.owed

variable {log : CycleLog}

/-- The log of an effort in a database. -/
def Database.cycleLog (db : Database) (effort : IntegrationEffort) : CycleLog where
  cycleIds := db.cycles.rows.map IntegrationCycle.id
  number := db.maxCycleNumber effort.id
  alerts := (db.limitAlerts effort.id).length
  owed := db.landingCleanupPending effort.attemptId

/-- A reachable database is at the stage of its stored effort. -/
theorem CycleStage.of_stored (reachable : store.Reachable db)
    (stored : db.efforts.find? effort.id = some effort) :
    CycleStage effort effort.state effort.failedCycles (db.cycleLog effort) db :=
  ⟨reachable, stored, rfl, rfl, rfl, rfl⟩

/-- A database with cycles, the state and count of an effort, and further events written. -/
def Database.advance (db : Database) (effort : IntegrationEffort) (cycles : Table IntegrationCycle.id)
    (state : IntegrationEffortState) (failedCycles : Nat) (added : List DurableEvent) : Database :=
  ({ db with cycles, events := db.events ++ added } : Database).withState effort state failedCycles

/-- A state update of an effort at its stage commits over rewritten cycles and events. -/
theorem CycleStage.commits_updateState (stage : CycleStage effort state failedCycles log db)
    (active : state.isActive = true) {new : IntegrationEffortState} {count : Nat}
    {cycles : Table IntegrationCycle.id} {added : List DurableEvent}
    (accepts : Accepts (({ db with cycles } : Database).view effort.id)
      (effort.at state failedCycles) (effort.at state failedCycles) new count none) :
    (updateStateAndCount (effort.at state failedCycles) new count).Commits
      { db with cycles, events := db.events ++ added } ()
      (db.advance (effort.at state failedCycles) cycles new count added) := by
  have linked : Linked { db with cycles, events := db.events ++ added } :=
    Framed.control db _ ⟨rfl, rfl, rfl, rfl, rfl⟩ (linked_of_reachable stage.reachable)
  refine linked.commits_updateState stage.stored rfl rfl rfl active ?_
  have related : (({ db with cycles } : Database).view effort.id).Related
      { effort.at state failedCycles with state := new, failedCycles := count } := accepts.related
  refine ⟨accepts.authority, accepts.valid, accepts.transition, accepts.range, accepts.blocker,
    accepts.limit, accepts.payload, ?_⟩
  revert related
  unfold EffortView.Related
  cases new <;> exact id

/-- The end of most steps: a state update and its event. -/
theorem CycleStage.commits_update_event (stage : CycleStage effort state failedCycles log db)
    (active : state.isActive = true) {new : IntegrationEffortState}
    {cycles : Table IntegrationCycle.id} {eventId eventType : String} {payload : EventPayload}
    (accepts : Accepts (({ db with cycles } : Database).view effort.id)
      (effort.at state failedCycles) (effort.at state failedCycles) new failedCycles none) :
    (do
      updateState (effort.at state failedCycles) new
      appendEvent (effort.at state failedCycles) eventId eventType payload false).Commits
        { db with cycles } ()
        (db.advance (effort.at state failedCycles) cycles new failedCycles
          [⟨eventId, effort.itemId, effort.id, eventType, payload, false⟩]) := by
  have update := @CycleStage.commits_updateState _ _ _ _ _ stage active _ _ _ [] accepts
  rw [List.append_nil] at update
  refine commits_bind.mpr ⟨(), _, update, commits_write.mpr ⟨rfl, ?_⟩⟩
  simp [Database.advance, Database.withState, IntegrationEffort.at]

/-- The checks on the row of a stage. -/
theorem CycleStage.checked (stage : CycleStage effort state failedCycles log db) :
    (effort.at state failedCycles).Checked :=
  checked_of_reachable stage.reachable stage.stored

/-- Before the limit state the count is below the limit. -/
theorem CycleStage.below (stage : CycleStage effort state failedCycles log db)
    (unlimited : state.name ≠ .cycleLimitBlocked) : failedCycles < automaticCycleLimit := by
  have checked := stage.checked
  have range : failedCycles ≤ 10 := checked.range
  have limit : ((state.name == .cycleLimitBlocked) == (failedCycles == 10)) = true := checked.limit
  have apart : (state.name == .cycleLimitBlocked) = false := beq_eq_false_iff_ne.mpr unlimited
  have within : failedCycles ≠ 10 := by
    intro same
    rw [apart, same] at limit
    cases limit
  show failedCycles < 10
  omega

/-- The stage after an operation, from the rows it wrote. -/
theorem CycleStage.next (stage : CycleStage effort state failedCycles log db)
    {operation : Operation} {outcome : Outcome} {new : IntegrationEffortState} {count : Nat}
    {cycles : Table IntegrationCycle.id} {added : List DurableEvent} {next : CycleLog}
    (commits : operation.transaction.Commits db outcome
      (db.advance (effort.at state failedCycles) cycles new count added))
    (cycleIds : cycles.rows.map IntegrationCycle.id = next.cycleIds)
    (number : ({ db with cycles } : Database).maxCycleNumber effort.id = next.number)
    (alerts : log.alerts + (added.filter fun event => event.effortId == effort.id &&
      event.eventType == "cycle_limit").length = next.alerts)
    (owed : log.owed = next.owed) :
    CycleStage effort new count next (store.step db operation) := by
  have stays := stage.reachable.step operation
  rw [store_step, settle_of_commits commits] at stays ⊢
  refine ⟨stays, ?_, cycleIds, number, ?_, stage.owed.trans owed⟩
  · have written := Table.find?_update_key
      (fun row : IntegrationEffort => { row with state := new, failedCycles := count })
      (fun _ => rfl) stage.stored
    exact written
  · show ((db.events ++ added).filter _).length = _
    rw [List.filter_append, List.length_append, ← alerts, ← stage.alerts]
    rfl

/-! ## Launching -/

/-- The check of a launch against the count leaves the check of its payload. -/
theorem validateForCount_agentLaunching {launch : AgentLaunching}
    (within : failedCycles ≤ automaticCycleLimit)
    (valid : (IntegrationEffortState.agentLaunching launch).validatePayload = .ok ()) :
    (IntegrationEffortState.agentLaunching launch).validateForCount failedCycles = .ok () := by
  have low : ¬failedCycles > automaticCycleLimit := by omega
  unfold IntegrationEffortState.validateForCount
  simp only [low, if_false, valid]

/-- A running agent within the limit is valid. -/
theorem validateForCount_agentRunning {running : AgentRunning}
    (within : failedCycles ≤ automaticCycleLimit)
    (valid : (IntegrationEffortState.agentRunning running).validatePayload = .ok ()) :
    (IntegrationEffortState.agentRunning running).validateForCount failedCycles = .ok () := by
  have low : ¬failedCycles > automaticCycleLimit := by omega
  unfold IntegrationEffortState.validateForCount
  simp only [low, if_false, valid]

/-- The authority of a launcher names a process. -/
theorem isLauncherAuthority_iff {launcher : LauncherAuthority}
    (valid : IntegrationEffortState.isLauncherAuthority launcher = true) :
    0 < launcher.pid ∧ 0 < launcher.processStartTicks := by
  simp only [IntegrationEffortState.isLauncherAuthority, Bool.and_eq_true, bne_iff_ne] at valid
  exact ⟨Nat.pos_of_ne_zero valid.1.1.1, Nat.pos_of_ne_zero valid.1.1.2⟩

/-- The launcher of a valid launch is a process. -/
theorem payloadCheck_agentLaunching {row : IntegrationEffort} {launch : AgentLaunching}
    (same : row.state = .agentLaunching launch)
    (valid : (IntegrationEffortState.agentLaunching launch).validatePayload = .ok ()) :
    payloadCheck row = true := by
  simp only [IntegrationEffortState.validatePayload, Checked.seq_eq_ok, check_eq_ok,
    IntegrationEffortState.isLaunchAuthority, Bool.and_eq_true] at valid
  have process := isLauncherAuthority_iff valid.1.1.1.2
  simp only [payloadCheck, same, Bool.and_eq_true, decide_eq_true_eq]
  exact ⟨⟨valid.1.2, process.1⟩, process.2⟩

/-- A valid running agent passes the check of its row. -/
theorem payloadCheck_agentRunning {row : IntegrationEffort} {running : AgentRunning}
    (same : row.state = .agentRunning running)
    (valid : (IntegrationEffortState.agentRunning running).validatePayload = .ok ()) :
    payloadCheck row = true := by
  simp only [IntegrationEffortState.validatePayload, Checked.seq_eq_ok, check_eq_ok,
    IntegrationEffortState.isRunningAuthority, Bool.and_eq_true] at valid
  have process := isLauncherAuthority_iff valid.1.1.2
  simp only [payloadCheck, same, Bool.and_eq_true, decide_eq_true_eq]
  exact process

/-- A count below the limit is within it. -/
theorem CycleStage.within (stage : CycleStage effort state failedCycles log db)
    (unlimited : state.name ≠ .cycleLimitBlocked) {new : IntegrationEffortState}
    (open_state : new.name ≠ .cycleLimitBlocked) :
    cycleLimitCheck new.name failedCycles = true :=
  within_of_open stage.checked.limit unlimited open_state

/-! ## Numbers -/

/-- No stored cycle of an effort has a greater number. -/
theorem le_maxCycleNumber {cycle : IntegrationCycle} (mem : cycle ∈ db.cycles)
    (owned : cycle.effortId = effort.id) : cycle.cycleNumber ≤ db.maxCycleNumber effort.id := by
  apply List.le_max?_getD_of_mem
  exact List.mem_map_of_mem (Database.mem_view_cycles.mpr ⟨mem, owned⟩)

/-- The greatest number of a cycle after the next one was stored. -/
theorem maxCycleNumber_insert {row : IntegrationCycle} {cycles : Table IntegrationCycle.id}
    (inserted : db.cycles.insert? row = some cycles) (owned : row.effortId = effort.id)
    (next : row.cycleNumber = db.maxCycleNumber effort.id + 1) :
    ({ db with cycles } : Database).maxCycleNumber effort.id = db.maxCycleNumber effort.id + 1 := by
  have selected : ({ db with cycles } : Database).cyclesOf effort.id =
      db.cyclesOf effort.id ++ [row] := by
    have parts := Table.select_of_insert? (fun cycle : IntegrationCycle =>
      cycle.effortId == effort.id) inserted
    rw [if_pos (beq_iff_eq.mpr owned)] at parts
    exact parts
  have greatest : ((({ db with cycles } : Database).cyclesOf effort.id).map
      IntegrationCycle.cycleNumber).max? = some row.cycleNumber := by
    rw [selected, List.map_append, List.map_singleton]
    apply List.max?_eq_some_iff.mpr
    refine ⟨List.mem_append_right _ List.mem_cons_self, ?_⟩
    intro number mem
    rcases List.mem_append.mp mem with mem | mem
    · have bound : number ≤ db.maxCycleNumber effort.id := List.le_max?_getD_of_mem mem
      omega
    · exact (List.mem_singleton.mp mem).le
  show Option.getD _ 0 = _
  rw [greatest, ← next]
  rfl

/-! ## Steps -/

/-- The reads that a step of a stage begins with. -/
theorem CycleStage.valid (stage : CycleStage effort state failedCycles log db) :
    state.validateForCount failedCycles = .ok () :=
  ((linked_of_reachable stage.reachable).owned _ (Table.find?_eq_some.mp stage.stored).1).valid

/-- The repository admits the item of an active effort. -/
theorem CycleStage.admitted (stage : CycleStage effort state failedCycles log db)
    (active : state.isActive = true) : ∃ policy, db.policyOf effort.itemId = some policy ∧
      policy.operationState.requireObligation (.queueItem effort.itemId) = .ok () := by
  have linked := linked_of_reachable stage.reachable
  obtain ⟨item, serves⟩ := linked.serves (Table.find?_eq_some.mp stage.stored).1 active
  exact serves.admitted

/-- A ready effort accepts the launch of a new cycle under its next number. -/
theorem CycleStage.prepare (stage : CycleStage effort (.agentReady ⟨log.number + 1⟩) failedCycles
      log db) {launch : AgentLaunching} (fresh : launch.cycleId ∉ log.cycleIds)
    (numbered : launch.cycleNumber = log.number + 1) (opened : launch.spawnAuthority = .open)
    (valid : (IntegrationEffortState.agentLaunching launch).validatePayload = .ok ()) :
    ∃ later, (Operation.prepareCycleLaunch effort.id launch stamp).transaction.Commits db .done
        later ∧
      CycleStage effort (.agentLaunching launch) failedCycles
        ⟨log.cycleIds ++ [launch.cycleId], log.number + 1, log.alerts, log.owed⟩
        (store.step db (.prepareCycleLaunch effort.id launch stamp)) := by
  have below := stage.below nofun
  let row : IntegrationCycle := ⟨launch.cycleId, effort.id, launch.cycleNumber, .starting, none⟩
  have unknown : (db.cycles.insert? row).isSome = true := by
    apply Table.insert?_isSome.mpr
    intro other mem same
    apply fresh
    rw [← stage.cycleIds, List.mem_map]
    exact ⟨other, mem, same⟩
  obtain ⟨cycles, inserted⟩ := Option.isSome_iff_exists.mp unknown
  have unnumbered : db.cycles.any (fun other => other.effortId == row.effortId &&
      other.cycleNumber == row.cycleNumber) = false := by
    apply Table.any_eq_false.mpr
    intro other mem
    by_contra same
    simp only [Bool.not_eq_false, Bool.and_eq_true, beq_iff_eq] at same
    have bound := le_maxCycleNumber mem same.1
    rw [stage.number, same.2] at bound
    have next : row.cycleNumber = log.number + 1 := numbered
    omega
  have idle : db.cycles.any (fun other => other.effortId == row.effortId &&
      other.status.isActive) = false := by
    apply Table.any_eq_false.mpr
    intro other mem
    by_contra same
    simp only [Bool.not_eq_false, Bool.and_eq_true, beq_iff_eq] at same
    have quiet := (sound_of_reachable stage.reachable effort.id).idle_of_state stage.stored rfl
    have inactive := quiet other (Database.mem_view_cycles.mpr ⟨mem, same.1⟩)
    rw [same.2] at inactive
    cases inactive
  have accepts : Accepts (({ db with cycles } : Database).view effort.id)
      (effort.at (.agentReady ⟨log.number + 1⟩) failedCycles)
      (effort.at (.agentReady ⟨log.number + 1⟩) failedCycles) (.agentLaunching launch)
      failedCycles none := by
    refine ⟨rfl, validateForCount_agentLaunching below.le valid, rfl, stage.checked.range, rfl,
      stage.within nofun nofun, payloadCheck_agentLaunching rfl valid, row, ?_, rfl, rfl⟩
    apply Database.mem_view_cycles.mpr
    exact ⟨(Table.mem_of_insert? inserted).mpr (.inr rfl), rfl⟩
  let event : DurableEvent := ⟨stamp.eventId, effort.itemId, effort.id, "agent_launching",
    .fields [("cycle_id", .text launch.cycleId), ("operation_id", .text launch.launchOperationId),
      ("unit_name", .text launch.unitName)], false⟩
  have commits : (Operation.prepareCycleLaunch effort.id launch stamp).transaction.Commits db .done
      (db.advance (effort.at (.agentReady ⟨log.number + 1⟩) failedCycles) cycles
        (.agentLaunching launch) failedCycles [event]) := by
    simp only [Operation.transaction, commits_map, prepareCycleLaunch, commits_require_bind,
      commits_requiredEffort_bind, commits_requireItemObligation_bind, commits_expect_bind,
      IntegrationEffortState.agentReady?_eq_some]
    refine ⟨(), ⟨opened, _, stage.stored, stage.valid, stage.admitted rfl, _, rfl,
      ⟨numbered.symm, below⟩, ?_⟩, trivial⟩
    refine commits_bind.mpr ⟨(), { db with cycles }, ?_, ?_⟩
    · simp only [insertCycle, commits_query_bind, commits_require_bind, commits_lookup_bind,
        commits_write]
      exact ⟨unnumbered, idle, cycles, inserted, trivial, rfl⟩
    · exact stage.commits_update_event rfl accepts
  refine ⟨_, commits, stage.next commits ?_ ?_ ?_ rfl⟩
  · rw [Table.rows_of_insert? inserted, List.map_append, stage.cycleIds]
    rfl
  · have next := maxCycleNumber_insert inserted rfl (by rw [stage.number]; exact numbered)
    rw [next, stage.number]
  · simp [event]

/-- The active cycle that the state of a stage names is stored. -/
theorem CycleStage.active_cycle (stage : CycleStage effort state failedCycles log db)
    {cycleId : String} {status : CycleStatus} (named : state.activeCycle? = some (cycleId, status)) :
    ∃ cycle ∈ (db.view effort.id).cycles, cycle.id = cycleId ∧ cycle.status = status := by
  have stored : (db.view effort.id).effort = some (effort.at state failedCycles) := stage.stored
  apply (sound_of_reachable stage.reachable effort.id).there
  rw [EffortView.activeCycle?_of_stored stored]
  exact named

/-- The active cycle of a stage is the one cycle in its status. -/
theorem CycleStage.count_active (stage : CycleStage effort state failedCycles log db)
    {cycleId : String} {status : CycleStatus} (named : state.activeCycle? = some (cycleId, status)) :
    db.cycles.count (isCycleOf effort.id cycleId status) = 1 := by
  obtain ⟨cycle, mem, same, active⟩ := stage.active_cycle named
  have there := Database.mem_view_cycles.mp mem
  apply (Table.count_eq_one cycleId fun row hit => id_of_isCycleOf hit).mpr
  exact ⟨cycle, there.1, by simp [isCycleOf, same, active, there.2]⟩

/-- The payload of the state of a stage is valid. -/
theorem CycleStage.launch_valid {launch : AgentLaunching}
    (stage : CycleStage effort (.agentLaunching launch) failedCycles log db) :
    (IntegrationEffortState.agentLaunching launch).validatePayload = .ok () := by
  have valid := stage.valid
  have within : ¬failedCycles > automaticCycleLimit := by
    have below := stage.below nofun
    omega
  unfold IntegrationEffortState.validateForCount at valid
  simpa only [within, if_false] using valid

/-- The running agent of a cycle is valid. -/
theorem CycleStage.running_valid {running : AgentRunning}
    (stage : CycleStage effort (.agentRunning running) failedCycles log db) :
    (IntegrationEffortState.agentRunning running).validatePayload = .ok () := by
  have valid := stage.valid
  have within : ¬failedCycles > automaticCycleLimit := by
    have below := stage.below nofun
    omega
  unfold IntegrationEffortState.validateForCount at valid
  simpa only [within, if_false] using valid

/-- An open launch may surrender its spawn authority. -/
theorem CycleStage.surrender {launch : AgentLaunching}
    (stage : CycleStage effort (.agentLaunching launch) failedCycles log db)
    (opened : launch.spawnAuthority = .open) :
    ∃ later, (Operation.surrenderCycleSpawnAuthority effort.id launch.identity true
        stamp).transaction.Commits db (.flag true) later ∧
      CycleStage effort (.agentLaunching { launch with spawnAuthority := .surrendered })
        failedCycles log
        (store.step db (.surrenderCycleSpawnAuthority effort.id launch.identity true stamp)) := by
  have valid : (IntegrationEffortState.agentLaunching
      { launch with spawnAuthority := .surrendered }).validatePayload = .ok () := by
    have before := stage.launch_valid
    simp only [IntegrationEffortState.validatePayload, Checked.seq_eq_ok, check_eq_ok,
      IntegrationEffortState.isLaunchAuthority, Bool.and_eq_true] at before ⊢
    exact ⟨⟨before.1.1, rfl⟩, before.2⟩
  have one := stage.count_active rfl
  have accepts : Accepts (db.view effort.id) (effort.at (.agentLaunching launch) failedCycles)
      (effort.at (.agentLaunching launch) failedCycles)
      (.agentLaunching { launch with spawnAuthority := .surrendered }) failedCycles none := by
    have unlimited : StateName.agentLaunching ≠ .cycleLimitBlocked := by decide
    refine ⟨rfl, validateForCount_agentLaunching (stage.below unlimited).le valid, rfl,
      stage.checked.range, rfl, stage.within unlimited unlimited,
      payloadCheck_agentLaunching rfl valid, ?_⟩
    exact stage.active_cycle rfl
  have update := @CycleStage.commits_updateState _ _ _ _ _ stage rfl _ _ db.cycles [] accepts
  rw [List.append_nil] at update
  have commits : (Operation.surrenderCycleSpawnAuthority effort.id launch.identity true
      stamp).transaction.Commits db (.flag true)
        (db.advance (effort.at (.agentLaunching launch) failedCycles) db.cycles
          (.agentLaunching { launch with spawnAuthority := .surrendered }) failedCycles
          [⟨stamp.eventId, effort.itemId, effort.id, "runner_spawn_surrendered", .fields
            [("cycle_id", .text launch.cycleId),
              ("operation_id", .text launch.identity.launchOperationId)], false⟩]) := by
    simp only [Operation.transaction, commits_map, surrenderCycleSpawnAuthority,
      commits_require_bind, commits_requiredEffort_bind]
    refine ⟨true, ⟨trivial, _, stage.stored, stage.valid, ?_⟩, rfl⟩
    show Transaction.Commits (do
      require (launch.identity = launch.identity ∧ launch.spawnAuthority = .open) _
      _) db true _
    refine commits_require_bind.mpr ⟨⟨rfl, opened⟩, commits_bind.mpr ⟨(), _, update, ?_⟩⟩
    refine commits_query_bind.mpr (commits_require_bind.mpr ⟨one, ?_⟩)
    refine commits_bind.mpr ⟨(), _, commits_write.mpr ⟨rfl, ?_⟩, commits_pure.mpr ⟨rfl, rfl⟩⟩
    simp [Database.advance, Database.withState, IntegrationEffort.at]
  exact ⟨_, commits, stage.next commits stage.cycleIds stage.number (by simp) rfl⟩

/-- A surrendered launch is authorized to spawn. -/
theorem CycleStage.authorize {launch : AgentLaunching}
    (stage : CycleStage effort (.agentLaunching launch) failedCycles log db)
    (surrendered : launch.spawnAuthority = .surrendered) :
    (Operation.authorizeCycleSpawn effort.id launch.identity true).transaction.Commits db
        (.flag true) db ∧
      CycleStage effort (.agentLaunching launch) failedCycles log
        (store.step db (.authorizeCycleSpawn effort.id launch.identity true)) := by
  have commits : (Operation.authorizeCycleSpawn effort.id launch.identity true).transaction.Commits
      db (.flag true) db := by
    simp only [Operation.transaction, commits_map, authorizeCycleSpawn,
      commits_requiredEffort_bind]
    refine ⟨true, ⟨_, stage.stored, stage.valid, ?_⟩, rfl⟩
    exact commits_require_bind.mpr ⟨⟨rfl, surrendered⟩, commits_pure.mpr ⟨rfl, rfl⟩⟩
  refine ⟨commits, ?_⟩
  rw [store_step, settle_of_commits commits]
  exact stage

/-- A moved cycle has its id. -/
theorem IntegrationCycle.id_moved (status : CycleStatus) (failure : Option CycleFailure)
    (row : IntegrationCycle) :
    { row with status, failure := failure.or row.failure }.id = row.id :=
  rfl

/-- The cycles of a database with the chosen ones moved to a status. -/
def Database.movedCycles (db : Database) (chosen : IntegrationCycle → Bool) (status : CycleStatus)
    (failure : Option CycleFailure) : Table IntegrationCycle.id :=
  db.cycles.update chosen (fun row => { row with status, failure := failure.or row.failure })
    (IntegrationCycle.id_moved status failure)

variable {chosen : IntegrationCycle → Bool} {status : CycleStatus} {failure : Option CycleFailure}

/-- Moving cycles keeps their identifiers. -/
theorem cycleIds_movedCycles : (db.movedCycles chosen status failure).rows.map IntegrationCycle.id =
    db.cycles.rows.map IntegrationCycle.id := by
  rw [Database.movedCycles, Table.update, List.map_map]
  apply List.map_congr_left
  intro row _
  show (Table.rewrite chosen _ row).id = row.id
  unfold Table.rewrite
  split <;> rfl

/-- Cycles are moved as counted. -/
theorem commits_movedCycles {count : Nat} (counted : db.cycles.count chosen = count) :
    (updateCycles chosen status failure).Commits db count
      { db with cycles := db.movedCycles chosen status failure } :=
  commits_write.mpr ⟨counted, rfl⟩

/-- Moving cycles keeps their numbers. -/
theorem maxCycleNumber_movedCycles :
    ({ db with cycles := db.movedCycles chosen status failure } : Database).maxCycleNumber
      effort.id = db.maxCycleNumber effort.id := by
  have moved := @commits_movedCycles db chosen status failure _ rfl
  rw [Database.maxCycleNumber_eq, view_updateCycles moved effort.id,
    EffortView.maxCycle_setCycles]
  rfl

/-- A surrendered launch records the runner that was started for it. -/
theorem CycleStage.start {launch : AgentLaunching} {running : AgentRunning}
    (stage : CycleStage effort (.agentLaunching launch) failedCycles log db)
    (surrendered : launch.spawnAuthority = .surrendered)
    (identity : launch.identity = running.identity)
    (same : launch.unitName = running.unitName ∧ launch.cycleId = running.cycleId ∧
      launch.cycleNumber = running.cycleNumber ∧ launch.inputSha256 = running.inputSha256)
    (valid : (IntegrationEffortState.agentRunning running).validatePayload = .ok ()) :
    ∃ later, (Operation.recordCycleStarted effort.id running running.authorityLeaseId
        running.launcher stamp).transaction.Commits db (.flag true) later ∧
      CycleStage effort (.agentRunning running) failedCycles log
        (store.step db (.recordCycleStarted effort.id running running.authorityLeaseId
          running.launcher stamp)) := by
  obtain ⟨unit, cycle, number, input⟩ := same
  have one : db.cycles.count (isCycleOf effort.id running.cycleId .starting) = 1 := by
    rw [← cycle]
    exact stage.count_active rfl
  let cycles := db.movedCycles (isCycleOf effort.id running.cycleId .starting) .running none
  have moved : (updateCycles (isCycleOf effort.id running.cycleId .starting) .running none).Commits
      db 1 { db with cycles } := commits_movedCycles one
  have accepts : Accepts (({ db with cycles } : Database).view effort.id)
      (effort.at (.agentLaunching launch) failedCycles)
      (effort.at (.agentLaunching launch) failedCycles) (.agentRunning running) failedCycles
      none := by
    refine ⟨rfl, validateForCount_agentRunning (stage.below nofun).le valid, rfl,
      stage.checked.range, rfl, stage.within nofun nofun, payloadCheck_agentRunning rfl valid, ?_⟩
    obtain ⟨row, mem, named, starting⟩ := stage.active_cycle rfl
    have hit : isCycleOf effort.id running.cycleId .starting row = true := by
      have owned := (Database.mem_view_cycles.mp mem).2
      simp [isCycleOf, named, starting, owned, cycle]
    rw [view_updateCycles moved effort.id]
    refine ⟨_, EffortView.mem_setCycles.mpr ⟨row, mem, rfl⟩, ?_⟩
    rw [Table.rewrite_of_chosen hit]
    exact ⟨named.trans cycle, rfl⟩
  have commits : (Operation.recordCycleStarted effort.id running running.authorityLeaseId
      running.launcher stamp).transaction.Commits db (.flag true)
        (db.advance (effort.at (.agentLaunching launch) failedCycles) cycles
          (.agentRunning running) failedCycles
          [⟨stamp.eventId, effort.itemId, effort.id, "agent_running", .fields
            [("cycle_id", .text running.cycleId),
              ("operation_id", .text running.launchOperationId),
              ("unit_name", .text running.unitName)], false⟩]) := by
    have end_commits := @CycleStage.commits_update_event _ _ _ _ _ stage rfl _ _ stamp.eventId
      "agent_running" (.fields [("cycle_id", .text running.cycleId),
        ("operation_id", .text running.launchOperationId),
        ("unit_name", .text running.unitName)]) accepts
    simp only [Operation.transaction, commits_map, recordCycleStarted,
      commits_requiredEffort_bind]
    refine ⟨true, ⟨_, stage.stored, stage.valid, ?_⟩, rfl⟩
    refine commits_require_bind.mpr ⟨⟨identity, rfl, unit, cycle, number, input, surrendered⟩, ?_⟩
    refine commits_bind.mpr ⟨1, _, moved, commits_require_bind.mpr ⟨rfl, ?_⟩⟩
    obtain ⟨⟨⟩, middle, update, event⟩ := commits_bind.mp end_commits
    exact commits_bind.mpr ⟨(), middle, update,
      commits_bind.mpr ⟨(), _, event, commits_pure.mpr ⟨rfl, rfl⟩⟩⟩
  refine ⟨_, commits, stage.next commits ?_ ?_ (by simp) rfl⟩
  · rw [cycleIds_movedCycles, stage.cycleIds]
  · rw [maxCycleNumber_movedCycles, stage.number]

/-- A running cycle records a result state that follows the one it has. -/
theorem CycleStage.result {running : AgentRunning} {result : AtomicResultState}
    (stage : CycleStage effort (.agentRunning running) failedCycles log db)
    (follows : resultTransition running.result result = true) :
    ∃ later, (Operation.recordResultState effort.id running.cycleId result).transaction.Commits db
        .done later ∧
      CycleStage effort (.agentRunning { running with result }) failedCycles log
        (store.step db (.recordResultState effort.id running.cycleId result)) := by
  have valid : (IntegrationEffortState.agentRunning { running with result }).validatePayload =
      .ok () := stage.running_valid
  have present : result ≠ .absent := by
    rintro rfl
    unfold resultTransition at follows
    split at follows <;> simp_all
  have accepts : Accepts (db.view effort.id) (effort.at (.agentRunning running) failedCycles)
      (effort.at (.agentRunning running) failedCycles) (.agentRunning { running with result })
      failedCycles none := by
    refine ⟨rfl, validateForCount_agentRunning (stage.below nofun).le valid, rfl,
      stage.checked.range, rfl, stage.within nofun nofun, payloadCheck_agentRunning rfl valid, ?_⟩
    exact stage.active_cycle rfl
  have update := @CycleStage.commits_updateState _ _ _ _ _ stage rfl _ _ db.cycles [] accepts
  rw [List.append_nil] at update
  have commits : (Operation.recordResultState effort.id running.cycleId result).transaction.Commits
      db .done (db.advance (effort.at (.agentRunning running) failedCycles) db.cycles
        (.agentRunning { running with result }) failedCycles []) := by
    simp only [Operation.transaction, commits_map, recordResultState, commits_require_bind,
      commits_requiredEffort_bind, commits_expect_bind, commits_query_bind,
      IntegrationEffortState.agentRunning?_eq_some]
    exact ⟨(), ⟨present, _, stage.stored, stage.valid, running, rfl, rfl, follows,
      stage.count_active rfl, update⟩, trivial⟩
  exact ⟨_, commits, stage.next commits stage.cycleIds stage.number rfl rfl⟩

/-- The state that a consumed failure writes at a stage. -/
def CycleStage.failed (db : Database) (effort : IntegrationEffort) (log : CycleLog)
    (cycleId : String) (failure : CycleFailure) (count : Nat) (stamp : Stamp) :
    IntegrationEffortState :=
  failedState db effort.id cycleId failure count (log.number + 1) stamp.eventId

/-- The alerts of a consumed failure: one at the limit. -/
def limitAlertsOf (count : Nat) : Nat := if count = automaticCycleLimit then 1 else 0

/-- A running cycle is consumed, and counted, by its failure. -/
theorem CycleStage.consume {running : AgentRunning} {failure : CycleFailure}
    (stage : CycleStage effort (.agentRunning running) failedCycles log db)
    (within : log.number + 1 ≤ 255) :
    ∃ later, (Operation.consumeCycleFailure effort.id running.cycleId failure
        stamp).transaction.Commits db .done later ∧
      CycleStage effort (CycleStage.failed db effort log running.cycleId failure
          (failedCycles + 1) stamp) (failedCycles + 1)
        ⟨log.cycleIds, log.number, log.alerts + limitAlertsOf (failedCycles + 1), log.owed⟩
        (store.step db (.consumeCycleFailure effort.id running.cycleId failure stamp)) := by
  have below : failedCycles < automaticCycleLimit := stage.below nofun
  have limit : automaticCycleLimit = 10 := rfl
  have one := stage.count_active rfl
  have number : (db.view effort.id).maxCycle = log.number := stage.number
  let state := CycleStage.failed db effort log running.cycleId failure (failedCycles + 1) stamp
  let cycles := db.movedCycles (isCycleOf effort.id running.cycleId .running) .failed (some failure)
  let added : List DurableEvent :=
    if failedCycles + 1 = automaticCycleLimit then
      [⟨stamp.eventId, effort.itemId, effort.id, "cycle_limit", .state state, true⟩]
    else
      [⟨stamp.eventId, effort.itemId, effort.id, "cycle_failed", .failure failure, false⟩]
  have moved : (updateCycles (isCycleOf effort.id running.cycleId .running) .failed
      (some failure)).Commits { db with events := db.events ++ added.filter DurableEvent.alert } 1
        { db with cycles, events := db.events ++ added.filter DurableEvent.alert } :=
    commits_write.mpr ⟨one, rfl⟩
  have accepts : Accepts (({ db with cycles } : Database).view effort.id)
      (effort.at (.agentRunning running) failedCycles)
      (effort.at (.agentRunning running) failedCycles) state (failedCycles + 1) none := by
    show Accepts _ _ _ (failedState _ _ _ _ _ _ _) _ _
    unfold failedState
    by_cases reached : failedCycles + 1 = automaticCycleLimit
    · rw [if_pos reached]
      have validated : (cycleLimitState db effort.id running.cycleId failure (failedCycles + 1)
          (log.number + 1) stamp.eventId).validateForCount (failedCycles + 1) = .ok () := by
        rw [reached]
        rfl
      refine ⟨rfl, validated, rfl, by omega, rfl, ?_, ?_, trivial⟩
      · rw [reached]
        rfl
      · rw [reached]
        rfl
    · rw [if_neg reached]
      have low : ¬failedCycles + 1 > automaticCycleLimit := by omega
      refine ⟨rfl, ?_, rfl, by omega, rfl, ?_, ?_, trivial⟩
      · unfold IntegrationEffortState.validateForCount
        simp only [low, if_false]
        rfl
      · have apart : (failedCycles + 1 == 10) = false := beq_eq_false_iff_ne.mpr (by omega)
        show (_ == (failedCycles + 1 == 10)) = true
        rw [apart]
        rfl
      · simp [payloadCheck]
  have update := @CycleStage.commits_updateState _ _ _ _ _ stage rfl _ _ cycles
    (added.filter DurableEvent.alert) accepts
  have commits : (Operation.consumeCycleFailure effort.id running.cycleId failure
      stamp).transaction.Commits db .done
        (db.advance (effort.at (.agentRunning running) failedCycles) cycles state
          (failedCycles + 1) added) := by
    simp only [Operation.transaction, commits_map, consumeCycleFailure,
      commits_requiredEffort_bind, commits_require_bind, commits_nextCycleNumber_bind,
      commits_query_bind, number]
    refine ⟨(), ⟨_, stage.stored, stage.valid, below, within, ?_⟩, trivial⟩
    refine commits_bind.mpr ⟨(), { db with events := db.events ++ added.filter DurableEvent.alert },
      ?_, ?_⟩
    · show (reportLimit _ state (failedCycles + 1) stamp).Commits db () _
      unfold reportLimit
      by_cases reached : failedCycles + 1 = automaticCycleLimit
      · rw [if_pos reached]
        refine commits_write.mpr ⟨rfl, ?_⟩
        simp [added, reached, IntegrationEffort.at]
      · rw [if_neg reached]
        refine commits_pure.mpr ⟨rfl, ?_⟩
        simp [added, reached]
    · refine commits_bind.mpr ⟨1, _, moved, commits_require_bind.mpr ⟨rfl, ?_⟩⟩
      refine commits_bind.mpr ⟨(), _, update, ?_⟩
      show (reportFailure _ _ failure (failedCycles + 1) stamp).Commits _ () _
      unfold reportFailure
      by_cases reached : failedCycles + 1 = automaticCycleLimit
      · have full : ¬failedCycles + 1 < automaticCycleLimit := by omega
        rw [if_neg full]
        refine commits_pure.mpr ⟨rfl, ?_⟩
        simp [added, reached]
      · have low : failedCycles + 1 < automaticCycleLimit := by omega
        rw [if_pos low]
        refine commits_write.mpr ⟨rfl, ?_⟩
        simp [added, reached, Database.advance, Database.withState, IntegrationEffort.at]
  refine ⟨_, commits, stage.next commits ?_ ?_ ?_ rfl⟩
  · rw [cycleIds_movedCycles, stage.cycleIds]
  · rw [maxCycleNumber_movedCycles, stage.number]
  · show _ = log.alerts + limitAlertsOf (failedCycles + 1)
    unfold limitAlertsOf
    by_cases reached : failedCycles + 1 = automaticCycleLimit
    · simp [added, reached]
    · simp [added, reached]

end Iq
