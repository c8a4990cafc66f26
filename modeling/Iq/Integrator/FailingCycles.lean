import Iq.Integrator.BoundedCycles

/-!
# Cycles that all fail

What the loop of agent cycles comes to when every cycle is launched and consumed as failed: it stops
with the effort blocked at the cycle limit and one further alert, after exactly as many launches as
the count left. A session `Leads` to what it arrives at; `CycleStage` is followed from the launch of
a cycle to its failure.
-/

namespace Iq

open Library Library.Transaction

/-! ## Turns -/

/-- Whether a published result is consumed as a failure of its cycle. -/
def CycleTurn.Rejects (turn : CycleTurn) : AgentResult → Prop
  | .resolved _ => turn.imported ≠ .ok () ∨ turn.unresolved = true
  | .guidanceRequired _ => False
  | .mechanicalFailure _ => True

/-- Whether the sandbox ends in a way that is consumed as a failure of its cycle. -/
def CycleTurn.Fails (turn : CycleTurn) : Prop :=
  match turn.sandbox with
  | .unreleased _ | .failed _ | .authorityLost => False
  | .timedOut | .exceeded | .missing _ | .rejected _ => True
  | .accepted _ _ (.error _) => True
  | .accepted _ _ (.ok (answer, _)) => turn.Rejects answer

/-- A turn whose cycle is launched and fails. -/
structure CycleTurn.Failing (turn : CycleTurn) : Prop where
  admitted : turn.admission = .ok none
  alive : turn.alive = true
  spawned : turn.spawned = true
  removable : turn.removable = true
  launch : ∀ number, number ≠ 0 →
    (IntegrationEffortState.agentLaunching (turn.launch number)).validatePayload = .ok ()
  running : ∀ number, number ≠ 0 →
    (IntegrationEffortState.agentRunning (turn.running number)).validatePayload = .ok ()
  fails : turn.Fails

/-- The first turns all fail, under new and distinct identifiers of their cycles. -/
structure AllFail (turns : Nat → CycleTurn) (count : Nat) (cycleIds : List String) : Prop where
  failing : ∀ index, index < count → (turns index).Failing
  fresh : ∀ index, index < count → (turns index).cycleId ∉ cycleIds
  distinct : ∀ first second, first < second → second < count →
    (turns first).cycleId ≠ (turns second).cycleId

/-- The turns after the first one. -/
theorem AllFail.tail {turns : Nat → CycleTurn} {count : Nat} {cycleIds : List String}
    (all : AllFail turns (count + 1) cycleIds) :
    AllFail (fun index => turns (index + 1)) count (cycleIds ++ [(turns 0).cycleId]) where
  failing index within := all.failing (index + 1) (by omega)
  fresh index within mem := by
    rcases List.mem_append.mp mem with mem | mem
    · exact all.fresh (index + 1) (by omega) mem
    · have same := List.mem_singleton.mp mem
      exact all.distinct 0 (index + 1) (by omega) (by omega) same.symm
  distinct first second before within :=
    all.distinct (first + 1) (second + 1) (by omega) (by omega)

/-! ## Where a session leads -/

/-- A session returns a value, after a number of launches, in a database that is arrived at. -/
def Leads {α : Type} (session : CycleSession α) (db : Database) (value : α) (launched : Nat)
    (arrives : Database → Prop) : Prop :=
  ∃ labels, session.Yields db value labels ∧ labels.countP Operation.launches = launched ∧
    arrives (store.run db labels)

section Rules

variable {α β : Type} {first : CycleSession α} {next : α → CycleSession β} {value : α} {result : β}
  {db later : Database} {launched more : Nat} {middle arrives : Database → Prop}
  {operation : Operation} {outcome : Outcome}

/-- A sequence leads where its parts do, with the launches of both. -/
theorem leads_bind (before : Leads first db value launched middle)
    (after : ∀ later, middle later → Leads (next value) later result more arrives) :
    Leads (first >>= next) db result (launched + more) arrives := by
  obtain ⟨labels, yields, counted, arrived⟩ := before
  obtain ⟨rest, follows, further, ends⟩ := after _ arrived
  refine ⟨labels ++ rest, Session.yields_bind yields follows, ?_, ?_⟩
  · rw [List.countP_append, counted, further]
  · rw [Machine.run_append]
    exact ends

/-- Going on after a session without a launch. -/
theorem leads_then (before : Leads first db value 0 middle)
    (after : ∀ later, middle later → Leads (next value) later result launched arrives) :
    Leads (first >>= next) db result launched arrives := by
  have both := leads_bind before after
  rw [Nat.zero_add] at both
  exact both

/-- A value leads nowhere. -/
theorem leads_pure (arrived : arrives db) : Leads (pure value) db value 0 arrives :=
  ⟨[], rfl, rfl, arrived⟩

/-- A read leads nowhere. -/
theorem leads_read {look : Database → Except CycleStop α} (found : look db = .ok value)
    (arrived : arrives db) : Leads (Session.read look) db value 0 arrives :=
  ⟨[], Session.yields_read found, rfl, arrived⟩

/-- A transaction that commits leads to what it writes. -/
theorem leads_transact (commits : operation.transaction.Commits db outcome later)
    (arrived : arrives (store.step db operation)) :
    Leads (transact operation) db outcome (if operation.launches then 1 else 0) arrives :=
  ⟨[operation], transact_yields commits, List.countP_singleton, arrived⟩

/-- A transaction that is no launch. -/
theorem leads_quiet (quiet : operation.launches = false)
    (commits : operation.transaction.Commits db outcome later)
    (arrived : arrives (store.step db operation)) :
    Leads (transact operation) db outcome 0 arrives := by
  have leads := leads_transact commits arrived
  rw [quiet] at leads
  exact leads

/-- An attempt leads where the session does. -/
theorem leads_attempt (leads : Leads first db value launched arrives) :
    Leads first.attempt db (.ok value) launched arrives := by
  obtain ⟨labels, yields, counted, arrived⟩ := leads
  refine ⟨labels, ?_, counted, arrived⟩
  show (Except.ok (first db).1, (first db).2) = _
  rw [yields]

end Rules

/-! ## A cycle that fails -/

variable {db : Database} {effort : IntegrationEffort} {state : IntegrationEffortState}
  {count number launched : Nat} {log : CycleLog} {turn : CycleTurn} {again : CycleSession Unit}
  {arrives : Database → Prop} {failure : CycleFailure}

/-- The state of an effort whose cycle runs, with the state of its result. -/
def CycleTurn.ran (turn : CycleTurn) (number : Nat) (result : AtomicResultState) :
    IntegrationEffortState :=
  .agentRunning { turn.running number with result }

/-- Whether an outcome of a runner is consumed as a failure of its cycle. -/
def CycleTurn.Consumes (turn : CycleTurn) (recorded : AtomicResultState) : RunnerOutcome → Prop
  | .complete answer next => resultTransition recorded next = true ∧ turn.Rejects answer
  | .authorityLost => False
  | .missingResult _ | .timedOut | .invalidResult _ => True

/-- The sandbox of a failing turn ends in an outcome that is consumed. -/
theorem leads_runnerOutcome (fails : turn.Fails) : ∃ outcome recorded,
    turn.Consumes recorded outcome ∧
      ∀ db, CycleStage effort (turn.ran number .absent) count log db →
        Leads (runnerOutcome effort turn) db outcome 0
          (CycleStage effort (turn.ran number recorded) count log) := by
  unfold CycleTurn.Fails at fails
  unfold runnerOutcome
  cases sandbox : turn.sandbox with
  | unreleased message =>
    rw [sandbox] at fails
    exact fails.elim
  | failed message =>
    rw [sandbox] at fails
    exact fails.elim
  | authorityLost =>
    rw [sandbox] at fails
    exact fails.elim
  | timedOut => exact ⟨.timedOut, .absent, trivial, fun db stage => leads_pure stage⟩
  | exceeded => exact ⟨.invalidResult _, .absent, trivial, fun db stage => leads_pure stage⟩
  | missing exitCode =>
    exact ⟨.missingResult exitCode, .absent, trivial, fun db stage => leads_pure stage⟩
  | rejected reason => exact ⟨.invalidResult reason, .absent, trivial, fun db stage => leads_pure stage⟩
  | accepted device inode published =>
    have recorded : ∀ db, CycleStage effort (turn.ran number .absent) count log db →
        Leads (transact (.recordResultState effort.id turn.cycleId (.writing device inode))).attempt
          db (.ok .done) 0 (CycleStage effort (turn.ran number (.writing device inode)) count log) := by
      intro db stage
      have follows : resultTransition .absent (.writing device inode) = true := rfl
      obtain ⟨later, commits, writing⟩ := stage.result follows
      exact leads_attempt (leads_quiet rfl commits writing)
    cases published with
    | error reason =>
      refine ⟨.invalidResult reason, .writing device inode, trivial, fun db stage => ?_⟩
      exact leads_then (recorded db stage) fun later arrived => leads_pure arrived
    | ok answered =>
      obtain ⟨answer, sha256⟩ := answered
      rw [sandbox] at fails
      refine ⟨.complete answer (.complete device inode sha256), .writing device inode, ⟨?_, fails⟩,
        fun db stage => ?_⟩
      · simp [resultTransition]
      · exact leads_then (recorded db stage) fun later arrived => leads_pure arrived

/-- A prepared launch of a failing turn is surrendered, authorized and started. -/
theorem leads_runnerLaunched (failing : turn.Failing) (positive : number ≠ 0) :
    ∃ outcome recorded, turn.Consumes recorded outcome ∧
      ∀ db, CycleStage effort (.agentLaunching (turn.launch number)) count log db →
        Leads (runnerLaunched effort number turn) db outcome 0
          (CycleStage effort (turn.ran number recorded) count log) := by
  obtain ⟨outcome, recorded, consumes, ran⟩ := @leads_runnerOutcome effort count number log turn
    failing.fails
  refine ⟨outcome, recorded, consumes, fun db stage => ?_⟩
  unfold runnerLaunched
  rw [failing.alive, failing.spawned]
  obtain ⟨later, commits, surrendered⟩ := @CycleStage.surrender _ _ _ turn.stamp _ _ stage rfl
  refine leads_then (leads_quiet rfl commits surrendered) fun db stage => ?_
  obtain ⟨commits, authorized⟩ := stage.authorize rfl
  refine leads_then (leads_quiet rfl commits authorized) fun db stage => ?_
  have valid := failing.running number positive
  obtain ⟨later, commits, started⟩ := @CycleStage.start _ _ _ turn.stamp _ _ (turn.running number)
    stage rfl rfl ⟨rfl, rfl, rfl, rfl⟩ valid
  exact leads_then (leads_attempt (leads_quiet rfl commits started)) ran

/-! ## The failure -/

/-- A recorded log keeps the stage of the cycle. -/
theorem leads_recordCycleLog {recorded : AtomicResultState}
    (stage : CycleStage effort (turn.ran number recorded) count log db) :
    Leads (recordCycleLog effort turn) db () 0
      (CycleStage effort (turn.ran number recorded) count log) := by
  have one : db.cycles.count (isCycleOf effort.id turn.cycleId .running) = 1 :=
    stage.count_active rfl
  exact leads_read (if_pos one) stage

/-- Removable protocol files are removed. -/
theorem leads_removeCycleProtocol (removable : turn.removable = true) (arrived : arrives db) :
    Leads (removeCycleProtocol turn) db () 0 arrives := by
  unfold removeCycleProtocol
  rw [if_pos removable]
  exact leads_pure arrived

/-- A failure is consumed before its files are removed. -/
theorem leads_consumeThenRemove (removable : turn.removable = true)
    (leads : Leads (consumeAgentFailure again effort turn failure) db () launched arrives) :
    Leads (consumeThenRemove again effort turn failure) db () launched arrives := by
  show Leads _ db () (launched + 0) arrives
  refine leads_bind (leads_attempt leads) fun later arrived => ?_
  exact leads_then (leads_removeCycleProtocol removable arrived) fun db arrived =>
    leads_read rfl arrived

/-- Every outcome of a failing turn is consumed while its cycle runs. -/
theorem leads_followOutcome {outcome : RunnerOutcome} {recorded : AtomicResultState}
    (removable : turn.removable = true) (consumes : turn.Consumes recorded outcome)
    (leads : ∀ failure recorded db, CycleStage effort (turn.ran number recorded) count log db →
      Leads (consumeAgentFailure again effort turn failure) db () launched arrives)
    (stage : CycleStage effort (turn.ran number recorded) count log db) :
    Leads (followOutcome again effort turn outcome) db () launched arrives := by
  cases outcome with
  | authorityLost => exact consumes.elim
  | missingResult exitCode =>
    exact leads_then (leads_recordCycleLog stage) fun db stage =>
      leads_consumeThenRemove removable (leads _ _ db stage)
  | timedOut =>
    exact leads_then (leads_recordCycleLog stage) fun db stage =>
      leads_consumeThenRemove removable (leads _ _ db stage)
  | invalidResult reason =>
    refine leads_then (leads_recordCycleLog stage) fun db stage => ?_
    exact leads_then (leads_removeCycleProtocol removable stage) (leads _ _)
  | complete answer next =>
    refine leads_then (leads_recordCycleLog stage) fun db stage => ?_
    obtain ⟨follows, rejects⟩ := consumes
    obtain ⟨later, commits, stage⟩ := stage.result follows
    refine leads_then (leads_quiet rfl commits stage) fun db stage => ?_
    cases answer with
    | guidanceRequired guidance => exact rejects.elim
    | mechanicalFailure failure => exact leads_consumeThenRemove removable (leads _ next db stage)
    | resolved resolved =>
      unfold classifyAgentResult
      cases imported : turn.imported with
      | error error => exact leads_then (leads_removeCycleProtocol removable stage) (leads _ next)
      | ok =>
        have unresolved : turn.unresolved = true := by
          rcases rejects with failed | unresolved
          · exact absurd imported failed
          · exact unresolved
        refine leads_then (leads_removeCycleProtocol removable stage) fun db stage => ?_
        rw [if_pos unresolved]
        exact leads _ next db stage

/-! ## The stop at the limit -/

/-- An effort blocked at the cycle limit, with the alerts of that. -/
def Database.LimitReached (effort : IntegrationEffort) (alerts : Nat) (db : Database) : Prop :=
  ∃ row blocker resume, db.efforts.find? effort.id = some row ∧
    row.state = .cycleLimitBlocked ⟨.cycleLimit blocker, resume⟩ ∧
      blocker.count = automaticCycleLimit ∧ row.failedCycles = automaticCycleLimit ∧
        (db.limitAlerts effort.id).length = alerts

/-- The effort at a stage, read by its item. -/
theorem CycleStage.ofItem (stage : CycleStage effort state count log db) :
    db.effortOfItem effort.itemId = some (effort.at state count) := by
  have linked := linked_of_reachable stage.reachable
  have mem := (Table.find?_eq_some.mp stage.stored).1
  exact effortOfItem_eq_some linked.distinct mem

/-- The stage of an effort as it is stored. -/
theorem CycleStage.now (stage : CycleStage effort state count log db) :
    CycleStage (effort.at state count) state count log db :=
  ⟨stage.reachable, stage.stored, stage.cycleIds, stage.number, stage.alerts, stage.owed⟩

/-- A consumed failure of a running cycle stops the loop at the limit, or goes on below it. -/
theorem leads_consumeAgentFailure {recorded : AtomicResultState} (within : log.number + 1 ≤ 255)
    (limit : count + 1 = automaticCycleLimit → launched = 0 ∧
      ∀ db, db.LimitReached effort (log.alerts + 1) → arrives db)
    (goes : count + 1 ≠ automaticCycleLimit → ∀ db,
      CycleStage effort (.agentReady ⟨log.number + 1⟩) (count + 1) log db →
        Leads again db () launched arrives)
    (stage : CycleStage effort (turn.ran number recorded) count log db) :
    Leads (consumeAgentFailure again effort turn failure) db () launched arrives := by
  obtain ⟨later, commits, failed⟩ : ∃ later, (Operation.consumeCycleFailure effort.id turn.cycleId
      failure turn.stamp).transaction.Commits db .done later ∧
        CycleStage effort
          (if count + 1 = automaticCycleLimit then
            cycleLimitState db effort.id turn.cycleId failure (count + 1) (log.number + 1)
              turn.stamp.eventId
          else .agentReady ⟨log.number + 1⟩) (count + 1)
          ⟨log.cycleIds, log.number, log.alerts + limitAlertsOf (count + 1), log.owed⟩
          (store.step db (.consumeCycleFailure effort.id turn.cycleId failure turn.stamp)) :=
    stage.consume within
  unfold consumeAgentFailure
  unfold limitAlertsOf at failed
  by_cases reached : count + 1 = automaticCycleLimit
  · rw [if_pos reached, if_pos reached] at failed
    obtain ⟨rfl, stops⟩ := limit reached
    refine leads_then (leads_quiet rfl commits failed) fun now stage => ?_
    refine leads_then ⟨[], effortForItem_yields stage.ofItem stage.valid, rfl, stage⟩
      fun now stage => leads_pure ?_
    exact stops now ⟨_, _, _, stage.stored, rfl, reached, reached, stage.alerts⟩
  · rw [if_neg reached, if_neg reached, Nat.add_zero] at failed
    refine leads_then (leads_quiet rfl commits failed) fun now stage => ?_
    exact leads_then ⟨[], effortForItem_yields stage.ofItem stage.valid, rfl, stage⟩ (goes reached)

/-- A launched cycle of a failing turn arrives where its consumed failure leads. -/
theorem leads_cycle (failing : turn.Failing) (fresh : turn.cycleId ∉ log.cycleIds)
    (stage : CycleStage effort (.agentReady ⟨log.number + 1⟩) count log db)
    (leads : ∀ failure recorded db, CycleStage effort (turn.ran (log.number + 1) recorded) count
        ⟨log.cycleIds ++ [turn.cycleId], log.number + 1, log.alerts, log.owed⟩ db →
      Leads (consumeAgentFailure again effort turn failure) db () launched arrives) :
    Leads (runnerRun effort (log.number + 1) turn >>= followOutcome again effort turn) db ()
      (1 + launched) arrives := by
  have positive : log.number + 1 ≠ 0 := Nat.succ_ne_zero _
  have valid := failing.launch (log.number + 1) positive
  obtain ⟨outcome, recorded, consumes, launches⟩ := @leads_runnerLaunched effort count _
    ⟨log.cycleIds ++ [turn.cycleId], log.number + 1, log.alerts, log.owed⟩ turn failing positive
  obtain ⟨later, commits, launching⟩ := @CycleStage.prepare _ _ _ turn.stamp _ stage
    (turn.launch (log.number + 1)) fresh rfl rfl valid
  unfold runnerRun
  rw [Session.bind_assoc]
  refine leads_bind (leads_transact commits launching) fun db stage => ?_
  exact leads_then (launches db stage) fun db stage =>
    leads_followOutcome failing.removable consumes leads stage

/-- A loop with a failing turn for every cycle that the count leaves stops at the limit, after one
launch for each of them. -/
theorem leads_runAgentCycle {depth : Nat} {turns : Nat → CycleTurn}
    (stage : CycleStage effort (.agentReady ⟨log.number + 1⟩) count log db) (unowed : log.owed = false)
    (within : log.number + (automaticCycleLimit - count) + 1 ≤ 255)
    (enough : automaticCycleLimit - count ≤ depth)
    (all : AllFail turns (automaticCycleLimit - count) log.cycleIds) :
    Leads (runAgentCycle effort.itemId depth turns) db () (automaticCycleLimit - count)
      (Database.LimitReached effort (log.alerts + 1)) := by
  have below := stage.below nofun
  induction depth generalizing turns db effort count log with
  | zero => omega
  | succ depth leads_rest =>
    have left : automaticCycleLimit - count = (automaticCycleLimit - (count + 1)) + 1 := by omega
    rw [left] at all
    have failing := all.failing 0 (by omega)
    unfold runAgentCycle
    refine leads_then ⟨[], effortForItem_yields stage.ofItem stage.valid, rfl, stage.now⟩
      fun db stage => ?_
    have waits : Leads (candidatePublicationWaitsForCleanup
        (effort.at (.agentReady ⟨log.number + 1⟩) count)) db false 0 _ :=
      leads_read (congrArg Except.ok (stage.owed.trans unowed)) stage
    refine leads_then waits fun db stage => ?_
    rw [if_neg Bool.false_ne_true, left, Nat.add_comm (automaticCycleLimit - (count + 1))]
    dsimp only
    rw [failing.admitted]
    refine leads_cycle failing (all.fresh 0 (by omega)) stage fun failure recorded db running => ?_
    let next : CycleLog :=
      ⟨log.cycleIds ++ [(turns 0).cycleId], log.number + 1, log.alerts, log.owed⟩
    have limit : count + 1 = automaticCycleLimit → automaticCycleLimit - (count + 1) = 0 ∧
        ∀ db, Database.LimitReached effort (next.alerts + 1) db →
          Database.LimitReached effort (log.alerts + 1) db :=
      fun reached => ⟨by omega, fun db done => done⟩
    have numbered : next.number + 1 ≤ 255 := by
      show log.number + 1 + 1 ≤ 255
      omega
    refine leads_consumeAgentFailure numbered limit
      (fun apart db ready => ?_) running
    have left_numbers : next.number + (automaticCycleLimit - (count + 1)) + 1 ≤ 255 := by
      show log.number + 1 + (automaticCycleLimit - (count + 1)) + 1 ≤ 255
      omega
    exact @leads_rest db (effort.at (.agentReady ⟨log.number + 1⟩) count) (count + 1) next _ ready
      unowed left_numbers (by omega) all.tail (by omega)

/-! ## Bounded work -/

/-- Over every run, the count of an effort is the number of its cycles that were consumed since it
was created, replaced or retried at the limit, each counted once; cancelling sets it to zero. From
every state of a run the loop of agent cycles ends, within a turn more than the count leaves. When
its next cycle follows the stored ones and no landing awaits cleanup, and when every cycle that is
launched fails, it stops at the limit, after exactly the launches that the count left and with one
further alert. -/
theorem agent_work_bounded {start : Database} (initial : start.Initial)
    (operations : List Operation) :
    let db := store.run start operations
    (∀ effortId, (cycleTally start operations effortId).Counts (db.view effortId)) ∧
      ∀ itemId effort, db.effortOfItem itemId = some effort →
        ∀ turns depth, automaticCycleLimit - effort.failedCycles < depth →
          let loop := runAgentCycle itemId depth turns db
          BoundedWork effort.id effort.failedCycles db loop.1 loop.2 ∧
            (effort.state = .agentReady ⟨db.maxCycleNumber effort.id + 1⟩ →
              db.landingCleanupPending effort.attemptId = false →
              db.maxCycleNumber effort.id + (automaticCycleLimit - effort.failedCycles) + 1 ≤ 255 →
              AllFail turns (automaticCycleLimit - effort.failedCycles)
                (db.cycles.rows.map IntegrationCycle.id) →
                loop.1 = .ok () ∧
                  loop.2.countP Operation.launches = automaticCycleLimit - effort.failedCycles ∧
                    (store.run db loop.2).LimitReached effort
                      ((db.limitAlerts effort.id).length + 1)) := by
  intro db
  have reachable : store.Reachable db := ⟨start, operations, initial, rfl⟩
  refine ⟨counts_of_run initial operations, ?_⟩
  intro itemId effort owned turns depth enough loop
  refine ⟨runAgentCycle_bounded reachable owned enough, ?_⟩
  intro ready unowed within all
  have mem : effort ∈ db.efforts := List.mem_of_find?_eq_some owned
  have sameItem : effort.itemId = itemId := by simpa using List.find?_some owned
  have stage := CycleStage.of_stored reachable (Table.find?_eq_some.mpr ⟨mem, rfl⟩)
  rw [ready] at stage
  have all : AllFail turns (automaticCycleLimit - effort.failedCycles)
      (db.cycleLog effort).cycleIds := all
  obtain ⟨labels, yields, launched, reached⟩ :=
    @leads_runAgentCycle db effort effort.failedCycles (db.cycleLog effort) depth turns stage unowed
      within enough.le all
  rw [sameItem] at yields
  have same : loop = (.ok (), labels) := yields
  rw [same]
  exact ⟨rfl, launched, reached⟩

namespace Sample

/-- A turn whose runner times out. -/
def timedOut (number : Nat) : CycleTurn where
  admission := .ok none
  cycleId := cycleId number
  launchOperationId := "launch"
  authorityLeaseId := "lease"
  launcher := launcher
  inputSha256 := digest
  protocolDirectory := "/run"
  preparedAt := "now"
  alive := true
  spawned := true
  pid := 30
  processStartTicks := 40
  controlGroup := "/user.slice/" ++ systemdUnitName (cycleId number)
  sandboxId := "sandbox"
  startedAt := "now"
  sandbox := .timedOut
  imported := .ok ()
  unresolved := false
  build := .failed "no candidate"
  stopped := true
  removable := true
  requestId := "request"
  stamp := stampOf "loop"

/-- The sample's turns fail. -/
theorem timedOut_failing : (timedOut 10).Failing where
  admitted := rfl
  alive := rfl
  spawned := rfl
  removable := rfl
  launch number positive := by
    have named : validateSystemdUnitName (cycleId 10) (systemdUnitName (cycleId 10)) = .ok () := by
      decide +kernel
    have complete : IntegrationEffortState.isLaunchAuthority ((timedOut 10).launch 1) = true := by
      decide +kernel
    have other : IntegrationEffortState.isLaunchAuthority ((timedOut 10).launch number) = true := by
      simp only [IntegrationEffortState.isLaunchAuthority, Bool.and_eq_true] at complete ⊢
      simpa [CycleTurn.launch, positive] using complete
    exact Checked.seq_eq_ok.mpr ⟨check_eq_ok.mpr other, named⟩
  running number positive := by
    have named : validateSystemdUnitName (cycleId 10) (systemdUnitName (cycleId 10)) = .ok () := by
      decide +kernel
    have complete : IntegrationEffortState.isRunningAuthority ((timedOut 10).running 1) = true := by
      decide +kernel
    have other :
        IntegrationEffortState.isRunningAuthority ((timedOut 10).running number) = true := by
      simp only [IntegrationEffortState.isRunningAuthority, Bool.and_eq_true] at complete ⊢
      simpa [CycleTurn.running, positive] using complete
    have terminable : ((timedOut 10).running number).terminationAuthority.validate = .ok () :=
      show ((timedOut 10).running 1).terminationAuthority.validate = .ok () by decide +kernel
    exact Checked.seq_eq_ok.mpr ⟨check_eq_ok.mpr other, Checked.seq_eq_ok.mpr ⟨named, terminable⟩⟩
  fails := trivial

end Sample

/-- After nine failed cycles, the tenth one stops the loop at the limit. -/
theorem agent_work_bounded_tenth :
    let db := store.run Sample.database Sample.nineFailed
    let loop := runAgentCycle "item" 2 (fun _ => Sample.timedOut 10) db
    loop.1 = .ok () ∧ loop.2.countP Operation.launches = 1 ∧
      ∃ effort, db.effortOfItem "item" = some effort ∧
        (store.run db loop.2).LimitReached effort ((db.limitAlerts effort.id).length + 1) := by
  have bounded := (agent_work_bounded Sample.database_initial Sample.nineFailed).2
  obtain ⟨db, same⟩ : ∃ db, db = store.run Sample.database Sample.nineFailed := ⟨_, rfl⟩
  rw [← same] at bounded ⊢
  have read : (db.effortOfItem "item").map (fun effort => (effort.failedCycles, effort.id,
      effort.attemptId, effort.state)) = some (9, "effort", "attempt", .agentReady ⟨10⟩) := by
    rw [same]
    decide +kernel
  have greatest : db.maxCycleNumber "effort" = 9 := by
    rw [same]
    decide +kernel
  have unowed : db.landingCleanupPending "attempt" = false := by
    rw [same]
    decide +kernel
  have fresh : "cycle-10" ∉ db.cycles.rows.map IntegrationCycle.id := by
    rw [same]
    decide +kernel
  cases owned : db.effortOfItem "item" with
  | none =>
    rw [owned] at read
    cases read
  | some effort =>
    obtain ⟨nine, sameId, sameAttempt, ready⟩ : effort.failedCycles = 9 ∧ effort.id = "effort" ∧
        effort.attemptId = "attempt" ∧ effort.state = .agentReady ⟨10⟩ := by
      simpa [owned] using read
    have left : automaticCycleLimit - effort.failedCycles = 1 := by
      rw [nine]
      rfl
    have work := bounded "item" effort owned (fun _ => Sample.timedOut 10) 2
    rw [left, sameId, sameAttempt, greatest] at work
    have all : AllFail (fun _ => Sample.timedOut 10) 1 (db.cycles.rows.map IntegrationCycle.id) :=
      ⟨fun _ _ => Sample.timedOut_failing, fun _ _ => fresh, by omega⟩
    obtain ⟨ended, launched, reached⟩ := (work (by decide)).2 ready unowed (by decide) all
    refine ⟨ended, launched, effort, owned, ?_⟩
    rw [sameId]
    exact reached

/-- A cancelled effort has no count, although one of its cycles was consumed as failed. -/
theorem cancelled_effort_uncounted :
    let operations := Sample.created (.clean Sample.treeSha) .direct ++ Sample.failed 1 ++
      [.cancel "effort" "actor" "reason" (Sample.stampOf "cancel")]
    ((Sample.after operations).efforts.find? "effort").map IntegrationEffort.failedCycles = some 0 ∧
      (cycleTally Sample.database operations "effort").current = ["cycle-1"] := by
  decide +kernel

end Iq
