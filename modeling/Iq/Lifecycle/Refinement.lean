import Iq.Lifecycle.Sound

/-!
# The store refines the lifecycle

Every committed operation leaves the views of all efforts but one alone, and at that one it either
changes nothing or takes a step of the lifecycle. One lemma for each operation takes its commit
apart; the last theorem collects them.
-/

namespace Iq

open Library Library.Transaction

variable {db later : Database} {effortId : String} {effort row : IntegrationEffort}
  {state : IntegrationEffortState} {stamp : Stamp}

/-- What a committed operation does to the views: a step at one effort, or nothing. -/
structure Refines (operation : Operation) (effortId : String) (db later : Database) : Prop where
  confined : Confined effortId db later
  stepped : later.view effortId = db.view effortId ∨
    EffortStep operation (db.view effortId) (later.view effortId)

/-- An operation that keeps every view refines the lifecycle at any effort. -/
theorem Refines.of_view {operation : Operation} (same : later.view = db.view) :
    Refines operation effortId db later :=
  ⟨.of_view same, .inl (congrFun same effortId)⟩

/-- A state update followed by the event that reports it. -/
theorem writes_then_event {failedCycles : Nat} {rejection : Option DefiniteLandingRejection}
    {eventId eventType : String} {payload : EventPayload} {alert : Bool} {done : Unit}
    (commits : (updateStateAndCountWithResolution effort state failedCycles rejection >>= fun _ =>
      appendEvent effort eventId eventType payload alert).Commits db done later)
    (stored : (db.view effort.id).effort = some effort)
    (plain : ∀ intent, payload ≠ .intent intent) :
    Confined effort.id db later ∧
      Writes rejection (db.view effort.id) effort state failedCycles (later.view effort.id) := by
  obtain ⟨⟨⟩, middle, update, event⟩ := commits_bind.mp commits
  have same : later.view = middle.view := view_appendEvent plain event
  obtain ⟨confined, writes⟩ := writes_of_updateState update stored rfl rfl
  exact ⟨confined.trans (.of_view same), same ▸ writes⟩

/-! ## Single state updates -/

/-- A committed release of a landing is a step of the effort. -/
theorem releaseLanding_refines {commandId : String} {done : Unit}
    (commits : (releaseLanding effortId commandId stamp).Commits db done later) :
    Refines (.releaseLanding effortId commandId stamp) effortId db later := by
  simp only [releaseLanding, commits_ensure_bind, commits_requiredEffort_bind,
    commits_expect_bind, IntegrationEffortState.landing?_eq_some] at commits
  obtain ⟨⟨⟩, -, effort, stored, -, landing, prepared, rest⟩ := commits
  obtain rfl := Database.id_of_view_effort stored
  obtain ⟨confined, writes⟩ := writes_then_event rest stored (by simp)
  exact ⟨confined, .inr (.release prepared writes)⟩

/-- A committed reset of an interrupted build is a step of the effort. -/
theorem resetInterruptedCandidateBuild_refines {done : Unit}
    (commits : (resetInterruptedCandidateBuild effortId stamp).Commits db done later) :
    Refines (.resetInterruptedCandidateBuild effortId stamp) effortId db later := by
  simp only [resetInterruptedCandidateBuild, commits_requiredEffort_bind, commits_require_bind,
    commits_nextCycleNumber_bind] at commits
  obtain ⟨effort, stored, -, named, -, rest⟩ := commits
  obtain rfl := Database.id_of_view_effort stored
  obtain ⟨confined, writes⟩ := writes_then_event rest stored (by simp)
  obtain ⟨building, built⟩ : ∃ building, effort.state = .candidateBuilding building := by
    cases same : effort.state <;> simp_all [IntegrationEffortState.name]
  exact ⟨confined, .inr (.resetBuild built writes)⟩

/-- A committed start of a validation is a step of the effort. -/
theorem startValidation_refines {policyDigest : String} {done : Unit}
    (commits : (startValidation effortId policyDigest stamp).Commits db done later) :
    Refines (.startValidation effortId policyDigest stamp) effortId db later := by
  simp only [startValidation, commits_require_bind, commits_requiredEffort_bind,
    commits_expect_bind, IntegrationEffortState.candidateReady?_eq_some] at commits
  obtain ⟨-, effort, stored, -, candidate, ready, rest⟩ := commits
  obtain rfl := Database.id_of_view_effort stored
  obtain ⟨confined, writes⟩ := writes_then_event rest stored (by simp)
  exact ⟨confined, .inr (.startValidation ready writes)⟩

/-- A committed end of a validation is a step of the effort. -/
theorem completeValidation_refines {candidateSha : String} {done : Unit}
    (commits : (completeValidation effortId candidateSha stamp).Commits db done later) :
    Refines (.completeValidation effortId candidateSha stamp) effortId db later := by
  simp only [completeValidation, effortObjectFormat, commits_requiredEffort_bind,
    commits_itemObjectFormat_bind, commits_ensure_bind, commits_expect_bind, commits_require_bind,
    commits_query_bind, IntegrationEffortState.validating?_eq_some] at commits
  obtain ⟨effort, stored, -, -, -, ⟨⟩, -, validating, validated, ⟨-, rfl⟩, -, rest⟩ := commits
  obtain rfl := Database.id_of_view_effort stored
  obtain ⟨confined, writes⟩ := writes_then_event rest stored (by simp)
  exact ⟨confined, .inr (.completeValidation validated writes)⟩

/-- A committed block by the infrastructure is a step of the effort. -/
theorem blockInfrastructure_refines {blocker : InfrastructureBlocker} {done : Unit}
    (commits : (blockInfrastructure effortId blocker stamp).Commits db done later) :
    Refines (.blockInfrastructure effortId blocker stamp) effortId db later := by
  simp only [blockInfrastructure, commits_requiredEffort_bind, commits_expect_bind,
    ResumeState.capture?_eq_some] at commits
  obtain ⟨effort, stored, -, resume, captured, rest⟩ := commits
  obtain rfl := Database.id_of_view_effort stored
  obtain ⟨confined, writes⟩ := writes_then_event rest stored (by simp)
  exact ⟨confined, .inr (.blockInfrastructure captured.symm writes)⟩

/-- A committed block by the provider is a step of the effort. -/
theorem blockProvider_refines {blocker : ProviderSignoffBlocker} {done : Unit}
    (commits : (blockProvider effortId blocker stamp).Commits db done later) :
    Refines (.blockProvider effortId blocker stamp) effortId db later := by
  simp only [blockProvider, commits_requiredEffort_bind, commits_expect_bind,
    ResumeState.capture?_eq_some] at commits
  obtain ⟨effort, stored, -, resume, captured, rest⟩ := commits
  obtain rfl := Database.id_of_view_effort stored
  obtain ⟨confined, writes⟩ := writes_then_event rest stored (by simp)
  exact ⟨confined, .inr (.blockProvider captured.symm writes)⟩

/-- A committed retry is a step of the effort. -/
theorem retryBlocked_refines {responder : ResponderIdentity} {daemonUid : Nat} {done : Unit}
    (commits : (retryBlocked effortId responder daemonUid stamp).Commits db done later) :
    Refines (.retryBlocked effortId responder daemonUid stamp) effortId db later := by
  simp only [retryBlocked, commits_requiredEffort_bind, commits_require_bind, commits_lookup_bind,
    commits_ensure_bind] at commits
  obtain ⟨effort, stored, -, -, -, -, ⟨⟩, -, rest⟩ := commits
  obtain rfl := Database.id_of_view_effort stored
  split at rest
  · rename_i blocked limited
    rw [commits_nextCycleNumber_bind] at rest
    obtain ⟨confined, writes⟩ := writes_then_event rest.2 stored (by simp)
    exact ⟨confined, .inr (.retryLimit limited writes)⟩
  · rename_i blocked suspended
    obtain ⟨confined, writes⟩ := writes_then_event rest stored (by simp)
    exact ⟨confined, .inr (.retry (.inl suspended) writes)⟩
  · rename_i blocked suspended
    obtain ⟨confined, writes⟩ := writes_then_event rest stored (by simp)
    exact ⟨confined, .inr (.retry (.inr suspended) writes)⟩
  · exact absurd rest commits_abort

/-- A committed resumption is a step of the effort. -/
theorem resumeProviderReconciliation_refines {done : Unit}
    (commits : (resumeProviderReconciliation effortId stamp).Commits db done later) :
    Refines (.resumeProviderReconciliation effortId stamp) effortId db later := by
  simp only [resumeProviderReconciliation, commits_requiredEffort_bind, commits_expect_bind,
    IntegrationEffortState.providerBlocked?_eq_some] at commits
  obtain ⟨effort, stored, -, blocked, suspended, rest⟩ := commits
  obtain rfl := Database.id_of_view_effort stored
  obtain ⟨confined, writes⟩ := writes_then_event rest stored (by simp)
  exact ⟨confined, .inr (.resumeProvider suspended writes)⟩

/-- A committed start of a landing is a step of the effort. -/
theorem beginLanding_refines {expectedTargetSha leaseId commandId : String}
    {signoff : SignoffDisposition} {done : Unit}
    (commits : (beginLanding effortId expectedTargetSha leaseId commandId signoff stamp).Commits db
      done later) :
    Refines (.beginLanding effortId expectedTargetSha leaseId commandId signoff stamp) effortId db
      later := by
  simp only [beginLanding, effortObjectFormat, commits_ensure_bind, commits_requiredEffort_bind,
    commits_itemObjectFormat_bind, commits_expect_bind, commits_require_bind,
    IntegrationEffortState.validating?_eq_some] at commits
  obtain ⟨⟨⟩, -, ⟨⟩, -, effort, stored, -, -, -, ⟨⟩, -, validating, validated, -, -, -, rest⟩ :=
    commits
  obtain rfl := Database.id_of_view_effort stored
  obtain ⟨confined, writes⟩ := writes_then_event rest stored (by simp)
  exact ⟨confined, .inr (.beginLanding validated writes)⟩

/-- A committed result is a step of the effort. -/
theorem recordResultState_refines {cycleId : String} {result : AtomicResultState} {done : Unit}
    (commits : (recordResultState effortId cycleId result).Commits db done later) :
    Refines (.recordResultState effortId cycleId result) effortId db later := by
  simp only [recordResultState, commits_require_bind, commits_requiredEffort_bind,
    commits_expect_bind, commits_query_bind, IntegrationEffortState.agentRunning?_eq_some]
    at commits
  obtain ⟨-, effort, stored, -, running, started, rfl, -, -, update⟩ := commits
  obtain rfl := Database.id_of_view_effort stored
  obtain ⟨confined, writes⟩ := writes_of_updateState update stored rfl rfl
  exact ⟨confined, .inr (.result started writes)⟩

/-! ## Cycle launch -/

/-- A committed launch is a step of the effort. -/
theorem prepareCycleLaunch_refines {launch : AgentLaunching} {done : Unit}
    (commits : (prepareCycleLaunch effortId launch stamp).Commits db done later) :
    Refines (.prepareCycleLaunch effortId launch stamp) effortId db later := by
  simp only [prepareCycleLaunch, commits_require_bind, commits_requiredEffort_bind,
    commits_requireItemObligation_bind, commits_expect_bind,
    IntegrationEffortState.agentReady?_eq_some] at commits
  obtain ⟨fresh, effort, stored, -, -, ready, waiting, ⟨numbered, within⟩, rest⟩ := commits
  obtain rfl := Database.id_of_view_effort stored
  obtain ⟨⟨⟩, middle, insert, rest⟩ := commits_bind.mp rest
  obtain ⟨insertConfined, inserted, unused, absent⟩ := spec_insertCycle insert
  obtain ⟨confined, writes⟩ := writes_then_event rest (by rw [inserted]; exact stored) (by simp)
  rw [inserted] at writes
  refine ⟨insertConfined.trans confined, .inr (.prepare fresh ?_ within ?_ writes)⟩
  · rw [waiting, ← numbered]
  · intro cycle mem
    exact ⟨absent cycle (Database.mem_view_cycles.mp mem).1, unused cycle mem⟩

/-- Changing the status of cycles keeps their numbers. -/
@[simp] theorem EffortView.maxCycle_setCycles {view : EffortView}
    {chosen : IntegrationCycle → Bool} {status : CycleStatus} {failure : Option CycleFailure} :
    (view.setCycles chosen status failure).maxCycle = view.maxCycle := by
  have same : (view.setCycles chosen status failure).cycles.map IntegrationCycle.cycleNumber =
      view.cycles.map IntegrationCycle.cycleNumber := by
    simp only [setCycles, List.map_map]
    refine List.map_congr_left fun row _ => ?_
    by_cases hit : chosen row = true <;> simp [Table.rewrite, hit]
  rw [maxCycle, maxCycle, same]

/-- A positive count of the chosen cycles of an effort shows one in its view. -/
theorem hasCycle_of_count {chosen : IntegrationCycle → Bool} {changed : Nat}
    (counted : db.cycles.count chosen = changed) (positive : changed = 1)
    (owned : ∀ cycle, chosen cycle = true → cycle.effortId = effortId) :
    (db.view effortId).HasCycle chosen := by
  obtain ⟨cycle, mem, hit⟩ := Table.count_pos.mp (by rw [counted, positive]; decide)
  exact ⟨cycle, Database.mem_view_cycles.mpr ⟨mem, owned cycle hit⟩, hit⟩

/-- A failed launch closes its cycle and makes the agent of the effort ready. -/
theorem failLaunchedCycle_spec {cycleId changedMessage : String} {status : CycleStatus}
    {done : Unit}
    (commits : (failLaunchedCycle effort cycleId status changedMessage).Commits db done later)
    (stored : (db.view effort.id).effort = some effort) :
    Confined effort.id db later ∧
      LaunchFails (db.view effort.id) effort cycleId status (later.view effort.id) := by
  obtain ⟨changed, middle, update, rest⟩ := commits_bind.mp commits
  simp only [commits_require_bind, commits_nextCycleNumber_bind] at rest
  obtain ⟨one, -, rest⟩ := rest
  have owned : ∀ cycle, isCycleOf effort.id cycleId status cycle = true →
      cycle.effortId = effort.id := fun _ => effortId_of_isCycleOf
  have cyclesView := view_updateCycles update effort.id
  obtain ⟨confined, writes⟩ := writes_of_updateState rest (by rw [cyclesView]; exact stored) rfl rfl
  rw [cyclesView, EffortView.maxCycle_setCycles] at writes
  exact ⟨(confined_updateCycles update fun cycle _ => owned cycle).trans confined,
    hasCycle_of_count (commits_write.mp update).1 one owned, writes⟩

/-- A committed reset of a launch is a step of the effort. -/
theorem resetPreparedLaunch_refines {cycleId : String} {alive : Bool} {done : Unit}
    (commits : (resetPreparedLaunch effortId cycleId alive stamp).Commits db done later) :
    Refines (.resetPreparedLaunch effortId cycleId alive stamp) effortId db later := by
  simp only [resetPreparedLaunch, commits_requiredEffort_bind, commits_expect_bind,
    commits_require_bind, IntegrationEffortState.agentLaunching?_eq_some] at commits
  obtain ⟨effort, stored, -, launch, launching, rfl, rfl, rest⟩ := commits
  obtain rfl := Database.id_of_view_effort stored
  obtain ⟨⟨⟩, middle, failed, event⟩ := commits_bind.mp rest
  obtain ⟨confined, fails⟩ := failLaunchedCycle_spec failed stored
  have same : later.view = middle.view := view_appendEvent (by simp) event
  exact ⟨confined.trans (.of_view same), .inr (.reset launching (same ▸ fails))⟩

/-- Closing the launch of a debt: nothing happens, or the launch with the expected authority
becomes closed. -/
theorem updateCancelledSpawnAuthority_spec {identity : LaunchIdentity} {expected : SpawnAuthority}
    {closed : Bool}
    (commits : (updateCancelledSpawnAuthority effortId identity expected).Commits db closed
      later) :
    Confined effortId db later ∧
      ((closed = false ∧ later.view effortId = db.view effortId) ∨
        (closed = true ∧ ∃ launch, (db.view effortId).debt = some ⟨effortId, .launching launch⟩ ∧
          launch.identity = identity ∧ launch.spawnAuthority = expected ∧
          later.view effortId = { db.view effortId with
            debt := some
              ⟨effortId, .launching { launch with spawnAuthority := .closed }⟩ })) := by
  simp only [updateCancelledSpawnAuthority, commits_query_bind] at commits
  split at commits
  · obtain ⟨rfl, rfl⟩ := commits_pure.mp commits
    exact ⟨.of_view rfl, .inl ⟨rfl, rfl⟩⟩
  · rename_i launch found
    rw [Option.filter_eq_some_iff] at found
    obtain ⟨owed, matching⟩ := found
    simp only [Bool.and_eq_true, beq_iff_eq] at matching
    rw [Database.debtLaunch, Option.bind_eq_some_iff] at owed
    obtain ⟨⟨owner, authority⟩, stored, launching⟩ := owed
    rw [RunnerTerminationAuthority.launching?_eq_some] at launching
    obtain rfl : owner = effortId := (Table.find?_eq_some.mp stored).2
    simp only [commits_write_bind, commits_pure] at commits
    obtain ⟨rfl, rfl⟩ := commits
    refine ⟨?_, .inr ⟨rfl, launch, ?_, matching.1, matching.2, ?_⟩⟩
    · intro other apart
      simp only [Database.view, Database.cyclesOf, Table.find?_update, EffortView.mk.injEq,
        true_and, and_true]
      cases found : db.terminationDebts.find? other with
      | none => rfl
      | some debt =>
        have same : debt.effortId = other := (Table.find?_eq_some.mp found).2
        simp [Table.rewrite, same, apart]
    · rw [Database.view_debt, stored]
      exact congrArg (fun authority => some (RunnerTerminationDebt.mk owner authority)) launching
    · simp [Database.view, Database.cyclesOf, Table.find?_update, stored, Table.rewrite]

/-- The effort of a state with the name `cancelled`. -/
theorem surrenderCycleSpawnAuthority_refines {identity : LaunchIdentity} {alive granted : Bool}
    (commits : (surrenderCycleSpawnAuthority effortId identity alive stamp).Commits db granted
      later) :
    Refines (.surrenderCycleSpawnAuthority effortId identity alive stamp) effortId db later := by
  simp only [surrenderCycleSpawnAuthority, commits_require_bind, commits_requiredEffort_bind]
    at commits
  obtain ⟨rfl, effort, stored, -, rest⟩ := commits
  obtain rfl := Database.id_of_view_effort stored
  split at rest
  · rename_i launch launching
    rw [commits_require_bind] at rest
    obtain ⟨⟨rfl, opened⟩, rest⟩ := rest
    obtain ⟨⟨⟩, middle, update, rest⟩ := commits_bind.mp rest
    rw [commits_query_bind, commits_require_bind] at rest
    obtain ⟨-, rest⟩ := rest
    obtain ⟨⟨⟩, last, event, rest⟩ := commits_bind.mp rest
    obtain ⟨-, rfl⟩ := commits_pure.mp rest
    have same : last.view = middle.view := view_appendEvent (by simp) event
    obtain ⟨confined, writes⟩ := writes_of_updateState update stored rfl rfl
    exact ⟨confined.trans (.of_view same), .inr (.surrender launching opened (same ▸ writes))⟩
  · rename_i cancelled ended
    obtain ⟨closed, middle, update, rest⟩ := commits_bind.mp rest
    rw [commits_require_bind] at rest
    obtain ⟨rfl, rest⟩ := rest
    obtain ⟨-, rfl⟩ := commits_pure.mp rest
    obtain ⟨confined, ⟨impossible, -⟩ | ⟨-, launch, owed, rfl, requested, written⟩⟩ :=
      updateCancelledSpawnAuthority_spec update
    · cases impossible
    · refine ⟨confined, .inr ?_⟩
      rw [written]
      exact .surrenderCancelled stored ended owed requested
  · exact absurd rest commits_abort

/-- The acknowledgement checks of a cancelled launch read only. -/
theorem view_requireCancelledLauncherAuthority {identity : LaunchIdentity}
    {expected : SpawnAuthority} :
    (requireCancelledLauncherAuthority effortId identity expected).Keeps Database.view :=
  keeps_bind keeps_lookup fun _ _ _ _ => keeps_bind keeps_expect fun _ _ _ _ => keeps_require

/-- To authorize a spawn leaves the view. -/
theorem authorizeCycleSpawn_keeps {identity : LaunchIdentity} {alive : Bool} :
    (authorizeCycleSpawn effortId identity alive).Keeps Database.view := by
  refine keeps_bind ?_ fun _ effort _ _ => ?_
  · intro db effort later commits
    rw [(commits_requiredEffort.mp commits).2.2]
  · cases effort.state with
    | agentLaunching launch => exact keeps_bind keeps_require fun _ _ _ _ => keeps_pure
    | cancelled value =>
      exact keeps_bind view_requireCancelledLauncherAuthority fun _ _ _ _ => keeps_pure
    | _ => exact keeps_abort

/-- A committed acknowledgement of a terminated spawn is a step of the effort. -/
theorem acknowledgeTerminatedCycleSpawn_refines {identity : LaunchIdentity} {done : Unit}
    (commits : (acknowledgeTerminatedCycleSpawn effortId identity).Commits db done later) :
    Refines (.acknowledgeTerminatedCycleSpawn effortId identity) effortId db later := by
  simp only [acknowledgeTerminatedCycleSpawn, commits_requiredEffort_bind] at commits
  obtain ⟨effort, stored, -, rest⟩ := commits
  obtain rfl := Database.id_of_view_effort stored
  split at rest
  · rename_i launch launching
    rw [commits_require_bind] at rest
    obtain ⟨⟨rfl, surrendered⟩, rest⟩ := rest
    obtain ⟨confined, fails⟩ := failLaunchedCycle_spec rest stored
    exact ⟨confined, .inr (.acknowledgeLaunching launching surrendered fails)⟩
  · rename_i running started
    rw [commits_require_bind] at rest
    obtain ⟨rfl, rest⟩ := rest
    obtain ⟨confined, fails⟩ := failLaunchedCycle_spec rest stored
    exact ⟨confined, .inr (.acknowledgeRunning started fails)⟩
  · rename_i cancelled ended
    simp only [commits_lookup_bind, commits_expect_bind, commits_require_bind, commits_ite,
      commits_pure] at rest
    obtain ⟨-, -, launch, -, rfl, ⟨surrendered, rest⟩ | ⟨-, -, rfl⟩⟩ := rest
    · obtain ⟨closed, middle, update, rest⟩ := commits_bind.mp rest
      obtain ⟨rfl, rfl⟩ := commits_require.mp rest
      obtain ⟨confined, ⟨impossible, -⟩ | ⟨-, found, owed, same, authority, written⟩⟩ :=
        updateCancelledSpawnAuthority_spec update
      · cases impossible
      · refine ⟨confined, .inr ?_⟩
        rw [written, ← same]
        exact .acknowledgeCancelled stored ended owed authority
    · exact .of_view rfl
  · exact absurd rest commits_abort

/-- A committed start of a cycle is a step of the effort. -/
theorem recordCycleStarted_refines {running : AgentRunning} {authorityLeaseId : String}
    {launcher : LauncherAuthority} {granted : Bool}
    (commits : (recordCycleStarted effortId running authorityLeaseId launcher stamp).Commits db
      granted later) :
    Refines (.recordCycleStarted effortId running authorityLeaseId launcher stamp) effortId db
      later := by
  simp only [recordCycleStarted, commits_requiredEffort_bind] at commits
  obtain ⟨effort, stored, -, rest⟩ := commits
  obtain rfl := Database.id_of_view_effort stored
  split at rest
  · rename_i launch launching
    rw [commits_require_bind] at rest
    obtain ⟨⟨presented, identity, sameUnit, sameCycle, -, -, surrendered⟩, rest⟩ := rest
    obtain ⟨changed, between, cycles, rest⟩ := commits_bind.mp rest
    rw [commits_require_bind] at rest
    obtain ⟨one, rest⟩ := rest
    obtain ⟨⟨⟩, middle, update, rest⟩ := commits_bind.mp rest
    obtain ⟨⟨⟩, last, event, rest⟩ := commits_bind.mp rest
    obtain ⟨-, rfl⟩ := commits_pure.mp rest
    have same : last.view = middle.view := view_appendEvent (by simp) event
    have owned : ∀ cycle, isCycleOf effort.id running.cycleId .starting cycle = true →
        cycle.effortId = effort.id := fun _ => effortId_of_isCycleOf
    have cyclesView := view_updateCycles cycles effort.id
    obtain ⟨confined, writes⟩ :=
      writes_of_updateState update (by rw [cyclesView]; exact stored) rfl rfl
    rw [cyclesView] at writes
    refine ⟨((confined_updateCycles cycles fun cycle _ => owned cycle).trans confined).trans
      (.of_view same), .inr ?_⟩
    exact .started launching surrendered (presented.trans identity.symm) sameCycle sameUnit
      presented (hasCycle_of_count (commits_write.mp cycles).1 one owned) (same ▸ writes)
  · obtain ⟨⟨⟩, middle, check, rest⟩ := commits_bind.mp rest
    obtain ⟨-, rfl⟩ := commits_pure.mp rest
    exact .of_view (view_requireCancelledLauncherAuthority check)
  · exact absurd rest commits_abort

/-! ## Accepting and building -/

/-- The running cycle of a sound effort is the only cycle of its identifier. -/
theorem owned_of_isRunningCycle {running : AgentRunning} (sound : (db.view effortId).Sound)
    (stored : (db.view effortId).effort = some effort)
    (started : effort.state = .agentRunning running) :
    ∀ cycle ∈ db.cycles, cycle.id = running.cycleId →
      cycle ∈ (db.view effortId).cycles ∧ cycle.status = .running := by
  intro cycle mem same
  have named : (db.view effortId).activeCycle? = some (running.cycleId, .running) := by
    rw [EffortView.activeCycle?_of_stored stored, started]
    rfl
  obtain ⟨active, inView, sameId, isRunning⟩ := sound.there _ _ named
  obtain rfl : cycle = active :=
    Table.eq_of_key mem (Database.mem_view_cycles.mp inView).1 (same.trans sameId.symm)
  exact ⟨inView, isRunning⟩

/-- Moving the running cycle of a sound effort is confined to it. -/
theorem confined_updateRunningCycle {running : AgentRunning} {status : CycleStatus}
    {changed : Nat} (sound : (db.view effortId).Sound)
    (stored : (db.view effortId).effort = some effort)
    (started : effort.state = .agentRunning running)
    (commits : (updateCycles (fun row => row.id == running.cycleId && row.status == .running)
      status none).Commits db changed later) : Confined effortId db later := by
  refine confined_updateCycles commits fun cycle mem chosen => ?_
  simp only [Bool.and_eq_true, beq_iff_eq] at chosen
  have inView := (owned_of_isRunningCycle sound stored started cycle mem chosen.1).1
  exact (Database.mem_view_cycles.mp inView).2

/-- `start_candidate_build` cannot commit: the trigger requires a resolved cycle, and the cycle of
a running effort is running. -/
theorem startCandidateBuild_never_commits {intent : CandidateIntent} {done : Unit}
    (sound : (db.view effortId).Sound) :
    ¬(startCandidateBuild effortId intent stamp).Commits db done later := by
  intro commits
  simp only [startCandidateBuild, commits_requiredEffort_bind, commits_expect_bind,
    commits_require_bind, IntegrationEffortState.agentRunning?_eq_some] at commits
  obtain ⟨effort, stored, -, running, started, ⟨same, -⟩, rest⟩ := commits
  obtain rfl := Database.id_of_view_effort stored
  obtain ⟨⟨⟩, middle, update, -⟩ := commits_bind.mp rest
  obtain ⟨-, writes⟩ := writes_of_updateState update stored rfl rfl
  obtain ⟨⟨cycle, mem, sameId, resolved⟩, -⟩ := writes.related
  rw [writes.cycles] at mem
  have isRunning := (owned_of_isRunningCycle sound stored started cycle
    (Database.mem_view_cycles.mp mem).1 (sameId.trans same.symm)).2
  rw [resolved] at isRunning
  cases isRunning

/-- A committed resolution is a step of a sound effort. -/
theorem acceptResolvedCycle_refines {intent : CandidateIntent} {done : Unit}
    (sound : (db.view effortId).Sound)
    (commits : (acceptResolvedCycle effortId intent stamp).Commits db done later) :
    Refines (.acceptResolvedCycle effortId intent stamp) effortId db later := by
  simp only [acceptResolvedCycle, commits_requiredEffort_bind, commits_expect_bind,
    commits_require_bind, IntegrationEffortState.agentRunning?_eq_some] at commits
  obtain ⟨effort, stored, -, running, started, ⟨same, -⟩, rest⟩ := commits
  obtain rfl := Database.id_of_view_effort stored
  obtain ⟨changed, between, cycles, rest⟩ := commits_bind.mp rest
  rw [commits_require_bind] at rest
  obtain ⟨⟨⟩, middle, update, event⟩ := commits_bind.mp rest.2
  have cyclesView := view_updateCycles cycles effort.id
  obtain ⟨confined, writes⟩ :=
    writes_of_updateState update (by rw [cyclesView]; exact stored) rfl rfl
  rw [cyclesView] at writes
  obtain ⟨eventConfined, appended⟩ := view_appendIntent event
  refine ⟨((confined_updateRunningCycle sound stored started cycles).trans confined).trans
    eventConfined, .inr ?_⟩
  rw [appended]
  exact .accept started same writes

/-- A published candidate is written with its evidence. -/
theorem publishCandidate_writes {building : CandidateBuilding} {item : QueueItem}
    {observation : CandidateObservation} {done : Unit}
    (commits : (publishCandidate effort building item observation stamp).Commits db done later)
    (stored : (db.view effort.id).effort = some effort) :
    Confined effort.id db later ∧ Writes none
      { db.view effort.id with
        evidence := some ⟨effort.id, building.cycleId, observation.candidateSha,
          observation.operationId, building.classification⟩ }
      effort (building.candidateState observation.candidateSha stamp.rowId) effort.failedCycles
      (later.view effort.id) := by
  obtain ⟨⟨⟩, between, upsert, rest⟩ := commits_bind.mp commits
  obtain ⟨upsertConfined, upserted⟩ := spec_upsertEvidence upsert
  rw [commits_lookup_bind] at rest
  obtain ⟨attempt, -, rest⟩ := rest
  obtain ⟨⟨⟩, second, invalidate, rest⟩ := commits_bind.mp rest
  obtain ⟨projected, third, project, rest⟩ := commits_bind.mp rest
  have same : third.view = between.view :=
    (view_updateAttempts project).trans (view_invalidateValidationInvocations invalidate)
  rw [commits_require_bind] at rest
  obtain ⟨confined, writes⟩ :=
    writes_then_event rest.2 (by rw [same, upserted]; exact stored) (by simp)
  rw [same, upserted] at writes
  exact ⟨(upsertConfined.trans (.of_view same)).trans confined, writes⟩

/-- A committed candidate is confined to its effort and a step of it. -/
theorem recordCandidate_steps {observation : CandidateObservation} {done : Unit}
    (commits : (recordCandidate effortId observation stamp).Commits db done later) :
    Confined effortId db later ∧
      EffortStep (.recordCandidate effortId observation stamp) (db.view effortId)
        (later.view effortId) := by
  simp only [recordCandidate, effortObjectFormat, commits_requiredEffort_bind,
    commits_lookup_bind, commits_itemObjectFormat_bind, commits_ensure_bind, commits_expect_bind,
    commits_query_bind, commits_require_bind, commits_ite,
    IntegrationEffortState.candidateBuilding?_eq_some] at commits
  obtain ⟨effort, stored, -, item, -, -, -, ⟨⟩, -, ⟨⟩, -, ⟨⟩, -, building, built, -, same, rest⟩ :=
    commits
  obtain rfl := Database.id_of_view_effort stored
  obtain ⟨semantic, rest⟩ | ⟨other, rest⟩ := rest
  · obtain ⟨⟨⟩, middle, insert, rest⟩ := commits_bind.mp rest
    obtain ⟨insertConfined, inserted, unopened, absent⟩ := spec_insertReview insert
    obtain ⟨confined, writes⟩ := publishCandidate_writes rest (by rw [inserted]; exact stored)
    rw [inserted] at writes
    refine ⟨insertConfined.trans confined, ?_⟩
    refine .record built same (fun _ => ⟨fun row mem => ⟨unopened row mem, ?_⟩, rfl⟩) ?_ writes
    · exact absent row (Database.mem_view_reviews.mp mem).1
    · intro mechanical
      rw [semantic] at mechanical
      cases mechanical
  · obtain ⟨confined, writes⟩ := publishCandidate_writes rest stored
    exact ⟨confined, .record built same (fun semantic => absurd semantic other) (fun _ => rfl)
      writes⟩

/-- A committed candidate is a step of the effort. -/
theorem recordCandidate_refines {observation : CandidateObservation} {done : Unit}
    (commits : (recordCandidate effortId observation stamp).Commits db done later) :
    Refines (.recordCandidate effortId observation stamp) effortId db later := by
  have steps := recordCandidate_steps commits
  exact ⟨steps.1, .inr steps.2⟩

/-! ## Blocking and failing -/

/-- A committed question is confined to its effort and a step of it. -/
theorem requireGuidance_steps {guidance : SemanticGuidanceBlocker} {done : Unit}
    (sound : (db.view effortId).Sound)
    (commits : (requireGuidance effortId guidance stamp).Commits db done later) :
    Confined effortId db later ∧
      EffortStep (.requireGuidance effortId guidance stamp) (db.view effortId)
        (later.view effortId) := by
  simp only [requireGuidance, commits_requiredEffort_bind, commits_expect_bind,
    commits_require_bind, IntegrationEffortState.agentRunning?_eq_some] at commits
  obtain ⟨effort, stored, -, running, started, same, rest⟩ := commits
  obtain rfl := Database.id_of_view_effort stored
  obtain ⟨changed, between, cycles, rest⟩ := commits_bind.mp rest
  obtain ⟨⟨⟩, middle, insert, rest⟩ := commits_bind.mp rest
  have cyclesView := view_updateCycles cycles effort.id
  obtain ⟨insertConfined, inserted, unopened⟩ := spec_insertGuidance insert
  rw [commits_nextCycleNumber_bind] at rest
  obtain ⟨confined, writes⟩ :=
    writes_then_event rest.2 (by rw [inserted, cyclesView]; exact stored) (by simp)
  have number : (middle.view effort.id).maxCycle = (db.view effort.id).maxCycle := by
    rw [inserted, cyclesView]
    exact EffortView.maxCycle_setCycles
  rw [number, inserted, cyclesView] at writes
  rw [cyclesView] at unopened
  exact ⟨((confined_updateRunningCycle sound stored started cycles).trans insertConfined).trans
    confined, .requireGuidance started same unopened writes⟩

/-- A committed question is a step of a sound effort. -/
theorem requireGuidance_refines {guidance : SemanticGuidanceBlocker} {done : Unit}
    (sound : (db.view effortId).Sound)
    (commits : (requireGuidance effortId guidance stamp).Commits db done later) :
    Refines (.requireGuidance effortId guidance stamp) effortId db later := by
  have steps := requireGuidance_steps sound commits
  exact ⟨steps.1, .inr steps.2⟩

/-- An applied answer closes its request and makes its effort ready. -/
theorem applyAnswer_writes {command : AnswerCommand} {done : Unit}
    (stored : db.efforts.find? effort.id = some effort)
    (commits : (applyAnswer command effort stamp).Commits db done later) :
    Confined effort.id db later ∧
      Writes none ((db.view effort.id).setGuidance (fun row => row.id == command.requestId &&
          row.effortId == effort.id && row.status == .open) .answered) effort
        (.agentReady ⟨(db.view effort.id).maxCycle + 1⟩) effort.failedCycles
        (later.view effort.id) := by
  rw [applyAnswer, commits_nextCycleNumber_bind] at commits
  obtain ⟨answered, middle, update, rest⟩ := commits_bind.mp commits.2
  rw [commits_require_bind] at rest
  have guidanceView := view_updateGuidance update effort.id
  obtain ⟨confined, writes⟩ :=
    writes_then_event rest.2 (by rw [guidanceView]; exact stored) (by simp)
  rw [guidanceView] at writes
  refine ⟨(confined_updateGuidance update ?_).trans confined, writes⟩
  intro row chosen
  simp only [Bool.and_eq_true, beq_iff_eq] at chosen
  exact chosen.1.2

/-- A committed answer is a step of the effort. -/
theorem answerForEffort_refines {command : AnswerCommand} {responder : ResponderIdentity}
    {daemonUid : Nat} {disposition : AnswerDisposition}
    (commits : (answerForEffort command effortId responder daemonUid stamp).Commits db disposition
      later) :
    Refines (.answer command effortId responder daemonUid stamp) effortId db later := by
  simp only [answerForEffort, commits_query_bind, commits_ite, commits_pure,
    commits_requiredEffort_bind, commits_requireItemObligation_bind] at commits
  obtain ⟨-, -, rfl⟩ | ⟨-, effort, stored, -, -, ⟨applies, rest⟩ | ⟨-, rest⟩⟩ := commits
  · exact .of_view rfl
  · obtain rfl := Database.id_of_view_effort stored
    obtain ⟨⟨⟩, last, apply, receipt⟩ := commits_bind.mp rest
    have same : later.view = last.view := view_insertAnswerReceipt receipt
    obtain ⟨confined, writes⟩ := applyAnswer_writes stored apply
    obtain ⟨-, -, -, guidance, waiting, -⟩ := AnswerCommand.disposition_eq_applied.mp applies
    exact ⟨confined.trans (.of_view same), .inr (.answer waiting applies (same ▸ writes))⟩
  · exact .of_view (view_insertAnswerReceipt rest)

/-- The state after a failure depends on the view only. -/
theorem failedState_eq {cycleId eventId : String} {failure : CycleFailure} {count next : Nat} :
    failedState db effortId cycleId failure count next eventId =
      (db.view effortId).failedState cycleId failure count next eventId := rfl

/-- A failure that was consumed always takes its step. -/
theorem consumeCycleFailure_steps {cycleId : String} {failure : CycleFailure} {done : Unit}
    (commits : (consumeCycleFailure effortId cycleId failure stamp).Commits db done later) :
    Confined effortId db later ∧
      EffortStep (.consumeCycleFailure effortId cycleId failure stamp) (db.view effortId)
        (later.view effortId) := by
  simp only [consumeCycleFailure, commits_requiredEffort_bind, commits_require_bind,
    commits_nextCycleNumber_bind, commits_query_bind, failedState_eq] at commits
  obtain ⟨effort, stored, -, -, -, rest⟩ := commits
  obtain rfl := Database.id_of_view_effort stored
  obtain ⟨⟨⟩, first, report, rest⟩ := commits_bind.mp rest
  have reported : first.view = db.view := view_reportLimit report
  obtain ⟨changed, between, cycles, rest⟩ := commits_bind.mp rest
  rw [commits_require_bind] at rest
  obtain ⟨one, rest⟩ := rest
  obtain ⟨⟨⟩, middle, update, event⟩ := commits_bind.mp rest
  have same : later.view = middle.view := view_reportFailure event
  have cyclesView := view_updateCycles cycles effort.id
  rw [reported] at cyclesView
  obtain ⟨confined, writes⟩ :=
    writes_of_updateState update (by rw [cyclesView]; exact stored) rfl rfl
  rw [cyclesView, ← same] at writes
  have owned : ∀ cycle, isCycleOf effort.id cycleId .running cycle = true →
      cycle.effortId = effort.id := fun _ => effortId_of_isCycleOf
  have active := hasCycle_of_count (commits_write.mp cycles).1 one owned
  rw [reported] at active
  refine ⟨?_, .consume active writes⟩
  exact (((Confined.of_view reported).trans (confined_updateCycles cycles fun cycle _ =>
    owned cycle)).trans confined).trans (.of_view same)

/-- A committed consumption is a step of the effort. -/
theorem consumeCycleFailure_refines {cycleId : String} {failure : CycleFailure} {done : Unit}
    (commits : (consumeCycleFailure effortId cycleId failure stamp).Commits db done later) :
    Refines (.consumeCycleFailure effortId cycleId failure stamp) effortId db later :=
  ⟨(consumeCycleFailure_steps commits).1, .inr (consumeCycleFailure_steps commits).2⟩

/-- A rejected candidate belongs to one of the three states that carry a candidate before its
landing is released. -/
theorem name_of_rejectedCycle {cycleId : String} (found : rejectedCycle db effort = .ok cycleId) :
    [.candidateReady, .validating, .landing].contains effort.state.name = true := by
  unfold rejectedCycle at found
  cases same : effort.state <;> simp [same] at found <;> rfl

/-- The cycle of a rejected candidate is the one that the evidence names. -/
@[simp] theorem commits_readRejectedCycle {cycleId : String} :
    (readRejectedCycle effort).Commits db cycleId later ↔
      rejectedCycle db effort = .ok cycleId ∧ db = later := by
  cases found : rejectedCycle db effort <;> simp [readRejectedCycle, Commits, found]

/-- The number after a rejection: the next unused one at the limit, the count plus one before. -/
theorem eq_of_rejectedNextCycle {count next : Nat}
    (commits : (rejectedNextCycle effortId count).Commits db next later) :
    (if count = automaticCycleLimit then (db.view effortId).maxCycle + 1 else count + 1) = next ∧
      db = later := by
  unfold rejectedNextCycle at commits
  split at commits
  · rename_i limit
    obtain ⟨numbered, -, same⟩ := commits_nextCycleNumber.mp commits
    exact ⟨by rw [if_pos limit, numbered], same⟩
  · rename_i below
    obtain ⟨numbered, same⟩ := commits_pure.mp commits
    exact ⟨by rw [if_neg below, numbered], same⟩

/-- An accepted rejection always takes its step. -/
theorem rejectCandidate_steps {evidence : String} {done : Unit}
    (commits : (rejectCandidate effortId evidence stamp).Commits db done later) :
    Confined effortId db later ∧
      EffortStep (.rejectCandidate effortId evidence stamp) (db.view effortId)
        (later.view effortId) := by
  simp only [rejectCandidate, requireExactText, commits_ensure_bind, commits_requiredEffort_bind,
    commits_require_bind, check_eq_ok] at commits
  obtain ⟨⟨⟩, exact, effort, stored, -, -, rest⟩ := commits
  obtain rfl := Database.id_of_view_effort stored
  obtain ⟨cycleId, _, read, rest⟩ := commits_bind.mp rest
  obtain ⟨found, rfl⟩ := commits_readRejectedCycle.mp read
  rw [commits_require_bind] at rest
  obtain ⟨next, _, numbered, rest⟩ := commits_bind.mp rest.2
  obtain ⟨rfl, rfl⟩ := eq_of_rejectedNextCycle numbered
  rw [commits_query_bind, failedState_eq] at rest
  obtain ⟨⟨⟩, first, report, rest⟩ := commits_bind.mp rest
  have reported : first.view = db.view := view_reportLimit report
  obtain ⟨changed, second, cycles, rest⟩ := commits_bind.mp rest
  rw [commits_require_bind] at rest
  obtain ⟨one, rest⟩ := rest
  obtain ⟨⟨⟩, third, delete, rest⟩ := commits_bind.mp rest
  obtain ⟨⟨⟩, fourth, invalidate, rest⟩ := commits_bind.mp rest
  obtain ⟨_, fifth, attempts, rest⟩ := commits_bind.mp rest
  obtain ⟨⟨⟩, sixth, update, event⟩ := commits_bind.mp rest
  have cyclesView := view_updateCycles cycles effort.id
  rw [reported] at cyclesView
  obtain ⟨deleteConfined, deleted⟩ := spec_deleteEvidence delete
  have cleared : fifth.view = third.view :=
    (view_updateAttempts attempts).trans (view_invalidateValidationInvocations invalidate)
  have same : later.view = sixth.view := view_reportFailure event
  obtain ⟨confined, writes⟩ := writes_of_updateState update
    (by rw [cleared, deleted, cyclesView]; exact stored) rfl rfl
  rw [cleared, deleted, cyclesView, ← same] at writes
  have owned : ∀ cycle, isCycleOf effort.id cycleId .resolved cycle = true →
      cycle.effortId = effort.id := fun _ => effortId_of_isCycleOf
  have active := hasCycle_of_count (commits_write.mp cycles).1 one owned
  rw [reported] at active
  refine ⟨?_, .reject (name_of_rejectedCycle found) exact active writes⟩
  exact (((((Confined.of_view reported).trans (confined_updateCycles cycles fun cycle _ =>
    owned cycle)).trans deleteConfined).trans (.of_view cleared)).trans confined).trans
    (.of_view same)

/-- A committed rejection is a step of the effort. -/
theorem rejectCandidate_refines {evidence : String} {done : Unit}
    (commits : (rejectCandidate effortId evidence stamp).Commits db done later) :
    Refines (.rejectCandidate effortId evidence stamp) effortId db later := by
  have steps := rejectCandidate_steps commits
  exact ⟨steps.1, .inr steps.2⟩

end Iq
