import Iq.Integrator.CandidateGit
import Iq.Lifecycle.CandidateEvidence

/-!
# Interrupted candidate builds

`build_candidate` accepts its intent in one transaction and records the candidate in another; in
between it asks Git for the commit and names it by the reference of its operation. A process may
stop anywhere there, and `reconcile_candidate_build` takes up what it left. The machine below
interleaves any number of these processes with the store. Whoever gets there first, the candidate
of an effort is the commit of its last intent; and a build that was interrupted is completed by the
next process unless its two parents are one commit.
-/

namespace Iq

open Library Library.Transaction EffortView

variable {git : Git} {sha256 : String → String} {format : GitObjectFormat}

/-! ## Processes -/

/-- What a process checks of the commit before it records it. -/
inductive BuilderCheck where
  /-- `build_candidate`: one parent, if the landing squashes onto a base. -/
  | fresh (squashBase : Option String)
  /-- `reconcile_candidate_build`: every field of the stored intent. -/
  | resumed (building : CandidateBuilding)
  deriving DecidableEq, Repr

/-- How far a process has come with its commit. -/
inductive BuilderStage where
  | made
  | named
  | checked
  | ended
  deriving DecidableEq, Repr

/-- A process with a commit of Git and the reference that is to name it. -/
structure BuilderProcess where
  effortId : String
  operationRef : String
  candidateSha : String
  check : BuilderCheck
  stage : BuilderStage
  deriving DecidableEq, Repr

/-- The check of a process. -/
def BuilderProcess.passes (git : Git) (sha256 : String → String) (process : BuilderProcess) :
    Bool :=
  match process.check with
  | .fresh none => true
  | .fresh (some base) => verifyOneParentCandidate git process.candidateSha base
  | .resumed building => building.names git sha256 process.candidateSha

/-- The database, the references of the candidate operations, the processes, and the plans whose
intent was accepted. -/
structure BuildWorld (git : Git) (sha256 : String → String) (format : GitObjectFormat) where
  db : Database
  references : String → Option String
  processes : List BuilderProcess
  plans : List (CandidatePlan git sha256 format)

/-- What may happen next. -/
inductive BuildEvent (git : Git) (sha256 : String → String) (format : GitObjectFormat) where
  /-- Any other operation of the store. -/
  | store (operation : Operation)
  | build (effortId : String) (plan : CandidatePlan git sha256 format) (stamp : Stamp)
  | resume (effortId : String)
  | advance (index : Nat) (stamp : Stamp)
  /-- A process ends where it stands. -/
  | stop (index : Nat)

/-- The transactions that only the builder runs. -/
def Operation.isBuilders : Operation → Bool
  | .acceptResolvedCycle .. | .recordCandidate .. => true
  | _ => false

/-- A plan was read from the effort and its attempt. -/
def CandidatePlan.isReadFrom (plan : CandidatePlan git sha256 format) (db : Database)
    (effortId : String) : Bool :=
  (db.efforts.find? effortId).any fun effort =>
    effort.itemId == plan.itemId && effort.sourceSha == plan.sourceSha &&
      effort.landingVariant == plan.landing &&
        (db.attempts.find? effort.attemptId).bind Attempt.targetBaseSha == some plan.base

namespace BuildWorld

variable (world : BuildWorld git sha256 format)

/-- `build_candidate` up to its commit, under an operation identifier that was not used before. -/
def build (effortId : String) (plan : CandidatePlan git sha256 format) (stamp : Stamp) :
    BuildWorld git sha256 format :=
  if world.plans.all (fun other => other.operationId != plan.operationId) &&
      plan.isReadFrom world.db effortId then
    match acceptResolvedCycle effortId plan.intent stamp world.db with
    | .error _ => world
    | .ok ((), db) =>
      let squashBase := if plan.landing = .squash then some plan.base else none
      { world with
        db
        processes := world.processes ++
          [⟨effortId, plan.operationRef, plan.candidateSha, .fresh squashBase, .made⟩]
        plans := world.plans ++ [plan] }
  else world

/-- `reconcile_candidate_build` up to its commit: the one that the reference names, or the one of
the stored intent. -/
def resume (effortId : String) : BuildWorld git sha256 format :=
  match (world.db.efforts.find? effortId).bind fun effort => effort.state.candidateBuilding? with
  | none => world
  | some building =>
    let process := match world.references building.operationRef with
      | some candidateSha =>
        ⟨effortId, building.operationRef, candidateSha, .resumed building, .named⟩
      | none =>
        ⟨effortId, building.operationRef, git.commitTree building.request, .resumed building,
          .made⟩
    { world with processes := world.processes ++ [process] }

/-- A process with its next stage. -/
def setStage (index : Nat) (process : BuilderProcess) (stage : BuilderStage) :
    BuildWorld git sha256 format :=
  { world with processes := world.processes.set index { process with stage } }

/-- The next effect of a process: `update-ref` from the zero object, the check, and the record of
what is observed. -/
def advance (index : Nat) (stamp : Stamp) : BuildWorld git sha256 format :=
  match world.processes[index]? with
  | none => world
  | some process =>
    match process.stage with
    | .made =>
      match world.references process.operationRef with
      | some _ => world.setStage index process .ended
      | none =>
        { world.setStage index process .named with
          references := Function.update world.references process.operationRef
            (some process.candidateSha) }
    | .named =>
      world.setStage index process (if process.passes git sha256 then .checked else .ended)
    | .checked =>
      match CandidateObservation.read git format (world.references process.operationRef)
          process.candidateSha process.operationRef with
      | .error _ => world.setStage index process .ended
      | .ok observation =>
        { world.setStage index process .ended with
          db := store.step world.db (.recordCandidate process.effortId observation stamp) }
    | .ended => world

/-- An operation of the store that is not the builder's. -/
def perform (operation : Operation) : BuildWorld git sha256 format :=
  if operation.isBuilders then world
  else { world with db := store.step world.db operation }

/-- The end of a process. -/
def stop (index : Nat) : BuildWorld git sha256 format :=
  match world.processes[index]? with
  | none => world
  | some process => world.setStage index process .ended

/-- What an event makes of a world. -/
def step (world : BuildWorld git sha256 format) :
    BuildEvent git sha256 format → BuildWorld git sha256 format
  | .store operation => world.perform operation
  | .build effortId plan stamp => world.build effortId plan stamp
  | .resume effortId => world.resume effortId
  | .advance index stamp => world.advance index stamp
  | .stop index => world.stop index

end BuildWorld

/-- The builder and its store. -/
def builder (git : Git) (sha256 : String → String) (format : GitObjectFormat) :
    Machine (BuildWorld git sha256 format) (BuildEvent git sha256 format) where
  Initial world := world.db.Initial ∧ world.references = (fun _ => none) ∧
    world.processes = [] ∧ world.plans = []
  step := BuildWorld.step

/-- Git keeps what it documents of every commit that is planned. -/
def BuildEvent.Documented : BuildEvent git sha256 format → Prop
  | .build _ plan _ => git.Documented format plan.request
  | .store _ | .resume _ | .advance .. | .stop _ => True

/-! ## What operations do to the evidence and the intents -/

section Steps

variable {operation : Operation} {view after before : EffortView} {db : Database}
  {effortId : String} {kept : CandidateEvidence} {row : IntegrationEffort}
  {state : IntegrationEffortState} {rejection : Option DefiniteLandingRejection}
  {failedCycles : Nat}

/-- A written state leaves the evidence. -/
theorem Writes.evidence (writes : Writes rejection before row state failedCycles after) :
    after.evidence = before.evidence := by
  rw [writes.written]
  rfl

/-- A written state leaves the recorded intents. -/
theorem Writes.intents (writes : Writes rejection before row state failedCycles after) :
    after.intents = before.intents := by
  rw [writes.written]
  rfl

/-- Evidence is recorded from an observation of the commit that the effort is building. -/
def Records (operation : Operation) (view : EffortView) (kept : CandidateEvidence) : Prop :=
  ∃ effort building observation stamp, operation = .recordCandidate effort.id observation stamp ∧
    effort.state = .candidateBuilding building ∧ observation.matches building = true ∧
    view.effort = some effort ∧ kept.candidateSha = observation.candidateSha ∧
    kept.builderOperationId = observation.operationId

/-- Evidence after a step was there before, or the step records it. -/
theorem EffortStep.evidence_cases (step : EffortStep operation view after)
    (stored : after.evidence = some kept) :
    view.evidence = some kept ∨ Records operation view kept := by
  cases step with
  | create | replace | surrenderCancelled | acknowledgeCancelled | deleteDebt => exact .inl stored
  | acknowledgeLaunching _ _ fails | acknowledgeRunning _ fails | reset _ fails =>
    exact .inl (fails.writes.evidence.symm.trans stored)
  | accept _ _ writes => exact .inl (writes.evidence.symm.trans stored)
  | @record _ _ effort building observation stamp _ built same _ _ writes =>
    cases writes.evidence.symm.trans stored
    exact .inr ⟨effort, building, observation, stamp, rfl, built, same, writes.stored, rfl, rfl⟩
  | moveTarget _ _ writes =>
    exact .inl (supersedeReview_keeps.1.symm.trans (writes.evidence.symm.trans stored))
  | reject _ _ _ writes => cases writes.evidence.symm.trans stored
  | recompose _ _ _ writes => cases writes.evidence.symm.trans stored
  | requestChanges _ _ writes => cases writes.evidence.symm.trans stored
  | _ =>
    rename_i writes
    exact .inl (writes.evidence.symm.trans stored)

/-- Only the acceptance of a result adds an intent. -/
theorem EffortStep.intents_cases (step : EffortStep operation view after) :
    after.intents = view.intents ∨ ∃ effortId intent stamp,
      operation = .acceptResolvedCycle effortId intent stamp ∧
        after.intents = view.intents ++ [intent] := by
  cases step with
  | create | replace | surrenderCancelled | acknowledgeCancelled | deleteDebt => exact .inl rfl
  | acknowledgeLaunching _ _ fails | acknowledgeRunning _ fails | reset _ fails =>
    exact .inl fails.writes.intents
  | @accept _ _ effort _ intent stamp _ _ writes =>
    refine .inr ⟨effort.id, intent, stamp, rfl, ?_⟩
    rw [writes.intents]
    rfl
  | moveTarget _ _ writes => exact .inl (writes.intents.trans supersedeReview_keeps.2.1)
  | _ =>
    rename_i writes
    exact .inl writes.intents

end Steps

/-! ## What the builder keeps -/

/-- An evidence row names the commit of a plan, which the reference of the plan names too. -/
structure CandidatePlan.Recorded (plan : CandidatePlan git sha256 format)
    (references : String → Option String) (recorded : CandidateEvidence) : Prop where
  candidate : recorded.candidateSha = plan.candidateSha
  operation : recorded.builderOperationId = plan.operationId
  parents : plan.parents.Nodup
  reference : references plan.operationRef = some plan.candidateSha

/-- Plans of one reference have one operation. -/
theorem CandidatePlan.operationId_of_operationRef {plan other : CandidatePlan git sha256 format}
    (same : plan.operationRef = other.operationRef) : plan.operationId = other.operationId :=
  (String.append_right_inj "refs/iq/candidate-operations/").mp same

/-- A process works for one of the plans. -/
def BuilderProcess.WorksFor (process : BuilderProcess)
    (plans : List (CandidatePlan git sha256 format)) : Prop :=
  ∃ plan ∈ plans, plan.operationRef = process.operationRef ∧
    plan.candidateSha = process.candidateSha

namespace BuildWorld

variable {world : BuildWorld git sha256 format} {effortId : String} {operation : Operation}
  {plan : CandidatePlan git sha256 format} {process : BuilderProcess} {index : Nat}
  {effort : IntegrationEffort} {building : CandidateBuilding}

/-- Every intent is of a plan, and every commit that a reference, a process or an evidence row names
is the commit of a plan. -/
structure Kept (world : BuildWorld git sha256 format) : Prop where
  reachable : Iq.store.Reachable world.db
  documented : ∀ plan ∈ world.plans, git.Documented format plan.request
  distinct : ∀ plan ∈ world.plans, ∀ other ∈ world.plans,
    plan.operationId = other.operationId → plan = other
  intents : ∀ effortId, ∀ intent ∈ (world.db.view effortId).intents,
    ∃ plan ∈ world.plans, intent = plan.intent
  references : ∀ operationRef candidateSha, world.references operationRef = some candidateSha →
    ∃ plan ∈ world.plans, plan.operationRef = operationRef ∧ plan.candidateSha = candidateSha
  processes : ∀ process ∈ world.processes, process.WorksFor world.plans
  evidence : ∀ effortId recorded, world.db.evidence.find? effortId = some recorded →
    ∃ plan ∈ world.plans, plan.Recorded world.references recorded

/-- The plan of a reference is its only plan. -/
theorem Kept.eq_of_operationRef (kept : world.Kept) {other : CandidatePlan git sha256 format}
    (mem : plan ∈ world.plans) (mem_other : other ∈ world.plans)
    (same : plan.operationRef = other.operationRef) : plan = other :=
  kept.distinct plan mem other mem_other (CandidatePlan.operationId_of_operationRef same)

/-- An effort builds for a plan, which is the last that was accepted for it. -/
theorem Kept.plan_of_building (kept : world.Kept)
    (stored : world.db.efforts.find? effortId = some effort)
    (built : effort.state = .candidateBuilding building) :
    ∃ plan ∈ world.plans, (world.db.view effortId).intents.getLast? = some plan.intent ∧
      building = plan.intent.building effort.composition := by
  have ledger := (ledgered_of_reachable kept.reachable effortId).stored effort stored
  obtain ⟨intent, last, is_building⟩ := ledger.builds building (by rw [built]; rfl)
  obtain ⟨plan, mem, rfl⟩ := kept.intents effortId intent (List.mem_of_getLast? last)
  exact ⟨plan, mem, last, is_building⟩

/-- An operation of the store keeps the plans if it accepts the intent of a plan and records what
is observed of one that is named. -/
theorem Kept.settles (kept : world.Kept)
    (accepts : ∀ effortId intent stamp, operation = .acceptResolvedCycle effortId intent stamp →
      ∃ plan ∈ world.plans, intent = plan.intent)
    (records : ∀ effortId observation stamp,
      operation = .recordCandidate effortId observation stamp → ∃ plan ∈ world.plans,
        observation = plan.observation ∧
          world.references plan.operationRef = some plan.candidateSha) :
    Kept { world with db := Iq.store.step world.db operation } where
  reachable := kept.reachable.step operation
  documented := kept.documented
  distinct := kept.distinct
  references := kept.references
  processes := kept.processes
  intents effortId intent mem := by
    obtain same | ⟨outcome, commits⟩ := settle_cases operation.transaction world.db
    · rw [store_step, same] at mem
      exact kept.intents effortId intent mem
    · have stepped := operation.stepped (sound_of_reachable kept.reachable) commits effortId
      rw [store_step] at mem
      obtain same | step := stepped
      · rw [same] at mem
        exact kept.intents effortId intent mem
      · obtain same | ⟨_, added, _, accepted, grown⟩ := step.intents_cases
        · rw [same] at mem
          exact kept.intents effortId intent mem
        · rw [grown, List.mem_append, List.mem_singleton] at mem
          obtain mem | rfl := mem
          · exact kept.intents effortId intent mem
          · exact accepts _ _ _ accepted
  evidence effortId recorded stored := by
    obtain same | ⟨outcome, commits⟩ := settle_cases operation.transaction world.db
    · rw [store_step, same] at stored
      exact kept.evidence effortId recorded stored
    · obtain same | step := operation.stepped (sound_of_reachable kept.reachable) commits effortId
      · have found : (world.db.view effortId).evidence = some recorded := by
          rw [← same]
          exact stored
        exact kept.evidence effortId recorded found
      · obtain earlier | written := step.evidence_cases stored
        · exact kept.evidence effortId recorded earlier
        · obtain ⟨effort, building, observation, stamp, is_record, built, same, found, candidate,
            operationId⟩ := written
          obtain ⟨plan, mem, rfl, named⟩ := records _ _ _ is_record
          -- The observation is of the plan for which the effort builds.
          obtain ⟨own, mem_own, -, rfl⟩ := kept.plan_of_building found built
          have is_own : own = plan := by
            simp only [CandidateObservation.matches, Bool.and_eq_true, beq_iff_eq] at same
            exact kept.eq_of_operationRef mem_own mem same.2
          subst is_own
          exact ⟨own, mem, candidate, operationId, own.matches_iff.mp same, named⟩

/-- Other processes that work for the plans may take over. -/
theorem Kept.setProcesses (kept : world.Kept) (processes : List BuilderProcess)
    (planned : ∀ process ∈ processes, process.WorksFor world.plans) :
    Kept { world with processes } :=
  ⟨kept.reachable, kept.documented, kept.distinct, kept.intents, kept.references, planned,
    kept.evidence⟩

/-- A process that works for a plan may move on. -/
theorem Kept.setStage (kept : world.Kept) (planned : process.WorksFor world.plans)
    {stage : BuilderStage} : (world.setStage index process stage).Kept :=
  kept.setProcesses _ fun other mem => by
    obtain earlier | rfl := List.mem_or_eq_of_mem_set mem
    · exact kept.processes other earlier
    · exact planned

/-- A resumed build works for a plan that is known. -/
theorem Kept.resume (kept : world.Kept) : (world.resume effortId).Kept := by
  unfold BuildWorld.resume
  split
  · exact kept
  · rename_i building found
    obtain ⟨effort, stored, built⟩ := Option.bind_eq_some_iff.mp found
    rw [IntegrationEffortState.candidateBuilding?_eq_some] at built
    obtain ⟨plan, mem, -, rfl⟩ := kept.plan_of_building stored built
    refine kept.setProcesses _ fun process mem_process => ?_
    rw [List.mem_append, List.mem_singleton] at mem_process
    obtain earlier | rfl := mem_process
    · exact kept.processes process earlier
    · split
      · rename_i candidateSha named
        obtain ⟨other, mem_other, same, rfl⟩ := kept.references _ _ named
        exact ⟨other, mem_other, same, rfl⟩
      · exact ⟨plan, mem, rfl, rfl⟩

/-- The reference of a process is named once. -/
theorem Kept.name (kept : world.Kept) (planned : process.WorksFor world.plans)
    (free : world.references process.operationRef = none) :
    Kept { world with
      references := Function.update world.references process.operationRef
        (some process.candidateSha) } := by
  have still : ∀ {operationRef candidateSha},
      world.references operationRef = some candidateSha →
        Function.update world.references process.operationRef (some process.candidateSha)
          operationRef = some candidateSha := by
    intro operationRef candidateSha named
    have apart : operationRef ≠ process.operationRef := by
      rintro rfl
      cases free.symm.trans named
    rw [Function.update_of_ne apart]
    exact named
  refine ⟨kept.reachable, kept.documented, kept.distinct, kept.intents, ?_, kept.processes, ?_⟩
  · intro operationRef candidateSha named
    change Function.update _ _ _ operationRef = _ at named
    by_cases same : operationRef = process.operationRef
    · subst same
      rw [Function.update_self] at named
      obtain ⟨plan, mem, is_ref, is_candidate⟩ := planned
      exact ⟨plan, mem, is_ref, is_candidate.trans (Option.some_inj.mp named)⟩
    · rw [Function.update_of_ne same] at named
      exact kept.references _ _ named
  · intro effortId recorded stored
    obtain ⟨plan, mem, named⟩ := kept.evidence effortId recorded stored
    exact ⟨plan, mem, named.candidate, named.operation, named.parents, still named.reference⟩

/-- A process that moves on keeps the promises. -/
theorem Kept.advance (kept : world.Kept) {stamp : Stamp} : (world.advance index stamp).Kept := by
  unfold BuildWorld.advance
  split
  · exact kept
  · rename_i process found
    have planned := kept.processes process (List.mem_of_getElem? found)
    split
    · split
      · exact kept.setStage planned
      · rename_i free
        exact (kept.setStage planned).name planned free
    · exact kept.setStage planned
    · split
      · exact kept.setStage planned
      · rename_i observation read
        refine (kept.setStage planned).settles (by rintro _ _ _ ⟨⟩) ?_
        rintro _ _ _ ⟨⟩
        obtain ⟨plan, mem, is_ref, is_candidate⟩ := planned
        rw [← is_ref, ← is_candidate] at read
        have observed := (plan.read_eq_ok (kept.documented plan mem)).mp read
        exact ⟨plan, mem, observed.2, observed.1⟩
    · exact kept

/-- A plan under a new operation identifier joins the plans. -/
theorem Kept.joins (kept : world.Kept) (documented : git.Documented format plan.request)
    (fresh : ∀ other ∈ world.plans, other.operationId ≠ plan.operationId) :
    Kept { world with plans := world.plans ++ [plan] } := by
  have grown : ∀ {other}, other ∈ world.plans → other ∈ world.plans ++ [plan] :=
    List.mem_append_left _
  refine ⟨kept.reachable, ?_, ?_, ?_, ?_, ?_, ?_⟩
  · intro other mem
    rw [List.mem_append, List.mem_singleton] at mem
    obtain mem | rfl := mem
    · exact kept.documented other mem
    · exact documented
  · intro first mem_first second mem_second same
    rw [List.mem_append, List.mem_singleton] at mem_first mem_second
    obtain mem_first | rfl := mem_first <;> obtain mem_second | rfl := mem_second
    · exact kept.distinct first mem_first second mem_second same
    · exact absurd same (fresh first mem_first)
    · exact absurd same.symm (fresh second mem_second)
    · rfl
  · intro effortId intent mem
    obtain ⟨other, mem_other, is_intent⟩ := kept.intents effortId intent mem
    exact ⟨other, grown mem_other, is_intent⟩
  · intro operationRef candidateSha named
    obtain ⟨other, mem_other, is_named⟩ := kept.references operationRef candidateSha named
    exact ⟨other, grown mem_other, is_named⟩
  · intro process mem
    obtain ⟨other, mem_other, works⟩ := kept.processes process mem
    exact ⟨other, grown mem_other, works⟩
  · intro effortId recorded stored
    obtain ⟨other, mem_other, is_recorded⟩ := kept.evidence effortId recorded stored
    exact ⟨other, grown mem_other, is_recorded⟩

/-- A build of a documented plan keeps the promises. -/
theorem Kept.build (kept : world.Kept) {stamp : Stamp}
    (documented : git.Documented format plan.request) : (world.build effortId plan stamp).Kept := by
  unfold BuildWorld.build
  split
  · rename_i allowed
    split
    · exact kept
    · rename_i db accepted
      have settled :
          Iq.store.step world.db (.acceptResolvedCycle effortId plan.intent stamp) = db :=
        settle_of_commits (commits_map.mpr ⟨(), accepted, rfl⟩)
      have fresh : ∀ other ∈ world.plans, other.operationId ≠ plan.operationId := by
        rw [Bool.and_eq_true, List.all_eq_true] at allowed
        exact fun other mem => bne_iff_ne.mp (allowed.1 other mem)
      have planned := kept.joins documented fresh
      have mem_plan : plan ∈ world.plans ++ [plan] := List.mem_append_right _ List.mem_cons_self
      have started := planned.setProcesses (world.processes ++
          [⟨effortId, plan.operationRef, plan.candidateSha,
            .fresh (if plan.landing = .squash then some plan.base else none), .made⟩]) <| by
        intro process mem
        rw [List.mem_append, List.mem_singleton] at mem
        obtain earlier | rfl := mem
        · exact planned.processes process earlier
        · exact ⟨plan, mem_plan, rfl, rfl⟩
      rw [← settled]
      refine started.settles ?_ (by rintro _ _ _ ⟨⟩)
      rintro _ _ _ ⟨⟩
      exact ⟨plan, mem_plan, rfl⟩
  · exact kept

/-- An operation of the store keeps the promises. -/
theorem Kept.perform (kept : world.Kept) : (world.perform operation).Kept := by
  unfold BuildWorld.perform
  split
  · exact kept
  · rename_i other
    refine kept.settles ?_ ?_ <;> rintro _ _ _ rfl <;> exact absurd rfl other

/-- A process that stops keeps the promises. -/
theorem Kept.stop (kept : world.Kept) : (world.stop index).Kept := by
  unfold BuildWorld.stop
  split
  · exact kept
  · rename_i process found
    exact kept.setStage (kept.processes process (List.mem_of_getElem? found))

/-- Every documented event keeps the promises. -/
theorem Kept.step (kept : world.Kept) {event : BuildEvent git sha256 format}
    (documented : event.Documented) : (world.step event).Kept := by
  cases event with
  | store => exact kept.perform
  | build => exact kept.build documented
  | resume => exact kept.resume
  | advance => exact kept.advance
  | stop => exact kept.stop

/-- The promises are kept at first. -/
theorem kept_of_initial (initial : (builder git sha256 format).Initial world) : world.Kept := by
  obtain ⟨created, unnamed, idle, unplanned⟩ := initial
  have blank : ∀ effortId, world.db.view effortId = .blank := created.view_eq_blank
  refine ⟨.initial created, ?_, ?_, ?_, ?_, ?_, ?_⟩
  · rw [unplanned]
    exact List.forall_mem_nil _
  · rw [unplanned]
    exact List.forall_mem_nil _
  · intro effortId
    rw [blank effortId]
    exact List.forall_mem_nil _
  · intro operationRef candidateSha named
    rw [unnamed] at named
    cases named
  · rw [idle]
    exact List.forall_mem_nil _
  · intro effortId recorded stored
    have absent : (world.db.view effortId).evidence = some recorded := stored
    rw [blank effortId] at absent
    cases absent

/-- A world that the builder reaches while Git keeps what it documents. -/
def Reached (world : BuildWorld git sha256 format) : Prop :=
  ∃ start events, (builder git sha256 format).Initial start ∧
    (∀ event ∈ events, event.Documented) ∧ world = (builder git sha256 format).run start events

/-- A documented event reaches further. -/
theorem Reached.step (reached : world.Reached) {event : BuildEvent git sha256 format}
    (documented : event.Documented) : (world.step event).Reached := by
  obtain ⟨start, events, initial, all, rfl⟩ := reached
  refine ⟨start, events ++ [event], initial, fun other mem => ?_, ?_⟩
  · obtain mem | mem := List.mem_append.mp mem
    · exact all other mem
    · obtain rfl := List.mem_singleton.mp mem
      exact documented
  · rw [Machine.run_append]
    rfl

/-- Every world that the builder reaches keeps the plans. -/
theorem Reached.kept (reached : world.Reached) : world.Kept := by
  obtain ⟨start, events, initial, documented, rfl⟩ := reached
  have rule := @Machine.run_keeps_while _ _ (builder git sha256 format) Kept
    fun _ event => event.Documented
  refine rule (fun _ _ kept allowed => kept.step allowed) (kept_of_initial initial) events ?_
  rintro before event rest rfl
  exact documented event (List.mem_append_right _ List.mem_cons_self)

/-! ## What a resumed process does -/

/-- The process that moved on is found in its new stage. -/
theorem processes_setStage (stage : BuilderStage)
    (found : world.processes[index]? = some process) :
    (world.setStage index process stage).processes[index]? = some { process with stage } :=
  List.getElem?_set_self (List.getElem?_eq_some_iff.mp found).1

variable {stamp : Stamp}

/-- A process that has ended does nothing. -/
theorem advance_of_ended (found : world.processes[index]? = some process)
    (ended : process.stage = .ended) : world.advance index stamp = world := by
  simp only [BuildWorld.advance, found, ended]

/-- A process names the commit it has made. -/
theorem advance_of_made (found : world.processes[index]? = some process)
    (made : process.stage = .made) (free : world.references process.operationRef = none) :
    world.advance index stamp = { world.setStage index process .named with
      references := Function.update world.references process.operationRef
        (some process.candidateSha) } := by
  simp only [BuildWorld.advance, found, made, free]

/-- A process checks the commit it has named. -/
theorem advance_of_named (found : world.processes[index]? = some process)
    (named : process.stage = .named) : world.advance index stamp =
      world.setStage index process
        (if process.passes git sha256 then .checked else .ended) := by
  simp only [BuildWorld.advance, found, named]

/-- A process records the commit it has checked. -/
theorem advance_of_checked {observation : CandidateObservation}
    (found : world.processes[index]? = some process) (checked : process.stage = .checked)
    (read : CandidateObservation.read git format (world.references process.operationRef)
      process.candidateSha process.operationRef = .ok observation) :
    world.advance index stamp = { world.setStage index process .ended with
      db := Iq.store.step world.db (.recordCandidate process.effortId observation stamp) } := by
  simp only [BuildWorld.advance, found, checked, read]

/-- What is left of a resumed process once the reference names its commit: it records the commit,
or gives up where Git dropped a parent. -/
structure Finished (world later : BuildWorld git sha256 format) (index : Nat) (effortId : String)
    (plan : CandidatePlan git sha256 format) (stamp : Stamp) : Prop where
  references : later.references = world.references
  db : later.db = if plan.parents.Nodup then
    Iq.store.step world.db (.recordCandidate effortId plan.observation stamp) else world.db
  ended : ∃ process, later.processes[index]? = some process ∧ process.stage = .ended

/-- A resumed process of a plan. -/
def resumedProcess (effortId : String) (plan : CandidatePlan git sha256 format)
    (composition : CompositionEvidence) (stage : BuilderStage) : BuilderProcess :=
  ⟨effortId, plan.operationRef, plan.candidateSha, .resumed (plan.intent.building composition),
    stage⟩

/-- A resumed process finishes in two turns. -/
theorem finished_of_named {composition : CompositionEvidence}
    (documented : git.Documented format plan.request)
    (found : world.processes[index]? = some (resumedProcess effortId plan composition .named))
    (reference : world.references plan.operationRef = some plan.candidateSha) :
    Finished world ((world.advance index stamp).advance index stamp) index effortId plan stamp := by
  have passes : (resumedProcess effortId plan composition .named).passes git sha256 = true ↔
      plan.parents.Nodup := @CandidatePlan.names_iff _ _ _ plan composition documented
  rw [advance_of_named found rfl]
  by_cases parents : plan.parents.Nodup
  · rw [if_pos (passes.mpr parents)]
    have read := (plan.read_eq_ok documented).mpr ⟨reference, rfl⟩
    have next := processes_setStage .checked found
    rw [advance_of_checked next rfl read]
    exact ⟨rfl, by rw [if_pos parents]; rfl, _, processes_setStage .ended next, rfl⟩
  · rw [if_neg (mt passes.mp parents)]
    have next := processes_setStage .ended found
    rw [advance_of_ended next rfl]
    exact ⟨rfl, by rw [if_neg parents]; rfl, _, next, rfl⟩

/-- A process that resumes the build of a plan starts at the reference, or with the commit made
again. -/
theorem resume_cases {reference : Option String} {stage : BuilderStage}
    (named : world.references plan.operationRef = reference)
    (stands : reference = some plan.candidateSha ∧ stage = .named ∨
      reference = none ∧ stage = .made)
    (stored : world.db.efforts.find? effortId = some effort)
    (built : effort.state = .candidateBuilding (plan.intent.building effort.composition)) :
    (world.resume effortId).references = world.references ∧
      (world.resume effortId).db = world.db ∧
      (world.resume effortId).processes[world.processes.length]? =
        some (resumedProcess effortId plan effort.composition stage) := by
  have building : (world.db.efforts.find? effortId).bind (fun row => row.state.candidateBuilding?) =
      some (plan.intent.building effort.composition) := by
    rw [stored, Option.bind_some, built]
    rfl
  have same : world.references (plan.intent.building effort.composition).operationRef =
      reference := named
  simp only [BuildWorld.resume, building, same]
  obtain ⟨rfl, rfl⟩ | ⟨rfl, rfl⟩ := stands
  · exact ⟨trivial, trivial, List.getElem?_concat_length⟩
  · exact ⟨trivial, trivial, List.getElem?_concat_length⟩

/-- A process that resumes the build of a plan has three turns to go. -/
theorem finished_of_resume (kept : world.Kept) (mem : plan ∈ world.plans)
    (stored : world.db.efforts.find? effortId = some effort)
    (built : effort.state = .candidateBuilding (plan.intent.building effort.composition)) :
    let later := (builder git sha256 format).run world [.resume effortId,
      .advance world.processes.length stamp, .advance world.processes.length stamp,
      .advance world.processes.length stamp]
    later.references plan.operationRef = some plan.candidateSha ∧
      later.db = if plan.parents.Nodup then
        Iq.store.step world.db (.recordCandidate effortId plan.observation stamp)
      else world.db := by
  intro later
  have documented := kept.documented plan mem
  have is_later : later = (((world.resume effortId).advance _ stamp).advance _ stamp).advance
      world.processes.length stamp := rfl
  cases reference : world.references plan.operationRef with
  | some candidateSha =>
    -- The reference stands: two turns finish, and the third does nothing.
    obtain ⟨other, mem_other, same, rfl⟩ := kept.references _ _ reference
    obtain rfl := kept.eq_of_operationRef mem_other mem same
    obtain ⟨same_references, same_db, found⟩ :=
      resume_cases reference (.inl ⟨rfl, rfl⟩) stored built
    have finished := @finished_of_named _ _ _ _ effortId _ _ stamp _ documented found
      ((congrFun same_references _).trans reference)
    obtain ⟨process, found, ended⟩ := finished.ended
    rw [is_later, advance_of_ended found ended, finished.db, finished.references, same_references,
      same_db]
    exact ⟨reference, rfl⟩
  | none =>
    -- The commit is made again and named first.
    obtain ⟨same_references, same_db, found⟩ :=
      resume_cases reference (.inr ⟨rfl, rfl⟩) stored built
    have free := (congrFun same_references plan.operationRef).trans reference
    let now : BuildWorld git sha256 format := { (world.resume effortId).setStage
        world.processes.length (resumedProcess effortId plan effort.composition .made) .named with
      references := Function.update (world.resume effortId).references plan.operationRef
        (some plan.candidateSha) }
    have named : now.references plan.operationRef = some plan.candidateSha :=
      Function.update_self ..
    have finished := @finished_of_named _ _ _ now effortId _ _ stamp effort.composition documented
      (processes_setStage .named found) named
    rw [is_later, advance_of_made found rfl free]
    exact ⟨(congrFun finished.references _).trans named, finished.db.trans (by rw [← same_db]; rfl)⟩

end BuildWorld

/-! ## A sample build -/

namespace Sample

/-- The SHA-256 of the name of the sample's tree. -/
def treeDigest (name : String) : String :=
  if name = treeSha then "e69e5e6f3541ea47026a711c50e1b0f79537e2898c0a72af9909c1702821ca6c"
  else "0000000000000000000000000000000000000000000000000000000000000000"

/-- The commits of Git as far as the sample makes them: one, from the two tips. -/
def twoTips : Git where
  commitTree _ := candidateSha
  showTree _ := treeSha ++ "\n"
  showParents _ := joined ' ' [targetSha, sourceSha] ++ "\n"
  showMetadata _ := joined '\x00' ["IQ Integration Builder", "iq@localhost", "1767225600",
    "IQ Integration Builder", "iq@localhost", "1767225600",
    "Integrate queue item item\n\nIQ-Builder-Operation: operation" ++ "\n\n"]
  revList _ := joined ' ' [candidateSha, targetSha, sourceSha] ++ "\n"
  revParseTree _ := treeSha ++ "\n"

/-- The sample's plan, of the tree that its cycle stages. -/
def plan : CandidatePlan twoTips treeDigest .sha1 where
  itemId := "item"
  operationId := "operation"
  landing := .direct
  base := targetSha
  sourceSha := sourceSha
  treeSha := treeSha
  cycleId := cycleId 1
  seconds := 1767225600
  dated := ⟨by decide, by decide⟩
  item_plain := List.all_eq_true.mp (by decide +kernel)
  operation_plain := List.all_eq_true.mp (by decide +kernel)
  operation_some := by decide
  base_oid := by decide +kernel
  source_oid := by decide +kernel
  tree_oid := by decide +kernel

/-- The sample answers for the plan as Git does. -/
theorem documented_plan : twoTips.Documented .sha1 plan.request where
  named := by decide +kernel
  tree := rfl
  parents := rfl
  metadata authored committed _ _ author committer := by
    have is_author : toString authored = "1767225600" :=
      ((String.append_left_inj " +0000").mp author).symm
    have is_committer : toString committed = "1767225600" :=
      ((String.append_left_inj " +0000").mp committer).symm
    rw [is_author, is_committer]
    rfl

/-- The sample's database with no process and nothing in Git. -/
def world : BuildWorld twoTips treeDigest .sha1 := ⟨database, fun _ => none, [], []⟩

/-- The sample begins as a builder does. -/
theorem world_initial : (builder twoTips treeDigest .sha1).Initial world :=
  ⟨database_initial, rfl, rfl, rfl⟩

/-- A process accepts its intent and names its commit. -/
def namedBuild : List (BuildEvent twoTips treeDigest .sha1) :=
  (created (.clean treeSha) .direct ++ started 1).map .store ++
    [.build "effort" plan (stampOf "accept"), .advance 0 (stampOf "named")]

/-- The world in which a commit was named. -/
def named : BuildWorld twoTips treeDigest .sha1 :=
  (builder twoTips treeDigest .sha1).run world namedBuild

/-- The process ends there. -/
def interrupted : BuildWorld twoTips treeDigest .sha1 := named.step (.stop 0)

/-- The process checks its commit. -/
def checked : BuildWorld twoTips treeDigest .sha1 := named.step (.advance 0 (stampOf "checked"))

/-- The process records its commit. -/
def recorded : BuildWorld twoTips treeDigest .sha1 := checked.step (.advance 0 (stampOf "review"))

/-- The sample with a named commit is reached. -/
theorem reached_named : named.Reached := by
  refine ⟨world, namedBuild, world_initial, fun event mem => ?_, rfl⟩
  simp only [namedBuild, List.mem_append, List.mem_map, List.mem_cons, List.not_mem_nil,
    or_false] at mem
  obtain ⟨operation, -, rfl⟩ | rfl | rfl := mem
  any_goals exact trivial
  exact documented_plan

/-- The interrupted sample is reached. -/
theorem reached_interrupted : interrupted.Reached := reached_named.step trivial

/-- The sample with a recorded candidate is reached. -/
theorem reached_recorded : recorded.Reached := by
  have reached : checked.Reached := reached_named.step trivial
  exact reached.step trivial

/-- The last turn of the process records what it reads. -/
theorem recorded_db : recorded.db =
    store.step checked.db (.recordCandidate "effort" plan.observation (stampOf "review")) := by
  have found : checked.processes[0]? = some
      ⟨"effort", plan.operationRef, plan.candidateSha, .fresh none, .checked⟩ := by decide +kernel
  have reference : checked.references plan.operationRef = some plan.candidateSha := by
    decide +kernel
  have read := (plan.read_eq_ok documented_plan).mpr ⟨reference, rfl⟩
  have turn : recorded = checked.advance 0 (stampOf "review") := rfl
  rw [turn, BuildWorld.advance_of_checked found rfl read]

end Sample

/-! ## The candidates of a run -/

open BuildWorld

variable {world : BuildWorld git sha256 format} {effortId : String} {recorded : CandidateEvidence}
  {effort : IntegrationEffort} {building : CandidateBuilding} {stamp : Stamp}

/-- Whoever records the candidate of an effort, it is the commit of one plan: the last whose intent
was accepted for the effort, with all of its parents, and under the reference of its operation. -/
theorem recorded_candidate_is_planned (reached : world.Reached)
    (stored : world.db.evidence.find? effortId = some recorded) :
    ∃ plan ∈ world.plans, (world.db.view effortId).intents.getLast? = some plan.intent ∧
      recorded.candidateSha = git.commitTree plan.request ∧ plan.parents.Nodup ∧
      world.references plan.operationRef = some recorded.candidateSha := by
  have kept := reached.kept
  obtain ⟨plan, mem, is_recorded⟩ := kept.evidence effortId recorded stored
  refine ⟨plan, mem, ?_, is_recorded.candidate, is_recorded.parents, ?_⟩
  · -- The ledger ties the evidence to the last intent, and an operation has one plan.
    have ledgered := ledgered_of_reachable kept.reachable effortId
    cases found : (world.db.view effortId).effort with
    | none => cases (ledgered.absent found).symm.trans stored
    | some effort =>
      obtain ⟨intent, last, operationId, -⟩ := (ledgered.stored effort found).built recorded stored
      obtain ⟨own, mem_own, rfl⟩ := kept.intents effortId intent (List.mem_of_getLast? last)
      have same : own = plan :=
        kept.distinct own mem_own plan mem (operationId.trans is_recorded.operation)
      rw [last, same]
  · rw [is_recorded.candidate]
    exact is_recorded.reference

/-- The recorded candidate of the sample is the planned commit. -/
theorem recorded_candidate_is_planned_sample :
    ∃ evidence, Sample.recorded.db.evidence.find? "effort" = some evidence ∧
      ∃ plan ∈ Sample.recorded.plans,
        (Sample.recorded.db.view "effort").intents.getLast? = some plan.intent ∧
        evidence.candidateSha = Sample.twoTips.commitTree plan.request ∧ plan.parents.Nodup ∧
        Sample.recorded.references plan.operationRef = some evidence.candidateSha := by
  have shape : (Sample.recorded.db.evidence.find? "effort").isSome = true := by
    rw [Sample.recorded_db]
    decide +kernel
  obtain ⟨evidence, stored⟩ := Option.isSome_iff_exists.mp shape
  exact ⟨evidence, stored, recorded_candidate_is_planned Sample.reached_recorded stored⟩

/-- However the earlier processes of a build ended, one more process names its commit and records
it, unless Git keeps fewer parents than the intent names: then it leaves the store as it is. -/
theorem interrupted_build_is_resumed (reached : world.Reached)
    (stored : world.db.efforts.find? effortId = some effort)
    (built : effort.state = .candidateBuilding building) :
    let turn := .advance world.processes.length stamp
    let later := (builder git sha256 format).run world [.resume effortId, turn, turn, turn]
    ∃ plan ∈ world.plans, building = plan.intent.building effort.composition ∧
      later.references plan.operationRef = some plan.candidateSha ∧
      later.db = if plan.parents.Nodup then
        store.step world.db (.recordCandidate effortId plan.observation stamp) else world.db := by
  intro turn later
  obtain ⟨plan, mem, -, rfl⟩ := reached.kept.plan_of_building stored built
  exact ⟨plan, mem, rfl, finished_of_resume reached.kept mem stored built⟩

/-- The interrupted build of the sample is resumed. -/
theorem interrupted_build_is_resumed_named :
    ∃ effort building, Sample.interrupted.db.efforts.find? "effort" = some effort ∧
      effort.state = .candidateBuilding building ∧
      let turn := .advance Sample.interrupted.processes.length (Sample.stampOf "review")
      let later := (builder Sample.twoTips Sample.treeDigest .sha1).run Sample.interrupted
        [.resume "effort", turn, turn, turn]
      ∃ plan ∈ Sample.interrupted.plans, building = plan.intent.building effort.composition ∧
        later.references plan.operationRef = some plan.candidateSha ∧
        later.db = if plan.parents.Nodup then
            store.step Sample.interrupted.db
              (.recordCandidate "effort" plan.observation (Sample.stampOf "review"))
          else Sample.interrupted.db := by
  have shape : (Sample.interrupted.db.efforts.find? "effort").map (fun row => row.state.name) =
      some .candidateBuilding := by decide +kernel
  obtain ⟨effort, stored, named⟩ := Option.map_eq_some_iff.mp shape
  cases built : effort.state with
  | candidateBuilding building =>
    exact ⟨effort, building, stored, built,
      interrupted_build_is_resumed Sample.reached_interrupted stored built⟩
  | _ =>
    rw [built] at named
    cases named

end Iq
