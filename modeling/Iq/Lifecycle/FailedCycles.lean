import Iq.Lifecycle.LinkedRuns

/-!
# Counted cycles

An effort counts the cycles that were consumed: failed by the runner, rejected for a defect of their
candidate, or given up for guidance. The tally keeps their identifiers over a run and starts again
when the effort is created, replaced or retried at the limit. A cycle that a launch or a reset takes
back fails without being counted. Cancellation writes a count of zero.
-/

namespace Iq

open Library Library.Transaction

/-- The operations that consume a cycle. -/
def Operation.consumes : Operation → Bool
  | .consumeCycleFailure .. | .rejectCandidate .. | .requireGuidance .. => true
  | _ => false

/-- The statuses that a consumed cycle ends in. -/
def CycleStatus.isConsumed (status : CycleStatus) : Bool :=
  status == .failed || status == .guidanceRequired

namespace EffortView

/-- Whether a cycle ended in a consumed status. -/
def HasConsumed (view : EffortView) (cycleId : String) : Prop :=
  ∃ cycle ∈ view.cycles, cycle.id = cycleId ∧ cycle.status.isConsumed = true

instance (view : EffortView) (cycleId : String) : Decidable (view.HasConsumed cycleId) :=
  inferInstanceAs (Decidable (∃ cycle ∈ view.cycles, _))

/-- The cycles that an operation consumed. -/
def consumed (operation : Operation) (before after : EffortView) : List String :=
  if operation.consumes then
    (after.cycles.map IntegrationCycle.id).filter fun cycleId =>
      after.HasConsumed cycleId && !before.HasConsumed cycleId
  else
    []

/-- The name of the state of an effort. -/
def stateName? (view : EffortView) : Option StateName := view.effort.map fun row => row.state.name

/-- Whether the count starts again: the effort was created, replaced or retried at the limit. -/
def restarts (before after : EffortView) : Bool :=
  match before.stateName?, after.stateName? with
  | none, some _ => true
  | some .cycleLimitBlocked, some .agentReady => true
  | some .cycleLimitBlocked, some .replacementPending => true
  | some .replacementPending, some .agentReady => true
  | _, _ => false

end EffortView

/-- The consumed cycles of an effort: those before the count last started again, and those since. -/
structure CycleTally where
  earlier : List String
  current : List String

/-- The tally after an operation. -/
def CycleTally.follow (tally : CycleTally) (operation : Operation) (before after : EffortView) :
    CycleTally :=
  if before.restarts after then
    ⟨tally.earlier ++ tally.current, []⟩
  else
    ⟨tally.earlier, tally.current ++ EffortView.consumed operation before after⟩

/-- The store with the tally of one effort beside it. -/
def talliedStore (effortId : String) : Machine (Database × CycleTally) Operation where
  Initial state := state.1.Initial ∧ state.2 = ⟨[], []⟩
  step state operation :=
    (store.step state.1 operation, state.2.follow operation (state.1.view effortId)
      ((store.step state.1 operation).view effortId))

/-- The tally of an effort after a run. -/
def cycleTally (start : Database) (operations : List Operation) (effortId : String) : CycleTally :=
  ((talliedStore effortId).run (start, ⟨[], []⟩) operations).2

/-- A tally that counts the consumed cycles of a view, each once. -/
structure CycleTally.Counts (tally : CycleTally) (view : EffortView) : Prop where
  ended : ∀ cycleId ∈ tally.earlier ++ tally.current, view.HasConsumed cycleId
  once : (tally.earlier ++ tally.current).Nodup
  count : ∀ effort, view.effort = some effort →
    effort.failedCycles = if effort.state.name = .cancelled then 0 else tally.current.length

open EffortView

variable {view before after : EffortView} {effort row : IntegrationEffort} {effortId : String}
  {operation : Operation} {rejection : Option DefiniteLandingRejection}
  {state : IntegrationEffortState} {failedCycles : Nat} {tally : CycleTally} {db : Database}

/-! ## What a step does to the cycles -/

/-- Cycles that were consumed stay so when only others are moved. -/
theorem EffortView.HasConsumed.setCycles {cycleId : String} {chosen : IntegrationCycle → Bool}
    {status : CycleStatus} {failure : Option CycleFailure} (had : view.HasConsumed cycleId)
    (spares : ∀ cycle, chosen cycle = true → cycle.status.isConsumed = false) :
    (view.setCycles chosen status failure).HasConsumed cycleId := by
  obtain ⟨cycle, mem, same, ended⟩ := had
  have spared : ¬chosen cycle = true := by
    intro hit
    rw [spares cycle hit] at ended
    cases ended
  refine ⟨cycle, mem_setCycles.mpr ⟨cycle, mem, Table.rewrite_of_not_chosen spared⟩, same, ended⟩

/-- The cycles that a step leaves consumed. -/
def EffortView.KeepsConsumed (before after : EffortView) : Prop :=
  ∀ cycleId, before.HasConsumed cycleId → after.HasConsumed cycleId

/-- The same cycles have the same consumed ones. -/
theorem EffortView.keepsConsumed_of_cycles (same : after.cycles = before.cycles) :
    before.KeepsConsumed after := by
  intro cycleId had
  rwa [HasConsumed, same]

/-- A written state leaves the cycles. -/
theorem Writes.keepsConsumed (writes : Writes rejection before row state failedCycles after)
    (kept : view.KeepsConsumed before) : view.KeepsConsumed after := by
  intro cycleId had
  have moved := kept cycleId had
  rwa [HasConsumed, writes.cycles]

/-- An update that spares the consumed cycles keeps them. -/
theorem EffortView.keepsConsumed_setCycles {chosen : IntegrationCycle → Bool}
    {status : CycleStatus} {failure : Option CycleFailure}
    (spares : ∀ cycle, chosen cycle = true → cycle.status.isConsumed = false) :
    view.KeepsConsumed (view.setCycles chosen status failure) :=
  fun _ had => had.setCycles spares

/-- A cycle that is still open is not consumed. -/
theorem isConsumed_of_isCycleOf {cycleId : String} {open_status : CycleStatus}
    (unconsumed : open_status.isConsumed = false) (cycle : IntegrationCycle)
    (hit : isCycleOf effortId cycleId open_status cycle = true) :
    cycle.status.isConsumed = false := by
  simp only [isCycleOf, Bool.and_eq_true, beq_iff_eq] at hit
  rw [hit.2]
  exact unconsumed

/-- A running cycle is not consumed. -/
theorem isConsumed_of_isRunningCycle {cycleId : String} (cycle : IntegrationCycle)
    (hit : isRunningCycle cycleId cycle = true) : cycle.status.isConsumed = false := by
  simp only [isRunningCycle, Bool.and_eq_true, beq_iff_eq] at hit
  rw [hit.2]
  rfl

/-- A chosen cycle has the id it was chosen by. -/
theorem id_of_isCycleOf {cycleId : String} {status : CycleStatus} {cycle : IntegrationCycle}
    (hit : isCycleOf effortId cycleId status cycle = true) : cycle.id = cycleId := by
  simp only [isCycleOf, Bool.and_eq_true, beq_iff_eq] at hit
  exact hit.1.1

/-- A chosen running cycle has the id it was chosen by. -/
theorem id_of_isRunningCycle {cycleId : String} {cycle : IntegrationCycle}
    (hit : isRunningCycle cycleId cycle = true) : cycle.id = cycleId := by
  simp only [isRunningCycle, Bool.and_eq_true, beq_iff_eq] at hit
  exact hit.1

/-- An active cycle is not consumed. -/
theorem CycleStatus.isConsumed_of_isActive {status : CycleStatus} (active : status.isActive = true) :
    status.isConsumed = false := by
  cases status <;> first | rfl | cases active

/-- A failed launch keeps the consumed cycles. -/
theorem LaunchFails.keepsConsumed {cycleId : String} {status : CycleStatus}
    (unconsumed : status.isConsumed = false) (fails : LaunchFails view effort cycleId status after) :
    view.KeepsConsumed after :=
  fails.writes.keepsConsumed (keepsConsumed_setCycles (isConsumed_of_isCycleOf unconsumed))

/-- Every step leaves the consumed cycles consumed. -/
theorem EffortStep.keepsConsumed (step : EffortStep operation view after) :
    view.KeepsConsumed after := by
  have kept : view.KeepsConsumed view := fun _ had => had
  cases step with
  | create | replace | surrenderCancelled | acknowledgeCancelled | deleteDebt =>
    exact keepsConsumed_of_cycles rfl
  | prepare fresh ready within unused writes =>
    apply writes.keepsConsumed
    rintro cycleId ⟨cycle, mem, same, ended⟩
    exact ⟨cycle, List.mem_append_left _ mem, same, ended⟩
  | acknowledgeLaunching launching surrendered fails => exact fails.keepsConsumed rfl
  | acknowledgeRunning started fails => exact fails.keepsConsumed rfl
  | reset launching fails => exact fails.keepsConsumed rfl
  | started launching surrendered sameLaunch sameCycle sameUnit presented active writes =>
    exact writes.keepsConsumed (keepsConsumed_setCycles (isConsumed_of_isCycleOf rfl))
  | consume active writes =>
    exact writes.keepsConsumed (keepsConsumed_setCycles (isConsumed_of_isCycleOf rfl))
  | reject candidate exact active writes =>
    apply writes.keepsConsumed
    exact keepsConsumed_setCycles (isConsumed_of_isCycleOf rfl)
  | accept started same writes =>
    have moved := writes.keepsConsumed (keepsConsumed_setCycles isConsumed_of_isRunningCycle)
    exact moved
  | requireGuidance started same unopened writes =>
    apply writes.keepsConsumed
    exact keepsConsumed_setCycles isConsumed_of_isRunningCycle
  | recompose stored moving composed writes =>
    apply writes.keepsConsumed
    apply keepsConsumed_setCycles
    intro cycle hit
    simp only [Bool.and_eq_true, beq_iff_eq] at hit
    rw [hit.2]
    rfl
  | @moveTarget _ _ effort _ _ _ _ movable captured writes =>
    apply writes.keepsConsumed
    unfold EffortView.supersedeReview
    split
    · exact keepsConsumed_setCycles (isConsumed_of_isCycleOf rfl)
    · exact kept
  | cancel free active owed writes =>
    apply writes.keepsConsumed
    apply keepsConsumed_setCycles
    intro cycle hit
    simp only [Bool.and_eq_true] at hit
    exact CycleStatus.isConsumed_of_isActive hit.2
  | record built same opened unopened writes => exact writes.keepsConsumed kept
  | answer waiting applies writes => exact writes.keepsConsumed kept
  | approve decides decision writes => exact writes.keepsConsumed kept
  | requestChanges decides decision writes => exact writes.keepsConsumed kept
  | _ => exact Writes.keepsConsumed ‹_› kept

/-! ## What a step counts -/

/-- A view names its cycles apart. -/
def EffortView.Distinct (view : EffortView) : Prop := (view.cycles.map IntegrationCycle.id).Nodup

/-- An update of cycles keeps their ids distinct. -/
theorem EffortView.Distinct.setCycles {chosen : IntegrationCycle → Bool} {status : CycleStatus}
    {failure : Option CycleFailure} (distinct : view.Distinct) :
    (view.setCycles chosen status failure).Distinct := by
  have same : (view.setCycles chosen status failure).cycles.map IntegrationCycle.id =
      view.cycles.map IntegrationCycle.id := by
    rw [EffortView.setCycles, List.map_map]
    apply List.map_congr_left
    intro cycle mem
    by_cases hit : chosen cycle = true
    · rw [Function.comp_apply, Table.rewrite_of_chosen hit]
    · rw [Function.comp_apply, Table.rewrite_of_not_chosen hit]
  rw [Distinct, same]
  exact distinct

/-- Cycles with one identifier are one cycle. -/
theorem EffortView.Distinct.eq (distinct : view.Distinct) {cycle other : IntegrationCycle}
    (mem : cycle ∈ view.cycles) (mem' : other ∈ view.cycles) (same : cycle.id = other.id) :
    cycle = other :=
  List.inj_on_of_nodup_map distinct mem mem' same

/-- The one element of a list without repetition that a filter keeps. -/
theorem filter_eq_singleton {α : Type} [DecidableEq α] {list : List α} {keep : α → Bool} {kept : α}
    (nodup : list.Nodup) (mem : kept ∈ list) (only : ∀ other ∈ list, keep other = true ↔ other = kept) :
    list.filter keep = [kept] := by
  have same : list.filter keep = list.filter (· == kept) := by
    apply List.filter_congr
    intro other there
    rw [Bool.eq_iff_iff, only other there, beq_iff_eq]
  rw [same, List.filter_beq, List.count_eq_one_of_mem nodup mem]
  rfl

/-- Moving the one chosen cycle to a consumed status consumes it. -/
theorem EffortView.consumed_eq {chosen : IntegrationCycle → Bool} {status : CycleStatus}
    {failure : Option CycleFailure} {cycleId : String} (consumes : operation.consumes = true)
    (ended : status.isConsumed = true) (distinct : view.Distinct)
    (moved : after.cycles = (view.setCycles chosen status failure).cycles)
    (active : view.HasCycle chosen)
    (only : ∀ cycle, chosen cycle = true → cycle.id = cycleId ∧ cycle.status.isConsumed = false) :
    EffortView.consumed operation view after = [cycleId] := by
  obtain ⟨cycle, mem, hit⟩ := active
  have named : cycle.id = cycleId := (only cycle hit).1
  have distinct' : (after.cycles.map IntegrationCycle.id).Nodup := by
    rw [moved]
    exact distinct.setCycles
  have there : (Table.rewrite chosen (fun row : IntegrationCycle =>
      { row with status, failure := failure.or row.failure }) cycle) ∈ after.cycles := by
    rw [moved]
    exact mem_setCycles.mpr ⟨cycle, mem, rfl⟩
  rw [Table.rewrite_of_chosen hit] at there
  have now : after.HasConsumed cycleId := ⟨_, there, named, ended⟩
  have before : ¬view.HasConsumed cycleId := by
    rintro ⟨other, mem', same, consumed⟩
    obtain rfl := distinct.eq mem mem' (named.trans same.symm)
    rw [(only cycle hit).2] at consumed
    cases consumed
  rw [EffortView.consumed, if_pos consumes]
  apply filter_eq_singleton distinct' (List.mem_map.mpr ⟨_, there, named⟩)
  intro other found
  simp only [Bool.and_eq_true, Bool.not_eq_true', decide_eq_true_eq, decide_eq_false_iff_not]
  constructor
  · rintro ⟨⟨row, mem', same, consumed⟩, apart⟩
    rw [moved] at mem'
    obtain ⟨old, old_mem, rfl⟩ := mem_setCycles.mp mem'
    by_cases chosen_old : chosen old = true
    · rw [Table.rewrite_of_chosen chosen_old] at same
      exact same.symm.trans (only old chosen_old).1
    · rw [Table.rewrite_of_not_chosen chosen_old] at same consumed
      exact absurd ⟨old, old_mem, same, consumed⟩ apart
  · rintro rfl
    exact ⟨now, before⟩

/-- An operation that consumes nothing adds no consumed cycle. -/
theorem EffortView.consumed_of_quiet (quiet : operation.consumes = false) :
    EffortView.consumed operation before after = [] := by
  rw [EffortView.consumed, quiet]
  rfl

/-- The count goes on when an effort neither leaves the limit nor a replacement. -/
theorem EffortView.restarts_eq_false {later : IntegrationEffort} (stored : view.effort = some row)
    (written : after.effort = some later) (pending : later.state.name ≠ .replacementPending)
    (ready : later.state.name = .agentReady →
      row.state.name ≠ .cycleLimitBlocked ∧ row.state.name ≠ .replacementPending) :
    view.restarts after = false := by
  rw [restarts, stateName?, stateName?, stored, written, Option.map_some, Option.map_some]
  generalize later.state.name = new at pending ready
  generalize row.state.name = old at ready
  cases new with
  | agentReady =>
    have apart := ready rfl
    cases old <;> first | rfl | exact absurd rfl apart.1 | exact absurd rfl apart.2
  | replacementPending => exact absurd rfl pending
  | _ => cases old <;> rfl

/-- Nothing leaves the cancelled state. -/
theorem Writes.uncancelled (writes : Writes rejection before row state failedCycles after)
    (active : state.name ≠ .cancelled) : row.state.name ≠ .cancelled := by
  intro ended
  have allowed := writes.transition
  rw [ended, transitionAllowed, Bool.or_eq_true, beq_iff_eq] at allowed
  rcases allowed with same | legal
  · exact active same
  · cases legal

/-- The count that a tally gives a row. -/
def CycleTally.Matches (tally : CycleTally) (view : EffortView) : Prop :=
  ∀ effort, view.effort = some effort →
    effort.failedCycles = if effort.state.name = .cancelled then 0 else tally.current.length

/-- A write that counts what its operation consumed matches the tally. -/
theorem CycleTally.Matches.follow_writes (matching : tally.Matches view)
    (stored : view.effort = some row) (writes : Writes rejection before row state failedCycles after)
    (active : state.name ≠ .cancelled) (pending : state.name ≠ .replacementPending)
    (ready : state.name = .agentReady →
      row.state.name ≠ .cycleLimitBlocked ∧ row.state.name ≠ .replacementPending)
    (same : failedCycles =
      row.failedCycles + (EffortView.consumed operation view after).length) :
    (tally.follow operation view after).Matches after := by
  have running : view.restarts after = false :=
    restarts_eq_false stored writes.effort pending ready
  intro effort found
  cases writes.effort.symm.trans found
  have counted := matching row stored
  rw [if_neg (writes.uncancelled active)] at counted
  rw [if_neg active, CycleTally.follow, if_neg (by rw [running]; exact Bool.false_ne_true),
    List.length_append, ← counted]
  exact same

/-- A write of the count that was there matches the tally when its operation consumes nothing. -/
theorem CycleTally.Matches.follow_quiet (matching : tally.Matches view)
    (stored : view.effort = some row)
    (writes : Writes rejection before row state row.failedCycles after)
    (active : state.name ≠ .cancelled) (pending : state.name ≠ .replacementPending)
    (ready : state.name = .agentReady →
      row.state.name ≠ .cycleLimitBlocked ∧ row.state.name ≠ .replacementPending)
    (quiet : operation.consumes = false) : (tally.follow operation view after).Matches after :=
  matching.follow_writes stored writes active pending ready (by rw [consumed_of_quiet quiet]; rfl)

/-- A state that neither restarts nor ends the count of an effort. -/
def StateName.isCalm : StateName → Bool
  | .agentReady | .replacementPending | .cancelled => false
  | _ => true

/-- A write of a calm state and the count that was there matches the tally. -/
theorem CycleTally.Matches.follow_calm (matching : tally.Matches view)
    (stored : view.effort = some row)
    (writes : Writes rejection before row state row.failedCycles after)
    (calm : state.name.isCalm = true) (quiet : operation.consumes = false) :
    (tally.follow operation view after).Matches after := by
  have apart : ∀ name : StateName, name.isCalm = false → state.name ≠ name := by
    rintro name restless rfl
    exact absurd (calm.symm.trans restless) (by decide)
  refine matching.follow_quiet stored writes (apart _ rfl) (apart _ rfl) ?_ quiet
  intro ready
  exact absurd ready (apart _ rfl)

/-- A step that leaves the row of the effort alone matches the tally. -/
theorem CycleTally.Matches.follow_same (matching : tally.Matches view)
    (stored : view.effort = some row) (kept : after.effort = view.effort)
    (ended : row.state.name = .cancelled) :
    (tally.follow operation view after).Matches after := by
  intro effort found
  rw [kept] at found
  obtain rfl := Option.some_inj.mp (stored.symm.trans found)
  have counted := matching row stored
  rw [if_pos ended] at counted ⊢
  exact counted

/-- A write of zero to a restarted count matches the tally. -/
theorem CycleTally.Matches.follow_restart (written : after.effort = some row)
    (restarted : view.restarts after = true) (zero : row.failedCycles = 0) :
    (tally.follow operation view after).Matches after := by
  intro effort found
  obtain rfl := Option.some_inj.mp (written.symm.trans found)
  rw [CycleTally.follow, if_pos restarted, zero]
  split <;> rfl

/-- An effort with a running cycle is running. -/
theorem EffortView.Sound.name_of_running (sound : view.Sound) (stored : view.effort = some row)
    {cycleId : String} (active : view.HasCycle (isCycleOf effortId cycleId .running)) :
    row.state.name = .agentRunning := by
  obtain ⟨cycle, mem, hit⟩ := active
  simp only [isCycleOf, Bool.and_eq_true, beq_iff_eq] at hit
  have named := sound.only cycle mem (by rw [hit.2]; rfl)
  rw [activeCycle?_of_stored stored, hit.2] at named
  revert named
  cases row.state with
  | agentRunning => exact fun _ => rfl
  | agentLaunching => simp [IntegrationEffortState.activeCycle?]
  | _ => rintro ⟨⟩

/-- The state after a failed cycle is ready or blocked at the limit. -/
theorem EffortView.name_failedState (view : EffortView) (cycleId : String) (failure : CycleFailure)
    (count next : Nat) (eventId : String) :
    (view.failedState cycleId failure count next eventId).name = .agentReady ∨
      (view.failedState cycleId failure count next eventId).name = .cycleLimitBlocked := by
  unfold EffortView.failedState
  split
  · exact .inr rfl
  · exact .inl rfl

/-- No suspended state is cancelled. -/
theorem ResumeState.restore_uncancelled (resume : ResumeState) :
    resume.restore.name ≠ .cancelled := by
  intro ended
  cases resume <;> cases ended

/-- Every step counts what its operation consumed. -/
theorem EffortStep.matches (step : EffortStep operation view after) (sound : view.Sound)
    (distinct : view.Distinct) (matching : tally.Matches view) :
    (tally.follow operation view after).Matches after := by
  cases step with
  | create absent idle composed =>
    apply CycleTally.Matches.follow_restart rfl ?_ rfl
    rw [restarts, stateName?, absent]
    rfl
  | replace stored waiting another composed =>
    apply CycleTally.Matches.follow_restart rfl ?_ rfl
    rw [restarts, stateName?, stored, Option.map_some, waiting]
    rfl
  | prepare fresh ready within unused writes =>
    exact matching.follow_calm writes.stored writes rfl rfl
  | surrenderCancelled stored ended | acknowledgeCancelled stored ended | deleteDebt stored ended =>
    exact matching.follow_same stored rfl (congrArg _ ended)
  | surrender launching opened writes =>
    exact matching.follow_calm writes.stored writes rfl rfl
  | acknowledgeLaunching launching surrendered fails =>
    exact matching.follow_quiet fails.writes.stored fails.writes (by rintro ⟨⟩) (by rintro ⟨⟩)
      (fun _ => by rw [launching]; constructor <;> rintro ⟨⟩) rfl
  | acknowledgeRunning started fails =>
    exact matching.follow_quiet fails.writes.stored fails.writes (by rintro ⟨⟩) (by rintro ⟨⟩)
      (fun _ => by rw [started]; constructor <;> rintro ⟨⟩) rfl
  | reset launching fails =>
    exact matching.follow_quiet fails.writes.stored fails.writes (by rintro ⟨⟩) (by rintro ⟨⟩)
      (fun _ => by rw [launching]; constructor <;> rintro ⟨⟩) rfl
  | started launching surrendered sameLaunch sameCycle sameUnit presented active writes =>
    exact matching.follow_calm writes.stored writes rfl rfl
  | result started writes =>
    exact matching.follow_calm writes.stored writes rfl rfl
  | @accept _ middle effort _ intent stamp started same writes =>
    have moved : (tally.follow (.acceptResolvedCycle effort.id intent stamp) view middle).Matches
        middle := matching.follow_calm writes.stored writes rfl rfl
    exact moved
  | @record _ _ _ building _ _ _ built same opened unopened writes =>
    unfold CandidateBuilding.candidateState at writes
    split at writes
    · exact matching.follow_calm writes.stored writes rfl rfl
    · exact matching.follow_calm writes.stored writes rfl rfl
  | resetBuild built writes =>
    exact matching.follow_quiet writes.stored writes (by rintro ⟨⟩) (by rintro ⟨⟩)
      (fun _ => by rw [built]; constructor <;> rintro ⟨⟩) rfl
  | startValidation ready writes =>
    exact matching.follow_calm writes.stored writes rfl rfl
  | completeValidation validated writes =>
    exact matching.follow_calm writes.stored writes rfl rfl
  | @requireGuidance _ _ effort running guidance stamp started same unopened writes =>
    have active : view.HasCycle (isRunningCycle running.cycleId) := by
      have named := (activeCycle?_of_stored writes.stored).trans
        (congrArg IntegrationEffortState.activeCycle? started)
      obtain ⟨cycle, mem, same, status⟩ := sound.there _ _ named
      exact ⟨cycle, mem, by simp [isRunningCycle, same, status]⟩
    have one : EffortView.consumed (.requireGuidance effort.id guidance stamp) view after =
        [running.cycleId] := by
      apply consumed_eq rfl rfl distinct writes.cycles active
      intro cycle hit
      exact ⟨id_of_isRunningCycle hit, isConsumed_of_isRunningCycle cycle hit⟩
    exact matching.follow_writes writes.stored writes (by rintro ⟨⟩) (by rintro ⟨⟩) (by rintro ⟨⟩)
      (by rw [one]; rfl)
  | answer waiting applies writes =>
    obtain ⟨resume, waits⟩ := IntegrationEffortState.guidance?_eq_some waiting
    exact matching.follow_quiet writes.stored writes (by rintro ⟨⟩) (by rintro ⟨⟩)
      (fun _ => by rw [waits]; constructor <;> rintro ⟨⟩) rfl
  | blockInfrastructure captured writes =>
    exact matching.follow_calm writes.stored writes rfl rfl
  | blockProvider captured writes =>
    exact matching.follow_calm writes.stored writes rfl rfl
  | @consume _ _ effort cycleId failure stamp active writes =>
    have one : EffortView.consumed (.consumeCycleFailure effort.id cycleId failure stamp) view
        after = [cycleId] := by
      apply consumed_eq rfl rfl distinct writes.cycles active
      intro cycle hit
      exact ⟨id_of_isCycleOf hit, isConsumed_of_isCycleOf rfl cycle hit⟩
    have name : effort.state.name = .agentRunning := sound.name_of_running writes.stored active
    have names := view.name_failedState cycleId failure (effort.failedCycles + 1)
      (view.maxCycle + 1) stamp.eventId
    refine matching.follow_writes writes.stored writes ?_ ?_ ?_ (by rw [one]; rfl)
    · rcases names with name | name <;> rw [name] <;> rintro ⟨⟩
    · rcases names with name | name <;> rw [name] <;> rintro ⟨⟩
    · rw [name]
      intro _
      constructor <;> rintro ⟨⟩
  | @reject _ _ effort cycleId evidence stamp candidate exact active writes =>
    have one : EffortView.consumed (.rejectCandidate effort.id evidence stamp) view
        after = [cycleId] := by
      apply consumed_eq rfl rfl distinct writes.cycles active
      intro cycle hit
      exact ⟨id_of_isCycleOf hit, isConsumed_of_isCycleOf rfl cycle hit⟩
    have names := view.name_failedState cycleId (.candidateDefect evidence)
      (effort.failedCycles + 1) (if effort.failedCycles + 1 = automaticCycleLimit then
        view.maxCycle + 1 else effort.failedCycles + 2) stamp.eventId
    refine matching.follow_writes writes.stored writes ?_ ?_ ?_ (by rw [one]; rfl)
    · rcases names with name | name <;> rw [name] <;> rintro ⟨⟩
    · rcases names with name | name <;> rw [name] <;> rintro ⟨⟩
    · intro _
      revert candidate
      cases effort.state.name <;> simp
  | retryLimit limited writes =>
    apply CycleTally.Matches.follow_restart writes.effort ?_ rfl
    rw [restarts, stateName?, stateName?, writes.stored, writes.effort, Option.map_some,
      Option.map_some, limited]
    rfl
  | @retry _ _ effort blocked _ _ _ suspended writes =>
    have names : effort.state.name = .infrastructureBlocked ∨
        effort.state.name = .providerBlocked := by
      rcases suspended with suspended | suspended
      · exact .inl (congrArg _ suspended)
      · exact .inr (congrArg _ suspended)
    refine matching.follow_quiet writes.stored writes blocked.resume.restore_uncancelled
      blocked.resume.restore_present ?_ rfl
    intro _
    rcases names with name | name <;> rw [name] <;> constructor <;> rintro ⟨⟩
  | @resumeProvider _ _ _ blocked _ suspended writes =>
    refine matching.follow_quiet writes.stored writes blocked.resume.restore_uncancelled
      blocked.resume.restore_present ?_ rfl
    intro _
    rw [suspended]
    constructor <;> rintro ⟨⟩
  | beginLanding validated writes =>
    exact matching.follow_calm writes.stored writes rfl rfl
  | release prepared writes =>
    exact matching.follow_calm writes.stored writes rfl rfl
  | integrate landed writes =>
    exact matching.follow_calm writes.stored writes rfl rfl
  | @moveTarget _ _ effort _ _ _ _ movable captured writes =>
    have stored := writes.stored
    rw [EffortView.supersedeReview_effort] at stored
    exact matching.follow_calm stored writes rfl rfl
  | @recompose _ _ effort pending targetSha composition _ _ stored moving composed writes =>
    have running : view.restarts after = false :=
      restarts_eq_false stored writes.effort (by rintro ⟨⟩)
        (fun _ => by rw [moving]; constructor <;> rintro ⟨⟩)
    intro row found
    cases writes.effort.symm.trans found
    have counted := matching effort stored
    rw [if_neg (by rw [moving]; rintro ⟨⟩)] at counted
    rw [if_neg (by rintro ⟨⟩), CycleTally.follow, running, consumed_of_quiet rfl]
    simpa using counted
  | approve decides decision writes =>
    exact matching.follow_calm writes.stored writes rfl rfl
  | requestChanges decides decision writes =>
    exact matching.follow_quiet writes.stored writes (by rintro ⟨⟩) (by rintro ⟨⟩)
      (fun _ => by rw [decides.waiting]; constructor <;> rintro ⟨⟩) rfl
  | cancel free active owed writes =>
    intro row found
    cases writes.effort.symm.trans found
    exact (if_pos rfl).symm
  | markReplacement limited writes =>
    apply CycleTally.Matches.follow_restart writes.effort ?_ rfl
    rw [restarts, stateName?, stateName?, writes.stored, writes.effort, Option.map_some,
      Option.map_some, limited]
    rfl

/-! ## Runs -/

/-- The cycles of every view have distinct ids. -/
theorem Database.distinct_view (db : Database) (effortId : String) :
    (db.view effortId).Distinct := by
  have part : (db.view effortId).cycles.Sublist db.cycles.rows := List.filter_sublist
  exact db.cycles.keyed.sublist (part.map IntegrationCycle.id)

/-- The cycles that an operation consumes were not consumed before. -/
theorem EffortView.mem_consumed {cycleId : String}
    (mem : cycleId ∈ EffortView.consumed operation before after) :
    after.HasConsumed cycleId ∧ ¬before.HasConsumed cycleId := by
  unfold EffortView.consumed at mem
  split at mem
  · have kept := (List.mem_filter.mp mem).2
    simpa using kept
  · cases mem

/-- The consumed cycles are distinct. -/
theorem EffortView.nodup_consumed (distinct : after.Distinct) :
    (EffortView.consumed operation before after).Nodup := by
  unfold EffortView.consumed
  split
  · exact distinct.filter _
  · exact List.nodup_nil

/-- The cycles of the tally after an operation. -/
theorem CycleTally.follow_cycles :
    (tally.follow operation before after).earlier ++
        (tally.follow operation before after).current = tally.earlier ++ tally.current ∨
      (tally.follow operation before after).earlier ++
          (tally.follow operation before after).current =
        tally.earlier ++ tally.current ++ EffortView.consumed operation before after := by
  unfold CycleTally.follow
  split
  · exact .inl (List.append_nil _)
  · exact .inr (List.append_assoc ..).symm

/-- A tally goes on counting. -/
theorem CycleTally.Counts.follow (counts : tally.Counts before)
    (keeps : before.KeepsConsumed after) (distinct : after.Distinct)
    (matching : (tally.follow operation before after).Matches after) :
    (tally.follow operation before after).Counts after := by
  have earlier : ∀ cycleId ∈ tally.earlier ++ tally.current, after.HasConsumed cycleId :=
    fun cycleId mem => keeps cycleId (counts.ended cycleId mem)
  refine ⟨?_, ?_, matching⟩
  · intro cycleId mem
    rcases @CycleTally.follow_cycles before after operation tally with same | same
    · rw [same] at mem
      exact earlier cycleId mem
    · rw [same, List.mem_append] at mem
      rcases mem with mem | mem
      · exact earlier cycleId mem
      · exact (mem_consumed mem).1
  · rcases @CycleTally.follow_cycles before after operation tally with same | same
    · rw [same]
      exact counts.once
    · rw [same]
      apply counts.once.append (nodup_consumed distinct)
      intro cycleId mem fresh
      exact (mem_consumed fresh).2 (counts.ended cycleId mem)

/-- A view that stays does not restart. -/
theorem EffortView.restarts_self (view : EffortView) : view.restarts view = false := by
  unfold restarts
  cases view.stateName? with
  | none => rfl
  | some name => cases name <;> rfl

/-- A view that stays consumes nothing. -/
theorem EffortView.consumed_self (operation : Operation) (view : EffortView) :
    EffortView.consumed operation view view = [] := by
  unfold EffortView.consumed
  split
  · apply List.filter_eq_nil_iff.mpr
    intro cycleId mem
    simp
  · rfl

/-- An operation that leaves the view of an effort leaves its tally. -/
theorem CycleTally.follow_self (tally : CycleTally) (operation : Operation) (view : EffortView) :
    tally.follow operation view view = tally := by
  rw [CycleTally.follow, restarts_self, consumed_self, if_neg Bool.false_ne_true, List.append_nil]

/-- Every operation goes on counting. -/
theorem CycleTally.Counts.step (reachable : store.Reachable db) (operation : Operation)
    (counts : tally.Counts (db.view effortId)) :
    (tally.follow operation (db.view effortId) ((store.step db operation).view effortId)).Counts
      ((store.step db operation).view effortId) := by
  have sound := sound_of_reachable reachable
  rw [store_step]
  rcases settle_cases operation.transaction db with same | ⟨outcome, commits⟩
  · rw [same, CycleTally.follow_self]
    exact counts
  · rcases operation.stepped sound commits effortId with same | step
    · rw [same, CycleTally.follow_self]
      exact counts
    · exact counts.follow step.keepsConsumed (Database.distinct_view _ effortId)
        (step.matches (sound effortId) (db.distinct_view effortId) counts.count)

/-- A step of the tallied store is one of the store. -/
theorem talliedStore_step (state : Database × CycleTally) (operation : Operation) :
    (talliedStore effortId).step state operation =
      (store.step state.1 operation, state.2.follow operation (state.1.view effortId)
        ((store.step state.1 operation).view effortId)) := rfl

/-- A run of the tallied store is one of the store. -/
theorem talliedStore_run (operations : List Operation) (state : Database × CycleTally) :
    ((talliedStore effortId).run state operations).1 = store.run state.1 operations := by
  induction operations generalizing state with
  | nil => rfl
  | cons operation rest run_rest =>
    rw [Machine.run_cons, Machine.run_cons, run_rest, talliedStore_step]

/-- A reachable database with a tally that counts the cycles of an effort. -/
structure Tallied (effortId : String) (state : Database × CycleTally) : Prop where
  reachable : store.Reachable state.1
  counts : state.2.Counts (state.1.view effortId)

/-- A blank view has nothing to count. -/
theorem CycleTally.counts_blank : (⟨[], []⟩ : CycleTally).Counts .blank where
  ended _ mem := by cases mem
  once := List.nodup_nil
  count _ stored := by cases stored

/-- Every operation keeps the tally. -/
theorem Tallied.step {state : Database × CycleTally} (tallied : Tallied effortId state)
    (operation : Operation) : Tallied effortId ((talliedStore effortId).step state operation) := by
  rw [talliedStore_step]
  exact ⟨tallied.reachable.step operation, tallied.counts.step tallied.reachable operation⟩

/-- Over every run the tally counts the consumed cycles of an effort, each once. -/
theorem counts_of_run {start : Database} (initial : start.Initial) (operations : List Operation)
    (effortId : String) :
    (cycleTally start operations effortId).Counts ((store.run start operations).view effortId) := by
  have blank : Tallied effortId (start, ⟨[], []⟩) := by
    refine ⟨.initial initial, ?_⟩
    rw [initial.view_eq_blank]
    exact CycleTally.counts_blank
  have rule := @Machine.run_keeps _ _ (talliedStore effortId) (Tallied effortId)
  have tallied := rule (fun _ operation holds => holds.step operation) blank operations
  have counts := tallied.counts
  rw [talliedStore_run] at counts
  exact counts

end Iq
