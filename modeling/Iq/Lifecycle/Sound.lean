import Iq.Lifecycle.Step

/-!
# The active cycle of an effort

An effort has an active cycle exactly while it launches or runs one, and its state names that
cycle with its status. Every step keeps this, so operations that find a cycle by its status alone
find the cycle of the state.
-/

namespace Iq

open Library

/-- The active cycle that a state names, with its status. -/
def IntegrationEffortState.activeCycle? : IntegrationEffortState → Option (String × CycleStatus)
  | .agentLaunching launch => some (launch.cycleId, .starting)
  | .agentRunning running => some (running.cycleId, .running)
  | _ => none

namespace EffortView

variable {view after : EffortView} {effort row : IntegrationEffort} {effortId : String}

/-- The active cycle that the state of a view names. -/
def activeCycle? (view : EffortView) : Option (String × CycleStatus) :=
  view.effort.bind fun effort => effort.state.activeCycle?

/-- No cycle is active. -/
def Idle (view : EffortView) : Prop := ∀ cycle ∈ view.cycles, cycle.status.isActive = false

/-- The active cycles of a view are exactly the one its state names. -/
structure Sound (view : EffortView) : Prop where
  only : ∀ cycle ∈ view.cycles, cycle.status.isActive = true →
    view.activeCycle? = some (cycle.id, cycle.status)
  there : ∀ cycleId status, view.activeCycle? = some (cycleId, status) →
    ∃ cycle ∈ view.cycles, cycle.id = cycleId ∧ cycle.status = status

/-- The active cycle of a view is that of its state. -/
theorem activeCycle?_of_stored (stored : view.effort = some effort) :
    view.activeCycle? = effort.state.activeCycle? := by
  rw [activeCycle?, stored, Option.bind_some]

/-- A view without an active cycle in its state is idle. -/
theorem Sound.idle (sound : view.Sound) (inactive : view.activeCycle? = none) : view.Idle := by
  intro cycle mem
  by_contra active
  have named := sound.only cycle mem (by simpa using active)
  rw [inactive] at named
  cases named

/-- A sound view without an active cycle is idle. -/
theorem Sound.idle_of_state (sound : view.Sound) (stored : view.effort = some effort)
    (inactive : effort.state.activeCycle? = none) : view.Idle :=
  sound.idle ((activeCycle?_of_stored stored).trans inactive)

/-- An idle view whose state names no active cycle is sound. -/
theorem Idle.sound (idle : view.Idle) (inactive : view.activeCycle? = none) : view.Sound where
  only cycle mem active := by
    rw [idle cycle mem] at active
    cases active
  there cycleId status named := by
    rw [inactive] at named
    cases named

/-- The cycles after an update. -/
theorem mem_setCycles {chosen : IntegrationCycle → Bool} {status : CycleStatus}
    {failure : Option CycleFailure} {cycle : IntegrationCycle} :
    cycle ∈ (view.setCycles chosen status failure).cycles ↔
      ∃ old ∈ view.cycles, Table.rewrite chosen
        (fun row => { row with status, failure := failure.or row.failure }) old = cycle :=
  List.mem_map

/-- Moving cycles to an inactive status leaves a view idle when every active cycle is chosen. -/
theorem idle_setCycles {chosen : IntegrationCycle → Bool} {status : CycleStatus}
    {failure : Option CycleFailure} (inactive : status.isActive = false)
    (all : ∀ cycle ∈ view.cycles, cycle.status.isActive = true → chosen cycle = true) :
    (view.setCycles chosen status failure).Idle := by
  intro cycle mem
  obtain ⟨old, stored, rfl⟩ := mem_setCycles.mp mem
  by_cases hit : chosen old = true
  · rw [Table.rewrite_of_chosen hit]
    exact inactive
  · rw [Table.rewrite_of_not_chosen hit]
    by_contra active
    exact hit (all old stored (by simpa using active))

/-- Choosing the active cycle by its identifier leaves the rest idle. -/
theorem Sound.idle_setCycles (sound : view.Sound) {cycleId : String} {active status : CycleStatus}
    {chosen : IntegrationCycle → Bool} {failure : Option CycleFailure}
    (named : view.activeCycle? = some (cycleId, active)) (inactive : status.isActive = false)
    (all : ∀ cycle ∈ view.cycles, cycle.id = cycleId → cycle.status = active →
      chosen cycle = true) :
    (view.setCycles chosen status failure).Idle := by
  refine EffortView.idle_setCycles inactive fun cycle mem isActive => ?_
  have same := (sound.only cycle mem isActive).symm.trans named
  simp only [Option.some.injEq, Prod.mk.injEq] at same
  exact all cycle mem same.1 same.2

/-- An update to an inactive status keeps a view idle. -/
theorem Idle.setCycles {chosen : IntegrationCycle → Bool} {status : CycleStatus}
    {failure : Option CycleFailure} (idle : view.Idle) (inactive : status.isActive = false) :
    (view.setCycles chosen status failure).Idle :=
  idle_setCycles inactive fun cycle mem active => by
    rw [idle cycle mem] at active
    cases active

end EffortView

open EffortView

variable {before view after : EffortView} {effort row : IntegrationEffort} {effortId : String}
  {rejection : Option DefiniteLandingRejection} {state : IntegrationEffortState}
  {failedCycles : Nat}

/-- A write leaves the cycles of the view it started from. -/
theorem Writes.cycles (writes : Writes rejection before row state failedCycles after) :
    after.cycles = before.cycles := by
  rw [writes.written]
  rfl

/-- After a written state the active cycle is that of the state. -/
theorem Writes.activeCycle? (writes : Writes rejection before row state failedCycles after) :
    after.activeCycle? = state.activeCycle? :=
  activeCycle?_of_stored writes.effort

/-- Writing an inactive state over idle cycles is sound. -/
theorem Writes.sound_of_idle (writes : Writes rejection before row state failedCycles after)
    (inactive : state.activeCycle? = none) (idle : before.Idle) : after.Sound := by
  refine Idle.sound (fun cycle mem => ?_) (writes.activeCycle?.trans inactive)
  rw [writes.cycles] at mem
  exact idle cycle mem

/-- The active cycle of a written state exists, by the trigger on related rows. -/
theorem Writes.there (writes : Writes rejection before row state failedCycles after)
    (cycleId : String) (status : CycleStatus) (named : after.activeCycle? = some (cycleId, status)) :
    ∃ cycle ∈ after.cycles, cycle.id = cycleId ∧ cycle.status = status := by
  have related := writes.related
  rw [writes.activeCycle?] at named
  unfold EffortView.Related at related
  cases same : state with
  | agentLaunching launch =>
    simp only [same] at named related
    cases named
    exact related
  | agentRunning running =>
    simp only [same] at named related
    cases named
    exact related
  | _ =>
    rw [same] at named
    cases named

/-- A state that a resume state restores names no active cycle. -/
theorem ResumeState.activeCycle?_restore (resume : ResumeState) :
    resume.restore.activeCycle? = none := by
  cases resume <;> rfl

/-- A launch fails in a stored effort. -/
theorem LaunchFails.stored {cycleId : String} {status : CycleStatus}
    (fails : LaunchFails view effort cycleId status after) : view.effort = some effort :=
  fails.writes.stored

/-- Failing the only active cycle leaves a sound view. -/
theorem LaunchFails.sound {cycleId : String} {status : CycleStatus}
    (fails : LaunchFails view effort cycleId status after) (keyed : view.Keyed effort.id)
    (sound : view.Sound) (named : view.activeCycle? = some (cycleId, status)) : after.Sound := by
  refine fails.writes.sound_of_idle rfl (sound.idle_setCycles named rfl ?_)
  intro cycle mem same active
  simp [isCycleOf, same, active, keyed.cycles cycle mem]

/-- A running cycle is the cycle of a running effort. -/
theorem EffortView.Sound.running_of_hasCycle {cycleId : String} (sound : view.Sound)
    (stored : view.effort = some effort)
    (active : view.HasCycle (isCycleOf effort.id cycleId .running)) :
    ∃ running, effort.state = .agentRunning running ∧ running.cycleId = cycleId := by
  obtain ⟨cycle, mem, chosen⟩ := active
  simp only [isCycleOf, Bool.and_eq_true, beq_iff_eq] at chosen
  have named := sound.only cycle mem (by rw [chosen.2]; rfl)
  rw [activeCycle?_of_stored stored, chosen.1.1, chosen.2] at named
  cases same : effort.state with
  | agentRunning running =>
    rw [same] at named
    simp only [IntegrationEffortState.activeCycle?, Option.some.injEq, Prod.mk.injEq] at named
    exact ⟨running, rfl, named.1⟩
  | _ => simp [same, IntegrationEffortState.activeCycle?] at named

/-- The state after a failure has no active cycle. -/
theorem activeCycle?_failedState {cycleId eventId : String} {failure : CycleFailure}
    {failedCycles next : Nat} :
    (view.failedState cycleId failure failedCycles next eventId).activeCycle? = none := by
  unfold EffortView.failedState
  split <;> rfl

/-- A movable state has no active cycle. -/
theorem activeCycle?_of_isMovable (movable : isMovable state = true) :
    state.activeCycle? = none := by
  cases state <;> first | rfl | cases movable

/-- A superseded review leaves the effort. -/
theorem EffortView.supersedeReview_effort :
    (view.supersedeReview effort).effort = view.effort := by
  unfold EffortView.supersedeReview
  split <;> rfl

/-- Superseding a review leaves an idle view idle. -/
theorem EffortView.Idle.supersedeReview (idle : view.Idle) :
    (view.supersedeReview effort).Idle := by
  unfold EffortView.supersedeReview
  split
  · exact @Idle.setCycles (view.setReviews _ _ _ _) _ _ _ idle rfl
  · exact idle

/-- Every step of the lifecycle keeps the active cycle and the state together. -/
theorem EffortStep.sound {operation : Operation} (step : EffortStep operation view after)
    (keyed : view.Keyed effortId) (sound : view.Sound) : after.Sound := by
  cases step with
  | create absent idle composed => exact Idle.sound idle rfl
  | replace stored waiting =>
    exact Idle.sound (sound.idle_of_state stored (by rw [waiting]; rfl)) rfl
  | prepare fresh ready within unused writes =>
    refine ⟨fun cycle mem active => ?_, writes.there⟩
    rw [writes.cycles, List.mem_append, List.mem_singleton] at mem
    obtain mem | rfl := mem
    · rw [(unused cycle mem).2.2] at active
      cases active
    · exact writes.activeCycle?
  | surrender launching opened writes =>
    refine ⟨fun cycle mem active => ?_, writes.there⟩
    rw [writes.cycles] at mem
    have named := sound.only cycle mem active
    rw [activeCycle?_of_stored writes.stored, launching] at named
    rw [writes.activeCycle?, ← named]
    rfl
  | surrenderCancelled => exact ⟨sound.only, sound.there⟩
  | acknowledgeLaunching launching surrendered fails =>
    refine fails.sound (keyed.effort _ fails.stored ▸ keyed) sound ?_
    rw [activeCycle?_of_stored fails.stored, launching]
    rfl
  | acknowledgeRunning started fails =>
    refine fails.sound (keyed.effort _ fails.stored ▸ keyed) sound ?_
    rw [activeCycle?_of_stored fails.stored, started]
    rfl
  | acknowledgeCancelled => exact ⟨sound.only, sound.there⟩
  | started launching surrendered sameLaunch sameCycle sameUnit presented active writes =>
    rename_i effort launch running _ _ _
    refine ⟨fun cycle mem isActive => ?_, writes.there⟩
    rw [writes.cycles, mem_setCycles] at mem
    obtain ⟨old, stored, rfl⟩ := mem
    rw [writes.activeCycle?]
    by_cases hit : isCycleOf effort.id running.cycleId .starting old = true
    · rw [Table.rewrite_of_chosen hit]
      simp only [isCycleOf, Bool.and_eq_true, beq_iff_eq] at hit
      rw [hit.1.1]
      rfl
    · rw [Table.rewrite_of_not_chosen hit] at isActive
      have named := sound.only old stored isActive
      have current : view.activeCycle? = effort.state.activeCycle? :=
        activeCycle?_of_stored writes.stored
      rw [current, launching] at named
      simp only [IntegrationEffortState.activeCycle?, Option.some.injEq, Prod.mk.injEq] at named
      refine absurd ?_ hit
      simp [isCycleOf, ← named.1, ← named.2, sameCycle, keyed.cycles old stored,
        keyed.effort _ writes.stored]
  | reset launching fails =>
    refine fails.sound (keyed.effort _ fails.stored ▸ keyed) sound ?_
    rw [activeCycle?_of_stored fails.stored, launching]
    rfl
  | result started writes =>
    refine ⟨fun cycle mem active => ?_, writes.there⟩
    rw [writes.cycles] at mem
    have named := sound.only cycle mem active
    rw [activeCycle?_of_stored writes.stored, started] at named
    rw [writes.activeCycle?, ← named]
    rfl
  | accept started same writes =>
    have accepted := writes.sound_of_idle rfl (sound.idle_setCycles
      (activeCycle?_of_stored writes.stored |>.trans (by rw [started]; rfl)) rfl
      fun cycle _ named running => by simp [isRunningCycle, named, running])
    exact ⟨accepted.only, accepted.there⟩
  | @record view after effort building _ _ _ built _ _ _ writes =>
    refine writes.sound_of_idle ?_ (sound.idle_of_state writes.stored (by rw [built]; rfl))
    unfold CandidateBuilding.candidateState
    split <;> rfl
  | resetBuild built writes =>
    exact writes.sound_of_idle rfl (sound.idle_of_state writes.stored (by rw [built]; rfl))
  | startValidation ready writes =>
    exact writes.sound_of_idle rfl (sound.idle_of_state writes.stored (by rw [ready]; rfl))
  | completeValidation validated writes =>
    exact writes.sound_of_idle rfl (sound.idle_of_state writes.stored (by rw [validated]; rfl))
  | requireGuidance started same unopened writes =>
    exact writes.sound_of_idle rfl (sound.idle_setCycles
      (activeCycle?_of_stored writes.stored |>.trans (by rw [started]; rfl)) rfl
      fun cycle _ named running => by simp [isRunningCycle, named, running])
  | answer waiting applies writes =>
    refine writes.sound_of_idle rfl (sound.idle_of_state writes.stored ?_)
    rcases IntegrationEffortState.guidance?_eq_some waiting with ⟨resume, is_guidance⟩
    rw [is_guidance]
    rfl
  | blockInfrastructure captured writes =>
    exact writes.sound_of_idle rfl (sound.idle_of_state writes.stored
      (by rw [captured, ResumeState.activeCycle?_restore]))
  | blockProvider captured writes =>
    exact writes.sound_of_idle rfl (sound.idle_of_state writes.stored
      (by rw [captured, ResumeState.activeCycle?_restore]))
  | consume active writes =>
    obtain ⟨running, started, same⟩ := sound.running_of_hasCycle writes.stored active
    refine writes.sound_of_idle activeCycle?_failedState (sound.idle_setCycles
      (activeCycle?_of_stored writes.stored |>.trans (by rw [started]; rfl)) rfl ?_)
    intro cycle mem named isRunning
    simp [isCycleOf, named, isRunning, same, keyed.cycles cycle mem, keyed.effort _ writes.stored]
  | reject candidate exact active writes =>
    refine writes.sound_of_idle activeCycle?_failedState
      (Idle.setCycles (sound.idle_of_state writes.stored ?_) rfl)
    rename_i effort _ _ _
    cases same : effort.state <;> first | rfl | simp [same, IntegrationEffortState.name] at candidate
  | retryLimit limited writes =>
    exact writes.sound_of_idle rfl (sound.idle_of_state writes.stored (by rw [limited]; rfl))
  | retry suspended writes =>
    refine writes.sound_of_idle (ResumeState.activeCycle?_restore _)
      (sound.idle_of_state writes.stored ?_)
    obtain suspended | suspended := suspended <;> rw [suspended] <;> rfl
  | resumeProvider suspended writes =>
    exact writes.sound_of_idle (ResumeState.activeCycle?_restore _)
      (sound.idle_of_state writes.stored (by rw [suspended]; rfl))
  | beginLanding validated writes =>
    exact writes.sound_of_idle rfl (sound.idle_of_state writes.stored (by rw [validated]; rfl))
  | release prepared writes =>
    exact writes.sound_of_idle rfl (sound.idle_of_state writes.stored (by rw [prepared]; rfl))
  | integrate landed writes =>
    refine writes.sound_of_idle rfl (sound.idle_of_state writes.stored ?_)
    rename_i effort _ _ _ _
    cases same : effort.state <;>
      first | rfl | simp [same, IntegrationEffortState.landingCandidate?] at landed
  | moveTarget movable captured writes =>
    have idle := sound.idle_of_state (supersedeReview_effort.symm.trans writes.stored)
      (activeCycle?_of_isMovable movable)
    exact writes.sound_of_idle rfl idle.supersedeReview
  | recompose stored moving composed writes =>
    exact writes.sound_of_idle rfl (Idle.setCycles
      (sound.idle_of_state stored (by rw [moving]; rfl)) rfl)
  | approve decides decision writes =>
    exact writes.sound_of_idle rfl (sound.idle_of_state writes.stored (by rw [decides.waiting]; rfl))
  | requestChanges decides decision writes =>
    exact writes.sound_of_idle rfl (sound.idle_of_state writes.stored (by rw [decides.waiting]; rfl))
  | cancel free active owed writes =>
    refine writes.sound_of_idle rfl (@idle_setCycles view _ _ _ rfl ?_)
    intro cycle mem isActive
    simp [isActive, keyed.cycles cycle mem, keyed.effort _ writes.stored]
  | deleteDebt => exact ⟨sound.only, sound.there⟩
  | markReplacement limited writes =>
    exact writes.sound_of_idle rfl (sound.idle_of_state writes.stored (by rw [limited]; rfl))

end Iq
