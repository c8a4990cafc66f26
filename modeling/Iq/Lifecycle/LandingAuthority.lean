import Iq.Lifecycle.Runs

/-!
# External landing authority

Once a landing command was released, its effect on the target is unknown until it is observed, so
the effort has to keep the landing. Every step keeps it, with the candidate, except the target
move that presents a definite rejection of exactly that command.
-/

namespace Iq

open Library Library.Transaction

variable {before view after : EffortView} {db later : Database} {effort row : IntegrationEffort}
  {state : IntegrationEffortState} {failedCycles : Nat} {effortId : String}

/-- Only a definite rejection lets a state update give up landing authority. -/
theorem Writes.keeps_authority (writes : Writes none before row state failedCycles after)
    (held : row.state.containsExternalLandingAuthority = true) :
    state.containsExternalLandingAuthority = true := by
  by_contra released
  obtain ⟨rejection, -, given, -⟩ := writes.authority held (by simpa using released)
  cases given

/-- A captured state holds the authority and the candidate of its resume state. -/
theorem ResumeState.authority_restore (resume : ResumeState) :
    resume.restore.containsExternalLandingAuthority = resume.containsExternalLandingAuthority ∧
      (resume.containsExternalLandingAuthority = true →
        resume.restore.candidateSha = resume.candidateSha) := by
  cases resume <;> exact ⟨rfl, fun _ => rfl⟩

/-- The state after a failure has no authority outside. -/
theorem EffortView.authority_failedState {cycleId eventId : String} {failure : CycleFailure}
    {count next : Nat} :
    (view.failedState cycleId failure count next eventId).containsExternalLandingAuthority =
      false := by
  unfold EffortView.failedState
  split <;> rfl

/-- The candidate that is landed is the candidate of the state. -/
theorem IntegrationEffortState.candidateSha_of_landingCandidate? {candidateSha : String}
    (landed : state.landingCandidate? = some candidateSha) :
    state.candidateSha = some candidateSha := by
  cases state <;> simp_all [landingCandidate?, IntegrationEffortState.candidateSha]

/-- A state holds the landing of a candidate. -/
def IntegrationEffortState.HoldsLanding (state : IntegrationEffortState)
    (candidateSha : Option String) : Prop :=
  state.containsExternalLandingAuthority = true ∧ state.candidateSha = candidateSha

/-- The step that gives up the landing of an effort: a target move with a definite rejection that
names its released command. -/
def GivesUpLanding (effort : IntegrationEffort) (operation : Operation) : Prop :=
  ∃ targetSha rejection stamp landing,
    operation = .beginTargetMove effort.id targetSha (some rejection) stamp ∧
      rejection.Names effort landing

/-- A write that keeps the landing of a candidate. -/
theorem Writes.holds (writes : Writes none before row state failedCycles after)
    {candidateSha : Option String} (held : row.state.HoldsLanding candidateSha)
    (same : state.containsExternalLandingAuthority = true →
      state.candidateSha = row.state.candidateSha) :
    ∃ kept, after.effort = some kept ∧ kept.state.HoldsLanding candidateSha := by
  have authority := writes.keeps_authority held.1
  exact ⟨_, writes.effort, authority, (same authority).trans held.2⟩

/-- Every step keeps the landing of an effort or gives it up to a definite rejection. -/
theorem EffortStep.keeps_landing {operation : Operation} {candidateSha : Option String}
    (step : EffortStep operation view after) (stored : view.effort = some effort)
    (held : effort.state.HoldsLanding candidateSha) :
    (∃ row, after.effort = some row ∧ row.state.HoldsLanding candidateSha) ∨
      GivesUpLanding effort operation := by
  have same : ∀ {other}, view.effort = some other → other = effort := fun found =>
    Option.some_inj.mp (found.symm.trans stored)
  cases step with
  | create absent =>
    rw [absent] at stored
    cases stored
  | replace found waiting =>
    obtain rfl := same found
    rw [waiting] at held
    cases held.1
  | surrenderCancelled | acknowledgeCancelled | deleteDebt => exact .inl ⟨effort, stored, held⟩
  | moveTarget movable captured writes =>
    obtain rfl := same (EffortView.supersedeReview_effort.symm.trans writes.stored)
    obtain ⟨released, landing, rfl, names⟩ := writes.authority held.1 rfl
    exact .inr ⟨_, released, _, landing, rfl, names⟩
  | recompose found moving composed writes =>
    obtain rfl := same found
    rw [moving] at held
    cases held.1
  | acknowledgeLaunching _ _ fails | acknowledgeRunning _ fails | reset _ fails =>
    obtain rfl := same fails.stored
    cases fails.writes.keeps_authority held.1
  | blockInfrastructure captured writes =>
    obtain rfl := same writes.stored
    refine .inl (writes.holds held fun authority => ?_)
    rw [captured, (ResumeState.authority_restore _).2 authority]
    rfl
  | blockProvider captured writes =>
    obtain rfl := same writes.stored
    refine .inl (writes.holds held fun authority => ?_)
    rw [captured, (ResumeState.authority_restore _).2 authority]
    rfl
  | retry suspended writes =>
    obtain rfl := same writes.stored
    refine .inl (writes.holds held fun authority => ?_)
    rw [(ResumeState.authority_restore _).1] at authority
    rw [(ResumeState.authority_restore _).2 authority]
    obtain suspended | suspended := suspended <;> rw [suspended] <;> rfl
  | resumeProvider suspended writes =>
    obtain rfl := same writes.stored
    refine .inl (writes.holds held fun authority => ?_)
    rw [(ResumeState.authority_restore _).1] at authority
    rw [(ResumeState.authority_restore _).2 authority, suspended]
    rfl
  | integrate landed writes =>
    obtain rfl := same writes.stored
    exact .inl (writes.holds held fun _ =>
      (IntegrationEffortState.candidateSha_of_landingCandidate? landed).symm)
  | consume _ writes | reject _ _ _ writes =>
    obtain rfl := same writes.stored
    exact absurd (writes.keeps_authority held.1)
      (by rw [EffortView.authority_failedState]; decide)
  | release prepared writes =>
    obtain rfl := same writes.stored
    rw [prepared] at held
    cases held.1
  | @record _ _ _ building _ _ _ _ _ _ _ writes =>
    obtain rfl := same writes.stored
    have authority := writes.keeps_authority held.1
    unfold CandidateBuilding.candidateState at authority
    split at authority <;> cases authority
  | prepare _ _ _ _ writes | surrender _ _ writes | started _ _ _ _ _ _ _ writes
  | result _ writes | accept _ _ writes | resetBuild _ writes | startValidation _ writes
  | completeValidation _ writes | requireGuidance _ _ _ writes | answer _ _ writes
  | retryLimit _ writes | beginLanding _ writes | approve _ _ writes | requestChanges _ _ writes
  | cancel _ _ _ writes | markReplacement _ writes =>
    obtain rfl := same writes.stored
    cases writes.keeps_authority held.1

/-- Over every run from a reachable state, an effort that holds the landing of a candidate still
holds it at the end, unless a step of the run gave it up to a definite rejection that names the
released command of a direct effort. -/
theorem landing_authority_is_kept (reachable : store.Reachable db)
    (stored : db.efforts.find? effortId = some effort)
    (held : effort.state.containsExternalLandingAuthority = true) (operations : List Operation) :
    (∃ row, (store.run db operations).efforts.find? effortId = some row ∧
        row.state.containsExternalLandingAuthority = true ∧
        row.state.candidateSha = effort.state.candidateSha) ∨
      ∃ earlier operation rest, operations = earlier ++ operation :: rest ∧
        ∃ row, (store.run db earlier).efforts.find? effortId = some row ∧
          row.state.containsExternalLandingAuthority = true ∧ GivesUpLanding row operation := by
  have rule := @Machine.run_keeps_until _ _ store
    (fun now => store.Reachable now ∧ ∃ row, (now.view effortId).effort = some row ∧
      row.state.HoldsLanding effort.state.candidateSha)
    (fun now operation => ∃ row, (now.view effortId).effort = some row ∧
      GivesUpLanding row operation)
  have kept := rule ?_ ⟨reachable, effort, stored, held, rfl⟩ operations
  · obtain ⟨-, final⟩ | ⟨earlier, operation, rest, split, ⟨-, row, found, holds⟩, other, same,
      gives⟩ := kept
    · exact .inl final
    · obtain rfl : row = other := Option.some_inj.mp (found.symm.trans same)
      exact .inr ⟨earlier, operation, rest, split, row, found, holds.1, gives⟩
  · rintro now operation ⟨reached, row, found, holds⟩
    obtain aborted | ⟨outcome, commits⟩ := settle_cases operation.transaction now
    · rw [store_step, aborted]
      exact .inl ⟨reached, row, found, holds⟩
    · rw [← store_step] at commits
      obtain same | step := operation.stepped (sound_of_reachable reached) commits effortId
      · exact .inl ⟨reached.step operation, row, by rw [same]; exact found, holds⟩
      · obtain next | gives := step.keeps_landing found holds
        · exact .inl ⟨reached.step operation, next⟩
        · exact .inr ⟨row, found, gives⟩

/-- The landing that the sample run releases survives a block, a retry and a cancellation. -/
theorem landing_authority_is_kept_released :
    let released := Sample.after
      (Sample.created (.clean Sample.treeSha) .direct ++ Sample.built 1 ++ Sample.released)
    let operations : List Operation :=
      [.blockInfrastructure "effort" ⟨.runner, "land", .interrupted "signal"⟩ (Sample.stampOf "block"),
        .retryBlocked "effort" (.localPeer 0) 0 (Sample.stampOf "retry"),
        .cancel "effort" "owner" "stop" (Sample.stampOf "cancel")]
    (∃ row, (store.run released operations).efforts.find? "effort" = some row ∧
        row.state.containsExternalLandingAuthority = true ∧
        row.state.candidateSha = some Sample.candidateSha) ∨
      ∃ earlier operation rest, operations = earlier ++ operation :: rest ∧
        ∃ row, (store.run released earlier).efforts.find? "effort" = some row ∧
          row.state.containsExternalLandingAuthority = true ∧ GivesUpLanding row operation := by
  intro released operations
  have shape : (released.efforts.find? "effort").map (fun row =>
      (row.state.containsExternalLandingAuthority, row.state.candidateSha)) =
        some (true, some Sample.candidateSha) := by decide +kernel
  obtain ⟨effort, stored, same⟩ := Option.map_eq_some_iff.mp shape
  obtain ⟨held, candidate⟩ := Prod.mk.inj same
  have kept := landing_authority_is_kept (Sample.reachable _) stored held operations
  rwa [candidate] at kept

end Iq
