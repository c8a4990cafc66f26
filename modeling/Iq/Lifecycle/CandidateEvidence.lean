import Iq.Lifecycle.Runs

/-!
# Candidates that go forward

A candidate goes forward only with evidence: a mechanical candidate is the tree of the clean
composition it was built from, and a semantic one was approved for the current attempt, target and
source. The ledger below ties the state of an effort to its evidence row, to the builder intent in
its event log and to its reviews; every step keeps it, because every step that changes what an
approval is about deletes the evidence row first.
-/

namespace Iq

open Library

/-! ## What a state says about its candidate -/

/-- The candidate of a suspended state that is past its review. -/
def ResumeState.clearedCandidate? : ResumeState → Option String
  | .candidateReady value => some value.candidateSha
  | .validating value => some value.candidateSha
  | .landing value => some value.candidateSha
  | .landingUncertain value => some value.candidateSha
  | .agentReady _ | .candidateBuilding _ | .reviewRequired _ => none

namespace IntegrationEffortState

/-- The candidate of a state that is past its review: on its way to the target or landed. -/
def clearedCandidate? : IntegrationEffortState → Option String
  | .candidateReady value => some value.candidateSha
  | .validating value => some value.candidateSha
  | .landing value => some value.candidateSha
  | .landingUncertain value => some value.candidateSha
  | .integrated value => some value.candidateSha
  | .providerBlocked value => value.resume.candidateSha
  | .infrastructureBlocked value => value.resume.clearedCandidate?
  | _ => none

/-- The builder authority of a state, suspended or not. -/
def builder? : IntegrationEffortState → Option CandidateBuilding
  | .candidateBuilding value => some value
  | .infrastructureBlocked ⟨_, .candidateBuilding value⟩ => some value
  | _ => none

/-- A state that carries on the candidate of another: it builds and clears nothing of its own. -/
structure Carries (old new : IntegrationEffortState) : Prop where
  candidate : new.name ≠ .cancelled → old.name ≠ .cancelled ∧ new.candidateSha = old.candidateSha
  builder : ∀ building, new.builder? = some building → old.builder? = some building
  blocked : ∀ blocked candidateSha, new = .infrastructureBlocked blocked →
    blocked.resume.clearedCandidate? = some candidateSha →
    old.clearedCandidate? = some candidateSha

/-- A state without a candidate of its own. -/
structure Candidateless (state : IntegrationEffortState) : Prop where
  candidate : state.candidateSha = none
  builder : state.builder? = none
  cleared : state.clearedCandidate? = none

end IntegrationEffortState

open IntegrationEffortState

variable {state old new : IntegrationEffortState}

/-- A state with the name of a block by the infrastructure is one. -/
theorem infrastructureBlocked_of_name (blocked : state.name = .infrastructureBlocked) :
    ∃ value, state = .infrastructureBlocked value := by
  cases state with
  | infrastructureBlocked value => exact ⟨value, rfl⟩
  | _ => cases blocked

/-- A suspended state has the candidate of the state it restores. -/
theorem ResumeState.candidateSha_restore (resume : ResumeState) :
    resume.restore.candidateSha = resume.candidateSha := by
  cases resume <;> rfl

/-- A suspended state has the cleared candidate of the state it restores. -/
theorem ResumeState.clearedCandidate?_restore (resume : ResumeState) :
    resume.restore.clearedCandidate? = resume.clearedCandidate? := by
  cases resume <;> rfl

/-- No suspended state is cancelled. -/
theorem ResumeState.restore_ne_cancelled (resume : ResumeState) :
    resume.restore.name ≠ .cancelled := by
  cases resume <;> nofun

/-- A state without a candidate carries on from any state that had none. -/
theorem carries_of_candidateless (was : old = state) (active : state.name ≠ .cancelled)
    (free : state.candidateSha = none) (without : new.Candidateless) : Carries old new where
  candidate _ := by
    subst was
    exact ⟨active, without.candidate.trans free.symm⟩
  builder building built := by
    cases without.builder.symm.trans built
  blocked blocked candidateSha is_blocked cleared := by
    have none_cleared := without.cleared
    rw [is_blocked] at none_cleared
    cases none_cleared.symm.trans cleared

/-- A state that builds nothing and is not suspended carries on the candidate it names. -/
theorem carries_of_candidate (was : old = state) (active : state.name ≠ .cancelled)
    (same : new.candidateSha = state.candidateSha) (unbuilt : new.builder? = none)
    (unblocked : new.name ≠ .infrastructureBlocked) : Carries old new where
  candidate _ := by
    subst was
    exact ⟨active, same⟩
  builder building built := by
    cases unbuilt.symm.trans built
  blocked blocked candidateSha is_blocked _ := by
    rw [is_blocked] at unblocked
    exact absurd rfl unblocked

/-- Blocking suspends the candidate of the state that it captures. -/
theorem carries_infrastructureBlocked {resume : ResumeState} {blocker : IntegrationBlocker}
    (captured : old = resume.restore) : Carries old (.infrastructureBlocked ⟨blocker, resume⟩) where
  candidate _ := by
    rw [captured]
    exact ⟨resume.restore_ne_cancelled, resume.candidateSha_restore.symm⟩
  builder building built := by
    rw [captured]
    cases resume <;> exact built
  blocked blocked candidateSha is_blocked cleared := by
    cases is_blocked
    rw [captured, ResumeState.clearedCandidate?_restore]
    exact cleared

/-- Cancelling carries on nothing. -/
theorem carries_cancelled {cancelled : Cancelled} : Carries old (.cancelled cancelled) where
  candidate alive := absurd rfl alive
  builder building built := by cases built
  blocked blocked candidateSha is_blocked _ := by cases is_blocked

/-- Retrying restores the candidate of the state that was suspended. -/
theorem carries_restore {blocked : BlockedEffort}
    (suspended : old = .infrastructureBlocked blocked ∨ old = .providerBlocked blocked)
    (gated : old = .providerBlocked blocked → blocked.resume.restore.builder? = none) :
    Carries old blocked.resume.restore where
  candidate _ := by
    rw [ResumeState.candidateSha_restore]
    rcases suspended with rfl | rfl
    · exact ⟨nofun, rfl⟩
    · exact ⟨nofun, rfl⟩
  builder building built := by
    rcases suspended with rfl | rfl
    · rcases blocked with ⟨blocker, resume⟩
      cases resume <;> exact built
    · rw [gated rfl] at built
      cases built
  blocked other candidateSha is_blocked _ := by
    rcases blocked with ⟨blocker, resume⟩
    cases resume <;> cases is_blocked

/-! ## The ledger -/

namespace EffortView

variable {view before after : EffortView} {row effort : IntegrationEffort}
  {candidate : CandidateEvidence}

/-- The evidence was recorded for the last builder intent, with its classification. -/
def BuiltFor (view : EffortView) (composition : CompositionEvidence)
    (candidate : CandidateEvidence) : Prop :=
  ∃ intent, view.intents.getLast? = some intent ∧
    intent.operationId = candidate.builderOperationId ∧ intent.cycleId = candidate.cycleId ∧
    candidate.classification = composition.candidateClassification intent.treeSha

/-- The evidence needs no review, or has its approval. -/
def Reviewed (view : EffortView) (row : IntegrationEffort) (candidate : CandidateEvidence) : Prop :=
  candidate.classification = .mechanical ∨
    ∃ review ∈ view.reviews, Database.isApprovedReview row candidate review = true

/-- The builder authority of the state is the last intent, classified against the composition. -/
def BuildsFor (view : EffortView) (composition : CompositionEvidence)
    (building : CandidateBuilding) : Prop :=
  ∃ intent, view.intents.getLast? = some intent ∧ building = intent.building composition

/-- What the rows of an effort say about its candidate. -/
structure Ledger (view : EffortView) (effort : IntegrationEffort) : Prop where
  composed : ∀ schema, effort.composition ≠ .migratedPostRelease schema
  carried : effort.state.name ≠ .cancelled →
    effort.state.candidateSha = view.evidence.map CandidateEvidence.candidateSha
  built : ∀ candidate, view.evidence = some candidate → view.BuiltFor effort.composition candidate
  builds : ∀ building, effort.state.builder? = some building →
    view.BuildsFor effort.composition building
  reviewed : ∀ candidateSha, effort.state.clearedCandidate? = some candidateSha →
    ∃ candidate, view.evidence = some candidate ∧ candidate.candidateSha = candidateSha ∧
      view.Reviewed effort candidate

/-- The ledger of a view: of its effort, or empty before there is one. -/
structure Ledgered (view : EffortView) : Prop where
  absent : view.effort = none → view.evidence = none
  stored : ∀ effort, view.effort = some effort → view.Ledger effort

/-- The ledger of the stored effort is that of its view. -/
theorem Ledger.ledgered (ledger : view.Ledger effort) (stored : view.effort = some effort) :
    view.Ledgered where
  absent missing := by
    rw [stored] at missing
    cases missing
  stored other found := by
    cases stored.symm.trans found
    exact ledger

/-- An approval survives a change of the reviews that are still open. -/
theorem mem_setReviews_of_approved {chosen : CandidateReviewRow → Bool} {status : ReviewStatus}
    {responder : Option ResponderIdentity} {text : Option String} {review : CandidateReviewRow}
    (opened : ∀ row, chosen row = true → row.status = .required) (mem : review ∈ view.reviews)
    (approved : review.status = .approved) :
    review ∈ (view.setReviews chosen status responder text).reviews := by
  have other : ¬chosen review = true := by
    intro hit
    rw [opened review hit] at approved
    cases approved
  exact List.mem_map.mpr ⟨review, mem, Table.rewrite_of_not_chosen other⟩

/-- An approved review has that status. -/
theorem status_of_isApprovedReview {review : CandidateReviewRow}
    (approved : Database.isApprovedReview row candidate review = true) :
    review.status = .approved := by
  simp only [Database.isApprovedReview, Bool.and_eq_true, beq_iff_eq] at approved
  exact approved.2

end EffortView

open EffortView

variable {view before after : EffortView} {row effort : IntegrationEffort} {effortId : String}
  {rejection : Option DefiniteLandingRejection} {failedCycles : Nat}

/-- The check on related rows reviews every cleared candidate that is not suspended. -/
theorem Writes.reviewed (writes : Writes rejection before row state failedCycles after)
    (composed : ∀ schema, row.composition ≠ .migratedPostRelease schema)
    (suspended : state.name ≠ .infrastructureBlocked) {candidateSha : String}
    (cleared : state.clearedCandidate? = some candidateSha) :
    ∃ candidate, after.evidence = some candidate ∧ candidate.candidateSha = candidateSha ∧
      after.Reviewed row candidate := by
  have related := writes.related
  have gated : ∀ {named}, after.Gated { row with state, failedCycles } →
      Database.gatedCandidate? state = some named → named = candidateSha →
      ∃ candidate, after.evidence = some candidate ∧ candidate.candidateSha = candidateSha ∧
        after.Reviewed row candidate := by
    rintro named ⟨candidate, stored, same, reviewed⟩ is_named rfl
    refine ⟨candidate, stored, Option.some_inj.mp (same.symm.trans is_named), ?_⟩
    rcases reviewed with mechanical | ⟨schema, migrated⟩ | approved
    · exact .inl mechanical
    · exact absurd migrated (composed schema)
    · exact .inr approved
  unfold EffortView.Related at related
  cases state with
  | candidateReady value =>
    rcases value with ⟨cycleId, sha, review⟩
    cases cleared
    rcases related with ⟨candidate, stored, same, reviewed⟩
    refine ⟨candidate, stored, same, ?_⟩
    cases review with
    | mechanical => exact .inl reviewed
    | approved reviewId =>
      rcases reviewed with ⟨-, row', mem, -, approved⟩
      exact .inr ⟨row', mem, approved⟩
  | validating value => exact gated related rfl (Option.some_inj.mp cleared)
  | landing value => exact gated related rfl (Option.some_inj.mp cleared)
  | landingUncertain value => exact gated related rfl (Option.some_inj.mp cleared)
  | integrated value => exact gated related rfl (Option.some_inj.mp cleared)
  | providerBlocked value =>
    rcases value with ⟨blocker, resume⟩
    have valid := writes.valid
    cases blocker with
    | providerSignoff blocker =>
      -- The blocker names the candidate of the landing gate that it suspends.
      have named : resume.candidateSha = some blocker.candidateSha := by
        change resume.validateProvider blocker = .ok () at valid
        unfold ResumeState.validateProvider at valid
        split at valid
        · cases valid
        · rename_i gate is_gate
          rw [check_eq_ok, beq_iff_eq] at valid
          subst valid
          unfold ResumeState.landingGateCandidate? at is_gate
          split at is_gate <;> first | exact is_gate | cases is_gate
      exact gated related rfl (Option.some_inj.mp (named.symm.trans cleared))
    | semanticGuidance | infrastructure | cycleLimit => cases valid
  | infrastructureBlocked value => exact absurd rfl suspended
  | _ => cases cleared

/-- A write that carries on the candidate of its row keeps the ledger. -/
theorem Writes.ledgered_of_carries (writes : Writes rejection before row state failedCycles after)
    (ledgered : view.Ledgered) (sameEffort : before.effort = view.effort)
    (sameEvidence : before.evidence = view.evidence) (sameIntents : before.intents = view.intents)
    (approvals : ∀ review ∈ view.reviews, review.status = .approved → review ∈ before.reviews)
    (carries : Carries row.state state) : after.Ledgered := by
  have ledger : view.Ledger row := ledgered.stored row (sameEffort.symm.trans writes.stored)
  have evidence : after.evidence = view.evidence := by
    rw [writes.written]
    exact sameEvidence
  have intents : after.intents = view.intents := by
    rw [writes.written]
    exact sameIntents
  have reviews : after.reviews = before.reviews := by
    rw [writes.written]
    rfl
  suffices next : after.Ledger { row with state, failedCycles } from next.ledgered writes.effort
  refine ⟨ledger.composed, ?_, ?_, ?_, ?_⟩
  · intro active
    have kept := carries.candidate active
    rw [evidence]
    exact kept.2.trans (ledger.carried kept.1)
  · intro candidate stored
    rw [evidence] at stored
    rcases ledger.built candidate stored with ⟨intent, last, built⟩
    exact ⟨intent, intents ▸ last, built⟩
  · intro building builds
    rcases ledger.builds building (carries.builder building builds) with ⟨intent, last, built⟩
    exact ⟨intent, intents ▸ last, built⟩
  · intro candidateSha cleared
    by_cases suspended : state.name = .infrastructureBlocked
    · rcases infrastructureBlocked_of_name suspended with ⟨blocked, is_blocked⟩
      have earlier : row.state.clearedCandidate? = some candidateSha :=
        carries.blocked blocked candidateSha is_blocked (by rw [is_blocked] at cleared; exact cleared)
      rcases ledger.reviewed candidateSha earlier with ⟨candidate, stored, same, reviewed⟩
      refine ⟨candidate, evidence.trans stored, same, ?_⟩
      rcases reviewed with mechanical | ⟨review, mem, approved⟩
      · exact .inl mechanical
      · have kept := approvals review mem (status_of_isApprovedReview approved)
        exact .inr ⟨review, reviews ▸ kept, approved⟩
    · exact writes.reviewed ledger.composed suspended cleared

/-- Without evidence a state without a candidate has its ledger. -/
theorem EffortView.Ledger.of_candidateless (deleted : view.evidence = none)
    (composed : ∀ schema, effort.composition ≠ .migratedPostRelease schema)
    (without : effort.state.Candidateless) : view.Ledger effort := by
  refine ⟨composed, ?_, ?_, ?_, ?_⟩
  · intro _
    rw [deleted]
    exact without.candidate
  · intro candidate stored
    cases deleted.symm.trans stored
  · intro building builds
    cases without.builder.symm.trans builds
  · intro candidateSha cleared
    cases without.cleared.symm.trans cleared

/-- A write of a state without a candidate over a deleted evidence row keeps the ledger. -/
theorem Writes.ledgered_of_deleted (writes : Writes rejection before row state failedCycles after)
    (composed : ∀ schema, row.composition ≠ .migratedPostRelease schema)
    (deleted : before.evidence = none) (without : state.Candidateless) : after.Ledgered := by
  have evidence : after.evidence = none := by
    rw [writes.written]
    exact deleted
  have next : after.Ledger { row with state, failedCycles } :=
    .of_candidateless evidence composed without
  exact next.ledgered writes.effort

/-- An effort that carries no candidate has no evidence. -/
theorem EffortView.Ledgered.evidence_eq_none (ledgered : view.Ledgered)
    (stored : view.effort = some effort) (active : effort.state.name ≠ .cancelled)
    (free : effort.state.candidateSha = none) : view.evidence = none := by
  have carried := (ledgered.stored effort stored).carried active
  rw [free] at carried
  exact Option.map_eq_none_iff.mp carried.symm

/-- The state after a failure has no candidate. -/
theorem candidateless_failedState {cycleId eventId : String} {failure : CycleFailure}
    {count next : Nat} : (view.failedState cycleId failure count next eventId).Candidateless := by
  unfold EffortView.failedState
  split <;> exact ⟨rfl, rfl, rfl⟩

/-- Valid runtime composition was not migrated. -/
theorem CompositionEvidence.not_migrated {composition : CompositionEvidence}
    {format : GitObjectFormat} (composed : composition.validate format false = .ok ())
    (schema : Nat) : composition ≠ .migratedPostRelease schema := by
  rintro rfl
  cases composed

/-- Failing a launch keeps the ledger: no candidate was accepted from it. -/
theorem LaunchFails.ledgered {cycleId : String} {status : CycleStatus}
    (fails : LaunchFails view effort cycleId status after) (ledgered : view.Ledgered)
    (was : effort.state = state) (active : state.name ≠ .cancelled)
    (free : state.candidateSha = none) : after.Ledgered :=
  fails.writes.ledgered_of_carries ledgered rfl rfl rfl (fun _ mem _ => mem)
    (carries_of_candidateless was active free ⟨rfl, rfl, rfl⟩)

/-- Superseding the open review of a moving effort leaves the evidence, the intents and every
approval. -/
theorem EffortView.supersedeReview_keeps :
    (view.supersedeReview effort).evidence = view.evidence ∧
      (view.supersedeReview effort).intents = view.intents ∧
      ∀ review ∈ view.reviews, review.status = .approved →
        review ∈ (view.supersedeReview effort).reviews := by
  unfold EffortView.supersedeReview
  split
  · refine ⟨rfl, rfl, fun review mem approved => ?_⟩
    refine mem_setReviews_of_approved ?_ mem approved
    intro row chosen
    simp only [Bool.and_eq_true, beq_iff_eq] at chosen
    exact chosen.2
  · exact ⟨rfl, rfl, fun _ mem _ => mem⟩

/-- A provider blocker suspends no builder: the transition table has no way back to one. -/
theorem Writes.builder?_restore {blocked : BlockedEffort}
    (writes : Writes rejection before row blocked.resume.restore failedCycles after)
    (provider : row.state = .providerBlocked blocked) :
    blocked.resume.restore.builder? = none := by
  have allowed := writes.transition
  rw [provider] at allowed
  rcases blocked with ⟨blocker, resume⟩
  cases resume with
  | candidateBuilding value =>
    have refused : transitionAllowed .providerBlocked .candidateBuilding = false := by decide
    cases refused.symm.trans allowed
  | _ => rfl

/-- A landing state names the candidate that it lands. -/
theorem candidateSha_of_landing {candidateSha : String}
    (landed : old.landingCandidate? = some candidateSha) :
    old.name ≠ .cancelled ∧ some candidateSha = old.candidateSha := by
  cases old <;> first | cases landed; exact ⟨nofun, rfl⟩ | cases landed

/-- Every step keeps the ledger. -/
theorem EffortStep.ledgered {operation : Operation} (step : EffortStep operation view after)
    (sound : view.Sound) (ledgered : view.Ledgered) : after.Ledgered := by
  -- Most steps touch no evidence: they carry on the candidate of the row they write over.
  have kept : ∀ review ∈ view.reviews, review.status = .approved → review ∈ view.reviews :=
    fun _ mem _ => mem
  cases step with
  | @create view new stamp format absent idle composed =>
    have ledger : Ledger { view with effort := some (new.row stamp.rowId) } (new.row stamp.rowId) :=
      .of_candidateless (ledgered.absent absent) (CompositionEvidence.not_migrated composed)
        ⟨rfl, rfl, rfl⟩
    exact ledger.ledgered rfl
  | @replace view effort pending new stamp format stored waiting another composed =>
    have deleted : view.evidence = none :=
      ledgered.evidence_eq_none stored (by rw [waiting]; nofun) (by rw [waiting]; rfl)
    have ledger : Ledger { view with effort := some (new.replace (view.maxCycle + 1) effort) }
        (new.replace (view.maxCycle + 1) effort) :=
      .of_candidateless deleted (CompositionEvidence.not_migrated composed) ⟨rfl, rfl, rfl⟩
    exact ledger.ledgered rfl
  | prepare fresh ready within unused writes =>
    exact writes.ledgered_of_carries ledgered rfl rfl rfl kept
      (carries_of_candidateless ready nofun rfl ⟨rfl, rfl, rfl⟩)
  | surrender launching opened writes =>
    exact writes.ledgered_of_carries ledgered rfl rfl rfl kept
      (carries_of_candidateless launching nofun rfl ⟨rfl, rfl, rfl⟩)
  | surrenderCancelled | acknowledgeCancelled | deleteDebt =>
    exact ⟨ledgered.absent, fun effort stored =>
      have ledger := ledgered.stored effort stored
      ⟨ledger.composed, ledger.carried, ledger.built, ledger.builds, ledger.reviewed⟩⟩
  | acknowledgeLaunching launching surrendered fails =>
    exact fails.ledgered ledgered launching nofun rfl
  | acknowledgeRunning started fails =>
    exact fails.ledgered ledgered started nofun rfl
  | started launching surrendered sameLaunch sameCycle sameUnit presented active writes =>
    exact writes.ledgered_of_carries ledgered rfl rfl rfl kept
      (carries_of_candidateless launching nofun rfl ⟨rfl, rfl, rfl⟩)
  | reset launching fails =>
    exact fails.ledgered ledgered launching nofun rfl
  | result started writes =>
    exact writes.ledgered_of_carries ledgered rfl rfl rfl kept
      (carries_of_candidateless started nofun rfl ⟨rfl, rfl, rfl⟩)
  | @accept view middle effort running intent stamp started same writes =>
    have deleted : view.evidence = none :=
      ledgered.evidence_eq_none writes.stored (by rw [started]; nofun) (by rw [started]; rfl)
    have middleEvidence : middle.evidence = none := by
      rw [writes.written]
      exact deleted
    have ledger : Ledger { middle with intents := middle.intents ++ [intent] }
        { effort with state := .candidateBuilding (intent.building effort.composition) } := by
      refine ⟨(ledgered.stored effort writes.stored).composed, ?_, ?_, ?_, nofun⟩
      · intro _
        rw [middleEvidence]
        rfl
      · intro candidate stored
        cases middleEvidence.symm.trans stored
      · intro building builds
        cases builds
        exact ⟨intent, List.getLast?_concat, rfl⟩
    exact ledger.ledgered writes.effort
  | @record view after effort building observation stamp reviews built same opened unopened writes =>
    have earlier := ledgered.stored effort writes.stored
    have evidence : after.evidence = some ⟨effort.id, building.cycleId, observation.candidateSha,
        observation.operationId, building.classification⟩ := by
      rw [writes.written]
      rfl
    have intents : after.intents = view.intents := by
      rw [writes.written]
      rfl
    -- The state is of the candidate that the evidence names, and builds nothing.
    have shape : (building.candidateState observation.candidateSha stamp.rowId).candidateSha =
          some observation.candidateSha ∧
        (building.candidateState observation.candidateSha stamp.rowId).builder? = none ∧
        (building.candidateState observation.candidateSha stamp.rowId).name ≠
          .infrastructureBlocked := by
      unfold CandidateBuilding.candidateState
      split <;> exact ⟨rfl, rfl, nofun⟩
    have ledger : after.Ledger { effort with
        state := building.candidateState observation.candidateSha stamp.rowId } := by
      refine ⟨earlier.composed, ?_, ?_, ?_, ?_⟩
      · intro _
        rw [evidence]
        exact shape.1
      · intro candidate stored
        cases evidence.symm.trans stored
        rcases earlier.builds building (by rw [built]; rfl) with ⟨intent, last, is_building⟩
        refine ⟨intent, intents ▸ last, ?_, by rw [is_building]; rfl, by rw [is_building]; rfl⟩
        simp only [CandidateObservation.matches, Bool.and_eq_true, beq_iff_eq] at same
        have operation := same.1.1.1.1.1.1.1.1.1.1
        rw [is_building] at operation
        exact operation
      · intro other builds
        cases shape.2.1.symm.trans builds
      · intro candidateSha cleared
        exact writes.reviewed earlier.composed shape.2.2 cleared
    exact ledger.ledgered writes.effort
  | resetBuild built writes =>
    exact writes.ledgered_of_carries ledgered rfl rfl rfl kept
      (carries_of_candidateless built nofun rfl ⟨rfl, rfl, rfl⟩)
  | startValidation ready writes =>
    exact writes.ledgered_of_carries ledgered rfl rfl rfl kept
      (carries_of_candidate ready nofun rfl rfl nofun)
  | completeValidation validated writes =>
    exact writes.ledgered_of_carries ledgered rfl rfl rfl kept
      (carries_of_candidate validated nofun rfl rfl nofun)
  | requireGuidance started same unopened writes =>
    exact writes.ledgered_of_carries ledgered rfl rfl rfl kept
      (carries_of_candidateless started nofun rfl ⟨rfl, rfl, rfl⟩)
  | answer waiting applies writes =>
    rcases guidance?_eq_some waiting with ⟨resume, is_guidance⟩
    exact writes.ledgered_of_carries ledgered rfl rfl rfl kept
      (carries_of_candidateless is_guidance nofun rfl ⟨rfl, rfl, rfl⟩)
  | blockInfrastructure captured writes =>
    exact writes.ledgered_of_carries ledgered rfl rfl rfl kept
      (carries_infrastructureBlocked captured)
  | blockProvider captured writes =>
    exact writes.ledgered_of_carries ledgered rfl rfl rfl kept (carries_of_candidate captured
      (ResumeState.restore_ne_cancelled _) (ResumeState.candidateSha_restore _).symm rfl nofun)
  | consume active writes =>
    rcases sound.running_of_hasCycle writes.stored active with ⟨running, started, -⟩
    exact writes.ledgered_of_carries ledgered rfl rfl rfl kept
      (carries_of_candidateless started nofun rfl candidateless_failedState)
  | reject candidate exact active writes =>
    refine writes.ledgered_of_deleted ?_ rfl candidateless_failedState
    exact (ledgered.stored _ writes.stored).composed
  | retryLimit limited writes =>
    exact writes.ledgered_of_carries ledgered rfl rfl rfl kept
      (carries_of_candidateless limited nofun rfl ⟨rfl, rfl, rfl⟩)
  | retry suspended writes =>
    refine writes.ledgered_of_carries ledgered rfl rfl rfl kept (carries_restore suspended ?_)
    exact writes.builder?_restore
  | resumeProvider suspended writes =>
    refine writes.ledgered_of_carries ledgered rfl rfl rfl kept (carries_restore (.inr suspended) ?_)
    exact writes.builder?_restore
  | beginLanding validated writes =>
    exact writes.ledgered_of_carries ledgered rfl rfl rfl kept
      (carries_of_candidate validated nofun rfl rfl nofun)
  | release prepared writes =>
    exact writes.ledgered_of_carries ledgered rfl rfl rfl kept
      (carries_of_candidate prepared nofun rfl rfl nofun)
  | integrate landed writes =>
    have carried := candidateSha_of_landing landed
    exact writes.ledgered_of_carries ledgered rfl rfl rfl kept
      (carries_of_candidate rfl carried.1 carried.2 rfl nofun)
  | moveTarget movable captured writes =>
    rcases supersedeReview_keeps with ⟨evidence, intents, approvals⟩
    exact writes.ledgered_of_carries ledgered supersedeReview_effort evidence intents approvals
      (carries_of_candidate captured (ResumeState.restore_ne_cancelled _)
        (ResumeState.candidateSha_restore _).symm rfl nofun)
  | recompose stored moving composed writes =>
    exact writes.ledgered_of_deleted (CompositionEvidence.not_migrated composed) rfl
      ⟨rfl, rfl, rfl⟩
  | approve decides decision writes =>
    refine writes.ledgered_of_carries ledgered rfl rfl rfl ?_
      (carries_of_candidate decides.waiting nofun rfl rfl nofun)
    intro row mem approved
    refine mem_setReviews_of_approved ?_ mem approved
    intro row chosen
    simp only [isOpenReview, Bool.and_eq_true, beq_iff_eq] at chosen
    exact chosen.2
  | requestChanges decides decision writes =>
    exact writes.ledgered_of_deleted (ledgered.stored _ writes.stored).composed rfl
      ⟨rfl, rfl, rfl⟩
  | cancel free active owed writes =>
    refine writes.ledgered_of_carries ledgered rfl rfl rfl ?_ carries_cancelled
    intro row mem approved
    refine @mem_setReviews_of_approved (view.setCycles _ _ _ |>.setGuidance _ _) _ _ _ _ _ ?_ mem
      approved
    intro row chosen
    simp only [Bool.and_eq_true, beq_iff_eq] at chosen
    exact chosen.2
  | markReplacement limited writes =>
    exact writes.ledgered_of_carries ledgered rfl rfl rfl kept
      (carries_of_candidateless limited nofun rfl ⟨rfl, rfl, rfl⟩)

/-! ## Reachable efforts -/

/-- The ledger holds in every reachable database. -/
theorem ledgered_of_reachable {db : Database} (reachable : store.Reachable db) (effortId : String) :
    (db.view effortId).Ledgered := by
  refine view_invariant ⟨fun _ => rfl, fun _ stored => by cases stored⟩ ?_ reachable effortId
  intro operation view after step sound _ ledgered
  exact step.ledgered sound ledgered

/-- The intent that the builder recorded for a piece of evidence: the last one in the event log of
its effort for its builder operation and its cycle. -/
def Database.builderIntent? (db : Database) (evidence : CandidateEvidence) :
    Option CandidateIntent :=
  ((db.view evidence.effortId).intents.filter fun intent =>
    intent.operationId == evidence.builderOperationId && intent.cycleId == evidence.cycleId).getLast?

/-- The last intent of a log is the one recorded for the evidence that it was built for. -/
theorem builderIntent?_of_builtFor {db : Database} {evidence : CandidateEvidence}
    {composition : CompositionEvidence}
    (built : (db.view evidence.effortId).BuiltFor composition evidence) :
    ∃ intent, db.builderIntent? evidence = some intent ∧
      evidence.classification = composition.candidateClassification intent.treeSha := by
  rcases built with ⟨intent, last, operation, cycle, classified⟩
  refine ⟨intent, ?_, classified⟩
  have split : ∃ earlier, (db.view evidence.effortId).intents = earlier ++ [intent] :=
    List.getLast?_eq_some_iff.mp last
  rcases split with ⟨earlier, split⟩
  have chosen : (intent.operationId == evidence.builderOperationId &&
      intent.cycleId == evidence.cycleId) = true := by
    rw [operation, cycle, beq_self_eq_true, beq_self_eq_true]
    rfl
  rw [Database.builderIntent?, split, List.filter_append, List.filter_singleton, chosen]
  exact List.getLast?_concat

/-- No semantic candidate goes forward without its approval: in every reachable database, an effort
whose state is past review has evidence for its candidate, and either the candidate is mechanical
and the composition is clean with the tree that the builder recorded, or the review of exactly this
attempt, cycle, target, source and candidate was approved. -/
theorem cleared_candidate_is_reviewed {db : Database} {candidateSha : String}
    (reachable : store.Reachable db) (stored : db.efforts.find? effortId = some effort)
    (cleared : effort.state.clearedCandidate? = some candidateSha) :
    ∃ evidence, db.evidence.find? effortId = some evidence ∧ evidence.candidateSha = candidateSha ∧
      ((evidence.classification = .mechanical ∧ ∃ intent,
          db.builderIntent? evidence = some intent ∧
          effort.composition = .clean intent.treeSha) ∨
        ∃ review ∈ db.reviews, review.effortId = effortId ∧ review.status = .approved ∧
          review.attemptId = effort.attemptId ∧ review.cycleId = evidence.cycleId ∧
          review.targetSha = effort.targetSha ∧ review.sourceSha = effort.sourceSha ∧
          review.candidateSha = candidateSha) := by
  have ledger := (ledgered_of_reachable reachable effortId).stored effort stored
  rcases ledger.reviewed candidateSha cleared with ⟨evidence, recorded, same, reviewed⟩
  refine ⟨evidence, recorded, same, ?_⟩
  rcases reviewed with mechanical | ⟨review, mem, approved⟩
  · left
    have owned : evidence.effortId = effortId := (db.view_keyed effortId).evidence evidence recorded
    have built := ledger.built evidence recorded
    rw [← owned] at built
    rcases builderIntent?_of_builtFor built with ⟨intent, last, classified⟩
    refine ⟨mechanical, intent, last, ?_⟩
    rw [mechanical] at classified
    exact CompositionEvidence.candidateClassification_eq_mechanical.mp classified.symm
  · right
    have stored_id : effort.id = effortId := Database.id_of_view_effort stored
    simp only [Database.isApprovedReview, Bool.and_eq_true, beq_iff_eq] at approved
    rcases approved with ⟨⟨⟨⟨⟨⟨owned, attempt⟩, cycle⟩, target⟩, source⟩, candidate⟩, status⟩
    exact ⟨review, (Database.mem_view_reviews.mp mem).1, owned.trans stored_id, status, attempt,
      cycle, target, source, candidate.trans same⟩

/-- A candidate of a conflicted composition that was approved, validated and released has the
approval. -/
theorem cleared_candidate_is_reviewed_released :
    let db := Sample.after (Sample.created (.conflicted Sample.digest) .direct ++ Sample.built 1 ++
      [Sample.decided 1 "approve" (.approve none)] ++ Sample.released)
    ∃ effort, db.efforts.find? "effort" = some effort ∧
      ∃ evidence, db.evidence.find? "effort" = some evidence ∧
        evidence.candidateSha = Sample.candidateSha ∧
        ((evidence.classification = .mechanical ∧ ∃ intent,
            db.builderIntent? evidence = some intent ∧
            effort.composition = .clean intent.treeSha) ∨
          ∃ review ∈ db.reviews, review.effortId = "effort" ∧ review.status = .approved ∧
            review.attemptId = effort.attemptId ∧ review.cycleId = evidence.cycleId ∧
            review.targetSha = effort.targetSha ∧ review.sourceSha = effort.sourceSha ∧
            review.candidateSha = Sample.candidateSha) := by
  intro db
  have shape : (db.efforts.find? "effort").map (fun row =>
      (row.state.name, row.state.clearedCandidate?)) =
        some (.landingUncertain, some Sample.candidateSha) := by decide +kernel
  rcases Option.map_eq_some_iff.mp shape with ⟨effort, stored, same⟩
  exact ⟨effort, stored,
    cleared_candidate_is_reviewed (Sample.reachable _) stored (Prod.mk.inj same).2⟩

end Iq
