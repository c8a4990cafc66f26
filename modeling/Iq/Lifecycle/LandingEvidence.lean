import Iq.Lifecycle.Attempts

/-!
# Validation evidence of a landing

The authority to land is in the state of an effort, the evidence that its candidate was validated
in its attempt. A recorded candidate starts without evidence, and evidence is recorded only for the
candidate under validation, so evidence that is there at the start of a landing is about the
landed candidate and was recorded after it was. What `begin_landing` does not check is that it is
there: it accepts an effort whose validation is still running, and one whose evidence was cleared
by a later invocation.
-/

namespace Iq

open Library Library.Transaction Database

/-! ## Phases of a candidate -/

/-- The candidate of a suspended state under validation or later. -/
def ResumeState.validates? : ResumeState → Option String
  | .validating value => some value.candidateSha
  | .landing value => some value.candidateSha
  | .landingUncertain value => some value.candidateSha
  | _ => none

/-- The candidate of a suspended landing. -/
def ResumeState.lands? : ResumeState → Option String
  | .landing value => some value.candidateSha
  | .landingUncertain value => some value.candidateSha
  | _ => none

/-- A suspended state has a candidate that waits for its validation. -/
def ResumeState.isUnvalidated : ResumeState → Bool
  | .candidateReady _ | .reviewRequired _ => true
  | _ => false

namespace IntegrationEffortState

/-- The candidate of a state under validation or later. -/
def validates? : IntegrationEffortState → Option String
  | .validating value => some value.candidateSha
  | .landing value => some value.candidateSha
  | .landingUncertain value => some value.candidateSha
  | .integrated value => some value.candidateSha
  | .infrastructureBlocked value | .providerBlocked value => value.resume.validates?
  | _ => none

/-- The candidate of a state that is landing or has landed, suspended or not. -/
def lands? : IntegrationEffortState → Option String
  | .landing value => some value.candidateSha
  | .landingUncertain value => some value.candidateSha
  | .integrated value => some value.candidateSha
  | .infrastructureBlocked value | .providerBlocked value => value.resume.lands?
  | _ => none

/-- A state has a candidate that waits for its validation, suspended or not. -/
def isUnvalidated : IntegrationEffortState → Bool
  | .candidateReady _ | .reviewRequired _ => true
  | .infrastructureBlocked value | .providerBlocked value => value.resume.isUnvalidated
  | _ => false

end IntegrationEffortState

/-- A suspended state validates what the state it restores does. -/
theorem ResumeState.validates?_restore (resume : ResumeState) :
    resume.restore.validates? = resume.validates? := by
  cases resume <;> rfl

/-- A suspended state lands what the state it restores does. -/
theorem ResumeState.lands?_restore (resume : ResumeState) :
    resume.restore.lands? = resume.lands? := by
  cases resume <;> rfl

/-- A suspended state is unvalidated when the state it restores is. -/
theorem ResumeState.isUnvalidated_restore (resume : ResumeState) :
    resume.restore.isUnvalidated = resume.isUnvalidated := by
  cases resume <;> rfl

variable {state : IntegrationEffortState} {candidateSha commit effortId attemptId : String}
  {db later : Database} {effort row : IntegrationEffort} {view before after : EffortView}
  {operation : Operation} {rejection : Option DefiniteLandingRejection} {failedCycles : Nat}

/-- What is landed is to be validated. -/
theorem IntegrationEffortState.validates?_of_lands? (lands : state.lands? = some candidateSha) :
    state.validates? = some candidateSha := by
  cases state with
  | infrastructureBlocked value | providerBlocked value =>
    rcases value with ⟨blocker, resume⟩
    cases resume <;> first | exact lands | cases lands
  | _ => first | exact lands | cases lands

/-- What is to be validated is not waived. -/
theorem IntegrationEffortState.isUnvalidated_of_validates?
    (validates : state.validates? = some candidateSha) : state.isUnvalidated = false := by
  cases state with
  | infrastructureBlocked value | providerBlocked value =>
    rcases value with ⟨blocker, resume⟩
    cases resume <;> first | rfl | cases validates
  | _ => first | rfl | cases validates

/-- A state that has no candidate in one of these phases. -/
theorem IntegrationEffortState.lands?_eq_none (free : state.validates? = none) :
    state.lands? = none := by
  cases lands : state.lands? with
  | none => rfl
  | some candidateSha => exact nomatch free.symm.trans (validates?_of_lands? lands)

/-! ## What a step does to the phase -/

/-- The operation that starts the landing of a candidate under validation. -/
def StartsLanding (operation : Operation) (effort : IntegrationEffort) (candidateSha : String) :
    Prop :=
  ∃ expectedTargetSha leaseId commandId signoff stamp validating,
    operation = .beginLanding effort.id expectedTargetSha leaseId commandId signoff stamp ∧
      effort.state = .validating validating ∧ validating.candidateSha = candidateSha

/-- Where the phase that a step leaves an effort in comes from. -/
structure FollowsPhase (operation : Operation) (view : EffortView) (row : IntegrationEffort) :
    Prop where
  validates : ∀ candidateSha, row.state.validates? = some candidateSha →
    ∃ effort, view.effort = some effort ∧ effort.attemptId = row.attemptId ∧
      (effort.state.validates? = some candidateSha ∨ effort.state.isUnvalidated = true)
  unvalidated : row.state.isUnvalidated = true →
    ∃ effort, view.effort = some effort ∧ effort.attemptId = row.attemptId ∧
      (effort.state.isUnvalidated = true ∨
        ∃ observation stamp, operation = .recordCandidate effort.id observation stamp)
  lands : ∀ candidateSha, row.state.lands? = some candidateSha →
    ∃ effort, view.effort = some effort ∧ effort.attemptId = row.attemptId ∧
      (effort.state.lands? = some candidateSha ∨ StartsLanding operation effort candidateSha)

/-- A state without a candidate in one of these phases follows any other. -/
theorem followsPhase_of_free (free : row.state.validates? = none)
    (validated : row.state.isUnvalidated = false) : FollowsPhase operation view row where
  validates _ validates := nomatch free.symm.trans validates
  unvalidated unvalidated := nomatch validated.symm.trans unvalidated
  lands _ lands :=
    nomatch (IntegrationEffortState.lands?_eq_none free).symm.trans lands

/-- A state with the phase of the state before it. -/
theorem followsPhase_of_same (stored : view.effort = some effort)
    (same : row.attemptId = effort.attemptId)
    (validates : row.state.validates? = effort.state.validates?)
    (unvalidated : row.state.isUnvalidated = effort.state.isUnvalidated)
    (lands : row.state.lands? = effort.state.lands?) : FollowsPhase operation view row where
  validates _ holds := ⟨effort, stored, same.symm, .inl (validates.symm.trans holds)⟩
  unvalidated holds := ⟨effort, stored, same.symm, .inl (unvalidated.symm.trans holds)⟩
  lands _ holds := ⟨effort, stored, same.symm, .inl (lands.symm.trans holds)⟩

/-- The row that a write leaves. -/
theorem Writes.row_eq (writes : Writes rejection before effort state failedCycles after)
    (stored : after.effort = some row) : row = { effort with state, failedCycles } :=
  Option.some_inj.mp (stored.symm.trans writes.effort)

/-- Writing a free state. -/
theorem Writes.followsPhase_free (writes : Writes rejection before effort state failedCycles after)
    (stored : after.effort = some row) (free : state.validates? = none)
    (validated : state.isUnvalidated = false) : FollowsPhase operation view row := by
  rw [writes.row_eq stored]
  exact followsPhase_of_free free validated

/-- The state after a failure asks for no validation. -/
theorem EffortView.failedState_free {cycleId eventId : String} {failure : CycleFailure}
    {count next : Nat} :
    (view.failedState cycleId failure count next eventId).validates? = none ∧
      (view.failedState cycleId failure count next eventId).isUnvalidated = false := by
  unfold EffortView.failedState
  split <;> exact ⟨rfl, rfl⟩

/-- The state of a built candidate validates nothing yet. -/
theorem CandidateBuilding.validates?_candidateState (building : CandidateBuilding)
    {reviewId : String} : (building.candidateState candidateSha reviewId).validates? = none := by
  unfold candidateState
  split <;> rfl

/-- The phase of a landing that completes. -/
theorem IntegrationEffortState.phase_of_landingCandidate?
    (landed : state.landingCandidate? = some candidateSha) :
    state.validates? = some candidateSha ∧ state.isUnvalidated = false ∧
      state.lands? = some candidateSha := by
  cases state <;> first | exact ⟨landed, rfl, landed⟩ | cases landed

/-- Every step follows the phase of the effort it changes. -/
theorem EffortStep.followsPhase (step : EffortStep operation view after)
    (stored : after.effort = some row) : FollowsPhase operation view row := by
  cases step with
  | create absent idle composed =>
    cases stored
    exact followsPhase_of_free rfl rfl
  | replace found waiting another composed =>
    cases stored
    exact followsPhase_of_free rfl rfl
  | surrenderCancelled found | acknowledgeCancelled found =>
    obtain rfl := Option.some_inj.mp (found.symm.trans stored)
    exact followsPhase_of_same found rfl rfl rfl rfl
  | deleteDebt =>
    exact followsPhase_of_same stored rfl rfl rfl rfl
  | prepare _ _ _ _ writes | surrender _ _ writes | started _ _ _ _ _ _ _ writes
  | result _ writes | resetBuild _ writes | requireGuidance _ _ _ writes | answer _ _ writes
  | retryLimit _ writes | moveTarget _ _ writes | requestChanges _ _ writes | cancel _ _ _ writes
  | markReplacement _ writes =>
    exact writes.followsPhase_free stored rfl rfl
  | accept _ _ writes =>
    exact writes.followsPhase_free stored rfl rfl
  | acknowledgeLaunching _ _ fails | acknowledgeRunning _ fails | reset _ fails =>
    exact fails.writes.followsPhase_free stored rfl rfl
  | consume _ writes | reject _ _ _ writes =>
    exact writes.followsPhase_free stored EffortView.failedState_free.1
      EffortView.failedState_free.2
  | recompose _ _ _ writes => exact writes.followsPhase_free stored rfl rfl
  | @record view after effort building observation stamp _ built same opened unopened writes =>
    have found : view.effort = some effort := writes.stored
    rw [writes.row_eq stored]
    refine ⟨fun candidateSha validates => ?_, fun _ => ?_, fun candidateSha lands => ?_⟩
    · rw [building.validates?_candidateState] at validates
      cases validates
    · exact ⟨effort, found, rfl, .inr ⟨observation, stamp, rfl⟩⟩
    · have validates := IntegrationEffortState.validates?_of_lands? lands
      rw [building.validates?_candidateState] at validates
      cases validates
  | startValidation ready writes =>
    rw [writes.row_eq stored]
    refine ⟨fun candidateSha _ => ⟨_, writes.stored, rfl, .inr ?_⟩, nofun, nofun⟩
    rw [ready]
    rfl
  | completeValidation validated writes =>
    rw [writes.row_eq stored]
    exact followsPhase_of_same writes.stored rfl (by rw [validated]; rfl) (by rw [validated]; rfl)
      (by rw [validated]; rfl)
  | blockInfrastructure captured writes | blockProvider captured writes =>
    rw [writes.row_eq stored]
    refine followsPhase_of_same writes.stored rfl ?_ ?_ ?_
    · rw [captured, ResumeState.validates?_restore]
      rfl
    · rw [captured, ResumeState.isUnvalidated_restore]
      rfl
    · rw [captured, ResumeState.lands?_restore]
      rfl
  | retry suspended writes =>
    rw [writes.row_eq stored]
    refine followsPhase_of_same writes.stored rfl ?_ ?_ ?_
    · rw [ResumeState.validates?_restore]
      rcases suspended with is_blocked | is_blocked <;> rw [is_blocked] <;> rfl
    · rw [ResumeState.isUnvalidated_restore]
      rcases suspended with is_blocked | is_blocked <;> rw [is_blocked] <;> rfl
    · rw [ResumeState.lands?_restore]
      rcases suspended with is_blocked | is_blocked <;> rw [is_blocked] <;> rfl
  | resumeProvider suspended writes =>
    rw [writes.row_eq stored]
    refine followsPhase_of_same writes.stored rfl ?_ ?_ ?_
    · rw [ResumeState.validates?_restore, suspended]
      rfl
    · rw [ResumeState.isUnvalidated_restore, suspended]
      rfl
    · rw [ResumeState.lands?_restore, suspended]
      rfl
  | beginLanding validated writes =>
    rw [writes.row_eq stored]
    refine ⟨fun candidateSha same => ⟨_, writes.stored, rfl, .inl ?_⟩, nofun,
      fun candidateSha same => ⟨_, writes.stored, rfl, .inr ?_⟩⟩
    · rw [validated]
      exact same
    · exact ⟨_, _, _, _, _, _, rfl, validated, Option.some_inj.mp same⟩
  | release prepared writes =>
    rw [writes.row_eq stored]
    exact followsPhase_of_same writes.stored rfl (by rw [prepared]; rfl) (by rw [prepared]; rfl)
      (by rw [prepared]; rfl)
  | integrate landed writes =>
    rw [writes.row_eq stored]
    rcases IntegrationEffortState.phase_of_landingCandidate? landed with
      ⟨validates, unvalidated, lands⟩
    exact followsPhase_of_same writes.stored rfl validates.symm unvalidated.symm lands.symm
  | approve decides decision writes =>
    rw [writes.row_eq stored]
    refine ⟨nofun, fun _ => ⟨_, writes.stored, rfl, .inl ?_⟩, nofun⟩
    rw [decides.waiting]
    rfl

/-! ## Evidence fits the phase -/

instance : OfAttempts fun db => db.validated attemptId = none where
  same db later same clear := by
    unfold validated
    rw [same]
    exact clear

/-- What a change of attempts does to the evidence of one. -/
theorem validated_of_updateAttempts {chosen : Attempt → Bool} {change : Attempt → Attempt}
    {kept : ∀ row, (change row).id = row.id} {changed : Nat}
    (commits : (updateAttempts chosen change kept).Commits db changed later) :
    later.validated attemptId = (db.attempts.find? attemptId).bind fun row =>
      (Table.rewrite chosen change row).validatedCommitSha := by
  rw [← (commits_write.mp commits).2]
  unfold validated
  rw [Table.find?_update, Option.bind_map]
  rfl

/-- A published candidate has no evidence. -/
theorem publishCandidate_clears {building : CandidateBuilding} {item : QueueItem}
    {observation : CandidateObservation} {stamp : Stamp} {done : Unit}
    (commits : (publishCandidate effort building item observation stamp).Commits db done later) :
    later.validated effort.attemptId = none := by
  rw [publishCandidate, commits_bind] at commits
  rcases commits with ⟨_, first, -, commits⟩
  rw [commits_lookup_bind] at commits
  rcases commits with ⟨attempt, found, commits⟩
  rw [commits_bind] at commits
  rcases commits with ⟨_, second, invalidated, commits⟩
  rw [commits_bind] at commits
  rcases commits with ⟨projected, third, updated, commits⟩
  rcases Option.filter_eq_some_iff.mp found with ⟨stored, owned⟩
  have same : second.attempts = first.attempts := by
    rw [← (commits_write.mp invalidated).2]
  let Clear (db : Database) : Prop := db.validated effort.attemptId = none
  have cleared : Clear third := by
    show third.validated effort.attemptId = none
    rw [validated_of_updateAttempts updated, same, stored, Option.bind_some,
      Table.rewrite_of_chosen]
    · rfl
    · rw [(Table.find?_eq_some.mp stored).2, owned]
      simp
  show Clear later
  refine Preserves.of_commits ?_ cleared commits
  iterate 2 refine preserves_bind (by simp) fun _ => ?_
  exact preserves_appendEvent

/-- A recorded candidate has no evidence. -/
theorem recordCandidate_clears {observation : CandidateObservation} {stamp : Stamp} {done : Unit}
    (stored : (db.view effortId).effort = some effort)
    (commits : (recordCandidate effortId observation stamp).Commits db done later) :
    later.validated effort.attemptId = none := by
  simp only [recordCandidate, effortObjectFormat, commits_requiredEffort_bind,
    commits_lookup_bind, commits_itemObjectFormat_bind, commits_ensure_bind, commits_expect_bind,
    commits_query_bind, commits_require_bind, commits_ite] at commits
  rcases commits with ⟨other, found, -, item, -, -, -, _, -, _, -, _, -, building, -, -, -, rest⟩
  have same : other = effort := Option.some_inj.mp (found.symm.trans stored)
  rcases rest with ⟨-, rest⟩ | ⟨-, rest⟩
  · rw [commits_bind] at rest
    rcases rest with ⟨_, middle, -, rest⟩
    rw [← same]
    exact publishCandidate_clears rest
  · rw [← same]
    exact publishCandidate_clears rest

namespace Database

/-- Two efforts of a linked database with one attempt are one. -/
theorem Linked.eq_of_attemptId {other : IntegrationEffort} (linked : db.Linked)
    (mem : effort ∈ db.efforts) (mem' : other ∈ db.efforts)
    (same : effort.attemptId = other.attemptId) : effort = other := by
  rcases (linked.owned effort mem).attempt with ⟨attempt, found, item, -⟩
  rcases (linked.owned other mem').attempt with ⟨attempt', found', item', -⟩
  rw [same, found'] at found
  have one : attempt' = attempt := Option.some_inj.mp found
  apply linked.distinct effort mem other mem'
  rw [← item, ← item', one]

/-- The evidence of every effort fits the phase of its candidate: there is none before the
validation, and later it is about the candidate. -/
structure EvidenceFits (db : Database) (effort : IntegrationEffort) : Prop where
  unvalidated : effort.state.isUnvalidated = true → db.validated effort.attemptId = none
  validated : ∀ candidateSha commit, effort.state.validates? = some candidateSha →
    db.validated effort.attemptId = some commit → commit = candidateSha

end Database

/-- An effort that runs the validation of a commit has it under validation. -/
theorem validates?_of_isRunningValidation
    (running : isRunningValidation attemptId commit effort = true) :
    effort.attemptId = attemptId ∧ effort.state.validates? = some commit := by
  unfold isRunningValidation at running
  rw [Bool.and_eq_true, beq_iff_eq] at running
  refine ⟨running.1, ?_⟩
  cases same : effort.state with
  | validating value =>
    simp only [same, Bool.and_eq_true, beq_iff_eq] at running
    exact congrArg some running.2.2
  | _ => simp [same] at running

/-- A committed operation adds no evidence to an attempt but for the effort that runs its
validation. -/
theorem Operation.validated_of_commits {outcome : Outcome} (linked : db.Linked)
    (mem : effort ∈ db.efforts) (commits : operation.transaction.Commits db outcome later)
    (validated : later.validated effort.attemptId = some commit) :
    db.validated effort.attemptId = some commit ∨
      (operation.Records effort.attemptId commit ∧ effort.state.validates? = some commit) := by
  by_cases before : db.validated effort.attemptId = some commit
  · exact .inl before
  · rcases Operation.running_of_validated commits before validated with ⟨records, other, mem', running⟩
    rcases validates?_of_isRunningValidation running with ⟨same, validates⟩
    rw [linked.eq_of_attemptId mem' mem same] at validates
    exact .inr ⟨records, validates⟩

/-- An operation that changes an effort records no evidence. -/
theorem EffortStep.not_records (step : EffortStep operation view after) :
    ¬operation.Records attemptId commit := by
  cases step <;> exact id

/-- Every committed operation keeps the evidence of every effort fitting its phase. -/
theorem Operation.fits {outcome : Outcome} (linked : db.Linked) (sound : db.Sound)
    (fits : ∀ effort ∈ db.efforts, db.EvidenceFits effort)
    (commits : operation.transaction.Commits db outcome later) (mem : row ∈ later.efforts) :
    later.EvidenceFits row := by
  have found : (later.view row.id).effort = some row := view_effort_eq_some.mpr ⟨mem, rfl⟩
  rcases operation.stepped sound commits row.id with same | step
  · rw [same] at found
    have stored : row ∈ db.efforts := (view_effort_eq_some.mp found).1
    constructor
    · intro unvalidated
      cases recorded : later.validated row.attemptId with
      | none => rfl
      | some commit =>
        rcases Operation.validated_of_commits linked stored commits recorded with before | running
        · exact nomatch ((fits row stored).unvalidated unvalidated).symm.trans before
        · rw [IntegrationEffortState.isUnvalidated_of_validates? running.2] at unvalidated
          cases unvalidated
    · intro candidateSha commit validates recorded
      rcases Operation.validated_of_commits linked stored commits recorded with before | running
      · exact (fits row stored).validated candidateSha commit validates before
      · exact Option.some_inj.mp (running.2.symm.trans validates)
  · have follows := step.followsPhase found
    have kept : ∀ effort, (db.view row.id).effort = some effort → ∀ commit,
        later.validated effort.attemptId = some commit →
        db.validated effort.attemptId = some commit := by
      intro effort stored commit recorded
      rcases Operation.validated_of_commits linked (view_effort_eq_some.mp stored).1 commits
        recorded with before | running
      · exact before
      · exact absurd running.1 step.not_records
    constructor
    · intro unvalidated
      rcases follows.unvalidated unvalidated with ⟨effort, stored, same, was | ⟨_, _, rfl⟩⟩
      · have clear := (fits effort (view_effort_eq_some.mp stored).1).unvalidated was
        rw [← same]
        cases recorded : later.validated effort.attemptId with
        | none => rfl
        | some commit => exact nomatch clear.symm.trans (kept effort stored commit recorded)
      · rw [← same]
        rw [id_of_view_effort stored] at commits
        rcases commits_map.mp commits with ⟨done, commits, -⟩
        exact recordCandidate_clears stored commits
    · intro candidateSha commit validates recorded
      rcases follows.validates candidateSha validates with ⟨effort, stored, same, was⟩
      rw [← same] at recorded
      have before := kept effort stored commit recorded
      have fit := fits effort (view_effort_eq_some.mp stored).1
      rcases was with was | was
      · exact fit.validated candidateSha commit was before
      · exact nomatch (fit.unvalidated was).symm.trans before

/-- In every reachable database the evidence of every effort fits its phase. -/
theorem fits_of_reachable (reachable : store.Reachable db) :
    ∀ effort ∈ db.efforts, db.EvidenceFits effort := by
  have rule := @Machine.Reachable.invariant_of_reachable _ _ store
    fun now => ∀ effort ∈ now.efforts, now.EvidenceFits effort
  refine rule ?_ ?_ reachable
  · intro start initial effort mem
    rw [initial.efforts] at mem
    exact absurd mem (Table.not_mem_empty effort)
  · intro now operation reached fits
    rcases settle_cases operation.transaction now with same | ⟨outcome, commits⟩
    · rw [store_step, same]
      exact fits
    · intro row mem
      exact Operation.fits (linked_of_reachable reached) (sound_of_reachable reached) fits commits
        mem

/-! ## Landings over runs -/

namespace Database

/-- An effort is landing, or has landed, a candidate of an attempt. -/
def Lands (effortId attemptId candidateSha : String) (db : Database) : Prop :=
  ∃ effort, db.efforts.find? effortId = some effort ∧ effort.attemptId = attemptId ∧
    effort.state.lands? = some candidateSha

/-- An effort has a candidate under validation or later, and evidence for it. -/
def Validates (effortId attemptId candidateSha : String) (db : Database) : Prop :=
  ∃ effort, db.efforts.find? effortId = some effort ∧ effort.attemptId = attemptId ∧
    effort.state.validates? = some candidateSha ∧ db.validated attemptId = some candidateSha

end Database

/-- An operation that commits in a database. -/
def Operation.CommitsIn (operation : Operation) (db : Database) : Prop :=
  ∃ outcome later, operation.transaction.Commits db outcome later

/-- The operations that change the candidate or the target of an effort. -/
def Operation.Recomposes (effortId : String) : Operation → Prop
  | .recordCandidate id _ _ => id = effortId
  | .completeTargetRecomposition id _ _ _ => id = effortId
  | _ => False

/-- The evidence of a candidate was recorded in a run, has stood ever since, and the effort was
not given another candidate or target after it. -/
def EvidenceIsCurrent (start : Database) (effortId attemptId candidateSha : String)
    (operations : List Operation) : Prop :=
  ∃ earlier record since, operations = earlier ++ record :: since ∧
    record.Records attemptId candidateSha ∧ record.CommitsIn (store.run start earlier) ∧
    (∀ middle rest, since = middle ++ rest →
      (store.run start (earlier ++ record :: middle)).Validates effortId attemptId candidateSha) ∧
    ∀ middle operation rest, since = middle ++ operation :: rest →
      operation.Recomposes effortId →
      ¬operation.CommitsIn (store.run start (earlier ++ record :: middle))

/-- A step that starts the landing of a candidate from the gates stage of its validation, with
evidence that is current. -/
def StartsValidated (start : Database) (effortId attemptId candidateSha : String)
    (before : List Operation) (operation : Operation) : Prop :=
  ∃ effort validating, (store.run start before).efforts.find? effortId = some effort ∧
    effort.attemptId = attemptId ∧ StartsLanding operation effort candidateSha ∧
    operation.CommitsIn (store.run start before) ∧
    effort.state = .validating validating ∧ validating.stage = .gates ∧
    (store.run start before).validated attemptId = some candidateSha ∧
    EvidenceIsCurrent start effortId attemptId candidateSha before

/-- Every landing that a run enters was started validated. -/
def LandsValidated (start : Database) (operations : List Operation) : Prop :=
  ∀ earlier rest, operations = earlier ++ rest → ∀ effortId attemptId candidateSha,
    (store.run start earlier).Lands effortId attemptId candidateSha →
    store.Since start (StartsValidated start effortId attemptId candidateSha)
      (Lands effortId attemptId candidateSha) earlier

/-- A landing that commits while the validation runs or without evidence. -/
def StartsUnvalidated (db : Database) (operation : Operation) : Prop :=
  operation.CommitsIn db ∧ ∃ effort validating candidateSha,
    db.efforts.find? effort.id = some effort ∧ StartsLanding operation effort candidateSha ∧
    effort.state = .validating validating ∧
    ¬(validating.stage = .gates ∧ (db.validated effort.attemptId).isSome = true)

variable {start : Database} {operations : List Operation}

/-- An effort with a candidate under validation takes no other candidate or target. -/
theorem Database.Validates.not_recomposes (validates : db.Validates effortId attemptId candidateSha)
    (recomposes : operation.Recomposes effortId) : ¬operation.CommitsIn db := by
  rintro ⟨outcome, later, commits⟩
  rcases validates with ⟨effort, stored, -, phase, -⟩
  cases operation with
  | recordCandidate id observation stamp =>
    obtain rfl : id = effortId := recomposes
    simp only [Operation.transaction, commits_map, Iq.recordCandidate, effortObjectFormat,
      commits_requiredEffort_bind, commits_lookup_bind, commits_itemObjectFormat_bind,
      commits_ensure_bind, commits_expect_bind,
      IntegrationEffortState.candidateBuilding?_eq_some] at commits
    rcases commits with ⟨_, ⟨other, found, -, _, -, _, -, _, -, _, -, _, -, building, built, -⟩, -⟩
    obtain rfl : other = effort := Option.some_inj.mp (found.symm.trans stored)
    rw [built] at phase
    cases phase
  | completeTargetRecomposition id targetSha composition stamp =>
    obtain rfl : id = effortId := recomposes
    simp only [Operation.transaction, commits_map, Iq.completeTargetRecomposition,
      effortObjectFormat, commits_requiredEffort_bind, commits_itemObjectFormat_bind,
      commits_ensure_bind, commits_expect_bind,
      IntegrationEffortState.targetMovePending?_eq_some] at commits
    rcases commits with ⟨_, ⟨other, found, -, _, -, _, -, _, -, pending, moving, -⟩, -⟩
    obtain rfl : other = effort := Option.some_inj.mp (found.symm.trans stored)
    rw [moving] at phase
    cases phase
  | _ => exact recomposes

/-- A step leaves an effort with evidence for its candidate only where it had it, or by recording
it. -/
theorem validates_of_step (reachable : store.Reachable db)
    (validates : (store.step db operation).Validates effortId attemptId candidateSha) :
    db.Validates effortId attemptId candidateSha ∨
      (operation.Records attemptId candidateSha ∧ operation.CommitsIn db) := by
  rcases settle_cases operation.transaction db with same | ⟨outcome, commits⟩
  · rw [store_step, same] at validates
    exact .inl validates
  · rw [← store_step] at commits
    have linked := linked_of_reachable reachable
    rcases validates with ⟨row, found, attempt, phase, recorded⟩
    rcases operation.stepped (sound_of_reachable reachable) commits effortId with same | step
    · have stored : (db.view effortId).effort = some row := by
        rw [← same]
        exact found
      rw [← attempt] at recorded
      rcases Operation.validated_of_commits linked (view_effort_eq_some.mp stored).1 commits
        recorded with before | running
      · exact .inl ⟨row, stored, attempt, phase, by rw [← attempt]; exact before⟩
      · rw [← attempt]
        exact .inr ⟨running.1, outcome, _, commits⟩
    · rcases (step.followsPhase found).validates candidateSha phase with
        ⟨effort, stored, same, was⟩
      have mem := (view_effort_eq_some.mp stored).1
      rw [← attempt, ← same] at recorded
      rcases Operation.validated_of_commits linked mem commits recorded with before | running
      · rcases was with was | was
        · refine .inl ⟨effort, stored, same.trans attempt, was, ?_⟩
          rw [← attempt, ← same]
          exact before
        · have clear := (fits_of_reachable reachable effort mem).unvalidated was
          exact nomatch clear.symm.trans before
      · exact absurd running.1 step.not_records

/-- Evidence that an effort has for its candidate is current. -/
theorem evidenceIsCurrent_of_validates (initial : start.Initial)
    (validates : (store.run start operations).Validates effortId attemptId candidateSha) :
    EvidenceIsCurrent start effortId attemptId candidateSha operations := by
  have never : ¬start.Validates effortId attemptId candidateSha := by
    rintro ⟨effort, found, -⟩
    rw [initial.efforts] at found
    cases found
  have since := @Machine.since_of_run _ _ store start
    (fun earlier record => record.Records attemptId candidateSha ∧
      record.CommitsIn (store.run start earlier))
    (Validates effortId attemptId candidateSha) never operations ?_ validates
  · rcases since with ⟨earlier, record, since, rfl, ⟨records, commits⟩, held⟩
    refine ⟨earlier, record, since, rfl, records, commits, held, ?_⟩
    rintro middle operation rest rfl recomposes
    exact (held middle (operation :: rest) rfl).not_recomposes recomposes
  · intro earlier record _ _ validates
    rw [Machine.run_append] at validates
    exact validates_of_step ⟨start, earlier, initial, rfl⟩ validates

/-- A step leaves an effort landing only where it was, or by starting the landing. -/
theorem lands_of_step (reachable : store.Reachable db)
    (lands : (store.step db operation).Lands effortId attemptId candidateSha) :
    db.Lands effortId attemptId candidateSha ∨ (operation.CommitsIn db ∧
      ∃ effort, db.efforts.find? effortId = some effort ∧ effort.attemptId = attemptId ∧
        StartsLanding operation effort candidateSha) := by
  rcases settle_cases operation.transaction db with same | ⟨outcome, commits⟩
  · rw [store_step, same] at lands
    exact .inl lands
  · rw [← store_step] at commits
    rcases lands with ⟨row, found, attempt, phase⟩
    rcases operation.stepped (sound_of_reachable reachable) commits effortId with same | step
    · refine .inl ⟨row, ?_, attempt, phase⟩
      show (db.view effortId).effort = some row
      rw [← same]
      exact found
    · rcases (step.followsPhase found).lands candidateSha phase with
        ⟨effort, stored, same, was | starts⟩
      · exact .inl ⟨effort, stored, same.trans attempt, was⟩
      · exact .inr ⟨⟨outcome, _, commits⟩, effort, stored, same.trans attempt, starts⟩

/-- An effort whose landing starts is not landing yet. -/
theorem StartsLanding.not_lands (starts : StartsLanding operation effort candidateSha)
    (stored : db.efforts.find? effortId = some effort) :
    ¬db.Lands effortId attemptId candidateSha := by
  rintro ⟨other, found, -, phase⟩
  obtain rfl : other = effort := Option.some_inj.mp (found.symm.trans stored)
  rcases starts with ⟨_, _, _, _, _, validating, -, validated, -⟩
  rw [validated] at phase
  cases phase

/-- A committed start leaves its effort landing. -/
theorem StartsLanding.lands (starts : StartsLanding operation effort candidateSha)
    (stored : db.efforts.find? effort.id = some effort) (commits : operation.CommitsIn db) :
    (store.step db operation).Lands effort.id effort.attemptId candidateSha := by
  rcases commits with ⟨outcome, later, commits⟩
  have stepped : store.step db operation = later := by
    rw [store_step]
    exact settle_of_commits commits
  rcases starts with ⟨target, lease, command, signoff, stamp, validating, rfl, validated, rfl⟩
  simp only [Operation.transaction, commits_map, Iq.beginLanding, effortObjectFormat,
    commits_ensure_bind, commits_requiredEffort_bind, commits_itemObjectFormat_bind,
    commits_expect_bind, commits_require_bind,
    IntegrationEffortState.validating?_eq_some] at commits
  rcases commits with ⟨_, ⟨_, -, _, -, other, found, -, _, -, _, -, value, running, -, -, -, rest⟩,
    -⟩
  obtain rfl : other = effort := Option.some_inj.mp (found.symm.trans stored)
  obtain rfl : value = validating :=
    IntegrationEffortState.validating.inj (running.symm.trans validated)
  rcases writes_then_event rest found (by simp) with ⟨-, writes⟩
  rw [stepped]
  exact ⟨_, writes.effort, rfl, rfl⟩

/-- Every landing of a run is started from the gates stage of the validation of its candidate, with
evidence recorded after the last candidate and target of the effort and standing since, exactly
when no landing of the run commits while the validation runs or while the attempt has no validated
commit. -/
theorem landsValidated_iff (initial : start.Initial) (operations : List Operation) :
    LandsValidated start operations ↔
      ∀ earlier operation rest, operations = earlier ++ operation :: rest →
        ¬StartsUnvalidated (store.run start earlier) operation := by
  constructor
  · rintro validated earlier operation rest rfl
      ⟨commits, effort, validating, candidateSha, stored, starts, running, unvalidated⟩
    have lands := starts.lands stored commits
    have split : earlier ++ operation :: rest = (earlier ++ [operation]) ++ rest := by simp
    have since := validated _ rest split effort.id effort.attemptId candidateSha
      (by rw [Machine.run_append]; exact lands)
    rcases since.last (starts.not_lands stored) with
      ⟨other, value, found, -, -, -, is_validating, gates, recorded, -⟩
    obtain rfl : other = effort := Option.some_inj.mp (found.symm.trans stored)
    obtain rfl : value = validating :=
      IntegrationEffortState.validating.inj (is_validating.symm.trans running)
    exact unvalidated ⟨gates, by rw [recorded]; rfl⟩
  · rintro allowed earlier rest rfl effortId attemptId candidateSha lands
    have never : ¬start.Lands effortId attemptId candidateSha := by
      rintro ⟨effort, found, -⟩
      rw [initial.efforts] at found
      cases found
    refine Machine.since_of_run never (fun before operation after split lands => ?_) lands
    have reachable : store.Reachable (store.run start before) := ⟨start, before, initial, rfl⟩
    rw [Machine.run_append] at lands
    rcases lands_of_step reachable lands with was | ⟨commits, effort, stored, rfl, starts⟩
    · exact .inl was
    · have named : effort.id = effortId := (Table.find?_eq_some.mp stored).2
      rcases starts with ⟨target, lease, command, signoff, stamp, validating, same, running, rfl⟩
      have started : StartsLanding operation effort validating.candidateSha :=
        ⟨target, lease, command, signoff, stamp, validating, same, running, rfl⟩
      have checked : validating.stage = .gates ∧
          ((store.run start before).validated effort.attemptId).isSome = true := by
        by_contra unchecked
        refine allowed before operation (after ++ rest) (by simp [split]) ⟨commits, effort,
          validating, _, ?_, started, running, unchecked⟩
        rw [named]
        exact stored
      rcases Option.isSome_iff_exists.mp checked.2 with ⟨commit, recorded⟩
      have phase : effort.state.validates? = some validating.candidateSha := by
        rw [running]
        rfl
      have fit := fits_of_reachable reachable effort (Table.find?_eq_some.mp stored).1
      have same := fit.validated _ _ phase recorded
      rw [same] at recorded
      refine .inr ⟨effort, validating, stored, rfl, started, commits, running, checked.1, recorded,
        ?_⟩
      exact evidenceIsCurrent_of_validates initial ⟨effort, stored, rfl, phase, recorded⟩

/-- The operation starts a landing. -/
def Operation.startsLanding : Operation → Bool
  | .beginLanding _ _ _ _ _ _ => true
  | _ => false

namespace Sample

/-- The effort up to its candidate. -/
def candidate : List Operation := created (.clean treeSha) .direct ++ built 1

/-- The landing of the candidate. -/
def landing : Operation :=
  .beginLanding "effort" targetSha "lease" "command" (.noValidation digest) (stampOf "prepared")

/-- The candidate with its validation started, and completed up to the gates. -/
def validating : List Operation :=
  candidate ++ [.startValidation "effort" digest (stampOf "validate")]

/-- The validation completed up to the gates. -/
def gated : List Operation :=
  validating ++ [
    .acceptCandidateWithoutValidation "item" "attempt" targetSha Sample.candidateSha .validating,
    .completeValidation "effort" Sample.candidateSha (stampOf "validated")]

/-- What a landing finds: the stage of the validation and whether there is evidence. -/
def found (db : Database) : Option (Option ValidationStage × Bool) :=
  (db.efforts.find? "effort").map fun effort =>
    (effort.state.validating?.map Validating.stage, (db.validated effort.attemptId).isSome)

/-- What the sample finds is what its database holds. -/
theorem checked_of_found {effort : IntegrationEffort} {value : Validating}
    {stage : ValidationStage} {evidence : Bool} (stored : db.efforts.find? "effort" = some effort)
    (running : effort.state = .validating value) (shape : found db = some (some stage, evidence)) :
    value.stage = stage ∧ (db.validated effort.attemptId).isSome = evidence := by
  unfold found at shape
  rw [stored, Option.map_some, running] at shape
  cases shape
  exact ⟨rfl, rfl⟩

/-- The candidate that the effort lands. -/
def lands (db : Database) : Option (String × Option String) :=
  (db.efforts.find? "effort").map fun effort => (effort.attemptId, effort.state.lands?)

/-- A landing that finds no gates or no evidence is not validated. -/
theorem not_landsValidated {operations : List Operation} {operation : Operation}
    (unchecked : ∃ stage evidence, found (store.run database operations) =
      some (some stage, evidence) ∧ (stage, evidence) ≠ (.gates, true))
    (landed : lands (store.run database (operations ++ [operation])) =
      some ("attempt", some Sample.candidateSha)) :
    ¬LandsValidated database (operations ++ [operation]) := by
  intro validated
  rcases unchecked with ⟨stage, evidence, shape, wrong⟩
  rcases Option.map_eq_some_iff.mp landed with ⟨after, stored, same⟩
  rcases Prod.mk.inj same with ⟨attempt, lands⟩
  have since := validated _ [] (by simp) "effort" "attempt" Sample.candidateSha
    ⟨after, stored, attempt, lands⟩
  have new : ¬(store.run database operations).Lands "effort" "attempt" Sample.candidateSha := by
    rintro ⟨effort, stored, -, phase⟩
    rw [found, stored, Option.map_some] at shape
    cases state : effort.state with
    | validating value =>
      rw [state] at phase
      cases phase
    | _ =>
      rw [state] at shape
      cases shape
  rcases since.last new with ⟨effort, value, stored, attempt, -, -, running, gates, recorded, -⟩
  rcases checked_of_found stored running shape with ⟨rfl, rfl⟩
  rw [attempt, recorded, gates] at wrong
  exact wrong rfl

end Sample

/-- A landing after the gates of a sample run is validated. -/
theorem landsValidated_iff_gated :
    LandsValidated Sample.database (Sample.gated ++ [Sample.landing]) := by
  apply (landsValidated_iff Sample.database_initial _).mpr
  rintro earlier operation rest split ⟨-, effort, value, _, stored, starts, running, unchecked⟩
  rcases starts with ⟨target, lease, command, signoff, stamp, _, rfl, -, -⟩
  have others : ∀ other ∈ Sample.gated, other.startsLanding = false := by decide +kernel
  have last : earlier = Sample.gated ∧ effort.id = "effort" := by
    rcases List.append_eq_append_iff.mp split with
      ⟨between, same, tail⟩ | ⟨between, same, tail⟩
    · rcases List.append_eq_singleton_iff.mp tail.symm with ⟨rfl, head⟩ | ⟨-, none⟩
      · have named := (Operation.beginLanding.inj (List.cons.inj head).1).1
        exact ⟨by simpa using same, named⟩
      · cases none
    · cases between with
      | nil =>
        have named := (Operation.beginLanding.inj (List.cons.inj tail).1).1
        exact ⟨by simpa using same.symm, named⟩
      | cons first between =>
        have stored := others first (by rw [same]; simp)
        rw [← (List.cons.inj tail).1] at stored
        cases stored
  rw [last.1] at stored unchecked
  rw [last.2] at stored
  have shape : Sample.found (store.run Sample.database Sample.gated) = some (some .gates, true) := by
    decide +kernel
  exact unchecked (Sample.checked_of_found stored running shape)

/-- A landing commits while the validation of its candidate is still running, and after an
invocation that cleared its evidence. -/
theorem landing_without_evidence :
    ¬LandsValidated Sample.database (Sample.validating ++ [Sample.landing]) ∧
      ¬LandsValidated Sample.database (Sample.gated ++
        [.recordAttemptValidation "attempt" ⟨"check", 1, "log", Sample.candidateSha⟩] ++
        [Sample.landing]) := by
  constructor
  · apply Sample.not_landsValidated
    · exact ⟨.running, false, by decide +kernel, by decide⟩
    · decide +kernel
  · apply Sample.not_landsValidated
    · exact ⟨.gates, false, by decide +kernel, by decide⟩
    · decide +kernel

end Iq
