import Iq.Provider.Integration

/-!
# The gates of an integration

Every call of an integration belongs to a stage: before the first gate, between the gates, or after
both. A call between the gates is made after a first snapshot whose gate passed, and one after both
gates when exactly two snapshots were taken and the gates of both passed, whatever the calls answer.
-/

namespace Iq

open Library
open Library.Program (ask raise Journal Respects Guarded respects_ask respects_bind respects_pure
  respects_raise)
open IntegrationRun

/-! ## Stages -/

/-- Where a call of the integration stands. -/
inductive IntegrationStage where
  | admission
  | signoff
  | landing
  deriving DecidableEq, Repr

/-- The stage of a call. -/
def IntegrationCall.stage : IntegrationCall → IntegrationStage
  | .getAttempt | .loadOwnedWorkspace | .mergeMovedBase _ _ _ | .revalidateMovedBase _ _ _
  | .cancelledItem | .workspaceHead _ | .verifyCandidateGraph _ | .requiresTrustedPolicy
  | .requireExactPolicySignoff _ _ | .signCandidate _ _ _ | .recordEvent _ _ => .signoff
  | .atomicLandingUnsupported _ => .landing
  | _ => .admission

/-- The snapshot that a call has given. -/
def snapshotOf : Sigma IntegrationCall.Answer → Option ProviderSnapshot
  | ⟨.snapshot, .ok taken⟩ => some taken
  | _ => none

/-- The snapshots that an integration has taken. -/
def snapshotsOf (log : Journal IntegrationCall.Answer) : List ProviderSnapshot :=
  log.filterMap snapshotOf

/-- The snapshots that admit a stage. -/
def IntegrationStage.Admits : IntegrationStage → List ProviderSnapshot → Prop
  | .admission, _ => True
  | .signoff, snapshots => ∃ first rest, snapshots = first :: rest ∧ first.gate = .pass
  | .landing, snapshots =>
    ∃ first second, snapshots = [first, second] ∧ first.gate = .pass ∧ second.gate = .pass

/-- The snapshots taken so far admit a call. -/
def Gated (log : Journal IntegrationCall.Answer) (call : IntegrationCall) : Prop :=
  call.stage.Admits (snapshotsOf log)

variable {log : Journal IntegrationCall.Answer} {first second : ProviderSnapshot}
  {item : ProviderItem} {targetRef : TargetRef} {provider : Provider}
  {hostSignoff : Option SignoffPolicy} {workspace : String} {next : IntegrationRun QueueItem}

/-! ## Single calls -/

/-- The snapshots of a longer log. -/
theorem snapshotsOf_append {entry : Sigma IntegrationCall.Answer} :
    snapshotsOf (log ++ [entry]) = snapshotsOf log ++ (snapshotOf entry).toList := by
  unfold snapshotsOf
  rw [List.filterMap_append]
  cases taken : snapshotOf entry <;> simp [taken]

/-- Another call takes no snapshot. -/
theorem snapshotOf_of_ne {call : IntegrationCall} (other : call ≠ .snapshot)
    (reply : call.Answer) : snapshotOf ⟨call, reply⟩ = none := by
  cases call with
  | snapshot => exact absurd rfl other
  | _ => rfl

section Rules

variable {α β : Type} {snapshots : List ProviderSnapshot} {call : IntegrationCall}

/-- From a journal with the given snapshots, the program performs gated calls only. -/
def GatedFrom (snapshots : List ProviderSnapshot) (program : IntegrationRun α) : Prop :=
  ∀ log, snapshotsOf log = snapshots → Respects Gated program log fun _ _ => True

/-- A program that performs gated calls only and takes no snapshot. -/
def GatedWithin (snapshots : List ProviderSnapshot) (program : IntegrationRun α) : Prop :=
  ∀ log, snapshotsOf log = snapshots →
    Respects Gated program log fun _ later => snapshotsOf later = snapshots

/-- What is gated by the snapshots so far is gated from them on. -/
theorem GatedWithin.gatedFrom {program : IntegrationRun α}
    (within : GatedWithin snapshots program) : GatedFrom snapshots program :=
  fun log taken => (within log taken).mono fun _ _ _ => trivial

/-- A settled result calls nothing. -/
theorem gatedWithin_settle {result : Except CallError α} :
    GatedWithin snapshots (settle result) := by
  intro log taken
  cases result with
  | ok value => exact respects_pure taken
  | error error => exact respects_raise

/-- A sequence is gated by the same snapshots. -/
theorem GatedWithin.bind {program : IntegrationRun α} {rest : α → IntegrationRun β}
    (within : GatedWithin snapshots program)
    (after : ∀ value, GatedWithin snapshots (rest value)) :
    GatedWithin snapshots (program >>= rest) :=
  fun log taken => respects_bind _ (within log taken) fun value later same =>
    after value later same

/-- What follows calls without a snapshot is gated from the same ones. -/
theorem GatedWithin.gatedFrom_bind {program : IntegrationRun α} {rest : α → IntegrationRun β}
    (within : GatedWithin snapshots program) (after : ∀ value, GatedFrom snapshots (rest value)) :
    GatedFrom snapshots (program >>= rest) :=
  fun log taken => respects_bind _ (within log taken) fun value later same =>
    after value later same

/-- A call other than a snapshot leaves the snapshots. -/
theorem gatedWithin_ask (other : call ≠ .snapshot) (admits : call.stage.Admits snapshots) :
    GatedWithin snapshots (ask call : IntegrationRun call.Answer) := by
  intro log taken
  have allowed : Gated log call := by
    unfold Gated
    rw [taken]
    exact admits
  refine respects_ask allowed fun reply => ?_
  rw [snapshotsOf_append, snapshotOf_of_ne other reply, taken]
  exact List.append_nil _

/-- A call that the snapshots admit is gated. -/
theorem gatedWithin_invoke (other : call ≠ .snapshot) (admits : call.stage.Admits snapshots) :
    GatedWithin snapshots (invoke call) :=
  (gatedWithin_ask other admits).bind fun _ => gatedWithin_settle

/-- A call whose answer the program looks at. -/
theorem gatedFrom_ask_bind {rest : call.Answer → IntegrationRun α} (other : call ≠ .snapshot)
    (admits : call.stage.Admits snapshots) (after : ∀ reply, GatedFrom snapshots (rest reply)) :
    GatedFrom snapshots (ask call >>= rest) :=
  (gatedWithin_ask other admits).gatedFrom_bind after

/-- A call whose error ends the run. -/
theorem gatedFrom_invoke_bind {rest : call.Value → IntegrationRun α} (other : call ≠ .snapshot)
    (admits : call.stage.Admits snapshots) (after : ∀ value, GatedFrom snapshots (rest value)) :
    GatedFrom snapshots (invoke call >>= rest) :=
  (gatedWithin_invoke other admits).gatedFrom_bind after

/-- A call in the place of a return. -/
theorem gatedFrom_invoke (other : call ≠ .snapshot) (admits : call.stage.Admits snapshots) :
    GatedFrom snapshots (invoke call) :=
  (gatedWithin_invoke other admits).gatedFrom

/-- An error calls nothing. -/
theorem gatedFrom_bail {message : String} :
    GatedFrom snapshots (bail message : IntegrationRun α) := fun _ _ => respects_raise

/-- A snapshot is added to the snapshots when it is taken. -/
theorem gatedFrom_snapshot {rest : IntegrationCall.snapshot.Answer → IntegrationRun α}
    (taken : ∀ snapshot, GatedFrom (snapshots ++ [snapshot]) (rest (.ok snapshot)))
    (failed : ∀ error, GatedFrom snapshots (rest (.error error))) :
    GatedFrom snapshots (ask .snapshot >>= rest) := by
  intro log before
  refine respects_bind (fun reply later =>
    snapshotsOf later = snapshots ++ (snapshotOf ⟨.snapshot, reply⟩).toList) ?_ ?_
  · refine respects_ask trivial fun reply => ?_
    rw [snapshotsOf_append, before]
  · intro reply later same
    cases reply with
    | ok snapshot => exact taken snapshot later same
    | error error => exact failed error later (same.trans (List.append_nil _))

/-- What is found early is returned, and the rest goes on. -/
theorem gatedFrom_returning {found : IntegrationRun (Option QueueItem)}
    (within : GatedWithin snapshots found) (after : GatedFrom snapshots next) :
    GatedFrom snapshots (returning found next) := by
  refine within.gatedFrom_bind fun value => ?_
  cases value with
  | some item => exact fun _ _ => respects_pure trivial
  | none => exact after

/-- A choice is gated in both branches. -/
theorem gatedFrom_ite {condition : Prop} [Decidable condition] {yes no : IntegrationRun α}
    (first : GatedFrom snapshots yes) (second : GatedFrom snapshots no) :
    GatedFrom snapshots (if condition then yes else no) := by
  by_cases holds : condition
  · rw [if_pos holds]
    exact first
  · rw [if_neg holds]
    exact second

/-- A call before the first gate is never refused. -/
theorem gatedFrom_block (early : call.stage = .admission) (other : call ≠ .snapshot) :
    GatedFrom snapshots (invoke call) := by
  refine gatedFrom_invoke other ?_
  rw [early]
  trivial

/-- What follows a gate may rely on its pass. -/
theorem gatedFrom_passGate (passed : first.gate = .pass → GatedFrom snapshots next) :
    GatedFrom snapshots (passGate first next) := by
  unfold passGate
  cases verdict : first.gate with
  | pass => exact passed verdict
  | pending message => exact gatedFrom_block rfl nofun
  | fail message => exact gatedFrom_block rfl nofun

end Rules

/-! ## The phases -/

/-- After both gates, the landing. -/
theorem gatedFrom_refuseLanding (pass : first.gate = .pass) (pass' : second.gate = .pass) :
    GatedFrom [first, second] (refuseLanding provider) := by
  refine gatedFrom_invoke_bind nofun ⟨first, second, rfl, pass, pass'⟩ fun error => ?_
  exact gatedFrom_block rfl nofun

/-- After the first gate, the reconciliation of a moved base. -/
theorem gatedFrom_reconcileBase {baseSha mergeSummary revalidateSummary : String}
    {snapshots : List ProviderSnapshot} (pass : first.gate = .pass)
    (after : GatedFrom (first :: snapshots) next) : GatedFrom (first :: snapshots)
      (reconcileBase workspace baseSha mergeSummary revalidateSummary next) := by
  have admits : IntegrationStage.signoff.Admits (first :: snapshots) :=
    ⟨first, snapshots, rfl, pass⟩
  refine gatedFrom_returning (gatedWithin_invoke nofun admits) ?_
  exact gatedFrom_returning (gatedWithin_invoke nofun admits) after

/-- A signed graph is rebased after a gate that passed. -/
theorem gatedFrom_rebaseSigned (pass : first.gate = .pass) :
    GatedFrom [first, second] (rebaseSigned first second workspace) := by
  have admits : IntegrationStage.signoff.Admits [first, second] := ⟨first, [second], rfl, pass⟩
  refine gatedFrom_ask_bind nofun trivial fun fetched => ?_
  cases fetched with
  | error error => exact gatedFrom_block rfl nofun
  | ok done =>
    refine gatedFrom_invoke_bind nofun trivial fun target => ?_
    refine gatedFrom_ite (gatedFrom_block rfl nofun) ?_
    refine gatedFrom_invoke_bind nofun admits fun recorded => ?_
    exact gatedFrom_reconcileBase pass (gatedFrom_block rfl nofun)

/-- A signed candidate is landed after gates that passed. -/
theorem gatedFrom_landSigned (pass : first.gate = .pass) :
    GatedFrom [first] (landSigned item targetRef provider first workspace) := by
  refine gatedFrom_snapshot (fun signed => ?_) fun error => gatedFrom_block rfl nofun
  refine gatedFrom_ite (gatedFrom_block rfl nofun) ?_
  refine gatedFrom_ite (gatedFrom_block rfl nofun) ?_
  refine gatedFrom_ite (gatedFrom_block rfl nofun) ?_
  refine gatedFrom_ite (gatedFrom_rebaseSigned pass) ?_
  exact gatedFrom_passGate fun passed => gatedFrom_refuseLanding pass passed

/-- A signoff follows a gate that passed. -/
theorem gatedFrom_signoff {candidateSha : String} (pass : first.gate = .pass)
    (after : GatedFrom [first] next) :
    GatedFrom [first] (signoff hostSignoff workspace candidateSha next) := by
  have admits : IntegrationStage.signoff.Admits [first] := ⟨first, [], rfl, pass⟩
  refine gatedFrom_invoke_bind nofun admits fun trusted => ?_
  refine gatedFrom_ite (gatedFrom_returning (gatedWithin_invoke nofun admits) after) ?_
  cases hostSignoff with
  | some policy => exact gatedFrom_returning (gatedWithin_invoke nofun admits) after
  | none => exact after

/-- A graph is signed after a gate that passed. -/
theorem gatedFrom_signCandidateGraph {rest : String → IntegrationRun QueueItem}
    (pass : first.gate = .pass) (after : ∀ workspace, GatedFrom [first] (rest workspace)) :
    GatedFrom [first] (signCandidateGraph hostSignoff rest) := by
  have admits : IntegrationStage.signoff.Admits [first] := ⟨first, [], rfl, pass⟩
  refine gatedFrom_invoke_bind nofun admits fun workspace => ?_
  refine gatedFrom_invoke_bind nofun admits fun candidateSha => ?_
  refine gatedFrom_ask_bind nofun admits fun verified => ?_
  cases verified with
  | error error => exact gatedFrom_block rfl nofun
  | ok done => exact gatedFrom_signoff pass (after workspace)

/-- An attempt is reconciled after a gate that passed. -/
theorem gatedFrom_reconcileAttempt (pass : first.gate = .pass) (after : GatedFrom [first] next) :
    GatedFrom [first] (reconcileAttempt first next) := by
  have admits : IntegrationStage.signoff.Admits [first] := ⟨first, [], rfl, pass⟩
  refine gatedFrom_invoke_bind nofun admits fun current => ?_
  refine gatedFrom_ite ?_ after
  refine gatedFrom_invoke_bind nofun admits fun workspace => ?_
  refine gatedFrom_reconcileBase pass ?_
  exact gatedFrom_returning (gatedWithin_invoke nofun admits) after

/-- Before the first gate no snapshot is taken. -/
theorem gatedFrom_integrateSnapshot {admission : MergeRequestAdmission}
    {expected : ProviderRepository} :
    GatedFrom [] (integrateSnapshot item admission hostSignoff provider expected) := by
  refine gatedFrom_snapshot (fun snapshot => ?_) fun error => gatedFrom_block rfl nofun
  refine gatedFrom_ite (gatedFrom_block rfl nofun) ?_
  refine gatedFrom_ite (gatedFrom_block rfl nofun) ?_
  refine gatedFrom_ite (gatedFrom_block rfl nofun) ?_
  refine gatedFrom_invoke_bind nofun trivial fun target => ?_
  refine gatedFrom_ite (gatedFrom_block rfl nofun) ?_
  refine gatedFrom_passGate fun pass => ?_
  refine gatedFrom_reconcileAttempt pass (gatedFrom_signCandidateGraph pass fun workspace => ?_)
  exact gatedFrom_landSigned pass

/-- A fresh item is integrated behind the gate. -/
theorem gatedFrom_integrateFresh {admission : MergeRequestAdmission} :
    GatedFrom [] (integrateFresh item admission hostSignoff provider) := by
  refine gatedFrom_invoke_bind nofun trivial fun events => ?_
  refine gatedFrom_ite (gatedFrom_block rfl nofun) ?_
  refine gatedFrom_ask_bind nofun trivial fun fetched => ?_
  cases fetched with
  | error error => exact gatedFrom_block rfl nofun
  | ok done =>
    refine gatedFrom_invoke_bind nofun trivial fun format => ?_
    refine gatedFrom_ask_bind nofun trivial fun verified => ?_
    cases verified with
    | error error => exact gatedFrom_block rfl nofun
    | ok done => exact gatedFrom_integrateSnapshot

/-- An uncertain landing is read again only. -/
theorem gatedFrom_integrateUncertain : GatedFrom [] (integrateUncertain provider) := by
  refine gatedFrom_ask_bind nofun trivial fun reconciled => ?_
  cases reconciled with
  | error error => exact gatedFrom_block rfl nofun
  | ok found =>
    refine gatedFrom_returning ?_ (gatedFrom_block rfl nofun)
    exact fun log taken => respects_pure taken

/-- An unsupported item is blocked. -/
theorem gatedFrom_blockUnsupported {prUrl error : String} :
    GatedFrom [] (blockUnsupported prUrl error) := by
  refine gatedFrom_invoke_bind nofun trivial fun effort => ?_
  rcases effort with _ | ⟨effortId, _ | candidateSha⟩
  · exact gatedFrom_bail
  · exact gatedFrom_bail
  · refine gatedFrom_invoke_bind nofun trivial fun blocked => ?_
    exact gatedFrom_block rfl nofun

/-- Every item is integrated behind the gate. -/
theorem gatedFrom_integrateProviderItem {prUrl : String} :
    GatedFrom [] (integrateProviderItem item hostSignoff prUrl) := by
  unfold integrateProviderItem
  cases item.admission with
  | localSubmission | direct => exact gatedFrom_bail
  | mergeRequest admission =>
    refine gatedFrom_ite gatedFrom_bail ?_
    cases mergeRequestLocator prUrl with
    | error error => exact gatedFrom_bail
    | ok locator =>
      refine gatedFrom_ite gatedFrom_bail ?_
      cases providerForUrl prUrl with
      | error error => exact gatedFrom_blockUnsupported
      | ok provider => exact gatedFrom_ite gatedFrom_integrateUncertain gatedFrom_integrateFresh

/-- The calls of a run of the integration, with their answers. -/
def integrationJournal (item : ProviderItem) (hostSignoff : Option SignoffPolicy) (prUrl : String)
    (replies : Nat → (call : IntegrationCall) → call.Answer) : Journal IntegrationCall.Answer :=
  (Program.run Program.journal (integrateProviderItem item hostSignoff prUrl) [] replies).2

/-- In every run, each call is admitted by the snapshots taken before it. -/
theorem integrateProviderItem_gated (item : ProviderItem) (hostSignoff : Option SignoffPolicy)
    (prUrl : String) (replies : Nat → (call : IntegrationCall) → call.Answer) :
    Guarded Gated (integrationJournal item hostSignoff prUrl replies) :=
  Respects.run (gatedFrom_integrateProviderItem [] rfl) replies

/-! ## Both gates -/

/-- The integration respects its gates in every run, its snapshots carry the gates of the views they
are taken of, and the gates themselves keep their promise exactly for a pull request and a merge
request that are listed. -/
theorem provider_gates_iff (view : GitHubPrView) (mr : GitLabMrView) :
    (view.GateSound ∧ mr.GateSound ∧
      (∀ url snapshot, githubSnapshot url view = .ok snapshot → snapshot.gate = githubGate view) ∧
      (∀ url snapshot, gitlabSnapshot url mr = .ok snapshot →
        snapshot.gate = gitlabGate mr.state mr.pipelineStatus mr.approved) ∧
      ∀ item hostSignoff prUrl replies,
        Guarded Gated (integrationJournal item hostSignoff prUrl replies)) ↔
      githubListed view ∧ gitlabListed mr := by
  rw [githubGateSound_iff, gitlabGateSound_iff]
  constructor
  · rintro ⟨listed, open_listed, -⟩
    exact ⟨listed, open_listed⟩
  · rintro ⟨listed, open_listed⟩
    exact ⟨listed, open_listed, fun _ _ => gate_of_githubSnapshot, fun _ _ => gate_of_gitlabSnapshot,
      integrateProviderItem_gated⟩

/-! ## Sample views -/

namespace Sample

/-- A mergeable pull request with a rollup of checks. -/
def pullRequest (checks : List GitHubCheck) : GitHubPrView where
  headRefOid := "b"
  baseRefOid := "a"
  baseRefName := "main"
  baseRepository := some ⟨"R_1", "owner/repo"⟩
  reviewDecision := some "APPROVED"
  mergeStateStatus := some "CLEAN"
  statusCheckRollup := checks

/-- A check that could not be started. -/
def startupFailure : GitHubCheck := ⟨some "STARTUP_FAILURE", some "COMPLETED"⟩

/-- A check that failed. -/
def failedCheck : GitHubCheck := ⟨some "FAILURE", some "COMPLETED"⟩

/-- A check that has not ended. -/
def runningCheck : GitHubCheck := ⟨none, some "IN_PROGRESS"⟩

/-- An open and approved merge request with the status of its pipeline. -/
def mergeRequest (pipeline : String) : GitLabMrView where
  sha := some "b"
  headSha := none
  baseSha := some "a"
  targetBranch := some "main"
  targetProjectId := some (.number 1)
  state := some "opened"
  pipelineStatus := some pipeline
  approved := some true
  diffRefs := none

end Sample

/-- A check that could not be started passes, and does not fail the gate beside a running one; a
running check hides a failed one that is listed after it, as an outstanding review does; a pipeline
that waits for a resource passes. -/
theorem provider_gates_unlisted :
    ¬(Sample.pullRequest [Sample.startupFailure]).GateSound ∧
      ¬(Sample.pullRequest [Sample.startupFailure, Sample.runningCheck]).GateSound ∧
      ¬(Sample.pullRequest [Sample.runningCheck, Sample.failedCheck]).GateSound ∧
      ¬{ Sample.pullRequest [Sample.failedCheck] with
          reviewDecision := some "REVIEW_REQUIRED" : GitHubPrView }.GateSound ∧
      ¬(Sample.mergeRequest "waiting_for_resource").GateSound := by
  refine ⟨fun sound => ?_, fun sound => ?_, fun sound => ?_, fun sound => ?_, fun sound => ?_⟩
  · have passes := (sound.passes (by decide)).2.2 Sample.startupFailure List.mem_cons_self
    revert passes
    unfold GitHubCheck.Succeeded
    decide
  · have failed : Sample.startupFailure.Failed := by
      unfold GitHubCheck.Failed
      decide
    obtain ⟨message, fail⟩ := sound.fails ⟨_, List.mem_cons_self, failed⟩
    have waits : githubGate (Sample.pullRequest [Sample.startupFailure, Sample.runningCheck]) =
        .pending "GitHub required checks are pending" := by decide
    cases waits.symm.trans fail
  · have first := sound.unordered [Sample.failedCheck, Sample.runningCheck]
      (List.Perm.swap _ _ _)
    revert first
    decide
  · have failed : Sample.failedCheck.Failed := by
      unfold GitHubCheck.Failed
      decide
    obtain ⟨message, fail⟩ := sound.fails ⟨_, List.mem_cons_self, failed⟩
    cases fail
  · have pipeline := (sound (by decide)).2.2 "waiting_for_resource" rfl
    revert pipeline
    decide

end Iq
