import Iq.Library.JsonText
import Iq.Provider.Locator
import Mathlib.Data.List.Perm.Basic

/-!
# Provider gates

`github_gate` and `gitlab_gate`: what a snapshot of a pull or merge request says about its landing.
The gates refuse the values they list and let every other one pass, and the checks of a pull request
are looked at in order until one decides.
-/

namespace Iq

open Library

/-- `ProviderGate`. -/
inductive ProviderGate where
  | pass
  | pending (message : String)
  | fail (message : String)
  deriving DecidableEq, Repr

/-- `ProviderRepository`. -/
structure ProviderRepository where
  provider : Provider
  host : String
  repository : String
  repositoryId : String
  deriving DecidableEq, Repr

/-- `ProviderSnapshot`. -/
structure ProviderSnapshot where
  repository : ProviderRepository
  headSha : String
  baseSha : String
  targetBranch : String
  gate : ProviderGate
  deriving DecidableEq, Repr

/-! ## Pull requests -/

/-- What the gate reads of an entry of the rollup: `check.get(..).and_then(|value| value.as_str())`
for two fields. -/
structure GitHubCheck where
  conclusion : Option String
  status : Option String
  deriving DecidableEq, Repr

/-- `GitHubRepository`. -/
structure GitHubRepository where
  id : String
  nameWithOwner : String
  deriving DecidableEq, Repr

/-- `GitHubPrView`. -/
structure GitHubPrView where
  headRefOid : String
  baseRefOid : String
  baseRefName : String
  baseRepository : Option GitHubRepository
  reviewDecision : Option String
  mergeStateStatus : Option String
  statusCheckRollup : List GitHubCheck
  deriving DecidableEq, Repr

namespace GitHubCheck

/-- A conclusion that fails the gate. -/
def isFailed (entry : GitHubCheck) : Bool :=
  [some "FAILURE", some "CANCELLED", some "TIMED_OUT", some "ACTION_REQUIRED"].contains
    entry.conclusion

/-- A check that has not reported its end. -/
def isPending (entry : GitHubCheck) : Bool :=
  !([none, some "COMPLETED"].contains entry.status) || [none, some ""].contains entry.conclusion

end GitHubCheck

/-- The loop of `github_gate`. -/
def githubChecks : List GitHubCheck → ProviderGate
  | [] => .pass
  | entry :: rest =>
    if entry.isFailed then .fail "GitHub required check failed"
    else if entry.isPending then .pending "GitHub required checks are pending"
    else githubChecks rest

/-- `github_gate`. -/
def githubGate (view : GitHubPrView) : ProviderGate :=
  if view.reviewDecision = some "CHANGES_REQUESTED" then
    .fail "GitHub review requested changes"
  else if view.reviewDecision = some "REVIEW_REQUIRED" then
    .pending "GitHub review approval is still required"
  else if [some "BLOCKED", some "DIRTY", some "UNKNOWN"].contains view.mergeStateStatus then
    .pending ("GitHub merge state is " ++ view.mergeStateStatus.getD "unknown")
  else githubChecks view.statusCheckRollup

/-- `GitHubProvider::snapshot` of the view that the command reports. -/
def githubSnapshot (url : String) (view : GitHubPrView) : Except String ProviderSnapshot := do
  let gate := githubGate view
  let locator ← mergeRequestLocator url
  match view.baseRepository with
  | none => .error "gh PR JSON missing baseRepository"
  | some base =>
    .ok ⟨⟨.github, locator.host, base.nameWithOwner, base.id⟩, view.headRefOid, view.baseRefOid,
      view.baseRefName, gate⟩

/-! ## Merge requests -/

/-- What a snapshot reads of `GitLabMrView`. -/
structure GitLabMrView where
  sha : Option String
  headSha : Option String
  baseSha : Option String
  targetBranch : Option String
  targetProjectId : Option JsonText
  state : Option String
  pipelineStatus : Option String
  approved : Option Bool
  /-- The base of `diff_refs`, when these are reported. -/
  diffRefs : Option (Option String)

/-- `gitlab_gate`. -/
def gitlabGate (state pipelineStatus : Option String) (approved : Option Bool) : ProviderGate :=
  if !([none, some "opened", some "open"].contains state) then
    .pending ("GitLab MR state is " ++ state.getD "unknown")
  else if [some "failed", some "canceled", some "skipped"].contains pipelineStatus then
    .fail "GitLab pipeline failed"
  else if [some "pending", some "running", some "created", some "manual"].contains pipelineStatus then
    .pending "GitLab pipeline is pending"
  else if approved = some false then
    .pending "GitLab MR approvals are still required"
  else .pass

/-- `json_identity`. -/
def jsonIdentity : JsonText → Option String
  | .text value => if value.isEmpty then none else some value
  | .number value => some value.repr
  | _ => none

/-- `GitLabProvider::snapshot` of the view that the command reports. -/
def gitlabSnapshot (url : String) (view : GitLabMrView) : Except String ProviderSnapshot := do
  let locator ← mergeRequestLocator url
  let some repositoryId := view.targetProjectId.bind jsonIdentity
    | .error "glab MR JSON missing target_project_id"
  let some headSha := view.headSha.or view.sha | .error "glab MR JSON missing head_sha/sha"
  let some baseSha := view.baseSha.or (view.diffRefs.bind id)
    | .error "glab MR JSON missing base_sha/diff_refs.base_sha"
  let some targetBranch := view.targetBranch | .error "glab MR JSON missing target_branch"
  .ok ⟨⟨.gitlab, locator.host, locator.repository, repositoryId⟩, headSha, baseSha, targetBranch,
    gitlabGate view.state view.pipelineStatus view.approved⟩

/-! ## What the gates promise -/

/-- No review is outstanding or requests changes. -/
def GitHubPrView.reviewed (view : GitHubPrView) : Prop :=
  view.reviewDecision ≠ some "CHANGES_REQUESTED" ∧ view.reviewDecision ≠ some "REVIEW_REQUIRED"

/-- The merge state does not block: it is none of those documented as blocked, as without a clean
merge commit, as a draft and as unknown. -/
def GitHubPrView.mergeable (view : GitHubPrView) : Prop :=
  view.mergeStateStatus ∉ [some "BLOCKED", some "DIRTY", some "DRAFT", some "UNKNOWN"]

/-- A check that is completed with a conclusion documented as successful. -/
def GitHubCheck.Succeeded (entry : GitHubCheck) : Prop :=
  entry.status = some "COMPLETED" ∧
    entry.conclusion ∈ [some "SUCCESS", some "NEUTRAL", some "SKIPPED"]

/-- A check that failed: its conclusion is documented, and not as successful. -/
def GitHubCheck.Failed (entry : GitHubCheck) : Prop :=
  entry.conclusion ∈ [some "ACTION_REQUIRED", some "CANCELLED", some "FAILURE", some "STALE",
    some "STARTUP_FAILURE", some "TIMED_OUT"]

/-- The gate of a pull request passes only when everything passed, its verdict does not depend on
the order of the checks, and a failed check fails it wherever it stands. -/
structure GitHubPrView.GateSound (view : GitHubPrView) : Prop where
  passes : githubGate view = .pass →
    view.reviewed ∧ view.mergeable ∧ ∀ entry ∈ view.statusCheckRollup, entry.Succeeded
  unordered : ∀ checks, checks.Perm view.statusCheckRollup →
    githubGate { view with statusCheckRollup := checks } = githubGate view
  fails : (∃ entry ∈ view.statusCheckRollup, entry.Failed) →
    ∃ message, githubGate view = .fail message

/-- The gate of a merge request passes only when it is open, approved and its pipeline, when it is
reported, was successful. -/
def GitLabMrView.GateSound (view : GitLabMrView) : Prop :=
  gitlabGate view.state view.pipelineStatus view.approved = .pass →
    (view.state = some "opened" ∨ view.state = some "open") ∧ view.approved ≠ some false ∧
      ∀ status, view.pipelineStatus = some status → status = "success"

/-! ## When they keep it -/

/-- A check that the gate lets pass without knowing that it succeeded: it reports no status, or a
conclusion that is listed neither as failed nor as successful. -/
def GitHubCheck.isUnlisted (entry : GitHubCheck) : Bool :=
  !entry.isFailed && !entry.isPending &&
    (entry.status.isNone ||
      !([some "SUCCESS", some "NEUTRAL", some "SKIPPED"].contains entry.conclusion))

/-- A check of those that stop the gate. -/
def holdsStop (checks : List GitHubCheck) : Prop :=
  ∃ entry ∈ checks, entry.isFailed = true ∨ entry.isPending = true

/-- The checks do not hold one of those that fail the gate together with a pending one. -/
def checksApart (checks : List GitHubCheck) : Prop :=
  ¬((∃ entry ∈ checks, entry.isFailed = true) ∧
    ∃ entry ∈ checks, entry.isFailed = false ∧ entry.isPending = true)

/-- The checks are apart, one that failed stands beside one that fails the gate, and an unlisted one
beside one that stops it. -/
structure ChecksListed (checks : List GitHubCheck) : Prop where
  apart : checksApart checks
  failed : (∃ entry ∈ checks, entry.Failed) → ∃ entry ∈ checks, entry.isFailed = true
  listed : (∃ entry ∈ checks, entry.isUnlisted = true) → holdsStop checks

/-- The review or the merge state holds the gate up before it looks at the checks. -/
def GitHubPrView.isHeldUp (view : GitHubPrView) : Prop :=
  view.reviewDecision = some "REVIEW_REQUIRED" ∨
    view.mergeStateStatus ∈ [some "BLOCKED", some "DIRTY", some "UNKNOWN"]

/-- A pull request whose review requests changes, or that is held up without a failed check, or
whose checks are listed, one of them stopping the gate of a draft. -/
def githubListed (view : GitHubPrView) : Prop :=
  view.reviewDecision = some "CHANGES_REQUESTED" ∨
    view.isHeldUp ∧ (∀ entry ∈ view.statusCheckRollup, ¬entry.Failed) ∨
    ¬view.isHeldUp ∧ ChecksListed view.statusCheckRollup ∧
      (view.mergeStateStatus = some "DRAFT" → holdsStop view.statusCheckRollup)

/-- A merge request whose state is reported, and whose pipeline is reported as one of the listed
values or not at all, where nothing else stops the gate. -/
def gitlabListed (view : GitLabMrView) : Prop :=
  view.approved = some false ∨
    view.pipelineStatus ∈ [some "failed", some "canceled", some "skipped"] ∨
    view.pipelineStatus ∈ [some "pending", some "running", some "created", some "manual"] ∨
    view.state ≠ none ∧ (view.pipelineStatus = none ∨ view.pipelineStatus = some "success") ∨
    view.state ∉ [none, some "opened", some "open"]

section Gates

variable {view : GitHubPrView} {checks : List GitHubCheck}

/-- Requested changes fail the gate whatever the checks are. -/
theorem githubGate_of_changes (changes : view.reviewDecision = some "CHANGES_REQUESTED") :
    githubGate { view with statusCheckRollup := checks } =
      .fail "GitHub review requested changes" := by
  rw [githubGate, if_pos changes]

/-- A held up gate is pending whatever the checks are. -/
theorem githubGate_of_isHeldUp (unchanged : view.reviewDecision ≠ some "CHANGES_REQUESTED")
    (held : view.isHeldUp) :
    ∃ message, ∀ checks, githubGate { view with statusCheckRollup := checks } = .pending message := by
  by_cases required : view.reviewDecision = some "REVIEW_REQUIRED"
  · refine ⟨"GitHub review approval is still required", fun checks => ?_⟩
    rw [githubGate, if_neg unchanged, if_pos required]
  · have blocked := held.resolve_left required
    refine ⟨"GitHub merge state is " ++ view.mergeStateStatus.getD "unknown", fun checks => ?_⟩
    rw [githubGate, if_neg unchanged, if_neg required, if_pos (List.contains_iff_mem.mpr blocked)]

/-- Otherwise the checks decide. -/
theorem githubGate_eq_checks (unchanged : view.reviewDecision ≠ some "CHANGES_REQUESTED")
    (free : ¬view.isHeldUp) :
    githubGate { view with statusCheckRollup := checks } = githubChecks checks := by
  obtain ⟨reviewed, mergeable⟩ := not_or.mp free
  rw [githubGate, if_neg unchanged, if_neg reviewed, if_neg]
  rw [List.contains_iff_mem]
  exact mergeable

/-- Checks pass when none failed and none is pending. -/
theorem githubChecks_eq_pass :
    githubChecks checks = .pass ↔
      ∀ entry ∈ checks, entry.isFailed = false ∧ entry.isPending = false := by
  induction checks with
  | nil => simp [githubChecks]
  | cons entry rest pass_rest =>
    rw [githubChecks, List.forall_mem_cons]
    by_cases failed : entry.isFailed = true
    · simp [failed]
    · by_cases pending : entry.isPending = true
      · simp [failed, pending]
      · simp [failed, pending, pass_rest]

/-- Nothing stops when no check failed and none is pending. -/
theorem not_holdsStop_iff :
    ¬holdsStop checks ↔ ∀ entry ∈ checks, entry.isFailed = false ∧ entry.isPending = false := by
  simp [holdsStop]

/-- Checks fail when one failed and the others are settled. -/
theorem githubChecks_eq_fail (failed : ∃ entry ∈ checks, entry.isFailed = true)
    (settled : ∀ entry ∈ checks, entry.isFailed = true ∨ entry.isPending = false) :
    githubChecks checks = .fail "GitHub required check failed" := by
  induction checks with
  | nil =>
    obtain ⟨entry, mem, -⟩ := failed
    cases mem
  | cons entry rest fail_rest =>
    rw [githubChecks]
    by_cases here : entry.isFailed = true
    · rw [if_pos here]
    · have pending : entry.isPending = false :=
        (settled entry List.mem_cons_self).resolve_left here
      rw [if_neg here, pending, if_neg (by decide)]
      obtain ⟨other, mem, failed⟩ := failed
      have later : other ∈ rest := by
        rcases List.mem_cons.mp mem with rfl | later
        · exact absurd failed here
        · exact later
      exact fail_rest ⟨other, later, failed⟩ fun entry mem => settled entry (List.mem_cons_of_mem _ mem)

/-- Checks are pending when none failed and one is pending. -/
theorem githubChecks_eq_pending (none_failed : ∀ entry ∈ checks, entry.isFailed = false)
    (pending : ∃ entry ∈ checks, entry.isPending = true) :
    githubChecks checks = .pending "GitHub required checks are pending" := by
  induction checks with
  | nil =>
    obtain ⟨entry, mem, -⟩ := pending
    cases mem
  | cons entry rest pending_rest =>
    rw [githubChecks, none_failed entry List.mem_cons_self, if_neg (by decide)]
    by_cases here : entry.isPending = true
    · rw [if_pos here]
    · rw [if_neg here]
      obtain ⟨other, mem, pending⟩ := pending
      have later : other ∈ rest := by
        rcases List.mem_cons.mp mem with rfl | later
        · exact absurd pending here
        · exact later
      exact pending_rest (fun entry mem => none_failed entry (List.mem_cons_of_mem _ mem))
        ⟨other, later, pending⟩

/-- A check that does not stop the gate succeeded unless it is unlisted. -/
theorem succeeded_iff {entry : GitHubCheck} (failed : entry.isFailed = false)
    (pending : entry.isPending = false) : entry.Succeeded ↔ entry.isUnlisted = false := by
  have status : entry.status = none ∨ entry.status = some "COMPLETED" := by
    simpa [or_iff_not_imp_left] using (Bool.or_eq_false_iff.mp pending).1
  unfold GitHubCheck.Succeeded GitHubCheck.isUnlisted
  rw [failed, pending, ← List.contains_iff_mem]
  rcases status with absent | completed
  · simp [absent]
  · simp [completed, or_iff_not_imp_left]

/-- The checks pass only when all of them succeeded, exactly when an unlisted one stands beside one
that stops the gate. -/
theorem checks_pass_iff :
    (githubChecks checks = .pass → ∀ entry ∈ checks, entry.Succeeded) ↔
      ((∃ entry ∈ checks, entry.isUnlisted = true) → holdsStop checks) := by
  rw [githubChecks_eq_pass, ← not_holdsStop_iff]
  constructor
  · rintro passes ⟨entry, mem, unlisted⟩
    by_contra stopped
    have free := not_holdsStop_iff.mp stopped entry mem
    have listed := (succeeded_iff free.1 free.2).mp (passes stopped entry mem)
    rw [unlisted] at listed
    cases listed
  · intro stopped unstopped entry mem
    have free := not_holdsStop_iff.mp unstopped entry mem
    rw [succeeded_iff free.1 free.2]
    by_contra unlisted
    exact unstopped (stopped ⟨entry, mem, by simpa using unlisted⟩)

/-- Apart from pending checks, those that fail the gate fail it wherever they stand. -/
theorem githubChecks_of_apart (apart : checksApart checks)
    (failed : ∃ entry ∈ checks, entry.isFailed = true) :
    githubChecks checks = .fail "GitHub required check failed" := by
  refine githubChecks_eq_fail failed fun entry mem => ?_
  by_contra neither
  rw [not_or, Bool.not_eq_true, Bool.not_eq_false] at neither
  exact apart ⟨failed, entry, mem, neither⟩

/-- The order of checks does not tell them apart. -/
theorem checksApart_perm {order : List GitHubCheck} (perm : order.Perm checks) :
    checksApart order ↔ checksApart checks := by
  simp only [checksApart, perm.mem_iff]

/-- The verdict does not depend on the order of the checks exactly when they are apart. -/
theorem checks_unordered_iff :
    (∀ order, order.Perm checks → githubChecks order = githubChecks checks) ↔
      checksApart checks := by
  constructor
  · rintro unordered ⟨⟨entry, mem, failed⟩, other, mem_other, healthy, pending⟩
    obtain ⟨front, back, rfl⟩ := List.append_of_mem mem
    have failing := unordered (entry :: (front ++ back)) List.perm_middle.symm
    rw [githubChecks, if_pos failed] at failing
    obtain ⟨front', back', split⟩ := List.append_of_mem mem_other
    have waiting := unordered (other :: (front' ++ back')) (split ▸ List.perm_middle.symm)
    rw [githubChecks, healthy, if_neg (by decide), if_pos pending, ← failing] at waiting
    cases waiting
  · intro apart order perm
    have apart_order := (checksApart_perm perm).mpr apart
    by_cases failed : ∃ entry ∈ checks, entry.isFailed = true
    · have failed_order : ∃ entry ∈ order, entry.isFailed = true := by
        simpa only [perm.mem_iff] using failed
      rw [githubChecks_of_apart apart failed, githubChecks_of_apart apart_order failed_order]
    · have healthy : ∀ entry ∈ checks, entry.isFailed = false := by
        intro entry mem
        by_contra fails
        exact failed ⟨entry, mem, by simpa using fails⟩
      have healthy_order : ∀ entry ∈ order, entry.isFailed = false :=
        fun entry mem => healthy entry (perm.mem_iff.mp mem)
      by_cases pending : ∃ entry ∈ checks, entry.isPending = true
      · have pending_order : ∃ entry ∈ order, entry.isPending = true := by
          simpa only [perm.mem_iff] using pending
        rw [githubChecks_eq_pending healthy pending,
          githubChecks_eq_pending healthy_order pending_order]
      · have settled : ∀ entry ∈ checks, entry.isPending = false := by
          intro entry mem
          by_contra waits
          exact pending ⟨entry, mem, by simpa using waits⟩
        rw [githubChecks_eq_pass.mpr fun entry mem => ⟨healthy entry mem, settled entry mem⟩,
          githubChecks_eq_pass.mpr fun entry mem =>
            ⟨healthy_order entry mem, settled entry (perm.mem_iff.mp mem)⟩]

/-- The checks fail the gate only for one that fails it. -/
theorem isFailed_of_fail {message : String} (fails : githubChecks checks = .fail message) :
    ∃ entry ∈ checks, entry.isFailed = true := by
  induction checks with
  | nil => cases fails
  | cons entry rest failed_rest =>
    rw [githubChecks] at fails
    by_cases here : entry.isFailed = true
    · exact ⟨entry, List.mem_cons_self, here⟩
    · rw [if_neg here] at fails
      by_cases pending : entry.isPending = true
      · rw [if_pos pending] at fails
        cases fails
      · rw [if_neg pending] at fails
        obtain ⟨other, mem, failed⟩ := failed_rest fails
        exact ⟨other, List.mem_cons_of_mem _ mem, failed⟩

/-- Of the merge states that block, the gate looks at the checks of a draft only. -/
theorem mergeable_iff (free : ¬view.isHeldUp) :
    view.mergeable ↔ view.mergeStateStatus ≠ some "DRAFT" := by
  have unblocked := (not_or.mp free).2
  simp only [List.mem_cons, List.not_mem_nil, or_false, not_or] at unblocked
  simp [GitHubPrView.mergeable, unblocked]

/-- The gate of a pull request keeps its promise exactly when the pull request is listed. -/
theorem githubGateSound_iff : view.GateSound ↔ githubListed view := by
  by_cases changes : view.reviewDecision = some "CHANGES_REQUESTED"
  · have fails : ∀ checks, githubGate { view with statusCheckRollup := checks } =
        .fail "GitHub review requested changes" := fun checks => githubGate_of_changes changes
    refine iff_of_true ⟨fun pass => ?_, fun checks _ => ?_, fun _ => ⟨_, fails _⟩⟩ (.inl changes)
    · cases (fails view.statusCheckRollup).symm.trans pass
    · exact (fails checks).trans (fails view.statusCheckRollup).symm
  · by_cases held : view.isHeldUp
    · obtain ⟨message, waits⟩ := githubGate_of_isHeldUp changes held
      constructor
      · intro sound
        refine .inr (.inl ⟨held, fun entry mem failed => ?_⟩)
        obtain ⟨other, fail⟩ := sound.fails ⟨entry, mem, failed⟩
        cases (waits view.statusCheckRollup).symm.trans fail
      · rintro (requested | ⟨-, healthy⟩ | ⟨free, -⟩)
        · exact absurd requested changes
        · refine ⟨fun pass => ?_, fun checks _ => ?_, ?_⟩
          · cases (waits view.statusCheckRollup).symm.trans pass
          · exact (waits checks).trans (waits view.statusCheckRollup).symm
          · rintro ⟨entry, mem, failed⟩
            exact absurd failed (healthy entry mem)
        · exact absurd held free
    · have gate : ∀ checks, githubGate { view with statusCheckRollup := checks } =
          githubChecks checks := fun checks => githubGate_eq_checks changes held
      have here : githubGate view = githubChecks view.statusCheckRollup := gate _
      have reviewed : view.reviewed := ⟨changes, (not_or.mp held).1⟩
      have draft := mergeable_iff held
      constructor
      · intro sound
        refine .inr (.inr ⟨held, ⟨checks_unordered_iff.mp fun order perm => ?_, fun failed => ?_,
          checks_pass_iff.mp fun pass => ?_⟩, fun drafted => ?_⟩)
        · rw [← gate, sound.unordered order perm, here]
        · obtain ⟨message, fail⟩ := sound.fails failed
          exact isFailed_of_fail (here.symm.trans fail)
        · exact (sound.passes (here.trans pass)).2.2
        · by_contra unstopped
          have pass := githubChecks_eq_pass.mpr (not_holdsStop_iff.mp unstopped)
          exact draft.mp (sound.passes (here.trans pass)).2.1 drafted
      · rintro (requested | ⟨stopped, -⟩ | ⟨-, listed, drafted⟩)
        · exact absurd requested changes
        · exact absurd stopped held
        · refine ⟨fun pass => ⟨reviewed, ?_, ?_⟩, fun order perm => ?_, fun failed => ?_⟩
          · refine draft.mpr fun is_draft => ?_
            have passed := githubChecks_eq_pass.mp (here.symm.trans pass)
            exact not_holdsStop_iff.mpr passed (drafted is_draft)
          · exact checks_pass_iff.mpr listed.listed (here.symm.trans pass)
          · rw [gate, here]
            exact checks_unordered_iff.mpr listed.apart order perm
          · rw [here]
            exact ⟨_, githubChecks_of_apart listed.apart (listed.failed failed)⟩

/-- The gate of GitLab passes by state, pipeline and approval. -/
theorem gitlabGate_eq_pass {view : GitLabMrView} :
    gitlabGate view.state view.pipelineStatus view.approved = .pass ↔
      view.state ∈ [none, some "opened", some "open"] ∧
        view.pipelineStatus ∉ [some "failed", some "canceled", some "skipped"] ∧
        view.pipelineStatus ∉ [some "pending", some "running", some "created", some "manual"] ∧
        view.approved ≠ some false := by
  unfold gitlabGate
  simp only [Bool.not_eq_true', ← Bool.not_eq_true, List.contains_iff_mem, ite_not]
  split_ifs with opened failed pending missing <;> simp_all

/-- The gate of a merge request keeps its promise exactly when it is listed. -/
theorem gitlabGateSound_iff {view : GitLabMrView} : view.GateSound ↔ gitlabListed view := by
  unfold GitLabMrView.GateSound
  rw [gitlabGate_eq_pass]
  constructor
  · intro sound
    by_contra unlisted
    simp only [gitlabListed, not_or] at unlisted
    obtain ⟨approved, failed, pending, unknown, opened⟩ := unlisted
    obtain ⟨state, -, pipeline⟩ := sound ⟨not_not.mp opened, failed, pending, approved⟩
    refine unknown ⟨?_, ?_⟩
    · rcases state with reported | reported <;> simp [reported]
    · cases found : view.pipelineStatus with
      | none => exact .inl rfl
      | some status => exact .inr (congrArg some (pipeline status found))
  · rintro listed ⟨opened, failed, pending, approved⟩
    rcases listed with missing | fails | waits | ⟨reported, pipeline⟩ | closed
    · exact absurd missing approved
    · exact absurd fails failed
    · exact absurd waits pending
    · refine ⟨?_, approved, fun status found => ?_⟩
      · simpa [reported] using opened
      · rw [found] at pipeline
        simpa using pipeline
    · exact absurd opened closed

end Gates

/-! ## Snapshots -/

section Snapshots

variable {url : String} {snapshot : ProviderSnapshot}

/-- The gate of a snapshot is that of its view. -/
theorem gate_of_githubSnapshot {view : GitHubPrView}
    (taken : githubSnapshot url view = .ok snapshot) : snapshot.gate = githubGate view := by
  unfold githubSnapshot at taken
  cases located : mergeRequestLocator url with
  | error message =>
    rw [located] at taken
    cases taken
  | ok locator =>
    rw [located] at taken
    cases base : view.baseRepository with
    | none =>
      rw [base] at taken
      cases taken
    | some repository =>
      rw [base] at taken
      cases taken
      rfl

/-- The gate of a snapshot is that of its view. -/
theorem gate_of_gitlabSnapshot {view : GitLabMrView}
    (taken : gitlabSnapshot url view = .ok snapshot) :
    snapshot.gate = gitlabGate view.state view.pipelineStatus view.approved := by
  unfold gitlabSnapshot at taken
  cases located : mergeRequestLocator url with
  | error message =>
    rw [located] at taken
    cases taken
  | ok locator =>
    rw [located] at taken
    dsimp only [bind, Except.bind] at taken
    split at taken
    · split at taken
      · split at taken
        · split at taken
          · cases taken
            rfl
          · cases taken
        · cases taken
      · cases taken
    · cases taken

end Snapshots

end Iq
