import Iq.Library.Journal
import Iq.Provider.Gate
import Iq.Store.RemoteAdmission

/-!
# The integration of a provider item

`integrate_provider_item` as a program over the calls that it makes, each of which may answer
anything. Its checks of the admission come first; the gate of a first snapshot stands before the
preparation and signoff of the candidate, and the gate of a second one before the landing.
-/

namespace Iq

open Library
open Library.Program (ask raise)

/-! ## Calls -/

/-- An error of a call, and whether it is a `ProviderInfrastructureError`. -/
structure CallError where
  infrastructure : Bool
  message : String
  deriving DecidableEq, Repr

/-- `SignoffPolicy`. -/
structure SignoffPolicy where
  command : String
  repository : String
  requiredContexts : List String
  trustedCreator : String
  deriving DecidableEq, Repr

/-- The calls of an integration. Items are blocked in the phase of integration, by the provider with
a failed gate. -/
inductive IntegrationCall where
  | effortForItem
  | blockInfrastructure (effortId detail : String)
  | getItem
  | blockAndGet (reason : BlockedReason) (message : String)
  | blockProviderAndGet (message : String)
  | reconcileProviderLanding (provider : Provider)
  | events
  | fetchTargetSupervised
  | objectFormat
  | verifyRepository (expected : ProviderRepository) (format : GitObjectFormat)
  | snapshot
  | remoteTarget
  | getAttempt
  | loadOwnedWorkspace
  | mergeMovedBase (workspace baseSha summary : String)
  | revalidateMovedBase (workspace baseSha summary : String)
  | cancelledItem
  | workspaceHead (workspace : String)
  | verifyCandidateGraph (workspace : String)
  | requiresTrustedPolicy
  | requireExactPolicySignoff (workspace candidateSha : String)
  | signCandidate (workspace candidateSha : String) (signoff : SignoffPolicy)
  | recordEvent (eventType message : String)
  | atomicLandingUnsupported (provider : Provider)
  deriving DecidableEq

/-- What a call gives when it succeeds. -/
abbrev IntegrationCall.Value : IntegrationCall → Type
  | .effortForItem => Option (String × Option String)
  | .getItem | .blockAndGet _ _ | .blockProviderAndGet _ => QueueItem
  | .reconcileProviderLanding _ | .mergeMovedBase _ _ _ | .revalidateMovedBase _ _ _
  | .cancelledItem | .requireExactPolicySignoff _ _ | .signCandidate _ _ _ => Option QueueItem
  | .events => List String
  | .objectFormat => GitObjectFormat
  | .snapshot => ProviderSnapshot
  | .remoteTarget | .loadOwnedWorkspace | .workspaceHead _ | .atomicLandingUnsupported _ => String
  | .getAttempt => Attempt
  | .requiresTrustedPolicy => Bool
  | .blockInfrastructure _ _ | .fetchTargetSupervised | .verifyRepository _ _
  | .verifyCandidateGraph _ | .recordEvent _ _ => Unit

/-- The answer to a call. -/
abbrev IntegrationCall.Answer (call : IntegrationCall) : Type := Except CallError call.Value

/-- A program of the integration. -/
abbrev IntegrationRun (α : Type) : Type :=
  Program IntegrationCall IntegrationCall.Answer CallError α

namespace IntegrationRun

/-- A result or the end of the run with its error. -/
def settle {α : Type} : Except CallError α → IntegrationRun α
  | .ok value => pure value
  | .error reason => raise reason

/-- The value of a call; its error ends the run. -/
def invoke (call : IntegrationCall) : IntegrationRun call.Value := ask call >>= settle

/-- Return the item that a call gives, or go on. -/
def returning (first : IntegrationRun (Option QueueItem)) (next : IntegrationRun QueueItem) :
    IntegrationRun QueueItem :=
  first >>= fun found =>
    match found with
    | some item => pure item
    | none => next

/-- Fail with a message. -/
def bail {α : Type} (message : String) : IntegrationRun α := raise ⟨false, message⟩

end IntegrationRun

open IntegrationRun

/-! ## The integration -/

/-- What the integration reads of a queue item. -/
structure ProviderItem where
  repoKey : String
  targetRef : TargetRef
  currentHeadSha : String
  landing : LandingState
  admission : QueueAdmission
  deriving DecidableEq, Repr

/-- `LandingState::is_uncertain`. -/
def LandingState.isUncertain : LandingState → Bool
  | .uncertain _ _ => true
  | _ => false

/-- `TargetRef::branch`. -/
def TargetRef.branch (targetRef : TargetRef) : String :=
  .ofList (targetRef.text.toList.drop 11)

/-- The reason of a block after an error of a provider. -/
def CallError.blockedReason (error : CallError) : BlockedReason :=
  if error.infrastructure then .infra else .provider

/-- The landing, which no adapter supports. -/
def refuseLanding (provider : Provider) : IntegrationRun QueueItem := do
  let error ← invoke (.atomicLandingUnsupported provider)
  invoke (.blockProviderAndGet ("provider landing is unsupported before mutation: " ++ error))

/-- The gate of a snapshot before what it admits. -/
def passGate (snapshot : ProviderSnapshot) (next : IntegrationRun QueueItem) :
    IntegrationRun QueueItem :=
  match snapshot.gate with
  | .pass => next
  | .pending message => invoke (.blockAndGet .provider message)
  | .fail message => invoke (.blockProviderAndGet message)

/-- The merge of a base that moved, its revalidation, and what follows. -/
def reconcileBase (workspace baseSha mergeSummary revalidateSummary : String)
    (next : IntegrationRun QueueItem) : IntegrationRun QueueItem :=
  returning (invoke (.mergeMovedBase workspace baseSha mergeSummary))
    (returning (invoke (.revalidateMovedBase workspace baseSha revalidateSummary)) next)

/-- The branch for a base that moved between the snapshots. -/
def rebaseSigned (first signed : ProviderSnapshot) (workspace : String) :
    IntegrationRun QueueItem := do
  let fetched ← ask .fetchTargetSupervised
  match fetched with
  | .error error =>
    invoke (.blockAndGet .infra ("failed to fetch provider base after signoff: " ++ error.message))
  | .ok _ => do
    let target ← invoke .remoteTarget
    if target ≠ signed.baseSha then
      invoke (.blockAndGet .provider
        "provider base after signoff differs from the exact fetched target")
    else do
      let _ ← invoke (.recordEvent "target_moved_after_signoff"
        ("provider base moved from " ++ first.baseSha ++ " to " ++ signed.baseSha ++
          "; exact evidence was invalidated"))
      reconcileBase workspace signed.baseSha "PR/MR base moved after signoff"
        "PR/MR base moved after signoff" (invoke .getItem)

/-- The integration from the second snapshot on. -/
def landSigned (item : ProviderItem) (targetRef : TargetRef) (provider : Provider)
    (first : ProviderSnapshot) (workspace : String) : IntegrationRun QueueItem := do
  let taken ← ask .snapshot
  match taken with
  | .error error =>
    invoke (.blockAndGet .infra ("provider snapshot after signoff failed: " ++ error.message))
  | .ok signed =>
    if signed.repository ≠ first.repository then
      invoke (.blockProviderAndGet "provider repository identity moved after signoff")
    else if signed.targetBranch ≠ targetRef.branch then
      invoke (.blockProviderAndGet "provider target branch moved after signoff")
    else if signed.headSha ≠ item.currentHeadSha then
      invoke (.blockAndGet .needsAgentFix "PR/MR head moved after exact candidate signoff")
    else if signed.baseSha ≠ first.baseSha then
      rebaseSigned first signed workspace
    else
      passGate signed (refuseLanding provider)

/-- The signoff of a candidate, and what follows. -/
def signoff (hostSignoff : Option SignoffPolicy) (workspace candidateSha : String)
    (next : IntegrationRun QueueItem) : IntegrationRun QueueItem := do
  let trusted ← invoke .requiresTrustedPolicy
  if trusted = true then
    returning (invoke (.requireExactPolicySignoff workspace candidateSha)) next
  else
    match hostSignoff with
    | some policy => returning (invoke (.signCandidate workspace candidateSha policy)) next
    | none => next

/-- The verification and signoff of the candidate, and what follows. -/
def signCandidateGraph (hostSignoff : Option SignoffPolicy)
    (next : String → IntegrationRun QueueItem) : IntegrationRun QueueItem := do
  let workspace ← invoke .loadOwnedWorkspace
  let candidateSha ← invoke (.workspaceHead workspace)
  let verified ← ask (.verifyCandidateGraph workspace)
  match verified with
  | .error error => invoke (.blockAndGet .needsAgentFix
      ("provider candidate graph is invalid before signoff: " ++ error.message))
  | .ok _ => signoff hostSignoff workspace candidateSha (next workspace)

/-- Whether the base of an attempt has to be reconciled with the one of a snapshot. -/
def needsMovedBaseReconciliation (attempt : Attempt) (snapshot : ProviderSnapshot) : Bool :=
  attempt.targetBaseSha != some snapshot.baseSha ||
    (attempt.movedBase != .none && attempt.validatedCommitSha.isNone)

/-- The reconciliation of a moved base, and what follows. -/
def reconcileAttempt (snapshot : ProviderSnapshot) (next : IntegrationRun QueueItem) :
    IntegrationRun QueueItem := do
  let current ← invoke .getAttempt
  if needsMovedBaseReconciliation current snapshot = true then do
    let workspace ← invoke .loadOwnedWorkspace
    reconcileBase workspace snapshot.baseSha "PR/MR base moved before provider landing"
      "PR/MR base moved" (returning (invoke .cancelledItem) next)
  else
    next

/-- The integration from the first snapshot on. -/
def integrateSnapshot (item : ProviderItem) (admission : MergeRequestAdmission)
    (hostSignoff : Option SignoffPolicy) (provider : Provider) (expected : ProviderRepository) :
    IntegrationRun QueueItem := do
  let taken ← ask .snapshot
  match taken with
  | .error error => invoke (.blockAndGet .infra ("provider snapshot failed: " ++ error.message))
  | .ok snapshot =>
    if snapshot.repository ≠ expected then
      invoke (.blockProviderAndGet "provider repository identity differs from exact admission")
    else if snapshot.targetBranch ≠ admission.targetRef.branch then
      invoke (.blockProviderAndGet "provider target branch moved from exact MR admission")
    else if snapshot.headSha ≠ item.currentHeadSha then
      invoke (.blockAndGet .needsAgentFix "PR/MR head does not match queued source head")
    else do
      let target ← invoke .remoteTarget
      if target ≠ snapshot.baseSha then
        invoke (.blockAndGet .provider "provider base SHA differs from the exact fetched target")
      else
        passGate snapshot (reconcileAttempt snapshot (signCandidateGraph hostSignoff
          (landSigned item admission.targetRef provider snapshot)))

/-- The integration of an item that no landing is uncertain of. -/
def integrateFresh (item : ProviderItem) (admission : MergeRequestAdmission)
    (hostSignoff : Option SignoffPolicy) (provider : Provider) : IntegrationRun QueueItem := do
  let events ← invoke .events
  if "merge_resumed" ∈ events then
    invoke (.blockAndGet .needsAgentFix
      "coding agent must update the admitted MR; IQ cannot push source changes")
  else do
    let fetched ← ask .fetchTargetSupervised
    match fetched with
    | .error error => invoke (.blockAndGet .infra
        ("failed to fetch target before provider policy check: " ++ error.message))
    | .ok _ => do
      let expected : ProviderRepository := ⟨admission.provider, admission.providerHost,
        admission.repository, admission.repositoryId⟩
      let format ← invoke .objectFormat
      let verified ← ask (.verifyRepository expected format)
      match verified with
      | .error error => invoke (.blockAndGet error.blockedReason
          ("provider repository identity cannot be revalidated: " ++ error.message))
      | .ok _ => integrateSnapshot item admission hostSignoff provider expected

/-- The message of a landing that is still uncertain. -/
def unresolvedLanding : String :=
  "fenced provider landing remains unresolved; " ++
    "retry after the provider reaches a terminal state"

/-- The integration of an item whose landing is uncertain. -/
def integrateUncertain (provider : Provider) : IntegrationRun QueueItem := do
  let reconciled ← ask (.reconcileProviderLanding provider)
  match reconciled with
  | .error error => invoke (.blockAndGet error.blockedReason
      ("failed to reconcile fenced provider landing: " ++ error.message))
  | .ok found =>
    returning (pure found) (invoke (.blockAndGet .provider unresolvedLanding))

/-- The branch for a URL that selects no adapter. -/
def blockUnsupported (prUrl error : String) : IntegrationRun QueueItem := do
  let effort ← invoke .effortForItem
  match effort with
  | none => bail "provider item has no integration effort"
  | some (_, none) => bail "provider URL failure has no exact candidate authority"
  | some (effortId, some candidateSha) => do
    let _ ← invoke (.blockInfrastructure effortId ("PR/MR URL " ++ prUrl.quote ++
      " is invalid or unsupported for exact candidate " ++ candidateSha ++ ": " ++ error))
    invoke .getItem

/-- `provider_for_url`: the provider whose adapter takes a URL. -/
def providerForUrl (url : String) : Except String Provider :=
  (mergeRequestLocator url).map MergeRequestLocator.provider

/-- `integrate_provider_item`. -/
def integrateProviderItem (item : ProviderItem) (hostSignoff : Option SignoffPolicy)
    (prUrl : String) : IntegrationRun QueueItem :=
  match item.admission with
  | .mergeRequest admission =>
    if admission.url ≠ prUrl ∨ admission.headSha ≠ item.currentHeadSha then
      bail "provider integration differs from exact MR admission"
    else
      match mergeRequestLocator prUrl with
      | .error error => bail error
      | .ok locator =>
        if locator ≠ ⟨admission.provider, admission.providerHost, admission.repository,
            admission.identity⟩ ∨ admission.targetRef ≠ item.targetRef then
          bail "provider URL identity differs from exact MR admission"
        else
          match providerForUrl prUrl with
          | .error error => blockUnsupported prUrl error
          | .ok provider =>
            if item.landing.isUncertain = true then integrateUncertain provider
            else integrateFresh item admission hostSignoff provider
  | _ => bail "provider integration has no MR admission"

end Iq
