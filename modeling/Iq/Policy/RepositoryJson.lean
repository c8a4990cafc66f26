import Iq.Policy.Repository

/-!
# The JSON values of repository policies

The values that serialization makes of a repository policy, with the fields in the order of their
declaration, and their strict readers. The set of a draining repository is written in its order; a
path is written when it is text.
-/

namespace Iq.Policy

open Library Library.JsonText

/-! ## Writing -/

/-- The JSON value of a repository at its provider. -/
def ProviderRepository.toValue (value : ProviderRepository) : JsonText :=
  .object [
    ("provider", .text (GitRepository.providerName value.provider)),
    ("host", .text value.host),
    ("repository", .text value.repository),
    ("repository_id", .text value.repositoryId)]

/-- `Serialize` of a repository, which fails for a path that is not text. -/
def GitRepository.toValue? : GitRepository → Option JsonText
  | .localBare path device inode objectFormat => (pathText path).map fun path => .object [
      ("kind", .text "local_bare"),
      ("path", .text path),
      ("device", .number device.toNat),
      ("inode", .number inode.toNat),
      ("object_format", .text objectFormat.asStr)]
  | .accessible fetchUrl pushUrl repositoryId provider objectFormat => some <| .object [
      ("kind", .text "accessible"),
      ("fetch_url", .text fetchUrl),
      ("push_url", .text pushUrl),
      ("repository_id", .text repositoryId),
      ("provider", provider.toValue),
      ("object_format", .text objectFormat.asStr)]

/-- The name of the kind of an obligation. -/
def obligationKind : Obligation → String
  | .workspace _ => "workspace"
  | .queueItem _ => "queue_item"
  | .replication _ => "replication"

/-- The JSON value of an obligation. -/
def obligationValue (obligation : Obligation) : JsonText :=
  .object [("kind", .text (obligationKind obligation)), ("id", .text (obligationId obligation))]

/-- The JSON value of the state of operations. -/
def OperationState.toValue : OperationState → JsonText
  | .enabled => .object [("state", .text "enabled")]
  | .draining obligations => .object [
      ("state", .text "draining"),
      ("obligations", .array (obligations.items.map obligationValue))]
  | .disabled => .object [("state", .text "disabled")]

/-- The JSON value of the policy of integration. -/
def IntegrationPolicy.toValue : IntegrationPolicy → JsonText
  | .direct => .text "direct"
  | .mergeRequestRequired => .text "merge_request_required"

/-- The JSON value of the policy of replication. -/
def ReplicationPolicy.toValue? : ReplicationPolicy → Option JsonText
  | .none => some (.object [("mode", .text "none")])
  | .replicate targets => (targets.mapM GitRepository.toValue?).map fun targets =>
      .object [("mode", .text "replicate"), ("targets", .array targets)]

/-- `Serialize` of a policy. -/
def RepositoryPolicy.toValue? (policy : RepositoryPolicy) : Option JsonText := do
  let canonicalRepository ← policy.canonicalRepository.toValue?
  let replicationPolicy ← policy.replicationPolicy.toValue?
  some <| .object [
    ("operation_state", policy.operationState.toValue),
    ("canonical_repository", canonicalRepository),
    ("target_branch", .text policy.targetBranch),
    ("integration_policy", policy.integrationPolicy.toValue),
    ("replication_policy", replicationPolicy)]

/-! ## Reading -/

/-- A `u64`. -/
def wordFromValue? : JsonText → Option UInt64
  | .number value => if value < 2 ^ 64 then some (UInt64.ofNat value) else none
  | _ => none

/-- Reads an object format. -/
def objectFormatFromValue? : JsonText → Option GitObjectFormat
  | .text "sha1" => some .sha1
  | .text "sha256" => some .sha256
  | _ => none

/-- Reads the name of a provider. -/
def providerFromValue? : JsonText → Option Provider
  | .text "github" => some .github
  | .text "gitlab" => some .gitlab
  | _ => none

/-- Reads a repository at its provider. -/
def ProviderRepository.fromValue? (value : JsonText) : Option ProviderRepository := do
  let fields ← value.strict? ["provider", "host", "repository", "repository_id"]
  let provider ← field? fields "provider" providerFromValue?
  let host ← field? fields "host" asText
  let repository ← field? fields "repository" asText
  let repositoryId ← field? fields "repository_id" asText
  some { provider, host, repository, repositoryId }

/-- `Deserialize` of a repository. -/
def GitRepository.fromValue? (value : JsonText) : Option GitRepository :=
  match value.get? "kind" with
  | some (.text "local_bare") => do
    let fields ← value.strict? ["kind", "path", "device", "inode", "object_format"]
    let path ← field? fields "path" asText
    let device ← field? fields "device" wordFromValue?
    let inode ← field? fields "inode" wordFromValue?
    let objectFormat ← field? fields "object_format" objectFormatFromValue?
    some (.localBare (bytesOf path) device inode objectFormat)
  | some (.text "accessible") => do
    let fields ← value.strict?
      ["kind", "fetch_url", "push_url", "repository_id", "provider", "object_format"]
    let fetchUrl ← field? fields "fetch_url" asText
    let pushUrl ← field? fields "push_url" asText
    let repositoryId ← field? fields "repository_id" asText
    let provider ← field? fields "provider" ProviderRepository.fromValue?
    let objectFormat ← field? fields "object_format" objectFormatFromValue?
    some (.accessible fetchUrl pushUrl repositoryId provider objectFormat)
  | _ => none

/-- Reads an obligation. -/
def obligationFromValue? (value : JsonText) : Option Obligation := do
  let fields ← value.strict? ["kind", "id"]
  let kind ← field? fields "kind" asText
  let id ← field? fields "id" asText
  match kind with
  | "workspace" => some (.workspace id)
  | "queue_item" => some (.queueItem id)
  | "replication" => some (.replication id)
  | _ => none

/-- `Deserialize` of an operation state; a variant without fields ignores any that are there. -/
def OperationState.fromValue? (value : JsonText) : Option OperationState :=
  match value.get? "state" with
  | some (.text "enabled") => some .enabled
  | some (.text "draining") => do
    let fields ← value.strict? ["state", "obligations"]
    let obligations ← field? fields "obligations" (list? obligationFromValue?)
    some (.draining (.ofList obligations))
  | some (.text "disabled") => some .disabled
  | _ => none

/-- Reads the policy of integration. -/
def IntegrationPolicy.fromValue? : JsonText → Option IntegrationPolicy
  | .text "direct" => some .direct
  | .text "merge_request_required" => some .mergeRequestRequired
  | _ => none

/-- Reads the policy of replication. -/
def ReplicationPolicy.fromValue? (value : JsonText) : Option ReplicationPolicy :=
  match value.get? "mode" with
  | some (.text "none") => some .none
  | some (.text "replicate") => do
    let fields ← value.strict? ["mode", "targets"]
    let targets ← field? fields "targets" (list? GitRepository.fromValue?)
    some (.replicate targets)
  | _ => none

/-- `Deserialize` of a policy. -/
def RepositoryPolicy.fromValue? (value : JsonText) : Option RepositoryPolicy := do
  let fields ← value.strict? ["operation_state", "canonical_repository", "target_branch",
    "integration_policy", "replication_policy"]
  let operationState ← field? fields "operation_state" OperationState.fromValue?
  let canonicalRepository ← field? fields "canonical_repository" GitRepository.fromValue?
  let targetBranch ← field? fields "target_branch" asText
  let integrationPolicy ← field? fields "integration_policy" IntegrationPolicy.fromValue?
  let replicationPolicy ← field? fields "replication_policy" ReplicationPolicy.fromValue?
  some { operationState, canonicalRepository, targetBranch, integrationPolicy, replicationPolicy }

/-! ## What is written is read back -/

/-- A word is read back. -/
theorem wordFromValue?_toNat (word : UInt64) : wordFromValue? (.number word.toNat) = some word := by
  rw [wordFromValue?, if_pos word.toNat_lt, UInt64.ofNat_toNat]

/-- A repository is read back. -/
theorem ProviderRepository.fromValue?_toValue (value : ProviderRepository) :
    fromValue? value.toValue = some value := by
  obtain ⟨provider, _, _, _⟩ := value
  cases provider <;> rfl

/-- The bytes of a path that is text. -/
theorem bytesOf_pathText {path : List UInt8} {text : String}
    (read : GitRepository.pathText path = some text) : bytesOf text = path := by
  unfold GitRepository.pathText String.fromUTF8? at read
  split at read
  · cases read
    rfl
  · cases read

/-- A repository that can be written is read back. -/
theorem GitRepository.exists_value {repository : GitRepository} (storable : repository.Storable) :
    ∃ value, repository.toValue? = some value ∧ fromValue? value = some repository := by
  cases repository with
  | accessible fetchUrl pushUrl repositoryId provider objectFormat =>
    refine ⟨_, rfl, ?_⟩
    show (ProviderRepository.fromValue? provider.toValue).bind (fun provider =>
      (objectFormatFromValue? (.text objectFormat.asStr)).bind _) = some _
    rw [provider.fromValue?_toValue]
    cases objectFormat <;> rfl
  | localBare path device inode objectFormat =>
    obtain ⟨text, read⟩ := Option.isSome_iff_exists.mp storable
    refine ⟨_, by rw [toValue?, read]; rfl, ?_⟩
    show (wordFromValue? (.number device.toNat)).bind (fun device =>
      (wordFromValue? (.number inode.toNat)).bind fun inode =>
        (objectFormatFromValue? (.text objectFormat.asStr)).bind _) = some _
    rw [wordFromValue?_toNat, wordFromValue?_toNat]
    obtain rfl := bytesOf_pathText read
    cases objectFormat <;> rfl

/-- An obligation is read back. -/
theorem obligationFromValue?_value (obligation : Obligation) :
    obligationFromValue? (obligationValue obligation) = some obligation := by
  cases obligation <;> rfl

/-- An operation state is read back. -/
theorem OperationState.fromValue?_toValue (state : OperationState) :
    fromValue? state.toValue = some state := by
  cases state with
  | enabled | disabled => rfl
  | draining obligations =>
    show (list? obligationFromValue? (.array (obligations.items.map obligationValue))).bind
      (fun obligations => some (draining (.ofList obligations))) = _
    rw [list?_array_map obligationFromValue?_value, Option.bind_some, ObligationSet.ofList_items]

/-- An integration policy is read back. -/
theorem IntegrationPolicy.fromValue?_toValue (policy : IntegrationPolicy) :
    fromValue? policy.toValue = some policy := by
  cases policy <;> rfl

/-- Repositories that can be written are read back, in their order. -/
theorem exists_values {targets : List GitRepository}
    (storable : ∀ target ∈ targets, target.Storable) :
    ∃ values, targets.mapM GitRepository.toValue? = some values ∧
      values.mapM GitRepository.fromValue? = some targets := by
  induction targets with
  | nil => exact ⟨[], rfl, rfl⟩
  | cons target rest values_rest =>
    obtain ⟨value, written, read⟩ := GitRepository.exists_value (storable target List.mem_cons_self)
    obtain ⟨values, written_rest, read_rest⟩ :=
      values_rest fun other mem => storable other (List.mem_cons_of_mem _ mem)
    refine ⟨value :: values, ?_, ?_⟩
    · simp [List.mapM_cons, written, written_rest]
    · simp [List.mapM_cons, read, read_rest]

/-- A replication policy that can be stored is read back. -/
theorem ReplicationPolicy.exists_value {policy : ReplicationPolicy}
    (storable : ∀ targets, policy = .replicate targets → ∀ target ∈ targets, target.Storable) :
    ∃ value, policy.toValue? = some value ∧ fromValue? value = some policy := by
  cases policy with
  | none => exact ⟨_, rfl, rfl⟩
  | replicate targets =>
    obtain ⟨values, written, read⟩ := exists_values (storable targets rfl)
    refine ⟨_, by rw [toValue?, written]; rfl, ?_⟩
    show (values.mapM GitRepository.fromValue?).bind (fun targets => some (replicate targets)) = _
    rw [read]
    rfl

/-- A policy whose repositories can be written is read back. -/
theorem RepositoryPolicy.exists_value {policy : RepositoryPolicy}
    (storable : ∀ repository ∈ policy.repositories, repository.Storable) :
    ∃ value, policy.toValue? = some value ∧ fromValue? value = some policy := by
  obtain ⟨state, canonical, branch, integration, replication⟩ := policy
  have first : canonical.Storable := storable canonical List.mem_cons_self
  obtain ⟨repository, written, read⟩ := GitRepository.exists_value first
  have others : ∀ targets, replication = .replicate targets →
      ∀ target ∈ targets, target.Storable := by
    rintro targets rfl target mem
    exact storable target (List.mem_cons_of_mem _ mem)
  obtain ⟨replicas, replicated, replayed⟩ := ReplicationPolicy.exists_value others
  refine ⟨_, by rw [toValue?, written, replicated]; rfl, ?_⟩
  show (OperationState.fromValue? state.toValue).bind (fun state =>
    (GitRepository.fromValue? repository).bind fun canonical =>
      (IntegrationPolicy.fromValue? integration.toValue).bind fun integration =>
        (ReplicationPolicy.fromValue? replicas).bind _) = some _
  rw [state.fromValue?_toValue, read, integration.fromValue?_toValue, replayed]
  rfl

/-- A validated policy is the policy that was given. Its canonical repository and replicas have
distinct keys, distinct push arguments and one object format, and it can be stored and read back. -/
theorem validated_policy_exact {policy result : RepositoryPolicy}
    (accepted : policy.validate = .ok result) :
    result = policy ∧ Unambiguous policy.canonicalRepository policy.targets ∧
      ∃ value, policy.toValue? = some value ∧ RepositoryPolicy.fromValue? value = some policy := by
  obtain ⟨same, unambiguous, storable⟩ := RepositoryPolicy.validate_eq_ok accepted
  exact ⟨same, unambiguous, RepositoryPolicy.exists_value storable⟩

/-- A policy of a provider repository with a local replica, which is draining. -/
def drainingPolicy : RepositoryPolicy where
  operationState := .draining (.ofList [.workspace "w1", .queueItem "q1", .workspace "w1"])
  canonicalRepository := .accessible "https://github.com/iq/example.git"
    "git@github.com:iq/example.git" "R_1" ⟨.github, "github.com", "iq/example", "R_1"⟩ .sha1
  targetBranch := "main"
  integrationPolicy := .mergeRequestRequired
  replicationPolicy := .replicate [.localBare (bytesOf "/srv/example.git") 64 2049 .sha1]

/-- The draining policy of the sample is validated as it is and read back. -/
theorem validated_policy_exact_draining :
    drainingPolicy = drainingPolicy ∧
      Unambiguous drainingPolicy.canonicalRepository drainingPolicy.targets ∧
      ∃ value, drainingPolicy.toValue? = some value ∧
        RepositoryPolicy.fromValue? value = some drainingPolicy := by
  have accepted : drainingPolicy.validate = .ok drainingPolicy := by decide +kernel
  exact validated_policy_exact accepted

end Iq.Policy
