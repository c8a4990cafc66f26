import Iq.Library.Checked
import Iq.Library.TextOrder
import Iq.Library.Trim
import Iq.Provider.Locator
import Iq.Store.Schema
import Mathlib.Data.List.Dedup

/-!
# Repository policies

`RepositoryPolicy::validate`: which repositories a policy may name. A local bare repository is known
by its device and inode and an accessible one by its provider, host and immutable identifier;
whatever the spelling of its transports, these are what must differ between the canonical repository
and the replicas.
-/

namespace Iq.Policy

open Library

/-! ## Transports -/

/-- `with_context`: an error under the context it is reported in. -/
def withContext {α : Type} (context : String) (result : Except String α) : Except String α :=
  result.mapError fun error => context ++ ": " ++ error

/-- `require_nonblank`. -/
def requireNonblank (value label : String) : Check :=
  check (isExactText value) s!"{label} must be non-empty and have no surrounding whitespace"

/-- `str::starts_with` on characters. -/
def beginsWith (pattern : String) (text : List Char) : Bool := pattern.toList.isPrefixOf text

/-- `str::contains` on characters. -/
def includes (pattern : String) (text : List Char) : Bool :=
  containsCharacters pattern.toList text

/-- `to_ascii_lowercase`. -/
def asciiLowercase (text : List Char) : List Char := text.map Char.toLower

/-- `strip_suffix` with the text itself when the suffix is not there. -/
def withoutSuffix (suffix : String) (text : List Char) : List Char :=
  if suffix.toList.isSuffixOf text then text.take (text.length - suffix.toList.length) else text

/-- What stands after the last separator, or the whole text. -/
def afterLast (separator : Char) (text : List Char) : List Char :=
  match rsplitOnce separator text with
  | some (_, after) => after
  | none => text

/-- `is_local_git_transport`. -/
def isLocalGitTransport (value : List Char) : Bool :=
  if beginsWith "file://" value || value.head? == some '/' then true
  else if includes "://" value then false
  else
    match splitOnce [':'] value with
    | none => true
    | some (authority, _) => authority.contains '/'

/-- `transport_authority_host`. -/
def transportAuthorityHost (authority : List Char) (defaultPort : Nat) :
    Except String (List Char) :=
  let host := afterLast '@' authority
  match rsplitOnce ':' host with
  | none => .ok host
  | some (host, port) =>
    match Decimal.parse (2 ^ 16) port with
    | none => .error "provider Git transport has an invalid endpoint port"
    | some port =>
      if port != defaultPort then
        .error "provider Git transport uses a non-default endpoint port"
      else .ok host

/-- The host and the path of a transport, before they are normalized. -/
def transportParts (value : List Char) : Except String (List Char × List Char) :=
  if beginsWith "https://" value then
    match splitOnce ['/'] (value.drop 8) with
    | none => .error "URL Git transport has no repository path"
    | some (authority, path) =>
      if authority.contains '@' then
        .error "HTTPS Git transport must not contain credentials or userinfo"
      else (transportAuthorityHost authority 443).map fun host => (host, path)
  else if beginsWith "ssh://" value then
    match splitOnce ['/'] (value.drop 6) with
    | none => .error "SSH Git transport has no repository path"
    | some (authority, path) =>
      (transportAuthorityHost authority 22).map fun host => (host, path)
  else
    match splitOnce [':'] value with
    | none => .error "Git transport must be HTTPS, SSH, or SCP syntax"
    | some (authority, path) => .ok (afterLast '@' authority, path)

/-- `parse_git_transport`: the host and the repository that a transport names. -/
def parseGitTransport (value : List Char) : Except String (List Char × List Char) := do
  let (host, path) ← transportParts value
  let host := asciiLowercase host
  let repository := trim (· == '/') (withoutSuffix ".git" path)
  if host.isEmpty || repository.isEmpty || (repository.splitOn '/').any List.isEmpty then
    .error "Git transport has invalid host or repository path"
  else .ok (host, repository)

/-- `validate_accessible_transport`. -/
def validateAccessibleTransport (value label : String) : Check := do
  let text := value.toList
  if beginsWith "https://" text || beginsWith "ssh://" text then
    let _ ← withContext s!"parse {label} Git transport" (parseGitTransport text)
    .ok ()
  else if includes "://" text || includes "::" text || beginsWith "ext::" text then
    .error s!"{label} Git transport must use HTTPS, SSH, or SCP syntax"
  else
    match splitOnce [':'] text with
    | none => .error "Git transport must use HTTPS, SSH, or SCP syntax"
    | some (authority, path) =>
      if authority.contains '/' || authority.isEmpty || path.isEmpty then
        .error s!"{label} Git transport must use HTTPS, SSH, or SCP syntax"
      else
        let _ ← withContext s!"parse {label} Git transport" (parseGitTransport text)
        .ok ()

/-! ## Repositories -/

/-- `ProviderRepository`. -/
structure ProviderRepository where
  provider : Provider
  host : String
  repository : String
  repositoryId : String
  deriving DecidableEq, Repr

/-- `GitRepository`. The path of a local one is its bytes. -/
inductive GitRepository where
  | localBare (path : List UInt8) (device inode : UInt64) (objectFormat : GitObjectFormat)
  | accessible (fetchUrl pushUrl repositoryId : String) (provider : ProviderRepository)
    (objectFormat : GitObjectFormat)
  deriving DecidableEq, Repr

/-- `validate_provider_repository`. -/
def validateProviderRepository (value : ProviderRepository) (label : String) : Check := do
  requireNonblank value.host s!"{label} provider host"
  let host := value.host.toList
  check (host == asciiLowercase host && !host.any (fun character => "/:@".toList.contains character)
      && host.head? != some '.' && host.getLast? != some '.')
    s!"{label} provider host must be one canonical lowercase DNS name"
  requireNonblank value.repository s!"{label} provider repository"
  let repository := value.repository.toList
  check (repository.contains '/' && !(repository.splitOn '/').any List.isEmpty)
    s!"{label} provider repository must contain non-empty path components"
  requireNonblank value.repositoryId s!"{label} immutable provider repository ID"

/-- `validate_provider_transport`. -/
def validateProviderTransport (transport : String) (provider : ProviderRepository)
    (label : String) : Check := do
  let (host, repository) ←
    withContext s!"parse {label} provider Git transport" (parseGitTransport transport.toList)
  check (host == provider.host.toList && repository == provider.repository.toList)
    (s!"{label} Git transport does not identify provider repository " ++
      s!"{provider.host}/{provider.repository}")

namespace GitRepository

/-- `Path::to_str`. -/
def pathText (path : List UInt8) : Option String := String.fromUTF8? ⟨path.toArray⟩

/-- The checks of `GitRepository::validate`. -/
def verify (repository : GitRepository) (label : String) : Check :=
  match repository with
  | .localBare path device inode _ => do
    check (path.head? == some 47) s!"{label} local bare path must be absolute"
    check (pathText path).isSome s!"{label} local bare path must be valid UTF-8"
    check (device != 0 && inode != 0)
      s!"{label} local bare identity must contain device and inode"
  | .accessible fetchUrl pushUrl repositoryId provider _ => do
    requireNonblank fetchUrl s!"{label} fetch URL"
    requireNonblank pushUrl s!"{label} push URL"
    check (!(isLocalGitTransport fetchUrl.toList || isLocalGitTransport pushUrl.toList))
      s!"{label} local transport must use the local_bare variant"
    validateAccessibleTransport fetchUrl label
    validateAccessibleTransport pushUrl label
    requireNonblank repositoryId s!"{label} immutable repository ID"
    validateProviderRepository provider label
    check (repositoryId == provider.repositoryId)
      s!"{label} repository ID must equal its immutable provider repository ID"
    validateProviderTransport fetchUrl provider label
    validateProviderTransport pushUrl provider label

/-- `GitRepository::validate`. -/
def validate (repository : GitRepository) (label : String) : Except String GitRepository := do
  repository.verify label
  return repository

/-- `push_argument`, in bytes. -/
def pushArgument : GitRepository → List UInt8
  | .localBare path _ _ _ => path
  | .accessible _ pushUrl _ _ _ => bytesOf pushUrl

/-- `provider`. -/
def provider? : GitRepository → Option ProviderRepository
  | .localBare .. => none
  | .accessible _ _ _ provider _ => some provider

/-- `object_format`. -/
def objectFormat : GitRepository → GitObjectFormat
  | .localBare _ _ _ objectFormat => objectFormat
  | .accessible _ _ _ _ objectFormat => objectFormat

/-- The name of a provider in a stored value. -/
def providerName : Provider → String
  | .github => "github"
  | .gitlab => "gitlab"

/-- `PhysicalRepositoryIdentity`, as it is serialized. -/
def physicalIdentity : GitRepository → JsonText
  | .localBare _ device inode _ => .object [
      ("kind", .text "local_bare"),
      ("device", .number device.toNat),
      ("inode", .number inode.toNat)]
  | .accessible _ _ _ provider _ => .object [
      ("kind", .text "provider"),
      ("provider", .text (providerName provider.provider)),
      ("host", .text provider.host),
      ("repository_id", .text provider.repositoryId)]

/-- `destination_identity_key`, which is `physical_identity_key`. -/
def destinationIdentityKey (repository : GitRepository) : String :=
  String.ofList repository.physicalIdentity.compact

/-- `has_same_push_destination`. -/
def hasSamePushDestination (repository other : GitRepository) : Bool :=
  repository.pushArgument == other.pushArgument

end GitRepository

/-! ## Policies -/

/-- The variant of an obligation, in the order of their declaration. -/
def obligationRank : Obligation → Nat
  | .workspace _ => 0
  | .queueItem _ => 1
  | .replication _ => 2

/-- The identifier of an obligation. -/
def obligationId : Obligation → String
  | .workspace id | .queueItem id | .replication id => id

/-- The derived order of obligations. -/
def ObligationOrder (first second : Obligation) : Prop :=
  obligationRank first < obligationRank second ∨
    obligationRank first = obligationRank second ∧
      TextOrder (obligationId first) (obligationId second)

instance : DecidableRel ObligationOrder := fun first second =>
  inferInstanceAs (Decidable (obligationRank first < obligationRank second ∨
    obligationRank first = obligationRank second ∧
      TextOrder (obligationId first) (obligationId second)))

instance : Std.Total ObligationOrder where
  total first second := by
    unfold ObligationOrder
    rcases Nat.lt_trichotomy (obligationRank first) (obligationRank second) with less | same | more
    · exact .inl (.inl less)
    · rcases Std.Total.total (r := TextOrder) (obligationId first) (obligationId second) with
        before | after
      · exact .inl (.inr ⟨same, before⟩)
      · exact .inr (.inr ⟨same.symm, after⟩)
    · exact .inr (.inl more)

instance : IsTrans Obligation ObligationOrder where
  trans first second third before after := by
    unfold ObligationOrder at *
    rcases before with less | ⟨same, before⟩
    · left
      rcases after with less' | ⟨same', -⟩ <;> omega
    · rcases after with less | ⟨same', after⟩
      · left
        omega
      · exact .inr ⟨same.trans same', IsTrans.trans _ _ _ before after⟩

/-- `BTreeSet<Obligation>`: obligations in order, each once. -/
structure ObligationSet where
  items : List Obligation
  sorted : items.Pairwise ObligationOrder
  distinct : items.Nodup
  deriving DecidableEq, Repr

/-- The set of a list. -/
def ObligationSet.ofList (obligations : List Obligation) : ObligationSet where
  items := obligations.dedup.insertionSort ObligationOrder
  sorted := List.pairwise_insertionSort _ _
  distinct := (List.perm_insertionSort _ _).nodup_iff.mpr (List.nodup_dedup obligations)

/-- The items of a set make up the set. -/
theorem ObligationSet.ofList_items (set : ObligationSet) : ofList set.items = set := by
  obtain ⟨items, sorted, distinct⟩ := set
  simp only [ofList, mk.injEq]
  rw [List.dedup_eq_self.mpr distinct, sorted.insertionSort_eq]

/-- `OperationState`. -/
inductive OperationState where
  | enabled
  | draining (obligations : ObligationSet)
  | disabled
  deriving DecidableEq, Repr

/-- `IntegrationPolicy`. -/
inductive IntegrationPolicy where
  | direct
  | mergeRequestRequired
  deriving DecidableEq, Repr

/-- `ReplicationPolicy`. -/
inductive ReplicationPolicy where
  | none
  | replicate (targets : List GitRepository)
  deriving DecidableEq, Repr

/-- `RepositoryPolicy`. -/
structure RepositoryPolicy where
  operationState : OperationState
  canonicalRepository : GitRepository
  targetBranch : String
  integrationPolicy : IntegrationPolicy
  replicationPolicy : ReplicationPolicy
  deriving DecidableEq, Repr

/-- `validate_target_branch`. -/
def validateTargetBranch (value : String) : Check :=
  check (value == "main" || value == "master") "IQ target branch must be main or master"

/-- The loop over the targets, with the identities and the targets before. -/
def validateTargets (canonical : GitRepository) :
    List GitRepository → List String → List GitRepository → Except String (List GitRepository)
  | [], _, validated => .ok validated
  | target :: rest, identities, validated => do
    let target ← target.validate "replica"
    check (target.objectFormat == canonical.objectFormat)
      "replica object format must equal canonical repository object format"
    let identity := target.destinationIdentityKey
    check (!(identity == canonical.destinationIdentityKey ||
        target.hasSamePushDestination canonical))
      "canonical repository cannot also be a replica"
    check (!(identities.contains identity || validated.any target.hasSamePushDestination))
      "replication policy contains a duplicate target"
    validateTargets canonical rest (identity :: identities) (validated ++ [target])

/-- The check of a replication policy. -/
def validateReplication (canonical : GitRepository) :
    ReplicationPolicy → Except String ReplicationPolicy
  | .none => .ok .none
  | .replicate targets => do
    check (!targets.isEmpty) "replication policy must contain at least one target"
    let validated ← validateTargets canonical targets [] []
    return .replicate validated

namespace RepositoryPolicy

/-- `RepositoryPolicy::validate`. -/
def validate (policy : RepositoryPolicy) : Except String RepositoryPolicy := do
  validateTargetBranch policy.targetBranch
  let canonicalRepository ← policy.canonicalRepository.validate "canonical repository"
  let replicationPolicy ← validateReplication canonicalRepository policy.replicationPolicy
  check (!(policy.integrationPolicy == .mergeRequestRequired &&
      canonicalRepository.provider?.isNone))
    "merge-request-required integration needs a provider canonical repository"
  return {
    operationState := policy.operationState
    canonicalRepository
    targetBranch := policy.targetBranch
    integrationPolicy := policy.integrationPolicy
    replicationPolicy }

/-- The targets of a policy. -/
def targets (policy : RepositoryPolicy) : List GitRepository :=
  match policy.replicationPolicy with
  | .none => []
  | .replicate targets => targets

/-- `physical_repositories`, without their roles. -/
def repositories (policy : RepositoryPolicy) : List GitRepository :=
  policy.canonicalRepository :: policy.targets

end RepositoryPolicy

/-! ## What a validated policy names -/

/-- A canonical repository and replicas that cannot be confused. -/
structure Unambiguous (canonical : GitRepository) (targets : List GitRepository) : Prop where
  keys : ((canonical :: targets).map GitRepository.destinationIdentityKey).Nodup
  pushes : ((canonical :: targets).map GitRepository.pushArgument).Nodup
  formats : ∀ target ∈ targets, target.objectFormat = canonical.objectFormat

/-- A repository whose path can be written as text. -/
def GitRepository.Storable : GitRepository → Prop
  | .localBare path _ _ _ => (pathText path).isSome = true
  | .accessible .. => True

variable {repository canonical target result : GitRepository} {targets validated : List GitRepository}
  {label : String}

/-- A validated repository is returned as it is. -/
theorem GitRepository.validate_eq_ok (accepted : repository.validate label = .ok result) :
    result = repository ∧ repository.Storable := by
  unfold validate at accepted
  obtain ⟨checked, same⟩ := Checked.seq_eq_ok.mp accepted
  refine ⟨(Except.ok.inj same).symm, ?_⟩
  cases repository with
  | accessible => trivial
  | localBare path device inode objectFormat =>
    obtain ⟨-, checked⟩ := Checked.seq_eq_ok.mp checked
    obtain ⟨text, -⟩ := Checked.seq_eq_ok.mp checked
    exact check_eq_ok.mp text

/-- One repository is unambiguous. -/
theorem Unambiguous.single : Unambiguous canonical [] where
  keys := List.nodup_singleton _
  pushes := List.nodup_singleton _
  formats _ mem := absurd mem List.not_mem_nil

/-- One more target with a key and a push argument of its own. -/
theorem Unambiguous.concat (unambiguous : Unambiguous canonical validated)
    (format : target.objectFormat = canonical.objectFormat)
    (key : target.destinationIdentityKey ∉
      (canonical :: validated).map GitRepository.destinationIdentityKey)
    (push : target.pushArgument ∉ (canonical :: validated).map GitRepository.pushArgument) :
    Unambiguous canonical (validated ++ [target]) where
  keys := by
    rw [← List.cons_append, List.map_append]
    exact List.nodup_append.mpr ⟨unambiguous.keys, List.nodup_singleton _, by
      rintro old mem new fresh rfl
      rw [List.map_singleton, List.mem_singleton] at fresh
      exact key (fresh ▸ mem)⟩
  pushes := by
    rw [← List.cons_append, List.map_append]
    exact List.nodup_append.mpr ⟨unambiguous.pushes, List.nodup_singleton _, by
      rintro old mem new fresh rfl
      rw [List.map_singleton, List.mem_singleton] at fresh
      exact push (fresh ▸ mem)⟩
  formats other mem := by
    rcases List.mem_append.mp mem with mem | mem
    · exact unambiguous.formats other mem
    · rw [List.mem_singleton.mp mem]
      exact format

/-- The loop over the targets keeps them apart, and returns them as they are. -/
theorem validateTargets_eq_ok {identities : List String} {result : List GitRepository}
    (unambiguous : Unambiguous canonical validated)
    (known : ∀ target ∈ validated, target.destinationIdentityKey ∈ identities)
    (accepted : validateTargets canonical targets identities validated = .ok result) :
    result = validated ++ targets ∧ Unambiguous canonical (validated ++ targets) ∧
      ∀ target ∈ targets, target.Storable := by
  induction targets generalizing identities validated with
  | nil =>
    rw [List.append_nil]
    exact ⟨(Except.ok.inj accepted).symm, unambiguous, fun _ mem => absurd mem List.not_mem_nil⟩
  | cons target rest rest_ok =>
    rw [validateTargets] at accepted
    obtain ⟨checked, valid, rest_accepted⟩ := Checked.bind_eq_ok.mp accepted
    clear accepted
    obtain ⟨rfl, storable⟩ := GitRepository.validate_eq_ok valid
    obtain ⟨format, accepted⟩ := Checked.seq_eq_ok.mp rest_accepted
    obtain ⟨apart, accepted⟩ := Checked.seq_eq_ok.mp accepted
    obtain ⟨fresh, accepted⟩ := Checked.seq_eq_ok.mp accepted
    simp only [check_eq_ok, beq_iff_eq, Bool.not_eq_true', Bool.or_eq_false_iff,
      beq_eq_false_iff_ne, GitRepository.hasSamePushDestination, List.contains_eq_mem,
      decide_eq_false_iff_not, List.any_eq_false] at format apart fresh
    have key : checked.destinationIdentityKey ∉
        (canonical :: validated).map GitRepository.destinationIdentityKey := by
      rw [List.map_cons, List.mem_cons, not_or]
      refine ⟨apart.1, fun mem => ?_⟩
      obtain ⟨other, mem, same⟩ := List.mem_map.mp mem
      exact fresh.1 (same ▸ known other mem)
    have push : checked.pushArgument ∉
        (canonical :: validated).map GitRepository.pushArgument := by
      rw [List.map_cons, List.mem_cons, not_or]
      refine ⟨apart.2, fun mem => ?_⟩
      obtain ⟨other, mem, same⟩ := List.mem_map.mp mem
      exact fresh.2 other mem same.symm
    have known' : ∀ target ∈ validated ++ [checked],
        target.destinationIdentityKey ∈ checked.destinationIdentityKey :: identities := by
      intro other mem
      rcases List.mem_append.mp mem with mem | mem
      · exact List.mem_cons_of_mem _ (known other mem)
      · rw [List.mem_singleton.mp mem]
        exact List.mem_cons_self
    obtain ⟨same, whole, stored⟩ := rest_ok (unambiguous.concat format key push) known' accepted
    rw [List.append_assoc, List.singleton_append] at same whole
    exact ⟨same, whole, List.forall_mem_cons.mpr ⟨storable, stored⟩⟩

/-- A validated policy is returned as it is, and names repositories that cannot be confused. -/
theorem RepositoryPolicy.validate_eq_ok {policy result : RepositoryPolicy}
    (accepted : policy.validate = .ok result) :
    result = policy ∧ Unambiguous policy.canonicalRepository policy.targets ∧
      ∀ repository ∈ policy.repositories, repository.Storable := by
  obtain ⟨state, canonical, branch, integration, replication⟩ := policy
  obtain ⟨-, accepted⟩ := Checked.seq_eq_ok.mp accepted
  obtain ⟨checked, valid, accepted⟩ := Checked.bind_eq_ok.mp accepted
  obtain ⟨replicas, replicated, accepted⟩ := Checked.bind_eq_ok.mp accepted
  obtain ⟨-, written⟩ := Checked.seq_eq_ok.mp accepted
  obtain ⟨same, storable⟩ := GitRepository.validate_eq_ok valid
  obtain rfl : checked = canonical := same
  cases replication with
  | none =>
    cases replicated
    exact ⟨(Except.ok.inj written).symm, .single, List.forall_mem_singleton.mpr storable⟩
  | replicate targets =>
    obtain ⟨-, replicated⟩ := Checked.seq_eq_ok.mp replicated
    obtain ⟨validated, loop, replicated⟩ := Checked.bind_eq_ok.mp replicated
    cases replicated
    obtain ⟨rfl, unambiguous, stored⟩ := validateTargets_eq_ok .single nofun loop
    exact ⟨(Except.ok.inj written).symm, unambiguous, List.forall_mem_cons.mpr ⟨storable, stored⟩⟩

end Iq.Policy
