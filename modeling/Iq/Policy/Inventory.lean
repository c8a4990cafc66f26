import Iq.Domain.EncodedPath
import Iq.Policy.RepositoryJson

/-!
# Policy inventories

`PolicyInventory::validate`: the policies that a migration is given. The inventory keeps its keys
and identifiers apart and validates each policy on its own.
-/

namespace Iq.Policy

open Library

/-! ## Inventories -/

/-- `RepositoryBinding`, with the fields that are compared. -/
structure RepositoryBinding where
  topLevel : List UInt8
  objectFormat : GitObjectFormat
  deriving DecidableEq, Repr

/-- `InterruptedProvisioningDisposition`. -/
inductive InterruptedProvisioningDisposition where
  | preserve
  | cancel
  deriving DecidableEq, Repr

/-- `MigrationRepositoryState`. -/
inductive MigrationRepositoryState where
  | ready (gitBinding : Option RepositoryBinding)
  | reserved (disposition : InterruptedProvisioningDisposition)
  | stagingDirectory (disposition : InterruptedProvisioningDisposition)
  | gitInitialized (disposition : InterruptedProvisioningDisposition)
    (gitBinding : Option RepositoryBinding)
  | remoteConfigured (disposition : InterruptedProvisioningDisposition)
    (gitBinding : Option RepositoryBinding)
  | targetFetched (disposition : InterruptedProvisioningDisposition)
    (gitBinding : Option RepositoryBinding)
  | targetCheckedOut (disposition : InterruptedProvisioningDisposition)
    (gitBinding : Option RepositoryBinding)
  | rootPublished (disposition : InterruptedProvisioningDisposition)
    (gitBinding : Option RepositoryBinding)
  | policyPublished (disposition : InterruptedProvisioningDisposition)
    (gitBinding : Option RepositoryBinding)
  | riftInitialized (disposition : InterruptedProvisioningDisposition)
    (gitBinding : Option RepositoryBinding)
  | riftVerified (disposition : InterruptedProvisioningDisposition)
    (gitBinding : Option RepositoryBinding)
  | ownerPublished (disposition : InterruptedProvisioningDisposition)
    (gitBinding : Option RepositoryBinding)
  | childRootsPublished (disposition : InterruptedProvisioningDisposition)
    (gitBinding : Option RepositoryBinding)
  deriving DecidableEq, Repr

/-- `git_binding`. -/
def MigrationRepositoryState.gitBinding? : MigrationRepositoryState → Option RepositoryBinding
  | .ready gitBinding | .gitInitialized _ gitBinding | .remoteConfigured _ gitBinding
  | .targetFetched _ gitBinding | .targetCheckedOut _ gitBinding | .rootPublished _ gitBinding
  | .policyPublished _ gitBinding | .riftInitialized _ gitBinding | .riftVerified _ gitBinding
  | .ownerPublished _ gitBinding | .childRootsPublished _ gitBinding => gitBinding
  | .reserved _ | .stagingDirectory _ => none

/-- Whether a state stands after the Git repository was made. -/
def MigrationRepositoryState.requiresBinding : MigrationRepositoryState → Bool
  | .reserved _ | .stagingDirectory _ => false
  | _ => true

/-- `MigrationDevelopmentWorkspace`. -/
structure MigrationDevelopmentWorkspace where
  workspaceId : String
  path : String
  riftId : String
  sourceRiftId : String
  baseSha : String
  gitBinding : Option RepositoryBinding
  deriving DecidableEq, Repr

/-- `MigrationWorkspaceIdentity`. -/
structure MigrationWorkspaceIdentity where
  path : String
  riftId : String
  sourceRiftId : String
  gitBinding : Option RepositoryBinding
  deriving DecidableEq, Repr

/-- `IncompatibleItemDisposition`. -/
inductive IncompatibleItemDisposition where
  | continue
  | cancel
  deriving DecidableEq, Repr

/-- `ActiveItemDisposition`, without the merge method, which is not checked. -/
structure ActiveItemDisposition where
  itemId : String
  disposition : IncompatibleItemDisposition
  admittedBaseSha : Option String
  providerRepository : Option ProviderRepository
  workspaceIdentity : Option MigrationWorkspaceIdentity
  runnerSnapshot : Option RunnerSnapshot
  runnerTerminationAuthority : Option LegacyRunnerScopeAuthority
  deriving DecidableEq, Repr

/-- `PolicyAssignment`. -/
structure PolicyAssignment where
  repoKey : String
  policy : RepositoryPolicy
  repository : MigrationRepositoryState
  developmentWorkspaces : List MigrationDevelopmentWorkspace
  itemDispositions : List ActiveItemDisposition
  deriving DecidableEq, Repr

/-- `PolicyInventory`. -/
structure PolicyInventory where
  version : Nat
  repositories : List PolicyAssignment
  deriving DecidableEq, Repr

/-! ## Checks of an assignment -/

/-- `Path::is_absolute`. -/
def isAbsolute (path : String) : Bool := (bytesOf path).head? == some slash

/-- Whether a binding has a top level, as `Path`s are compared. -/
def RepositoryBinding.hasTopLevel (binding : RepositoryBinding) (path : String) : Bool :=
  pathComponents binding.topLevel == pathComponents (bytesOf path)

/-- `validate_migration_repository_state`. -/
def validateMigrationRepositoryState (state : MigrationRepositoryState)
    (objectFormat : GitObjectFormat) : Check := do
  check (!(state.requiresBinding && state.gitBinding?.isNone))
    "migration repository state has no verified Git binding"
  check (!state.gitBinding?.any fun binding => binding.objectFormat != objectFormat)
    "migration repository Git binding object format differs from policy"

/-- `validate_development_workspace`, with the identifiers seen before. -/
def validateDevelopmentWorkspace (workspace : MigrationDevelopmentWorkspace)
    (identities : List String) (objectFormat : GitObjectFormat) : Check := do
  requireNonblank workspace.workspaceId "migration development workspace ID"
  check (!identities.contains workspace.workspaceId)
    "migration inventory contains duplicate development workspaces"
  requireNonblank workspace.path "migration development workspace path"
  check (isAbsolute workspace.path) "migration development workspace path must be absolute"
  requireNonblank workspace.riftId "migration development workspace Rift ID"
  requireNonblank workspace.sourceRiftId "migration development workspace source Rift ID"
  match workspace.gitBinding with
  | none => .error "migration development workspace has no verified Git binding"
  | some binding => do
    check (binding.hasTopLevel workspace.path)
      "migration development workspace binding has a different top-level"
    check (binding.objectFormat == objectFormat)
      "migration development workspace object format differs from policy"
    objectFormat.requireOid workspace.baseSha "migration development base SHA"

/-- An executable that a runner names. -/
def isExecutableIdentity (executable : ExecutableIdentity) : Bool :=
  isAbsolute executable.path && executable.device != 0 && executable.inode != 0 &&
    isDigest executable.sha256

/-- `RunnerSnapshot::validate`. -/
def validateRunnerSnapshot (runner : RunnerSnapshot) : Check := do
  requireExactText runner.agent "runner agent"
  requireExactText runner.model "runner model"
  requireExactText runner.credentialEnv "runner credential environment variable"
  check ((bytesOf runner.credentialEnv).zipIdx.all fun (byte, index) =>
      byte == 95 || (65 ≤ byte.toNat && byte.toNat ≤ 90) || (index > 0 && isAsciiDigit byte))
    "runner credential environment variable must be a valid uppercase environment name"
  check (isExecutableIdentity runner.executable) "runner executable identity is invalid"
  check (runner.cycleTimeoutSeconds != 0 && runner.bounds.maxLogBytes != 0 &&
      runner.bounds.maxResultBytes != 0 && runner.bounds.maxProcesses != 0 &&
      runner.bounds.memoryBytes != 0 && runner.bounds.cpuSeconds != 0 &&
      runner.bounds.writableBytes != 0 && runner.bounds.openFiles != 0)
    "runner limits must all be positive"
  requireExactText runner.sandbox.implementation "runner sandbox implementation"
  check (isExecutableIdentity runner.sandbox.bubblewrap)
    "runner bubblewrap executable identity is invalid"
  check (isExecutableIdentity runner.sandbox.unshare)
    "runner unshare executable identity is invalid"
  check (isExecutableIdentity runner.sandbox.systemdRun)
    "runner systemd-run executable identity is invalid"
  check (isExecutableIdentity runner.sandbox.systemctl)
    "runner systemctl executable identity is invalid"

/-- `LegacyRunnerScopeAuthority::validate`. -/
def validateLegacyScope (scope : LegacyRunnerScopeAuthority) : Check := do
  validateCycleId scope.cycleId
  check (scope.unitName == "iq-agent-" ++ scope.cycleId ++ ".scope")
    "legacy systemd unit name differs from exact cycle authority"
  check (scope.pid != 0 && scope.processStartTicks != 0)
    "legacy runner scope process identity is invalid"
  check (startsWith scope.controlGroup "/user.slice/" &&
      endsWith scope.controlGroup ("/" ++ scope.unitName))
    "legacy runner cgroup differs from its exact systemd scope"

/-- The check of a workspace that an item keeps. -/
def validateWorkspaceIdentity (workspace : MigrationWorkspaceIdentity)
    (objectFormat : GitObjectFormat) : Check := do
  requireNonblank workspace.path "migration workspace path"
  check (isAbsolute workspace.path) "migration workspace path must be absolute"
  requireNonblank workspace.riftId "migration workspace Rift ID"
  requireNonblank workspace.sourceRiftId "migration workspace source Rift ID"
  match workspace.gitBinding with
  | none => .error "migration workspace identity has no verified Git binding"
  | some binding => do
    check (binding.hasTopLevel workspace.path)
      "migration workspace Git binding has a different top-level"
    check (binding.objectFormat == objectFormat)
      "migration workspace object format differs from policy"

/-- Check an optional value when it is there. -/
def whenSome {α : Type} (value : Option α) (each : α → Check) : Check :=
  match value with
  | none => .ok ()
  | some value => each value

/-- A step of `validate_dispositions`, with the identifiers of the assignment seen before. -/
def validateDisposition (disposition : ActiveItemDisposition) (identities : List String)
    (objectFormat : GitObjectFormat) : Check := do
  requireNonblank disposition.itemId "migration item disposition ID"
  check (!identities.contains disposition.itemId)
    "migration inventory contains duplicate item dispositions"
  whenSome disposition.admittedBaseSha fun base =>
    objectFormat.requireOid base "migration admitted base SHA"
  whenSome disposition.providerRepository fun provider =>
    validateProviderRepository provider "migration provider repository"
  whenSome disposition.workspaceIdentity fun workspace =>
    validateWorkspaceIdentity workspace objectFormat
  whenSome disposition.runnerSnapshot validateRunnerSnapshot
  whenSome disposition.runnerTerminationAuthority validateLegacyScope

/-- Check each element, with the names of those before it, and return all names seen. -/
def checkDistinct {α : Type} (name : α → String) (each : α → List String → Check) :
    List α → List String → Except String (List String)
  | [], seen => .ok seen
  | element :: rest, seen => do
    each element seen
    checkDistinct name each rest (name element :: seen)

/-! ## The inventory -/

/-- The keys and identifiers that an inventory has used. -/
structure Seen where
  keys : List String
  dispositionIds : List String
  workspaceIds : List String

/-- `RepoKey::from_stored`; `uuid` parses a UUID and prints it again. -/
def repoKeyFromStored (uuid : String → Option String) (value : String) : Except String String :=
  match uuid value with
  | none => .error "repository key must be a UUID"
  | some printed =>
    if printed != value then .error "repository key must use canonical lowercase UUID form"
    else .ok value

/-- A step of the loop of `PolicyInventory::validate`. -/
def validateAssignment (uuid : String → Option String) (assignment : PolicyAssignment)
    (seen : Seen) : Except String (PolicyAssignment × Seen) := do
  let repoKey ← repoKeyFromStored uuid assignment.repoKey
  check (!seen.keys.contains repoKey) "repository policy inventory contains a duplicate repo_key"
  let policy ← assignment.policy.validate
  let objectFormat := policy.canonicalRepository.objectFormat
  let _ ← checkDistinct ActiveItemDisposition.itemId
    (fun disposition identities => validateDisposition disposition identities objectFormat)
    assignment.itemDispositions []
  validateMigrationRepositoryState assignment.repository objectFormat
  let workspaceIds ← checkDistinct MigrationDevelopmentWorkspace.workspaceId
    (fun workspace identities => validateDevelopmentWorkspace workspace identities objectFormat)
    assignment.developmentWorkspaces seen.workspaceIds
  let dispositionIds ← checkDistinct ActiveItemDisposition.itemId
    (fun disposition identities => check (!identities.contains disposition.itemId)
      "migration inventory contains duplicate item dispositions")
    assignment.itemDispositions seen.dispositionIds
  return ({ assignment with repoKey, policy }, ⟨repoKey :: seen.keys, dispositionIds, workspaceIds⟩)

/-- The loop of `PolicyInventory::validate`. -/
def validateAssignments (uuid : String → Option String) :
    List PolicyAssignment → Seen → Except String (List PolicyAssignment)
  | [], _ => .ok []
  | assignment :: rest, seen => do
    let (validated, seen) ← validateAssignment uuid assignment seen
    let others ← validateAssignments uuid rest seen
    return validated :: others

/-- `PolicyInventory::validate`. -/
def PolicyInventory.validate (uuid : String → Option String) (inventory : PolicyInventory) :
    Except String PolicyInventory := do
  check (inventory.version == 4) "repository policy inventory version must be 4"
  let repositories ← validateAssignments uuid inventory.repositories ⟨[], [], []⟩
  return { inventory with repositories }

/-! ## What a validated inventory keeps apart -/

variable {uuid : String → Option String} {assignments : List PolicyAssignment} {seen : Seen}

/-- Names that are checked to be new are distinct, from those before too. -/
theorem checkDistinct_eq_ok {α : Type} {name : α → String} {each : α → List String → Check}
    {elements : List α} {before after : List String}
    (apart : ∀ element seen, each element seen = .ok () → name element ∉ seen)
    (distinct : before.Nodup) (accepted : checkDistinct name each elements before = .ok after) :
    after = (elements.map name).reverse ++ before ∧ after.Nodup := by
  induction elements generalizing before with
  | nil =>
    obtain rfl := Except.ok.inj accepted
    exact ⟨rfl, distinct⟩
  | cons element rest rest_ok =>
    obtain ⟨passes, accepted⟩ := Checked.seq_eq_ok.mp accepted
    obtain ⟨same, nodup⟩ :=
      rest_ok (List.nodup_cons.mpr ⟨apart element before passes, distinct⟩) accepted
    refine ⟨?_, nodup⟩
    rw [same, List.map_cons, List.reverse_cons, List.append_assoc, List.singleton_append]

/-- A stored key is read as it is. -/
theorem repoKeyFromStored_eq_ok {value key : String}
    (accepted : repoKeyFromStored uuid value = .ok key) : key = value := by
  unfold repoKeyFromStored at accepted
  split at accepted
  · cases accepted
  · split at accepted
    · cases accepted
    · exact (Except.ok.inj accepted).symm

/-- A workspace that passes is of no listed identity. -/
theorem validateDevelopmentWorkspace_apart {workspace : MigrationDevelopmentWorkspace}
    {identities : List String} {objectFormat : GitObjectFormat}
    (accepted : validateDevelopmentWorkspace workspace identities objectFormat = .ok ()) :
    workspace.workspaceId ∉ identities := by
  obtain ⟨-, accepted⟩ := Checked.seq_eq_ok.mp accepted
  obtain ⟨apart, -⟩ := Checked.seq_eq_ok.mp accepted
  simpa using apart

/-- The keys and identifiers seen so far are distinct. -/
structure Seen.Distinct (seen : Seen) : Prop where
  keys : seen.keys.Nodup
  dispositionIds : seen.dispositionIds.Nodup
  workspaceIds : seen.workspaceIds.Nodup

/-- The identifiers of the dispositions of an assignment. -/
def PolicyAssignment.dispositionIds (assignment : PolicyAssignment) : List String :=
  assignment.itemDispositions.map ActiveItemDisposition.itemId

/-- The identifiers of the development workspaces of an assignment. -/
def PolicyAssignment.workspaceIds (assignment : PolicyAssignment) : List String :=
  assignment.developmentWorkspaces.map MigrationDevelopmentWorkspace.workspaceId

/-- What is seen after an assignment. -/
def Seen.after (seen : Seen) (assignment : PolicyAssignment) : Seen where
  keys := assignment.repoKey :: seen.keys
  dispositionIds := assignment.dispositionIds.reverse ++ seen.dispositionIds
  workspaceIds := assignment.workspaceIds.reverse ++ seen.workspaceIds

/-- A validated assignment is returned as it is, and its names are new. -/
theorem validateAssignment_eq_ok {assignment : PolicyAssignment}
    {result : PolicyAssignment × Seen} (distinct : seen.Distinct)
    (accepted : validateAssignment uuid assignment seen = .ok result) :
    result = (assignment, seen.after assignment) ∧ (seen.after assignment).Distinct ∧
      assignment.policy.validate = .ok assignment.policy := by
  obtain ⟨repoKey, stored, accepted⟩ := Checked.bind_eq_ok.mp accepted
  obtain rfl := repoKeyFromStored_eq_ok stored
  obtain ⟨fresh, accepted⟩ := Checked.seq_eq_ok.mp accepted
  obtain ⟨policy, valid, accepted⟩ := Checked.bind_eq_ok.mp accepted
  obtain ⟨-, -, accepted⟩ := Checked.bind_eq_ok.mp accepted
  obtain ⟨-, accepted⟩ := Checked.seq_eq_ok.mp accepted
  obtain ⟨workspaceIds, workspaces, accepted⟩ := Checked.bind_eq_ok.mp accepted
  obtain ⟨dispositionIds, dispositions, accepted⟩ := Checked.bind_eq_ok.mp accepted
  obtain ⟨rfl, workspaces_nodup⟩ := checkDistinct_eq_ok
    (fun _ _ passes => validateDevelopmentWorkspace_apart passes) distinct.workspaceIds workspaces
  obtain ⟨rfl, dispositions_nodup⟩ := checkDistinct_eq_ok
    (fun _ _ passes => by simpa using passes) distinct.dispositionIds dispositions
  obtain ⟨same, -⟩ := RepositoryPolicy.validate_eq_ok valid
  rw [same] at valid accepted
  refine ⟨(Except.ok.inj accepted).symm, ⟨?_, dispositions_nodup, workspaces_nodup⟩, valid⟩
  exact List.nodup_cons.mpr ⟨by simpa using fresh, distinct.keys⟩

/-- The names of the assignments of an inventory. -/
structure DistinctNames (assignments : List PolicyAssignment) (seen : Seen) : Prop where
  keys : (seen.keys.reverse ++ assignments.map PolicyAssignment.repoKey).Nodup
  dispositionIds :
    (seen.dispositionIds.reverse ++ assignments.flatMap PolicyAssignment.dispositionIds).Nodup
  workspaceIds :
    (seen.workspaceIds.reverse ++ assignments.flatMap PolicyAssignment.workspaceIds).Nodup

/-- Validated assignments are returned as they are, under distinct names. -/
theorem validateAssignments_eq_ok {result : List PolicyAssignment} (distinct : seen.Distinct)
    (accepted : validateAssignments uuid assignments seen = .ok result) :
    result = assignments ∧ DistinctNames assignments seen ∧
      ∀ assignment ∈ assignments, assignment.policy.validate = .ok assignment.policy := by
  induction assignments generalizing seen result with
  | nil =>
    obtain rfl := Except.ok.inj accepted
    refine ⟨rfl, ⟨?_, ?_, ?_⟩, fun _ mem => absurd mem List.not_mem_nil⟩
    · simpa using distinct.keys
    · simpa using distinct.dispositionIds
    · simpa using distinct.workspaceIds
  | cons assignment rest rest_ok =>
    obtain ⟨step, first, accepted⟩ := Checked.bind_eq_ok.mp accepted
    obtain ⟨rfl, distinct, valid⟩ := validateAssignment_eq_ok distinct first
    obtain ⟨others, loop, written⟩ := Checked.bind_eq_ok.mp accepted
    obtain ⟨rfl, names, policies⟩ := rest_ok distinct loop
    refine ⟨(Except.ok.inj written).symm, ⟨?_, ?_, ?_⟩, List.forall_mem_cons.mpr ⟨valid, policies⟩⟩
    · simpa [Seen.after] using names.keys
    · simpa [Seen.after] using names.dispositionIds
    · simpa [Seen.after] using names.workspaceIds

/-- A validated inventory is returned as it is; its names are distinct and its policies valid. -/
theorem PolicyInventory.validate_eq_ok {inventory result : PolicyInventory}
    (accepted : inventory.validate uuid = .ok result) :
    result = inventory ∧ DistinctNames inventory.repositories ⟨[], [], []⟩ ∧
      ∀ assignment ∈ inventory.repositories,
        assignment.policy.validate = .ok assignment.policy := by
  obtain ⟨-, accepted⟩ := Checked.seq_eq_ok.mp accepted
  obtain ⟨repositories, loop, written⟩ := Checked.bind_eq_ok.mp accepted
  have empty : (⟨[], [], []⟩ : Seen).Distinct := ⟨List.nodup_nil, List.nodup_nil, List.nodup_nil⟩
  obtain ⟨rfl, names, policies⟩ := validateAssignments_eq_ok empty loop
  exact ⟨(Except.ok.inj written).symm, names, policies⟩

end Iq.Policy
