import Iq.Domain.Text
import Iq.Library.Checked
import Iq.Library.Hex
import Iq.Library.TextOrder
import Iq.Library.Transition

/-!
# The host configuration

`reconcile_config` computes the next configuration of the daemon from the entries of the current one
that a manager does not own and the repositories that it wants, and publishes it as a generation.
Ownership is what the manager wanted before: the manager state of the next run is the inventory of
this one. The encodings of the files and the digest are parameters.
-/

namespace Iq

open Library

/-! ## Files -/

/-- `ManagerState`. -/
structure ManagerState where
  managerId : String
  repoKeys : List String
  deriving DecidableEq, Repr

/-- `DesiredInventory`, each of its repositories by its key. -/
structure DesiredInventory where
  managerId : String
  repositories : List String
  deriving DecidableEq, Repr

/-- `InputSnapshotDigest`. -/
inductive InputSnapshotDigest where
  | present (sha256 : String)
  | absent (sha256 : String)
  deriving DecidableEq, Repr

/-- `GeneratedFileDigest`. -/
structure GeneratedFileDigest where
  path : String
  sha256 : String
  deriving DecidableEq, Repr

/-- `GenerationManifest`. -/
structure GenerationManifest where
  version : Nat
  currentConfig : InputSnapshotDigest
  currentManagerState : InputSnapshotDigest
  files : List GeneratedFileDigest
  deriving DecidableEq, Repr

/-- The contents of the files: the encodings that `serde` gives them, the bytes of a text, and
`sha256_hex`; and `Uuid::parse_str` with `to_string`. A configuration is the list of its keys. -/
structure HostFormats (β : Type) where
  uuid : String → Option String
  parseConfig : β → Option (List String)
  configText : List String → β
  parseState : β → Option ManagerState
  stateText : ManagerState → β
  parseManifest : β → Option GenerationManifest
  manifestText : GenerationManifest → β
  text : String → β
  sha256Hex : β → String

/-- The digests that a manifest may hold. -/
def isDigestText (text : String) : Bool :=
  text.toList.length == 64 && text.toList.all Hex.isDigit

variable {β : Type}

/-- What is documented of the encodings: what they write is read back, and a digest has 64
hexadecimal digits. -/
structure HostFormats.Documented (formats : HostFormats β) : Prop where
  config : ∀ keys, formats.parseConfig (formats.configText keys) = some keys
  state : ∀ state, formats.parseState (formats.stateText state) = some state
  manifest : ∀ manifest, formats.parseManifest (formats.manifestText manifest) = some manifest
  digest : ∀ content, isDigestText (formats.sha256Hex content) = true

/-- The files that a reconciliation starts from. -/
structure HostFiles (β : Type) where
  config : Option β
  managerState : Option β
  deriving DecidableEq, Repr

/-- A directory by the contents of its files. -/
abbrev GenerationDirectory (β : Type) := List (String × β)

/-! ## Checks -/

/-- `require_exact_nonblank`. -/
def requireExactNonblank (value field : String) : Check := do
  check (!(trimCharacters value.toList).isEmpty) s!"{field} must not be blank"
  check (value.toList == trimCharacters value.toList)
    s!"{field} must not have leading or trailing whitespace"

/-- `validate_repo_key`. -/
def validateRepoKey (formats : HostFormats β) (value field : String) : Check := do
  requireExactNonblank value field
  match formats.uuid value with
  | none => .error s!"{field} must be a UUID"
  | some text => check (text == value) s!"{field} must use canonical lowercase UUID form"

/-- A loop over keys: each is valid, is not among those before it, and passes one check more. -/
def checkKeys (formats : HostFormats β) (field duplicate : String) (also : String → Check) :
    List String → List String → Check
  | _, [] => .ok ()
  | seen, key :: rest => do
    validateRepoKey formats key field
    check (!seen.contains key) s!"{duplicate} duplicates repo_key {key}"
    also key
    checkKeys formats field duplicate also (seen ++ [key]) rest

/-! ## Digests -/

/-- `input_snapshot_digest`. -/
def inputSnapshotDigest (formats : HostFormats β) : Option β → InputSnapshotDigest
  | some content => .present (formats.sha256Hex content)
  | none => .absent (formats.sha256Hex (formats.text "iq-reconcile:absent-input:v1"))

/-- `generated_file_digest`. -/
def generatedFileDigest (formats : HostFormats β) (path : String) (content : β) :
    GeneratedFileDigest :=
  ⟨path, formats.sha256Hex content⟩

/-- The names of the generated files. -/
def generatedNames : List String := ["iq.yaml", "iq-manager-state.json", "action"]

/-- `validate_manifest`. -/
def validateManifest (manifest : GenerationManifest) : Check := do
  check (manifest.version == 1) "unsupported generation manifest version"
  check (manifest.files.length == 3 &&
      generatedNames.all fun path => manifest.files.any fun file => file.path == path)
    "generation manifest has invalid generated file inventory"
  check ((manifest.files.map GeneratedFileDigest.path).Nodup &&
      manifest.files.all fun file => isDigestText file.sha256)
    "generation manifest has invalid digest entry"
  check ([manifest.currentConfig, manifest.currentManagerState].all fun snapshot =>
      match snapshot with
      | .present sha256 | .absent sha256 => isDigestText sha256)
    "generation manifest has invalid input snapshot digest"

/-- `verify_generation_files`. -/
def verifyGenerationFiles (formats : HostFormats β) (directory : GenerationDirectory β) :
    List GeneratedFileDigest → Check
  | [] => .ok ()
  | file :: rest =>
    match directory.lookup file.path with
    | none => .error s!"read existing generated file {file.path}"
    | some content => do
      check (formats.sha256Hex content == file.sha256)
        s!"existing generated file digest does not match: {file.path}"
      verifyGenerationFiles formats directory rest

/-- `verify_existing_generation`. -/
def verifyExistingGeneration (formats : HostFormats β) (directory : GenerationDirectory β)
    (expected : GenerationManifest) : Check := do
  validateManifest expected
  check (directory.length == 4 && (generatedNames ++ ["manifest.json"]).all fun name =>
      directory.any fun file => file.1 == name)
    "existing staged destination is not a complete generation"
  match directory.lookup "manifest.json" with
  | none => .error "read existing generation manifest"
  | some content =>
    match formats.parseManifest content with
    | none => .error "parse existing generation manifest"
    | some manifest => do
      check (manifest == expected)
        "existing staged generation manifest content does not match requested generation"
      verifyGenerationFiles formats directory expected.files

/-- `publish_generation`, into a destination that may exist; the result is its contents. -/
def publishGeneration (formats : HostFormats β) (destination : Option (GenerationDirectory β))
    (config managerState action : β) (manifest : GenerationManifest)
    (manifestBytes : β) : Except String (GenerationDirectory β) :=
  match destination with
  | some directory => do
    verifyExistingGeneration formats directory manifest
    pure directory
  | none => pure [("iq.yaml", config), ("iq-manager-state.json", managerState),
      ("action", action), ("manifest.json", manifestBytes)]

/-! ## What the checks accept -/

variable {formats : HostFormats β}

/-- The keys that a file may hold. -/
def IsRepoKey (formats : HostFormats β) (key : String) : Prop :=
  trimCharacters key.toList ≠ [] ∧ key.toList = trimCharacters key.toList ∧
    formats.uuid key = some key

/-- A text passes when it is not blank and has no surrounding white space. -/
theorem requireExactNonblank_eq_ok {value field : String} :
    requireExactNonblank value field = .ok () ↔
      trimCharacters value.toList ≠ [] ∧ value.toList = trimCharacters value.toList := by
  simp [requireExactNonblank, Checked.seq_eq_ok]

/-- A text passes when it is a repository key. -/
theorem validateRepoKey_eq_ok {value field : String} :
    validateRepoKey formats value field = .ok () ↔ IsRepoKey formats value := by
  unfold validateRepoKey IsRepoKey
  rw [Checked.seq_eq_ok, requireExactNonblank_eq_ok, and_assoc]
  apply and_congr_right
  intro _
  apply and_congr_right
  intro _
  cases formats.uuid value with
  | none => simp
  | some text => simp

/-- A list of keys passes when they are repository keys, distinct, new and admitted. -/
theorem checkKeys_eq_ok {field duplicate : String} {also : String → Check}
    {seen keys : List String} :
    checkKeys formats field duplicate also seen keys = .ok () ↔
      keys.Nodup ∧ ∀ key ∈ keys, IsRepoKey formats key ∧ key ∉ seen ∧ also key = .ok () := by
  induction keys generalizing seen with
  | nil => simp [checkKeys]
  | cons key rest iff_rest =>
    simp only [checkKeys, Checked.seq_eq_ok, validateRepoKey_eq_ok, check_eq_ok,
      iff_rest, List.nodup_cons, List.mem_cons, List.mem_append, List.contains_eq_mem,
      Bool.not_eq_true', decide_eq_false_iff_not]
    constructor
    · rintro ⟨valid, fresh, passed, nodup, later⟩
      refine ⟨⟨fun mem => (later key mem).2.1 (.inr (.inl rfl)), nodup⟩, ?_⟩
      rintro other (rfl | mem)
      · exact ⟨valid, fresh, passed⟩
      · obtain ⟨valid, fresh, passed⟩ := later other mem
        exact ⟨valid, fun seen => fresh (.inl seen), passed⟩
    · rintro ⟨⟨new, nodup⟩, every⟩
      obtain ⟨valid, fresh, passed⟩ := every key (.inl rfl)
      refine ⟨valid, fresh, passed, nodup, ?_⟩
      intro other mem
      obtain ⟨valid, fresh, passed⟩ := every other (.inr mem)
      refine ⟨valid, ?_, passed⟩
      rintro (seen | same)
      · exact fresh seen
      · have same : other = key := by simpa using same
        exact new (same ▸ mem)

/-- The files of a generation pass when each is there with its digest. -/
theorem verifyGenerationFiles_eq_ok {directory : GenerationDirectory β}
    {files : List GeneratedFileDigest} :
    verifyGenerationFiles formats directory files = .ok () ↔ ∀ file ∈ files,
      ∃ content, directory.lookup file.path = some content ∧
        formats.sha256Hex content = file.sha256 := by
  induction files with
  | nil => simp [verifyGenerationFiles]
  | cons file rest iff_rest =>
    rw [verifyGenerationFiles, List.forall_mem_cons]
    cases found : directory.lookup file.path with
    | none => simp
    | some content =>
      simp only [Checked.seq_eq_ok, check_eq_ok, beq_iff_eq, iff_rest,
        Option.some.injEq, exists_eq_left']

/-! ## Reconciliation -/

/-- The keys of the current configuration; without a file there are none. -/
def currentKeys (formats : HostFormats β) (config : Option β) :
    Except String (List String) :=
  match config with
  | none => .ok []
  | some content =>
    match formats.parseConfig content with
    | none => .error "parse daemon config"
    | some keys => .ok keys

/-- The current manager state; without a file it is that of a first reconciliation. -/
def currentState (formats : HostFormats β) (state : Option β) (managerId : String)
    (bootstrap : Bool) : Except String ManagerState :=
  match state with
  | some content =>
    match formats.parseState content with
    | none => .error "parse current manager state"
    | some state => .ok state
  | none =>
    if bootstrap then .ok ⟨managerId, []⟩
    else .error "current manager state is missing; pass --bootstrap for first reconciliation"

/-- The entries that stay and those that are wanted. -/
def effectiveKeys (current managed desired : List String) : List String :=
  let kept := current.filter fun key => !managed.contains key
  sortedTexts (desired.foldl (fun effective key =>
    if effective.contains key then effective else effective ++ [key]) kept)

/-- A key is effective when it is desired, or current and not managed. -/
theorem mem_effectiveKeys {current managed desired : List String} {key : String} :
    key ∈ effectiveKeys current managed desired ↔
      key ∈ current ∧ key ∉ managed ∨ key ∈ desired := by
  have general : ∀ effective : List String,
      key ∈ desired.foldl (fun effective key =>
        if effective.contains key then effective else effective ++ [key]) effective ↔
      key ∈ effective ∨ key ∈ desired := by
    induction desired with
    | nil => simp
    | cons other rest mem_rest =>
      intro effective
      rw [List.foldl_cons, mem_rest, List.mem_cons]
      by_cases present : other ∈ effective
      · rw [if_pos (by simpa using present)]
        constructor
        · tauto
        · rintro (mem | rfl | mem) <;> tauto
      · rw [if_neg (by simpa using present), List.mem_append, List.mem_singleton]
        tauto
  rw [effectiveKeys, mem_sortedTexts, general]
  simp

/-- The effective keys are distinct. -/
theorem nodup_effectiveKeys {current managed desired : List String} (nodup : current.Nodup) :
    (effectiveKeys current managed desired).Nodup := by
  rw [effectiveKeys, nodup_sortedTexts]
  have kept : (current.filter fun key => !managed.contains key).Nodup := nodup.filter _
  revert kept
  generalize (current.filter fun key => !managed.contains key) = effective
  induction desired generalizing effective with
  | nil => exact id
  | cons other rest nodup_rest =>
    intro kept
    rw [List.foldl_cons]
    apply nodup_rest
    by_cases present : other ∈ effective
    · rwa [if_pos (by simpa using present)]
    · rw [if_neg (by simpa using present)]
      have apart : List.Disjoint effective [other] := by simpa using present
      exact kept.append (List.nodup_singleton other) apart

/-- What a reconciliation computes. -/
structure Reconciled (β : Type) where
  config : β
  managerState : β
  action : β
  manifest : GenerationManifest
  deriving DecidableEq, Repr

/-- The manifest of a generation. -/
def generationManifest (formats : HostFormats β) (files : HostFiles β)
    (config managerState action : β) : GenerationManifest where
  version := 1
  currentConfig := inputSnapshotDigest formats files.config
  currentManagerState := inputSnapshotDigest formats files.managerState
  files := [generatedFileDigest formats "iq.yaml" config,
    generatedFileDigest formats "iq-manager-state.json" managerState,
    generatedFileDigest formats "action" action]

/-- The manifest that is made is valid. -/
theorem validateManifest_generationManifest (documented : formats.Documented)
    (files : HostFiles β) (config managerState action : β) :
    validateManifest (generationManifest formats files config managerState action) = .ok () := by
  have snapshot : ∀ input, (match inputSnapshotDigest formats input with
      | .present sha256 | .absent sha256 => isDigestText sha256) = true := by
    intro input
    cases input <;> exact documented.digest _
  simp [validateManifest, generationManifest, generatedFileDigest, generatedNames,
    Checked.seq_eq_ok, documented.digest, snapshot]

variable [DecidableEq β]

/-- `reconcile_config` up to its publication. -/
def reconcile (formats : HostFormats β) (files again : HostFiles β) (inventory : DesiredInventory)
    (bootstrap : Bool) : Except String (Reconciled β) := do
  requireExactNonblank inventory.managerId "desired inventory manager_id"
  let current ← currentKeys formats files.config
  let state ← currentState formats files.managerState inventory.managerId bootstrap
  check (state.managerId == inventory.managerId)
    "current manager state belongs to a different manager"
  checkKeys formats "current config repo_key" "current config" (fun _ => .ok ()) [] current
  checkKeys formats "manager state repo_key" "manager state" (fun key =>
    check (current.contains key)
      s!"manager-owned repository {key} is missing from current config") [] state.repoKeys
  checkKeys formats "desired repository repo_key" "desired inventory" (fun _ => .ok ()) []
    inventory.repositories
  let effective := effectiveKeys current state.repoKeys inventory.repositories
  check (again == files) "current config or manager state changed during reconciliation"
  let config := formats.configText effective
  let managerState := formats.stateText ⟨inventory.managerId, sortedTexts inventory.repositories⟩
  let action := formats.text (if effective.isEmpty then "stop\n" else "start\n")
  pure ⟨config, managerState, action, generationManifest formats files config managerState action⟩

/-- `reconcile_config`. -/
def reconcileConfig (formats : HostFormats β) (files again : HostFiles β)
    (inventory : DesiredInventory) (bootstrap : Bool)
    (destination : Option (GenerationDirectory β)) :
    Except String (GenerationDirectory β) := do
  let next ← reconcile formats files again inventory bootstrap
  publishGeneration formats destination next.config next.managerState next.action next.manifest
    (formats.manifestText next.manifest)

/-- `verify_generation`, of a directory that exists. -/
def verifyGeneration (formats : HostFormats β) (directory : GenerationDirectory β)
    (files : HostFiles β) : Check :=
  match directory.lookup "manifest.json" with
  | none => .error "read generation manifest"
  | some content =>
    match formats.parseManifest content with
    | none => .error "parse generation manifest"
    | some manifest => do
      validateManifest manifest
      verifyGenerationFiles formats directory manifest.files
      check (inputSnapshotDigest formats files.config == manifest.currentConfig)
        "current config drifted from generation manifest base snapshot"
      check (inputSnapshotDigest formats files.managerState == manifest.currentManagerState)
        "current manager state drifted from generation manifest base snapshot"

/-! ## Hosts -/

/-- The keys of a configuration, if it is one. -/
def keysOf (formats : HostFormats β) (config : Option β) : List String :=
  (config.bind formats.parseConfig).getD []

/-- The keys that a manager owns. -/
def managedKeys (formats : HostFormats β) (state : Option β) : List String :=
  ((state.bind formats.parseState).map ManagerState.repoKeys).getD []

/-- The installed files, and the entries that were added by hand and not removed by hand. -/
structure Host (β : Type) where
  files : HostFiles β
  manual : List String

/-- A manual edit of the configuration, or a reconciliation whose generation is installed. -/
inductive HostLabel (β : Type) where
  | edit (config : Option β)
  | reconcile (inventory : DesiredInventory) (bootstrap : Bool)
      (destination : Option (GenerationDirectory β))

/-- The files that a generation installs. -/
def installed (directory : GenerationDirectory β) : HostFiles β where
  config := directory.lookup "iq.yaml"
  managerState := directory.lookup "iq-manager-state.json"

/-- An edit adds and removes entries that the manager does not own. -/
def Host.edit (formats : HostFormats β) (host : Host β) (config : Option β) : Host β :=
  let before := keysOf formats host.files.config
  let after := keysOf formats config
  if (managedKeys formats host.files.managerState).all after.contains then
    { files := ⟨config, host.files.managerState⟩
      manual := host.manual.filter (fun key => !before.contains key || after.contains key) ++
        after.filter fun key => !before.contains key }
  else host

/-- A reconciliation that fails changes nothing. -/
def Host.reconcile (formats : HostFormats β) (host : Host β) (inventory : DesiredInventory)
    (bootstrap : Bool) (destination : Option (GenerationDirectory β)) : Host β :=
  match reconcileConfig formats host.files host.files inventory bootstrap destination with
  | .ok directory => ⟨installed directory, host.manual⟩
  | .error _ => host

/-- A host before its first reconciliation, under edits and reconciliations. -/
def hostMachine (formats : HostFormats β) : Machine (Host β) (HostLabel β) where
  Initial host := host.files.managerState = none ∧ host.manual = keysOf formats host.files.config
  step host
    | .edit config => host.edit formats config
    | .reconcile inventory bootstrap destination =>
      host.reconcile formats inventory bootstrap destination

/-- The contents that a publication hashes. -/
def hashed (next : Reconciled β) (destination : Option (GenerationDirectory β)) : Set β :=
  {content | content ∈ [next.config, next.managerState, next.action] ∨
    ∃ directory ∈ destination, ∃ file ∈ directory, file.2 = content}

/-- No two contents that a reconciliation hashes have one digest. -/
def Apart (formats : HostFormats β) (host : Host β) : HostLabel β → Prop
  | .edit _ => True
  | .reconcile inventory bootstrap destination =>
    ∀ next, reconcile formats host.files host.files inventory bootstrap = .ok next →
      Set.InjOn formats.sha256Hex (hashed next destination)

/-- The contents that a verification compares by their digests. -/
def compared (directory published : GenerationDirectory β) (files base : HostFiles β) : Set β :=
  {content | (∃ file ∈ directory ++ published, file.2 = content) ∨
    content ∈ files.config ∨ content ∈ files.managerState ∨
    content ∈ base.config ∨ content ∈ base.managerState}

/-- What is promised of a generation that a host publishes. -/
structure Exact (formats : HostFormats β) (host : Host β) (inventory : DesiredInventory)
    (published : GenerationDirectory β) : Prop where
  union : ∃ keys, published.lookup "iq.yaml" = some (formats.configText keys) ∧
    keys.Pairwise TextOrder ∧ keys.Nodup ∧
    ∀ key, key ∈ keys ↔ key ∈ host.manual ∨ key ∈ inventory.repositories
  again : ∀ bootstrap destination,
    let next : Host β := ⟨installed published, host.manual⟩
    Apart formats next (.reconcile inventory bootstrap destination) →
      (next.reconcile formats inventory bootstrap destination).files = next.files ∧
      ∃ directory, reconcileConfig formats next.files next.files inventory bootstrap none =
        .ok directory
  verified : ∀ directory files,
    directory.lookup "manifest.json" = published.lookup "manifest.json" →
    Set.InjOn formats.sha256Hex (compared directory published files host.files) →
      (verifyGeneration formats directory files = .ok () ↔
        (∀ name ∈ generatedNames, directory.lookup name = published.lookup name) ∧
        files = host.files)

/-- What a property says of the reconciliations that succeed. -/
def Publishes (formats : HostFormats β)
    (holds : Host β → DesiredInventory → GenerationDirectory β → Prop) (host : Host β) :
    HostLabel β → Prop
  | .edit _ => True
  | .reconcile inventory bootstrap destination => ∀ published,
    reconcileConfig formats host.files host.files inventory bootstrap destination = .ok published →
      holds host inventory published

/-- The inventory wants every entry that the manager owns and that was added by hand. -/
def KeepsAdopted (formats : HostFormats β) (host : Host β) (inventory : DesiredInventory)
    (_ : GenerationDirectory β) : Prop :=
  ∀ key ∈ host.manual, key ∈ managedKeys formats host.files.managerState →
    key ∈ inventory.repositories

/-! ## What a reconciliation publishes -/

omit [DecidableEq β] in
/-- The keys that are read are those of the configuration. -/
theorem keysOf_eq {config : Option β} {keys : List String}
    (read : currentKeys formats config = .ok keys) : keysOf formats config = keys := by
  unfold currentKeys at read
  unfold keysOf
  cases config with
  | none => exact Except.ok.inj read
  | some content =>
    cases parsed : formats.parseConfig content with
    | none => simp [parsed] at read
    | some found =>
      simp only [parsed] at read
      simpa [parsed] using read

omit [DecidableEq β] in
/-- The managed keys are those of the state that is read. -/
theorem managedKeys_eq {content : Option β} {managerId : String} {bootstrap : Bool}
    {state : ManagerState} (read : currentState formats content managerId bootstrap = .ok state) :
    managedKeys formats content = state.repoKeys := by
  unfold currentState at read
  unfold managedKeys
  cases content with
  | none =>
    cases bootstrap with
    | false => cases read
    | true =>
      cases read
      rfl
  | some content =>
    cases parsed : formats.parseState content with
    | none => simp [parsed] at read
    | some found =>
      simp only [parsed, Except.ok.injEq] at read
      simp [parsed, read]

/-- What a reconciliation that succeeds has checked and computes. -/
structure Computed (formats : HostFormats β) (files : HostFiles β) (inventory : DesiredInventory)
    (next : Reconciled β) : Prop where
  manager : requireExactNonblank inventory.managerId "desired inventory manager_id" = .ok ()
  current : (keysOf formats files.config).Nodup ∧
    ∀ key ∈ keysOf formats files.config, IsRepoKey formats key
  managed : ∀ key ∈ managedKeys formats files.managerState, key ∈ keysOf formats files.config
  desired : inventory.repositories.Nodup ∧
    ∀ key ∈ inventory.repositories, IsRepoKey formats key
  config : next.config = formats.configText (effectiveKeys (keysOf formats files.config)
    (managedKeys formats files.managerState) inventory.repositories)
  managerState : next.managerState =
    formats.stateText ⟨inventory.managerId, sortedTexts inventory.repositories⟩
  action : next.action = formats.text (if (effectiveKeys (keysOf formats files.config)
    (managedKeys formats files.managerState) inventory.repositories).isEmpty then "stop\n"
    else "start\n")
  manifest : next.manifest =
    generationManifest formats files next.config next.managerState next.action

/-- A reconciliation that succeeds has computed its files. -/
theorem computed_of_reconcile {files again : HostFiles β} {inventory : DesiredInventory}
    {bootstrap : Bool} {next : Reconciled β}
    (succeeds : reconcile formats files again inventory bootstrap = .ok next) :
    Computed formats files inventory next := by
  unfold reconcile at succeeds
  rw [Checked.seq_eq_ok, Checked.bind_eq_ok] at succeeds
  obtain ⟨manager, current, readConfig, succeeds⟩ := succeeds
  rw [Checked.bind_eq_ok] at succeeds
  obtain ⟨state, readState, succeeds⟩ := succeeds
  rw [Checked.seq_eq_ok, Checked.seq_eq_ok, Checked.seq_eq_ok, Checked.seq_eq_ok,
    checkKeys_eq_ok, checkKeys_eq_ok, checkKeys_eq_ok, Checked.seq_eq_ok] at succeeds
  obtain ⟨-, ⟨nodup, valid⟩, ⟨-, managed⟩, ⟨wanted, exact⟩, -, result⟩ := succeeds
  have keys := keysOf_eq readConfig
  have owned := managedKeys_eq readState
  subst keys
  rw [← owned] at result managed
  have same := Except.ok.inj result
  subst same
  constructor
  · exact manager
  · exact ⟨nodup, fun key mem => (valid key mem).1⟩
  · intro key mem
    have present := (managed key mem).2.2
    rw [check_eq_ok] at present
    simpa using present
  · exact ⟨wanted, fun key mem => (exact key mem).1⟩
  · rfl
  · rfl
  · rfl
  · rfl

/-- A generation that holds what was computed. -/
structure Holds (formats : HostFormats β) (next : Reconciled β)
    (published : GenerationDirectory β) : Prop where
  config : published.lookup "iq.yaml" = some next.config
  managerState : published.lookup "iq-manager-state.json" = some next.managerState
  action : published.lookup "action" = some next.action
  manifest : ∃ content, published.lookup "manifest.json" = some content ∧
    formats.parseManifest content = some next.manifest

/-- A reconciliation publishes what it has computed. -/
theorem reconcileConfig_eq_ok {files again : HostFiles β} {inventory : DesiredInventory}
    {bootstrap : Bool} {destination : Option (GenerationDirectory β)}
    {published : GenerationDirectory β} :
    reconcileConfig formats files again inventory bootstrap destination = .ok published ↔
      ∃ next, reconcile formats files again inventory bootstrap = .ok next ∧
        publishGeneration formats destination next.config next.managerState next.action
          next.manifest (formats.manifestText next.manifest) = .ok published :=
  Checked.bind_eq_ok

omit [DecidableEq β] in
/-- A file that is found is in the directory. -/
theorem mem_of_lookup {directory : GenerationDirectory β} {name : String} {content : β}
    (found : directory.lookup name = some content) : ∃ file ∈ directory, file.2 = content := by
  obtain ⟨before, after, split, -⟩ := List.lookup_eq_some_iff.mp found
  exact ⟨(name, content), by simp [split], rfl⟩

omit [DecidableEq β] in
/-- A destination that is accepted holds what was computed. -/
theorem holds_of_publishGeneration (documented : formats.Documented) {files : HostFiles β}
    {next : Reconciled β} {destination : Option (GenerationDirectory β)}
    {published : GenerationDirectory β}
    (manifest : next.manifest =
      generationManifest formats files next.config next.managerState next.action)
    (apart : Set.InjOn formats.sha256Hex (hashed next destination))
    (publishes : publishGeneration formats destination next.config next.managerState next.action
      next.manifest (formats.manifestText next.manifest) = .ok published) :
    Holds formats next published := by
  cases destination with
  | none =>
    have same := Except.ok.inj publishes
    subst same
    exact ⟨rfl, rfl, rfl, _, rfl, documented.manifest _⟩
  | some directory =>
    unfold publishGeneration at publishes
    rw [Checked.seq_eq_ok] at publishes
    obtain ⟨verified, same⟩ := publishes
    have same := Except.ok.inj same
    subst same
    unfold verifyExistingGeneration at verified
    rw [Checked.seq_eq_ok, Checked.seq_eq_ok] at verified
    obtain ⟨-, -, verified⟩ := verified
    cases found : directory.lookup "manifest.json" with
    | none => simp [found] at verified
    | some content =>
      cases parsed : formats.parseManifest content with
      | none => simp [found, parsed] at verified
      | some read =>
        simp only [found, parsed] at verified
        rw [Checked.seq_eq_ok, check_eq_ok, beq_iff_eq, verifyGenerationFiles_eq_ok] at verified
        obtain ⟨rfl, verified⟩ := verified
        have holds : ∀ file ∈ next.manifest.files, ∀ expected : β,
            expected ∈ [next.config, next.managerState, next.action] →
            file.sha256 = formats.sha256Hex expected →
              directory.lookup file.path = some expected := by
          intro file mem expected computed digest
          obtain ⟨content, found, same⟩ := verified file mem
          have left : content ∈ hashed next (some directory) :=
            .inr ⟨directory, rfl, mem_of_lookup found⟩
          rw [found, apart left (.inl computed) (same.trans digest)]
        rw [manifest] at holds
        have config := holds (generatedFileDigest formats "iq.yaml" next.config)
          (by simp [generationManifest]) next.config (by simp) rfl
        have managerState := holds
          (generatedFileDigest formats "iq-manager-state.json" next.managerState)
          (by simp [generationManifest]) next.managerState (by simp) rfl
        have action := holds (generatedFileDigest formats "action" next.action)
          (by simp [generationManifest]) next.action (by simp) rfl
        exact ⟨config, managerState, action, content, found, parsed⟩

omit [DecidableEq β] in
/-- Digests that tell contents apart tell snapshots apart. -/
theorem inputSnapshotDigest_inj {known : Set β} (apart : Set.InjOn formats.sha256Hex known)
    {input other : Option β} (mem : ∀ content ∈ input, content ∈ known)
    (mem' : ∀ content ∈ other, content ∈ known) :
    inputSnapshotDigest formats input = inputSnapshotDigest formats other ↔ input = other := by
  constructor
  · intro same
    cases input with
    | none =>
      cases other with
      | none => rfl
      | some content => cases same
    | some content =>
      cases other with
      | none => cases same
      | some expected =>
        have digests := InputSnapshotDigest.present.inj same
        rw [apart (mem content rfl) (mem' expected rfl) digests]
  · rintro rfl
    rfl

omit [DecidableEq β] in
/-- The generation that was published is the one that verification accepts. -/
theorem verifyGeneration_eq_ok (documented : formats.Documented) {base files : HostFiles β}
    {next : Reconciled β} {published directory : GenerationDirectory β}
    (manifest : next.manifest =
      generationManifest formats base next.config next.managerState next.action)
    (holds : Holds formats next published)
    (unmodified : directory.lookup "manifest.json" = published.lookup "manifest.json")
    (apart : Set.InjOn formats.sha256Hex (compared directory published files base)) :
    verifyGeneration formats directory files = .ok () ↔
      (∀ name ∈ generatedNames, directory.lookup name = published.lookup name) ∧ files = base := by
  obtain ⟨content, found, parsed⟩ := holds.manifest
  have file : ∀ name expected, published.lookup name = some expected →
      ((∃ content, directory.lookup name = some content ∧
        formats.sha256Hex content = formats.sha256Hex expected) ↔
        directory.lookup name = published.lookup name) := by
    intro name expected stored
    rw [stored]
    constructor
    · rintro ⟨content, found, same⟩
      obtain ⟨file, mem, rfl⟩ := mem_of_lookup found
      obtain ⟨other, mem', rfl⟩ := mem_of_lookup stored
      have left : file.2 ∈ compared directory published files base :=
        .inl ⟨file, List.mem_append_left _ mem, rfl⟩
      have right : other.2 ∈ compared directory published files base :=
        .inl ⟨other, List.mem_append_right _ mem', rfl⟩
      rw [found, apart left right same]
    · intro same
      exact ⟨expected, same, rfl⟩
  have config : inputSnapshotDigest formats files.config =
      inputSnapshotDigest formats base.config ↔ files.config = base.config :=
    inputSnapshotDigest_inj apart (fun content mem => .inr (.inl mem))
      (fun content mem => .inr (.inr (.inr (.inl mem))))
  have managerState : inputSnapshotDigest formats files.managerState =
      inputSnapshotDigest formats base.managerState ↔ files.managerState = base.managerState :=
    inputSnapshotDigest_inj apart (fun content mem => .inr (.inr (.inl mem)))
      (fun content mem => .inr (.inr (.inr (.inr mem))))
  unfold verifyGeneration
  rw [unmodified, found]
  simp only [parsed]
  rw [Checked.seq_eq_ok, Checked.seq_eq_ok, Checked.seq_eq_ok, check_eq_ok, check_eq_ok,
    beq_iff_eq, beq_iff_eq, verifyGenerationFiles_eq_ok, manifest]
  simp only [validateManifest_generationManifest documented, true_and]
  simp only [generationManifest, generatedFileDigest, List.forall_mem_cons, generatedNames,
    file _ _ holds.config, file _ _ holds.managerState, file _ _ holds.action, config,
    managerState, List.not_mem_nil, false_imp_iff, implies_true, and_true]
  have extensional : files = base ↔
      files.config = base.config ∧ files.managerState = base.managerState := by
    cases files
    cases base
    simp
  rw [extensional]

/-! ## A repeated reconciliation -/

omit [DecidableEq β] in
/-- The keys of a written configuration are read back. -/
theorem keysOf_configText (documented : formats.Documented) (keys : List String) :
    keysOf formats (some (formats.configText keys)) = keys := by
  simp [keysOf, documented.config]

omit [DecidableEq β] in
/-- The keys of a written state are read back. -/
theorem managedKeys_stateText (documented : formats.Documented) (state : ManagerState) :
    managedKeys formats (some (formats.stateText state)) = state.repoKeys := by
  simp [managedKeys, documented.state]

/-- What is wanted and installed stays as it is. -/
theorem effectiveKeys_again {current managed desired : List String} (nodup : current.Nodup) :
    effectiveKeys (effectiveKeys current managed desired) (sortedTexts desired) desired =
      effectiveKeys current managed desired := by
  have once : (effectiveKeys current managed desired).Nodup := nodup_effectiveKeys nodup
  have twice : (effectiveKeys (effectiveKeys current managed desired) (sortedTexts desired)
      desired).Nodup := nodup_effectiveKeys once
  have same : ∀ key, key ∈ effectiveKeys (effectiveKeys current managed desired)
      (sortedTexts desired) desired ↔ key ∈ effectiveKeys current managed desired := by
    intro key
    rw [mem_effectiveKeys, mem_effectiveKeys, mem_sortedTexts]
    tauto
  unfold effectiveKeys at once twice same ⊢
  rw [nodup_sortedTexts] at once twice
  simp only [mem_sortedTexts] at same
  exact sortedTexts_eq twice once same

/-- After its installation an inventory is reconciled to the same files. -/
theorem reconcile_again (documented : formats.Documented) {base files : HostFiles β}
    {inventory : DesiredInventory} {next : Reconciled β}
    (computed : Computed formats base inventory next)
    (config : files.config = some next.config)
    (managerState : files.managerState = some next.managerState) (bootstrap : Bool) :
    reconcile formats files files inventory bootstrap = .ok ⟨next.config, next.managerState,
      next.action,
      generationManifest formats files next.config next.managerState next.action⟩ := by
  let effective := effectiveKeys (keysOf formats base.config)
    (managedKeys formats base.managerState) inventory.repositories
  have readConfig : currentKeys formats files.config = .ok effective := by
    rw [config, computed.config]
    simp [currentKeys, documented.config, effective]
  have readState : currentState formats files.managerState inventory.managerId bootstrap =
      .ok ⟨inventory.managerId, sortedTexts inventory.repositories⟩ := by
    rw [managerState, computed.managerState]
    simp [currentState, documented.state]
  have nodup : effective.Nodup := nodup_effectiveKeys computed.current.1
  have valid : ∀ key ∈ effective, IsRepoKey formats key := by
    intro key mem
    obtain ⟨present, -⟩ | wanted := mem_effectiveKeys.mp mem
    · exact computed.current.2 key present
    · exact computed.desired.2 key wanted
  have wanted : ∀ key ∈ sortedTexts inventory.repositories, key ∈ effective := by
    intro key mem
    exact mem_effectiveKeys.mpr (.inr (mem_sortedTexts.mp mem))
  unfold reconcile
  rw [Checked.seq_eq_ok, Checked.bind_eq_ok]
  refine ⟨computed.manager, effective, readConfig, ?_⟩
  rw [Checked.bind_eq_ok]
  refine ⟨_, readState, ?_⟩
  rw [Checked.seq_eq_ok, Checked.seq_eq_ok, Checked.seq_eq_ok, Checked.seq_eq_ok,
    checkKeys_eq_ok, checkKeys_eq_ok, checkKeys_eq_ok, Checked.seq_eq_ok]
  refine ⟨?_, ⟨nodup, ?_⟩, ⟨?_, ?_⟩, ⟨computed.desired.1, ?_⟩, ?_, ?_⟩
  · simp
  · intro key mem
    exact ⟨valid key mem, List.not_mem_nil, rfl⟩
  · exact nodup_sortedTexts.mpr computed.desired.1
  · intro key mem
    have present := wanted key mem
    exact ⟨valid key present, List.not_mem_nil, by simpa using present⟩
  · intro key mem
    exact ⟨computed.desired.2 key mem, List.not_mem_nil, rfl⟩
  · simp
  · have same : effectiveKeys effective (sortedTexts inventory.repositories)
        inventory.repositories = effective := effectiveKeys_again computed.current.1
    simp only [same]
    rw [← computed.config, ← computed.managerState, ← computed.action]
    rfl

/-! ## Runs -/

/-- The entries of a host are those that were added by hand and those that the manager owns. -/
def Consistent (formats : HostFormats β) (host : Host β) : Prop :=
  ∀ key, key ∈ keysOf formats host.files.config ↔
    key ∈ host.manual ∨ key ∈ managedKeys formats host.files.managerState

omit [DecidableEq β] in
/-- An edit keeps the host consistent. -/
theorem consistent_edit {host : Host β} (consistent : Consistent formats host)
    (config : Option β) : Consistent formats (host.edit formats config) := by
  unfold Host.edit
  by_cases keeps : (managedKeys formats host.files.managerState).all
      (keysOf formats config).contains
  · rw [if_pos keeps]
    intro key
    have before := consistent key
    have owned : key ∈ managedKeys formats host.files.managerState →
        key ∈ keysOf formats config := by
      intro mem
      simpa using List.all_eq_true.mp keeps key mem
    simp only [List.mem_append, List.mem_filter, List.contains_eq_mem, Bool.or_eq_true,
      Bool.not_eq_true', decide_eq_false_iff_not, decide_eq_true_eq]
    tauto
  · rwa [if_neg keeps]

/-- What a successful reconciliation computes and publishes. -/
theorem publishes_reconcile (documented : formats.Documented) {host : Host β}
    {inventory : DesiredInventory} {bootstrap : Bool}
    {destination : Option (GenerationDirectory β)} {published : GenerationDirectory β}
    (apart : Apart formats host (.reconcile inventory bootstrap destination))
    (succeeds : reconcileConfig formats host.files host.files inventory bootstrap destination =
      .ok published) :
    ∃ next, Computed formats host.files inventory next ∧ Holds formats next published := by
  obtain ⟨next, computes, publishes⟩ := reconcileConfig_eq_ok.mp succeeds
  have computed := computed_of_reconcile computes
  have holds := holds_of_publishGeneration documented computed.manifest (apart next computes)
    publishes
  exact ⟨next, computed, holds⟩

omit [DecidableEq β] in
/-- The entries of a generation, on a consistent host. -/
theorem mem_effectiveKeys_iff {host : Host β} (consistent : Consistent formats host)
    {desired : List String} :
    (∀ key, key ∈ effectiveKeys (keysOf formats host.files.config)
        (managedKeys formats host.files.managerState) desired ↔
      key ∈ host.manual ∨ key ∈ desired) ↔
    ∀ key ∈ host.manual, key ∈ managedKeys formats host.files.managerState → key ∈ desired := by
  simp only [mem_effectiveKeys]
  constructor
  · intro same key manual owned
    obtain ⟨-, free⟩ | wanted := (same key).mpr (.inl manual)
    · exact absurd owned free
    · exact wanted
  · intro keeps key
    have before := consistent key
    have kept := keeps key
    tauto

/-- What is published is exact if and only if it keeps the adopted keys. -/
theorem exact_iff (documented : formats.Documented) {host : Host β}
    (consistent : Consistent formats host) {inventory : DesiredInventory} {bootstrap : Bool}
    {destination : Option (GenerationDirectory β)} {published : GenerationDirectory β}
    (apart : Apart formats host (.reconcile inventory bootstrap destination))
    (succeeds : reconcileConfig formats host.files host.files inventory bootstrap destination =
      .ok published) :
    Exact formats host inventory published ↔ KeepsAdopted formats host inventory published := by
  obtain ⟨next, computed, holds⟩ := publishes_reconcile documented apart succeeds
  unfold KeepsAdopted
  rw [← mem_effectiveKeys_iff consistent]
  constructor
  · intro exact
    obtain ⟨keys, stored, -, -, members⟩ := exact.union
    rw [holds.config, computed.config] at stored
    have same := congrArg formats.parseConfig (Option.some.inj stored)
    rw [documented.config, documented.config] at same
    rwa [Option.some.inj same]
  · intro members
    constructor
    · refine ⟨_, holds.config.trans (congrArg some computed.config), ?_, ?_, members⟩
      · exact pairwise_sortedTexts _
      · exact nodup_effectiveKeys computed.current.1
    · intro bootstrap destination now apart
      have again : reconcile formats now.files now.files inventory bootstrap = .ok
          ⟨next.config, next.managerState, next.action, generationManifest formats now.files
            next.config next.managerState next.action⟩ :=
        reconcile_again documented computed holds.config holds.managerState bootstrap
      constructor
      · unfold Host.reconcile
        cases result : reconcileConfig formats now.files now.files inventory bootstrap
            destination with
        | error message => rfl
        | ok directory =>
          obtain ⟨other, computes, publishes⟩ := reconcileConfig_eq_ok.mp result
          have kept := holds_of_publishGeneration documented
            (computed_of_reconcile computes).manifest (apart other computes) publishes
          rw [again] at computes
          have same := Except.ok.inj computes
          subst same
          show installed directory = installed published
          unfold installed
          rw [kept.config, kept.managerState, holds.config, holds.managerState]
      · exact ⟨_, reconcileConfig_eq_ok.mpr ⟨_, again, rfl⟩⟩
    · intro directory files unmodified apart
      exact verifyGeneration_eq_ok documented computed.manifest holds unmodified apart

/-- A reconciliation that keeps the adopted keys keeps the host consistent. -/
theorem consistent_reconcile (documented : formats.Documented) {host : Host β}
    (consistent : Consistent formats host) {inventory : DesiredInventory} {bootstrap : Bool}
    {destination : Option (GenerationDirectory β)}
    (apart : Apart formats host (.reconcile inventory bootstrap destination))
    (keeps : Publishes formats (KeepsAdopted formats) host
      (.reconcile inventory bootstrap destination)) :
    Consistent formats (host.reconcile formats inventory bootstrap destination) := by
  unfold Host.reconcile
  cases result : reconcileConfig formats host.files host.files inventory bootstrap
      destination with
  | error message => exact consistent
  | ok published =>
    obtain ⟨next, computed, holds⟩ := publishes_reconcile documented apart result
    have members := (mem_effectiveKeys_iff consistent).mpr (keeps published result)
    intro key
    show key ∈ keysOf formats (published.lookup "iq.yaml") ↔ key ∈ host.manual ∨
      key ∈ managedKeys formats (published.lookup "iq-manager-state.json")
    rw [holds.config, holds.managerState, computed.config, computed.managerState,
      keysOf_configText documented, managedKeys_stateText documented, mem_sortedTexts]
    exact members key

omit [DecidableEq β] in
/-- A generation in a new directory hashes the contents that it writes. -/
theorem injOn_hashed {next : Reconciled β}
    (nodup : ([next.config, next.managerState, next.action].map formats.sha256Hex).Nodup) :
    Set.InjOn formats.sha256Hex (hashed next none) := by
  have written : ∀ content ∈ hashed next none,
      content ∈ [next.config, next.managerState, next.action] := by
    rintro content (mem | ⟨directory, none, -⟩)
    · exact mem
    · cases none
  intro content mem other mem' same
  exact List.inj_on_of_nodup_map nodup (written content mem) (written other mem') same

/-- Manual entries stay for as long as the manager wants those of them that it has wanted. -/
theorem manual_entries_kept_iff (documented : formats.Documented) {host : Host β}
    (initial : (hostMachine formats).Initial host) {labels : List (HostLabel β)}
    (apart : (hostMachine formats).Throughout (Apart formats) host labels) :
    (hostMachine formats).Throughout (Publishes formats (Exact formats)) host labels ↔
      (hostMachine formats).Throughout (Publishes formats (KeepsAdopted formats)) host labels := by
  have consistent : Consistent formats host := by
    obtain ⟨first, manual⟩ := initial
    intro key
    rw [manual, first]
    simp [managedKeys]
  apply Machine.throughout_iff ?_ ?_ consistent apart
  · intro host label consistent apart
    cases label with
    | edit config => exact Iff.rfl
    | reconcile inventory bootstrap destination =>
      apply forall_congr'
      intro published
      apply imp_congr_right
      intro succeeds
      exact exact_iff documented consistent apart succeeds
  · intro host label consistent apart keeps
    cases label with
    | edit config => exact consistent_edit consistent config
    | reconcile inventory bootstrap destination =>
      exact consistent_reconcile documented consistent apart keeps

namespace HostSample

/-- The contents of the files of a host. -/
inductive Content where
  | config (keys : List String)
  | state (state : ManagerState)
  | manifest (manifest : GenerationManifest)
  | text (text : String)
  deriving DecidableEq

/-- The key of the sample's repository. -/
def key : String := "7f1d4c0e-5a3b-4a57-9d2c-0c6f2b8e1a94"

/-- The digests of what `serde` writes for the contents below. -/
def digests : List (Content × String) := [
  (.config [key], "af3314fdb786f435cd9ba790061989e3e69b6e947d6d40bcf314eb1d3446d77f"),
  (.config [], "9fefdca9b4f8cf3c9147e84018de2f4d0167647f2572ede3f82559ffa2170d59"),
  (.state ⟨"app", [key]⟩, "c629e6e00884b3ffcbab2b582401241e272eee321255274af67d0a7e32fe9481"),
  (.state ⟨"app", []⟩, "f6932ed5c77f1d0e4d996281e735977e63125953d360b059de827d5ff0797a45"),
  (.text "start\n", "46210dddc66714c3d8d226711510cf8421774214016c508c72a833a05370f6b5"),
  (.text "stop\n", "a11c3d917a2149a4b548217038bc8f2dd2130a1966e0c7af5c4225d81f25a8c3")]

/-- The formats of the sample: a content is its value, and has its digest in the list. -/
def serde : HostFormats Content where
  uuid value := if value = key then some key else none
  parseConfig content := match content with
    | .config keys => some keys
    | _ => none
  configText := .config
  parseState content := match content with
    | .state state => some state
    | _ => none
  stateText := .state
  parseManifest content := match content with
    | .manifest manifest => some manifest
    | _ => none
  manifestText := .manifest
  text := .text
  sha256Hex content :=
    (digests.lookup content).getD "0000000000000000000000000000000000000000000000000000000000000000"

/-- The sample's formats read back what they write. -/
theorem documented : serde.Documented := by
  have all : digests.all (fun entry => isDigestText entry.2) = true := by decide +kernel
  refine ⟨fun _ => rfl, fun _ => rfl, fun _ => rfl, fun content => ?_⟩
  show isDigestText ((digests.lookup content).getD _) = true
  cases found : digests.lookup content with
  | none => decide +kernel
  | some digest =>
    obtain ⟨before, after, split, -⟩ := List.lookup_eq_some_iff.mp found
    exact List.all_eq_true.mp all (content, digest) (by simp [split])

/-- A configuration with an entry that was added by hand. -/
def host : Host Content := ⟨⟨some (.config [key]), none⟩, [key]⟩

/-- The entry is wanted. -/
def wanted : HostLabel Content := .reconcile ⟨"app", [key]⟩ true none

/-- The entry is wanted a second time. -/
def wantedAgain : HostLabel Content := .reconcile ⟨"app", [key]⟩ false none

/-- The entry is no longer wanted. -/
def dropped : HostLabel Content := .reconcile ⟨"app", []⟩ false none

/-- The sample begins as a host does. -/
theorem initial : (hostMachine serde).Initial host := ⟨rfl, rfl⟩

/-- The first generation. -/
def first : Reconciled Content where
  config := .config [key]
  managerState := .state ⟨"app", [key]⟩
  action := .text "start\n"
  manifest := generationManifest serde host.files (.config [key]) (.state ⟨"app", [key]⟩)
    (.text "start\n")

/-- The first reconciliation of the sample computes its files. -/
theorem computes_first : reconcile serde host.files host.files ⟨"app", [key]⟩ true = .ok first := by
  decide +kernel

/-- The host after the first generation. -/
def adopted : Host Content := ⟨⟨some (.config [key]), some (.state ⟨"app", [key]⟩)⟩, [key]⟩

/-- The first reconciliation of the sample adopts its key. -/
theorem step_wanted : (hostMachine serde).step host wanted = adopted := by
  have succeeds : reconcileConfig serde host.files host.files ⟨"app", [key]⟩ true none = .ok _ :=
    reconcileConfig_eq_ok.mpr ⟨first, computes_first, rfl⟩
  show host.reconcile serde ⟨"app", [key]⟩ true none = adopted
  unfold Host.reconcile
  rw [succeeds]
  rfl

/-- The second generation. -/
def second : Reconciled Content where
  config := .config []
  managerState := .state ⟨"app", []⟩
  action := .text "stop\n"
  manifest := generationManifest serde adopted.files (.config []) (.state ⟨"app", []⟩)
    (.text "stop\n")

/-- The second reconciliation of the sample computes its files. -/
theorem computes_second :
    reconcile serde adopted.files adopted.files ⟨"app", []⟩ false = .ok second := by
  decide +kernel

/-- The second generation of an entry that is still wanted. -/
def kept : Reconciled Content where
  config := .config [key]
  managerState := .state ⟨"app", [key]⟩
  action := .text "start\n"
  manifest := generationManifest serde adopted.files (.config [key]) (.state ⟨"app", [key]⟩)
    (.text "start\n")

/-- The second reconciliation of a wanted entry computes its files. -/
theorem computes_kept : reconcile serde adopted.files adopted.files ⟨"app", [key]⟩ false = .ok kept := by
  decide +kernel

/-- The digests of the first step are told apart. -/
theorem apart_wanted : Apart serde host wanted := by
  intro next computes
  rw [computes_first] at computes
  have same := Except.ok.inj computes
  subst same
  exact injOn_hashed (by decide +kernel)

/-- The digests of a second step for a wanted entry are told apart. -/
theorem apart_wantedAgain : Apart serde adopted wantedAgain := by
  intro next computes
  rw [computes_kept] at computes
  have same := Except.ok.inj computes
  subst same
  exact injOn_hashed (by decide +kernel)

/-- The digests of the second step are told apart. -/
theorem apart_dropped : Apart serde adopted dropped := by
  intro next computes
  rw [computes_second] at computes
  have same := Except.ok.inj computes
  subst same
  exact injOn_hashed (by decide +kernel)

/-- An entry that was added by hand before the manager wanted it goes when the manager no longer
wants it. -/
theorem manual_entry_removed : (hostMachine serde).Initial host ∧
    (hostMachine serde).Throughout (Apart serde) host [wanted, dropped] ∧
    ¬(hostMachine serde).Throughout (Publishes serde (Exact serde)) host [wanted, dropped] := by
  refine ⟨initial, ?_, ?_⟩
  · rw [Machine.throughout_cons, Machine.throughout_cons, step_wanted]
    exact ⟨apart_wanted, apart_dropped, Machine.throughout_nil⟩
  · rw [Machine.throughout_cons, Machine.throughout_cons, step_wanted]
    rintro ⟨-, exact, -⟩
    have published := exact _ (reconcileConfig_eq_ok.mpr ⟨second, computes_second, rfl⟩)
    obtain ⟨keys, stored, -, -, members⟩ := published.union
    have none : [] = keys := Content.config.inj (Option.some.inj stored)
    have present : key ∈ keys := (members key).mpr (.inl (by simp [adopted]))
    rw [← none] at present
    cases present

/-- An adopted entry stays while it is wanted. -/
theorem wanted_exact :
    (hostMachine serde).Throughout (Publishes serde (Exact serde)) host [wanted, wantedAgain] := by
  have apart : (hostMachine serde).Throughout (Apart serde) host [wanted, wantedAgain] := by
    rw [Machine.throughout_cons, Machine.throughout_cons, step_wanted]
    exact ⟨apart_wanted, apart_wantedAgain, Machine.throughout_nil⟩
  have keeps : (hostMachine serde).Throughout (Publishes serde (KeepsAdopted serde)) host
      [wanted, wantedAgain] := by
    rw [Machine.throughout_cons, Machine.throughout_cons, step_wanted]
    refine ⟨?_, ?_, Machine.throughout_nil⟩
    · intro published succeeds entry mem owned
      cases owned
    · intro published succeeds entry mem owned
      exact mem
  exact (manual_entries_kept_iff documented initial apart).mpr keeps

end HostSample

end Iq
