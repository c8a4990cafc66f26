import Iq.Domain.Lines
import Iq.Library.Checked
import Iq.Library.Decimal
import Iq.Library.Table
import Iq.Library.Trim
import Iq.Store.Schema
import Mathlib.Algebra.Ring.Nat

/-!
# Workspace roots

A workspace root has its generation in the database and in a marker file. A creation records the
next generation as pending, then replaces the marker, then completes the generation. A root is
inspected before it is opened: its owner, its marker and its entries have to be those that the
database allows.
-/

namespace Iq

open Library

/-! ## The database -/

/-- The kinds of workspace roots. -/
inductive RootKind where
  | development
  | integration
  deriving DecidableEq, Repr

/-- The text of a kind. -/
def RootKind.text : RootKind → String
  | .development => "development"
  | .integration => "integration"

/-- A row of `workspace_roots`. -/
structure WorkspaceRoot where
  repoKey : String
  kind : RootKind
  generation : Nat
  pendingGeneration : Option Nat
  /-- `CHECK(pending_generation IS NULL OR pending_generation=generation+1)`. -/
  checked : pendingGeneration = none ∨ pendingGeneration = some (generation + 1)

/-- `PRIMARY KEY(repo_key,kind)`. -/
abbrev RootKey := String × RootKind

/-- The primary key of a row. -/
def WorkspaceRoot.key (row : WorkspaceRoot) : RootKey := (row.repoKey, row.kind)

/-- What the creation of an integration workspace reads and writes of an item. -/
structure CreationItem where
  id : String
  repoKey : String
  status : QueueStatus
  workspacePath : Option String
  workspaceRiftId : Option String
  workspaceSourceRiftId : Option String
  workspaceCleaned : Bool

/-- The tables that a creation reads and writes. -/
structure RootStore where
  workspaceRoots : Table WorkspaceRoot.key
  operationStates : String → Option OperationState
  queueItems : Table CreationItem.id

/-- `WorkspaceGenerationState`. -/
inductive WorkspaceGenerationState where
  | ready (current : Nat)
  | pending (current pending : Nat)
  deriving DecidableEq, Repr

/-- `WorkspaceGenerationState::current`. -/
def WorkspaceGenerationState.currentOf : WorkspaceGenerationState → Nat
  | .ready current | .pending current _ => current

/-- `WorkspaceGenerationState::pending`. -/
def WorkspaceGenerationState.pendingOf : WorkspaceGenerationState → Option Nat
  | .ready _ => none
  | .pending _ next => some next

/-- `WorkspaceGenerationState::from_stored`. -/
def WorkspaceGenerationState.fromStored (current : Nat) (pending : Option Nat) :
    Except String WorkspaceGenerationState :=
  match pending with
  | none => .ok (.ready current)
  | some next =>
    if next = current + 1 then .ok (.pending current next)
    else .error "repository workspace generation authority is invalid"

/-- The row as the update of a beginning leaves it. -/
def WorkspaceRoot.enterPending (row : WorkspaceRoot) : WorkspaceRoot :=
  if row.pendingGeneration.isNone then
    { row with
      pendingGeneration := some (row.generation + 1)
      checked := .inr rfl }
  else row

/-- A root that enters a generation has its key. -/
theorem WorkspaceRoot.key_enterPending (row : WorkspaceRoot) : row.enterPending.key = row.key := by
  unfold enterPending
  split <;> rfl

/-- The update and the selection of both beginnings. A number that an `i64` does not hold is not
read. -/
def RootStore.enterPending (store : RootStore) (key : RootKey) :
    Except String (WorkspaceGenerationState × RootStore) :=
  let roots := store.workspaceRoots.update (fun row => row.key == key) WorkspaceRoot.enterPending
    WorkspaceRoot.key_enterPending
  match roots.find? key with
  | none =>
    .error s!"repository queue {key.1} has no registered {key.2.text} workspace root"
  | some row =>
    match row.pendingGeneration with
    | none => .error "repository workspace generation did not enter pending state"
    | some pending =>
      if 2 ^ 63 ≤ pending then .error "Invalid column type Real at index: 1"
      else .ok (.pending row.generation pending, { store with workspaceRoots := roots })

/-- `begin_workspace_generation_for_kind`. -/
def RootStore.beginWorkspaceGenerationForKind (store : RootStore) (repoKey : String)
    (kind : RootKind) (obligation : Option Obligation) :
    Except String (WorkspaceGenerationState × RootStore) := do
  match obligation with
  | none => pure ()
  | some obligation =>
    match store.operationStates repoKey with
    | none => .error "Query returned no rows"
    | some state => state.requireObligation obligation
  store.enterPending (repoKey, kind)

/-- `begin_workspace_creation`. -/
def RootStore.beginWorkspaceCreation (store : RootStore) (repoKey itemId path : String) :
    Except String (WorkspaceGenerationState × RootStore) := do
  let (state, entered) ← store.enterPending (repoKey, .integration)
  let chosen := fun item : CreationItem =>
    item.id == itemId && item.repoKey == repoKey && item.status == .merging
  check (entered.queueItems.count chosen == 1)
    s!"item {itemId} is no longer merging; refusing workspace creation"
  let items := entered.queueItems.update chosen (fun item =>
    { item with
      workspacePath := some path
      workspaceRiftId := none
      workspaceSourceRiftId := none
      workspaceCleaned := false }) fun _ => rfl
  pure (state, { entered with queueItems := items })

/-- The row as its completion leaves it. -/
def WorkspaceRoot.finish (pending : Nat) (row : WorkspaceRoot) : WorkspaceRoot :=
  { row with
    generation := pending
    pendingGeneration := none
    checked := .inl rfl }

/-- A root that finishes a generation has its key. -/
theorem WorkspaceRoot.key_finish (pending : Nat) (row : WorkspaceRoot) :
    (row.finish pending).key = row.key := rfl

/-- The condition of a completion. -/
def WorkspaceRoot.awaits (key : RootKey) (current pending : Nat) (row : WorkspaceRoot) : Bool :=
  row.key == key && row.generation == current && row.pendingGeneration == some pending

/-- `complete_workspace_generation`. -/
def RootStore.completeWorkspaceGeneration (store : RootStore) (key : RootKey)
    (expected : WorkspaceGenerationState) : Except String RootStore :=
  match expected with
  | .ready _ => .error "workspace generation completion requires pending authority"
  | .pending current pending =>
    if store.workspaceRoots.count (WorkspaceRoot.awaits key current pending) = 1 then
      .ok { store with
        workspaceRoots := store.workspaceRoots.update (WorkspaceRoot.awaits key current pending)
          (WorkspaceRoot.finish pending) (WorkspaceRoot.key_finish pending) }
    else .error "pending workspace generation authority changed before completion"

/-! ## The root -/

/-- What stands under a name in a workspace root. -/
inductive EntryKind where
  | directory
  | regular (text : String)
  | symlink
  deriving DecidableEq, Repr

/-- `RiftWorkspaceRootOwner`. -/
structure RiftWorkspaceRootOwner where
  version : Nat
  queueDatabaseId : String
  repoKey : String
  role : String
  root : String
  source : String
  sourceRiftId : String
  registryIdentity : String
  deriving DecidableEq, Repr

/-- A workspace root: its owner marker as it is parsed, the text of its generation marker, and its
other entries. -/
structure RootDirectory where
  owner : Option RiftWorkspaceRootOwner
  generation : Option String
  entries : List (String × EntryKind)
  deriving DecidableEq, Repr

/-- What an inspection compares with the root: the outcome of the checks of the source, its registry
and the paths, the owner, and the workspaces below the root that Rift lists. -/
structure Surroundings where
  verified : Check
  owner : RiftWorkspaceRootOwner
  listed : List String

/-- `str::parse::<i64>`. -/
def parseInteger : List Char → Option Int
  | '-' :: digits =>
    if digits.head? = some '+' then none
    else (Decimal.parse (2 ^ 63 + 1) digits).map fun value => -Int.ofNat value
  | text => (Decimal.parse (2 ^ 63) text).map Int.ofNat

/-- The number in a marker. -/
def readMarker (text : String) : Option Int := parseInteger (trimCharacters text.toList)

/-- The text of a marker. -/
def markerText (generation : Nat) : String := .ofList (Decimal.digits generation ++ ['\n'])

/-- `is_rift_workspace_root_entry`. -/
def isRiftWorkspaceRootEntry (entry : String × EntryKind) : Except String Bool :=
  if entry.1 ≠ ".trash" then .ok false
  else if entry.2 = .directory then .ok true
  else .error s!"Rift trash path must be a real directory: {entry.1}"

/-- `sandbox_cycle_id`; the parameter is `Uuid::parse_str` with `to_string`. -/
def sandboxCycleId (uuid : String → Option String) (entry : String × EntryKind) :
    Except String (Option String) :=
  match stripPrefix ".iq-agent-sandbox-".toList entry.1.toList with
  | none => .ok none
  | some characters =>
    let cycleId := String.ofList characters
    match uuid cycleId with
    | none => .error s!"IQ agent sandbox has malformed cycle identity: {entry.1}"
    | some parsed =>
      if parsed ≠ cycleId then
        .error s!"IQ agent sandbox has non-canonical cycle identity: {entry.1}"
      else if entry.2 = .directory then .ok (some cycleId)
      else .error s!"IQ agent sandbox must be a real directory: {entry.1}"

/-- The check of one entry. -/
def inspectEntry (uuid : String → Option String) (listed : List String)
    (entry : String × EntryKind) : Check := do
  let trash ← isRiftWorkspaceRootEntry entry
  if trash then pure ()
  else
    let cycle ← sandboxCycleId uuid entry
    check (cycle.isSome || listed.contains entry.1)
      s!"IQ workspace root contains unknown entry {entry.1}"

/-- The check of one workspace that Rift lists. -/
def inspectListed (entries : List (String × EntryKind)) (name : String) : Check :=
  match entries.lookup name with
  | none => .error s!"inspect listed Rift workspace {name}"
  | some kind =>
    check (kind == .directory) s!"listed Rift workspace must be a real directory: {name}"

/-- A check of each element, up to the first that fails. -/
def checkAll {α : Type} (each : α → Check) : List α → Check
  | [] => .ok ()
  | element :: rest => do
    each element
    checkAll each rest

/-- `RiftWorkspaceManager::inspect`. -/
def inspectRoot (uuid : String → Option String) (surroundings : Surroundings)
    (authority : WorkspaceGenerationState) (directory : RootDirectory) : Check := do
  surroundings.verified
  match directory.owner with
  | none => .error "IQ workspace root owner marker is missing"
  | some owner =>
    check (owner == surroundings.owner) "IQ workspace root is owned by incompatible configuration"
  match directory.generation.bind readMarker with
  | none => .error "parse IQ workspace generation"
  | some generation =>
    check (generation == authority.currentOf ||
        authority.pendingOf.map Int.ofNat == some generation)
      "queue database current/pending generation authority differs from IQ workspace root"
  checkAll (inspectListed directory.entries) surroundings.listed
  checkAll (inspectEntry uuid surroundings.listed) directory.entries

/-- `RiftWorkspaceManager`: the generation that it has read or written. -/
structure RiftWorkspaceManager where
  generation : Nat
  deriving DecidableEq, Repr

/-- `read_generation_at`. -/
def readGenerationAt (directory : RootDirectory) : Except String (Option Nat) :=
  match directory.generation with
  | none => .ok none
  | some text =>
    match readMarker text with
    | none => .error "parse IQ workspace generation"
    | some generation =>
      if generation < 0 then .error "IQ workspace generation must not be negative"
      else .ok (some generation.toNat)

/-- `verify_root_identity`. -/
def RiftWorkspaceManager.verifyRootIdentity (manager : RiftWorkspaceManager)
    (surroundings : Surroundings) (directory : RootDirectory) : Check := do
  check (directory.owner == some surroundings.owner)
    "IQ workspace root ownership changed while running"
  match ← readGenerationAt directory with
  | none => .error "IQ workspace root generation is missing"
  | some persisted =>
    check (persisted == manager.generation) "IQ workspace root generation changed"

/-- `RiftWorkspaceManager::open`. -/
def openRoot (uuid : String → Option String) (surroundings : Surroundings)
    (authority : WorkspaceGenerationState) (directory : RootDirectory) :
    Except String RiftWorkspaceManager := do
  inspectRoot uuid surroundings authority directory
  match ← readGenerationAt directory with
  | none => .error "IQ workspace root generation is missing"
  | some persisted =>
    let manager := ⟨persisted⟩
    manager.verifyRootIdentity surroundings directory
    pure manager

/-- The name of a temporary marker. -/
def temporaryName (id : String) : String := ".iq-workspace-generation-" ++ id ++ ".tmp"

/-- `write_generation` up to its rename. -/
def RootDirectory.createTemporary (directory : RootDirectory) (id : String) (generation : Nat) :
    Except String RootDirectory :=
  if (directory.entries.map Prod.fst).contains (temporaryName id) then .error "File exists"
  else .ok { directory with
    entries := directory.entries ++ [(temporaryName id, .regular (markerText generation))] }

/-- The rename of `write_generation`. -/
def RootDirectory.renameTemporary (directory : RootDirectory) (id : String) : RootDirectory :=
  match directory.entries.lookup (temporaryName id) with
  | some (.regular text) =>
    { directory with
      generation := some text
      entries := directory.entries.filter fun entry => entry.1 != temporaryName id }
  | _ => directory

/-- Whether `reconcile_pending_generation` writes the marker. -/
def RiftWorkspaceManager.reconcilePendingGeneration (manager : RiftWorkspaceManager)
    (surroundings : Surroundings) (authority : WorkspaceGenerationState)
    (directory : RootDirectory) : Except String (Option Nat) :=
  match authority with
  | .ready _ => .error "workspace generation reconciliation requires pending authority"
  | .pending current pending => do
    manager.verifyRootIdentity surroundings directory
    if manager.generation = current then pure (some pending)
    else if manager.generation = pending then pure none
    else .error "IQ workspace root generation differs from current and pending authority"

/-! ## Markers and entries -/

/-- No digit is white space. -/
theorem isWhiteSpace_of_isDigit {character : Char} (digit : character.isDigit = true) :
    isWhiteSpace character = false := by
  simp only [Char.isDigit, Bool.and_eq_true, decide_eq_true_eq, ge_iff_le,
    UInt32.le_iff_toNat_le] at digit
  have same : character.toNat = character.val.toNat := rfl
  simp at digit
  simp only [isWhiteSpace, same, Bool.or_eq_false_iff, Bool.and_eq_false_iff,
    decide_eq_false_iff_not, beq_eq_false_iff_ne]
  omega

/-- A written marker is read back. -/
theorem readMarker_markerText {generation : Nat} (small : generation < 2 ^ 63) :
    readMarker (markerText generation) = some (generation : Int) := by
  have digit : ∀ character ∈ Decimal.digits generation, character.isDigit = true :=
    fun _ => Decimal.isDigit_of_mem_digits
  have trimmed : trimCharacters (markerText generation).toList = Decimal.digits generation := by
    show trim isWhiteSpace (markerText generation).toList = _
    rw [markerText, String.toList_ofList, trim_concat (by decide), trim_eq_self_iff]
    constructor
    · intro character mem
      exact isWhiteSpace_of_isDigit (digit character (List.mem_of_head? mem))
    · intro character mem
      exact isWhiteSpace_of_isDigit (digit character (List.mem_of_getLast? mem))
  have unsigned : parseInteger (Decimal.digits generation) =
      (Decimal.parse (2 ^ 63) (Decimal.digits generation)).map Int.ofNat := by
    unfold parseInteger
    split
    · rename_i rest same
      have minus := digit '-' (by simp [same])
      cases minus
    · rfl
  rw [readMarker, trimmed, unsigned, Decimal.parse_digits small, Option.map_some]
  rfl

/-- All elements pass when each does. -/
theorem checkAll_eq_ok {α : Type} {each : α → Check} {elements : List α} :
    checkAll each elements = .ok () ↔ ∀ element ∈ elements, each element = .ok () := by
  induction elements with
  | nil => simp [checkAll]
  | cons element rest iff_rest => rw [checkAll, Checked.seq_eq_ok, iff_rest, List.forall_mem_cons]

/-- Every entry that an inspection knows is a directory. -/
theorem kind_of_inspectEntry {uuid : String → Option String} {listed : List String}
    {entries : List (String × EntryKind)} {entry : String × EntryKind}
    (all : checkAll (inspectListed entries) listed = .ok ())
    (found : entries.lookup entry.1 = some entry.2)
    (inspected : inspectEntry uuid listed entry = .ok ()) : entry.2 = .directory := by
  unfold inspectEntry at inspected
  rw [Checked.bind_eq_ok] at inspected
  obtain ⟨trash, isTrash, inspected⟩ := inspected
  by_contra other
  have no_trash : trash = false := by
    unfold isRiftWorkspaceRootEntry at isTrash
    by_cases named : entry.1 ≠ ".trash"
    · rw [if_pos named] at isTrash
      exact (Except.ok.inj isTrash).symm
    · rw [if_neg named, if_neg other] at isTrash
      cases isTrash
  subst no_trash
  rw [if_neg Bool.false_ne_true, Checked.bind_eq_ok] at inspected
  obtain ⟨cycle, isCycle, known⟩ := inspected
  have no_cycle : cycle = none := by
    unfold sandboxCycleId at isCycle
    split at isCycle
    · exact (Except.ok.inj isCycle).symm
    · simp only [] at isCycle
      split at isCycle
      · cases isCycle
      · rw [if_neg other] at isCycle
        split at isCycle <;> cases isCycle
  subst no_cycle
  have mem : entry.1 ∈ listed := by simpa using known
  have checked := checkAll_eq_ok.mp all entry.1 mem
  unfold inspectListed at checked
  rw [found] at checked
  exact other (by simpa using checked)

/-! ## Inspections -/

section Inspections

variable {uuid : String → Option String} {surroundings : Surroundings}
  {authority : WorkspaceGenerationState} {directory : RootDirectory}

/-- The entries of a root as an inspection accepts them. -/
def EntriesPass (uuid : String → Option String) (surroundings : Surroundings)
    (entries : List (String × EntryKind)) : Prop :=
  checkAll (inspectListed entries) surroundings.listed = .ok () ∧
    checkAll (inspectEntry uuid surroundings.listed) entries = .ok ()

/-- The marker of a root as an inspection accepts it. -/
def MarkerPasses (authority : WorkspaceGenerationState) (marker : Option String) : Prop :=
  ∃ generation : Nat, marker.bind readMarker = some (generation : Int) ∧
    (generation = authority.currentOf ∨ authority.pendingOf = some generation)

/-- An inspection passes when the owner, the marker and the entries do. -/
theorem inspectRoot_eq_ok : inspectRoot uuid surroundings authority directory = .ok () ↔
    surroundings.verified = .ok () ∧ directory.owner = some surroundings.owner ∧
      MarkerPasses authority directory.generation ∧
      EntriesPass uuid surroundings directory.entries := by
  unfold inspectRoot MarkerPasses EntriesPass
  rw [Checked.seq_eq_ok]
  apply and_congr_right
  intro _
  cases directory.owner with
  | none => simp [bind, Except.bind]
  | some owner =>
    simp only []
    rw [Checked.seq_eq_ok, check_eq_ok, beq_iff_eq, Option.some.injEq]
    apply and_congr_right
    intro _
    cases directory.generation.bind readMarker with
    | none => simp [bind, Except.bind]
    | some generation =>
      simp only []
      rw [Checked.seq_eq_ok, Checked.seq_eq_ok, check_eq_ok, Bool.or_eq_true, beq_iff_eq,
        beq_iff_eq]
      apply and_congr_left
      intro _
      constructor
      · rintro (current | pending)
        · exact ⟨_, congrArg some current, .inl rfl⟩
        · obtain ⟨next, next_pending, same⟩ := Option.map_eq_some_iff.mp pending
          exact ⟨next, congrArg some same.symm, .inr next_pending⟩
      · rintro ⟨value, read, current | pending⟩
        · left
          rw [Option.some.inj read, current]
        · right
          rw [pending, Option.some.inj read]
          rfl

/-- The generation of a written marker is read. -/
theorem readGenerationAt_markerText {generation : Nat} (small : generation < 2 ^ 63)
    (marker : directory.generation = some (markerText generation)) :
    readGenerationAt directory = .ok (some generation) := by
  unfold readGenerationAt
  rw [marker]
  simp [readMarker_markerText small]

/-- A manager is verified when the owner is its own and the marker its generation. -/
theorem verifyRootIdentity_eq_ok {manager : RiftWorkspaceManager} {generation : Nat}
    (small : generation < 2 ^ 63)
    (marker : directory.generation = some (markerText generation)) :
    manager.verifyRootIdentity surroundings directory = .ok () ↔
      directory.owner = some surroundings.owner ∧ generation = manager.generation := by
  unfold RiftWorkspaceManager.verifyRootIdentity
  rw [Checked.seq_eq_ok, readGenerationAt_markerText small marker, check_eq_ok, beq_iff_eq]
  simp [bind, Except.bind]

/-- A root that passes the inspection is opened with the generation of its marker. -/
theorem openRoot_eq_ok {generation : Nat} (small : generation < 2 ^ 63)
    (marker : directory.generation = some (markerText generation))
    (inspected : inspectRoot uuid surroundings authority directory = .ok ()) :
    openRoot uuid surroundings authority directory = .ok ⟨generation⟩ := by
  have owner := (inspectRoot_eq_ok.mp inspected).2.1
  have verified : RiftWorkspaceManager.verifyRootIdentity ⟨generation⟩ surroundings directory =
      .ok () := (verifyRootIdentity_eq_ok small marker).mpr ⟨owner, rfl⟩
  unfold openRoot
  rw [inspected, readGenerationAt_markerText small marker]
  simp [bind, Except.bind, verified, pure, Except.pure]

end Inspections

end Iq
