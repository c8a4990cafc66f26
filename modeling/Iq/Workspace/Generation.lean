import Iq.Workspace.RootInvariant

/-!
# Generations of workspace roots

Through every run a root survives: its marker is the one that the database allows, it can be opened,
and a generation that is pending can be finished, unless the write of a marker was interrupted.
-/

namespace Iq

open Library

/-! ## Surviving roots -/

/-- What a root is promised to be in a state. That it opens is asked where no live process is writing
its marker. That a pending generation can be finished is asked where no process has the root open,
of the next operation that `begin` admits. -/
structure Survives (uuid : String → Option String) (surroundings : RootKey → Surroundings)
    (system : GenerationSystem) (key : RootKey) (row : WorkspaceRoot)
    (authority : WorkspaceGenerationState) : Prop where
  marker : ∃ generation : Nat,
    (system.directories key).generation.bind readMarker = some (generation : Int) ∧
    (generation = authority.currentOf ∨ authority.pendingOf = some generation)
  counted : row.generation = system.completed key
  opens : (∀ opened ∈ system.opened key, opened.work.isWriting = false) →
    inspectRoot uuid (surroundings key) authority (system.directories key) = .ok () ∧
    ∃ manager, openRoot uuid (surroundings key) authority (system.directories key) = .ok manager
  finishes : system.opened key = none → ∀ current pending, authority = .pending current pending →
    ∀ request id, request.kind = key.2 →
    temporaryName id ∉ (system.directories key).entries.map Prod.fst →
    (system.store.begin key.1 request).isOk = true →
    let last := (generationMachine uuid surroundings).run system
      [.openRoot key, .begin key.1 request, .prepare key id, .publish key true, .complete key]
    ∃ finished, last.store.workspaceRoots.find? key = some finished ∧
      finished.generation = pending ∧ finished.pendingGeneration = none ∧
      (last.directories key).generation.bind readMarker = some (pending : Int)
  refuses : ∀ text,
    inspectRoot uuid (surroundings key) authority
      { system.directories key with
        generation := some text } = .ok () →
    ∃ generation : Nat, readMarker text = some (generation : Int) ∧
      (generation = authority.currentOf ∨ authority.pendingOf = some generation)

/-- Every root survives in a state. -/
def AllSurvive (uuid : String → Option String) (surroundings : RootKey → Surroundings)
    (system : GenerationSystem) : Prop :=
  ∀ key row, system.store.workspaceRoots.find? key = some row →
    ∃ authority, WorkspaceGenerationState.fromStored row.generation row.pendingGeneration =
      .ok authority ∧ Survives uuid surroundings system key row authority

/-! ## Runs -/

section Runs

variable {uuid : String → Option String} {surroundings : RootKey → Surroundings}
  {system : GenerationSystem} {key : RootKey}

open GenerationSystem

/-- Every root of a state is steady. -/
def AllSteady (uuid : String → Option String) (surroundings : RootKey → Surroundings)
    (system : GenerationSystem) : Prop :=
  ∀ key view, system.view key = some view → Steady uuid (surroundings key) view

/-- A stored root has a generation state. -/
theorem fromStored_eq_ok (row : WorkspaceRoot) :
    ∃ authority, WorkspaceGenerationState.fromStored row.generation row.pendingGeneration =
        .ok authority ∧ authority.currentOf = row.generation ∧
        authority.pendingOf = row.pendingGeneration := by
  cases pended : row.pendingGeneration with
  | none => exact ⟨_, rfl, rfl, rfl⟩
  | some pending =>
    have next := pending_eq pended
    exact ⟨_, if_pos next, rfl, rfl⟩

/-- A reconciliation without interruption leaves the pending generation in the marker. -/
theorem publishAt_prepareAt {current pending generation : Nat} {id : String}
    (begun : system.opened key = some ⟨⟨generation⟩, .begun (.pending current pending)⟩)
    (verified : RiftWorkspaceManager.verifyRootIdentity ⟨generation⟩ (surroundings key)
      (system.directories key) = .ok ())
    (marker : (system.directories key).generation = some (markerText generation))
    (known : generation = current ∨ generation = pending)
    (fresh : temporaryName id ∉ (system.directories key).entries.map Prod.fst) :
    let later := (system.prepareAt surroundings key id).publishAt key true
    later.store = system.store ∧
      later.opened key = some ⟨⟨pending⟩, .reconciled (.pending current pending)⟩ ∧
      (later.directories key).generation = some (markerText pending) := by
  intro later
  by_cases old : generation = current
  · let directory : RootDirectory := { system.directories key with
      entries := (system.directories key).entries ++
        [(temporaryName id, .regular (markerText pending))] }
    have created : (system.directories key).createTemporary id pending = .ok directory :=
      if_neg (by simpa using fresh)
    have prepared : system.prepareAt surroundings key id =
        (system.setDirectory key directory).setOpened key
          (some ⟨⟨generation⟩, .writing current pending id⟩) := by
      unfold prepareAt RiftWorkspaceManager.reconcilePendingGeneration
      simp only [begun, verified, bind, Except.bind, if_pos old, pure, Except.pure, created]
    have renamed : (directory.renameTemporary id).generation = some (markerText pending) := by
      simp only [RootDirectory.renameTemporary, directory, lookup_append_of_not_mem fresh]
    simp only [later, prepared]
    simp [publishAt, setOpened, setDirectory, renamed]
  · have new : generation = pending := known.resolve_left old
    subst new
    have prepared : system.prepareAt surroundings key id =
        system.setOpened key (some ⟨⟨generation⟩, .reconciled (.pending current generation)⟩) := by
      unfold prepareAt RiftWorkspaceManager.reconcilePendingGeneration
      simp only [begun, verified, bind, Except.bind, if_neg old, if_pos, pure, Except.pure]
    simp only [later, prepared]
    simp [publishAt, setOpened, marker]

/-- A restart completes the generation that is pending. -/
theorem Steady.finishes {view : RootView} (steady : Steady uuid (surroundings key) view)
    (seen : system.view key = some view) (closed : system.opened key = none) {current pending : Nat}
    (read : WorkspaceGenerationState.fromStored view.row.generation view.row.pendingGeneration =
      .ok (.pending current pending))
    (inspected : inspectRoot uuid (surroundings key) (.pending current pending)
      (system.directories key) = .ok ())
    {request : BeginRequest} (kind : request.kind = key.2) {id : String}
    (fresh : temporaryName id ∉ (system.directories key).entries.map Prod.fst)
    (begins : (system.store.begin key.1 request).isOk = true) :
    let last := (generationMachine uuid surroundings).run system
      [.openRoot key, .begin key.1 request, .prepare key id, .publish key true, .complete key]
    ∃ finished, last.store.workspaceRoots.find? key = some finished ∧
      finished.generation = pending ∧ finished.pendingGeneration = none ∧
      (last.directories key).generation.bind readMarker = some (pending : Int) := by
  obtain ⟨found, directory, -, -⟩ := view_eq_some.mp seen
  obtain ⟨authority, stored, sameCurrent, pended⟩ := fromStored_eq_ok view.row
  have same := Except.ok.inj (stored.symm.trans read)
  subst same
  have generation_eq : current = view.row.generation := sameCurrent
  have pended : view.row.pendingGeneration = some pending := pended.symm
  obtain ⟨generation, marker, known⟩ := steady.marker
  have small := steady.small known
  rw [directory] at marker
  have owner : (system.directories key).owner = some (surroundings key).owner :=
    directory ▸ steady.owner
  -- the root opens with the generation of the marker
  have opened : system.openAt uuid surroundings key =
      system.setOpened key (some ⟨⟨generation⟩, .idle⟩) := by
    unfold openAt
    simp only [closed, found, read, openRoot_eq_ok small marker inspected]
  -- the pending generation is begun again
  have named : (key.1, request.kind) = key := by rw [kind]
  obtain ⟨⟨authority, store⟩, began⟩ := Checked.exists_of_isOk begins
  obtain ⟨row, next, found', raised, -, rfl, roots⟩ := begin_eq_ok began
  rw [named] at found' roots
  have same : view.row = row := Option.some.inj (found.symm.trans found')
  subst same
  have entered : view.row.enterPending = view.row := by
    unfold WorkspaceRoot.enterPending
    rw [pended]
    rfl
  rw [entered, pended, Option.some.injEq] at raised
  subst raised
  have stored : store.workspaceRoots.find? key = some view.row := by
    rw [roots, Table.find?_update_key _ _ found, entered]
  let start := { system with store := store }.setOpened key
    (some ⟨⟨generation⟩, .begun (.pending current pending)⟩)
  have begun : (system.setOpened key (some ⟨⟨generation⟩, .idle⟩)).beginAt key.1 request =
      start := by
    unfold beginAt
    rw [named]
    simp [start, setOpened, began, generation_eq]
  -- the marker is reconciled and the generation completed
  have verified : RiftWorkspaceManager.verifyRootIdentity ⟨generation⟩ (surroundings key)
      (system.directories key) = .ok () := (verifyRootIdentity_eq_ok small marker).mpr ⟨owner, rfl⟩
  have written : generation = current ∨ generation = pending := by
    obtain old | new := known
    · exact .inl (old.trans generation_eq.symm)
    · rw [pended, Option.some.injEq] at new
      exact .inr new.symm
  have holds : start.opened key = some ⟨⟨generation⟩, .begun (.pending current pending)⟩ := by
    simp [start, setOpened]
  obtain ⟨sameStore, reconciled, published⟩ :=
    publishAt_prepareAt holds verified marker written fresh
  obtain ⟨completed, completes⟩ := complete_of_awaits stored generation_eq.symm pended
  obtain ⟨_, _, row, same, foundRow, finished, -⟩ := complete_eq_ok completes
  cases same
  have same : view.row = row := Option.some.inj (stored.symm.trans foundRow)
  subst same
  let ready := (start.prepareAt surroundings key id).publishAt key true
  have completes : ready.store.completeWorkspaceGeneration key (.pending current pending) =
      .ok completed := by
    rw [sameStore]
    exact completes
  have last : (generationMachine uuid surroundings).run system
      [.openRoot key, .begin key.1 request, .prepare key id, .publish key true, .complete key] =
      ready.completeAt key := by
    show GenerationSystem.completeAt (publishAt (prepareAt surroundings
      (beginAt (openAt uuid surroundings system key) key.1 request) key id) key true) key = _
    rw [opened, begun]
  intro final
  have final_eq : final = ready.completeAt key := last
  rw [final_eq]
  unfold completeAt
  rw [reconciled]
  simp only [completes]
  refine ⟨view.row.finish pending, finished, rfl, rfl, ?_⟩
  show (ready.directories key).generation.bind readMarker = _
  rw [published, Option.bind_some, readMarker_markerText (steady.small (.inr pended))]

/-- A steady root survives. -/
theorem survives_of_steady {view : RootView} (steady : Steady uuid (surroundings key) view)
    (seen : system.view key = some view) {authority : WorkspaceGenerationState}
    (read : WorkspaceGenerationState.fromStored view.row.generation view.row.pendingGeneration =
      .ok authority) :
    Survives uuid surroundings system key view.row authority := by
  obtain ⟨authority', read', current, pended⟩ := fromStored_eq_ok view.row
  have same := Except.ok.inj (read'.symm.trans read)
  subst same
  obtain ⟨found, directory, opened, completed⟩ := view_eq_some.mp seen
  obtain ⟨generation, marker, known⟩ := steady.marker
  have small := steady.small known
  rw [directory] at marker
  have passes : MarkerPasses authority' (system.directories key).generation := by
    refine ⟨generation, ?_, ?_⟩
    · rw [marker, Option.bind_some, readMarker_markerText small]
    · rwa [current, pended]
  have inspected : (∀ opened ∈ system.opened key, opened.work.isWriting = false) →
      inspectRoot uuid (surroundings key) authority' (system.directories key) = .ok () := by
    intro quiet
    rw [← opened] at quiet
    have pass := steady.entriesPass quiet
    rw [directory] at pass
    exact inspectRoot_eq_ok.mpr ⟨steady.verified, directory ▸ steady.owner, passes, pass⟩
  constructor
  · exact passes
  · exact steady.counted.trans completed
  · intro quiet
    exact ⟨inspected quiet, _, openRoot_eq_ok small marker (inspected quiet)⟩
  · rintro closed current pending rfl request id kind fresh begins
    have quiet : ∀ opened ∈ system.opened key, opened.work.isWriting = false := by
      rw [closed]
      rintro _ ⟨⟩
    exact steady.finishes seen closed read (inspected quiet) kind fresh begins
  · intro text accepted
    exact (inspectRoot_eq_ok.mp accepted).2.2.1

/-- Where all roots are steady, all survive. -/
theorem allSurvive_of_allSteady (steady : AllSteady uuid surroundings system) :
    AllSurvive uuid surroundings system := by
  intro key row found
  obtain ⟨authority, read, -, -⟩ := fromStored_eq_ok row
  have seen := view_of_found found
  exact ⟨authority, read, survives_of_steady (steady key _ seen) seen read⟩

/-- A step that interrupts no marker keeps all roots steady. -/
theorem allSteady_step (steady : AllSteady uuid surroundings system) {label : GenerationLabel}
    (whole : ¬Interrupts system label) :
    AllSteady uuid surroundings ((generationMachine uuid surroundings).step system label) := by
  have stepped : StepsAt system ((generationMachine uuid surroundings).step system label) label.key
      (Moves uuid (surroundings label.key)) := stepsAt_step whole
  obtain ⟨others, moved⟩ := stepped
  intro key next seen
  by_cases same : key = label.key
  · subst same
    rw [seen] at moved
    cases before : system.view label.key with
    | none =>
      rw [before] at moved
      cases moved
    | some view =>
      rw [before] at moved
      cases moved with
      | some moves => exact steady_of_moves (steady _ _ before) moves
  · rw [others key same] at seen
    exact steady key next seen

/-- An interrupted marker keeps its root closed. -/
theorem not_allSurvive_of_interrupts (steady : AllSteady uuid surroundings system)
    {label : GenerationLabel} (interrupted : Interrupts system label) :
    ¬AllSurvive uuid surroundings ((generationMachine uuid surroundings).step system label) := by
  obtain ⟨key, registered, ⟨opened, isOpened, writing⟩, ends⟩ := interrupted
  obtain ⟨row, found⟩ := Option.isSome_iff_exists.mp registered
  have isOpened : system.opened key = some opened := isOpened
  obtain ⟨base, -, entries, fresh⟩ := (steady key _ (view_of_found found)).entries
  obtain ⟨manager, work⟩ := opened
  cases work with
  | idle | begun | reconciled => cases writing
  | writing current pending id =>
    simp only [isOpened, temporaries] at entries fresh
    have free : temporaryName id ∉ base.map Prod.fst := fresh _ List.mem_cons_self
    have later : ∃ opened, (generationMachine uuid surroundings).step system label =
        system.setOpened key opened ∧ ∀ after ∈ opened, after.work.isWriting = false := by
      obtain rfl | rfl := ends
      · refine ⟨some ⟨manager, .idle⟩, ?_, ?_⟩
        · show system.failAt key = _
          unfold failAt
          rw [isOpened]
        · rintro after ⟨⟩
          rfl
      · exact ⟨none, rfl, by rintro _ ⟨⟩⟩
    obtain ⟨opened, stepped, quiet⟩ := later
    rw [stepped]
    intro all
    obtain ⟨authority, -, survives⟩ := all key row found
    have quiet : ∀ after ∈ (system.setOpened key opened).opened key,
        after.work.isWriting = false := by
      simpa [setOpened] using quiet
    have inspected := (survives.opens quiet).1
    obtain ⟨-, -, -, listed, known⟩ := inspectRoot_eq_ok.mp inspected
    have found : (system.directories key).entries.lookup (temporaryName id) =
        some (.regular (markerText pending)) := by
      rw [entries]
      exact lookup_append_of_not_mem free
    have mem : (temporaryName id, EntryKind.regular (markerText pending)) ∈
        (system.directories key).entries := by
      rw [entries]
      exact List.mem_append_right _ List.mem_cons_self
    have directory := kind_of_inspectEntry listed found (checkAll_eq_ok.mp known _ mem)
    cases directory

/-- What is promised of a step: the roots survive it, and a generation grows by one with each
operation that is completed, and otherwise not. -/
def SurvivesStep (uuid : String → Option String) (surroundings : RootKey → Surroundings)
    (system : GenerationSystem) (label : GenerationLabel) : Prop :=
  let later := (generationMachine uuid surroundings).step system label
  AllSurvive uuid surroundings later ∧ ∀ key row, system.store.workspaceRoots.find? key = some row →
    ∃ next, later.store.workspaceRoots.find? key = some next ∧
      (next.generation = row.generation ∧ later.completed key = system.completed key ∨
        next.generation = row.generation + 1 ∧ later.completed key = system.completed key + 1)

/-- A move that completes a generation raises it by one, and no other changes it. -/
theorem grows_of_moves {surroundings : Surroundings} {view next : RootView}
    (steady : Steady uuid surroundings view) (moved : Moves uuid surroundings view next) :
    next.row.generation = view.row.generation ∧ next.completed = view.completed ∨
      next.row.generation = view.row.generation + 1 ∧ next.completed = view.completed + 1 := by
  cases moved with
  | begins idle raised small =>
    left
    refine ⟨?_, rfl⟩
    show view.row.enterPending.generation = _
    unfold WorkspaceRoot.enterPending
    split <;> rfl
  | completes reconciled =>
    right
    obtain ⟨_, _, same, pends, -⟩ := steady.work _ reconciled
    cases same
    exact ⟨pending_eq pends.2, rfl⟩
  | _ => exact .inl ⟨rfl, rfl⟩

/-- All roots survive a step if and only if it interrupts no marker. -/
theorem survivesStep_iff (steady : AllSteady uuid surroundings system) {label : GenerationLabel} :
    SurvivesStep uuid surroundings system label ↔ ¬Interrupts system label := by
  constructor
  · intro survives interrupted
    exact not_allSurvive_of_interrupts steady interrupted survives.1
  · intro whole
    refine ⟨allSurvive_of_allSteady (allSteady_step steady whole), ?_⟩
    intro key row found
    have stepped : StepsAt system ((generationMachine uuid surroundings).step system label)
        label.key (Moves uuid (surroundings label.key)) := stepsAt_step whole
    obtain ⟨others, moved⟩ := stepped
    have before := view_of_found found
    by_cases same : key = label.key
    · subst same
      rw [before] at moved
      cases after : GenerationSystem.view ((generationMachine uuid surroundings).step system label)
          label.key with
      | none =>
        rw [after] at moved
        cases moved
      | some next =>
        rw [after] at moved
        cases moved with
        | some moves =>
          obtain ⟨stored, -, -, completed⟩ := view_eq_some.mp after
          have grows := grows_of_moves (steady _ _ before) moves
          rw [completed] at grows
          exact ⟨next.row, stored, grows⟩
    · have kept := others key same
      rw [before] at kept
      obtain ⟨stored, -, -, completed⟩ := view_eq_some.mp kept
      exact ⟨row, stored, .inl ⟨rfl, completed.symm⟩⟩

/-- Provisioned roots are steady. -/
theorem allSteady_of_initial (initial : (generationMachine uuid surroundings).Initial system) :
    AllSteady uuid surroundings system := by
  intro key view seen
  obtain ⟨found, directory, opened, completed⟩ := view_eq_some.mp seen
  have provisioned := initial key view.row found
  obtain ⟨verified, owner, -, pass⟩ := inspectRoot_eq_ok.mp provisioned.accepted
  have closed : view.opened = none := opened.trans provisioned.closed
  constructor
  · refine ⟨provisioned.generation, ?_⟩
    rw [provisioned.ready]
    rintro _ ⟨⟩
  · exact provisioned.counted.symm.trans completed.symm
  · exact verified
  · rw [directory]
    exact owner
  · refine ⟨view.row.generation, ?_, .inl rfl⟩
    rw [directory]
    exact provisioned.marker
  · rw [closed]
    rintro _ ⟨⟩
  · refine ⟨view.directory.entries, directory ▸ pass, ?_, ?_⟩
    · rw [closed]
      exact (List.append_nil _).symm
    · rw [closed]
      rintro _ ⟨⟩

/-- The generations of workspace roots survive every run in which no process fails or dies between
the creation of a temporary marker and its rename. -/
theorem generations_survive_iff (initial : (generationMachine uuid surroundings).Initial system)
    (labels : List GenerationLabel) :
    (AllSurvive uuid surroundings system ∧
      (generationMachine uuid surroundings).Throughout (SurvivesStep uuid surroundings) system
        labels) ↔
    (generationMachine uuid surroundings).Throughout (fun system label => ¬Interrupts system label)
      system labels := by
  have steady := allSteady_of_initial initial
  rw [and_iff_right (allSurvive_of_allSteady steady)]
  have given : (generationMachine uuid surroundings).Throughout (fun _ _ => True) system labels :=
    fun _ _ _ _ => trivial
  have kept : ∀ system label, AllSteady uuid surroundings system → True →
      ¬Interrupts system label → AllSteady uuid surroundings
        ((generationMachine uuid surroundings).step system label) :=
    fun _ _ steady _ whole => allSteady_step steady whole
  exact Machine.throughout_iff (fun _ _ steady _ => survivesStep_iff steady) kept steady given

end Runs

namespace RootSample

/-- The key of the sample's repository. -/
def repoKey : String := "7f1d4c0e-5a3b-4a57-9d2c-0c6f2b8e1a94"

/-- The root for its integrations. -/
def key : RootKey := (repoKey, .integration)

/-- The owner that the root records. -/
def owner : RiftWorkspaceRootOwner where
  version := 4
  queueDatabaseId := "database"
  repoKey := repoKey
  role := "integration"
  root := "/srv/iq/workspaces"
  source := "/srv/iq/root"
  sourceRiftId := "rift"
  registryIdentity := "registry"

/-- Surroundings of every root, with that owner. -/
def surroundings : RootKey → Surroundings := fun _ => ⟨.ok (), owner, []⟩

/-- The root's row, in its first generation. -/
def row : WorkspaceRoot := ⟨repoKey, .integration, 0, none, .inl rfl⟩

/-- An item that is merging. -/
def item : CreationItem := ⟨"item", repoKey, .merging, none, none, none, false⟩

/-- A root as its provisioning leaves it, with an item that is merging. -/
def system : GenerationSystem where
  store := ⟨⟨[row], List.nodup_singleton _⟩, fun _ => some .enabled,
    ⟨[item], List.nodup_singleton _⟩⟩
  directories := fun _ => ⟨some owner, some (markerText 0), []⟩
  opened := fun _ => none
  completed := fun _ => 0

/-- A creation up to the temporary marker. -/
def started : List GenerationLabel :=
  [.openRoot key, .begin repoKey (.item "item" "/srv/iq/workspaces/item"), .prepare key "temporary"]

/-- The sample's system is provisioned. -/
theorem initial : (generationMachine (fun _ => none) surroundings).Initial system := by
  intro other found isFound
  obtain ⟨mem, named⟩ := Table.find?_eq_some.mp isFound
  have same : found = row := List.mem_singleton.mp mem
  subst same
  have accepted : inspectRoot (fun _ => none) (surroundings key) (.ready 0)
      (system.directories key) = .ok () := by decide +kernel
  exact ⟨by decide, rfl, rfl, rfl, rfl, accepted⟩

/-- A process that dies before the rename leaves a root that no process opens. -/
theorem interrupted_not_surviving :
    (generationMachine (fun _ => none) surroundings).Initial system ∧
    ¬(AllSurvive (fun _ => none) surroundings system ∧
      (generationMachine (fun _ => none) surroundings).Throughout
        (SurvivesStep (fun _ => none) surroundings) system (started ++ [.die key])) := by
  refine ⟨initial, ?_⟩
  rintro ⟨-, every⟩
  have survives := (every started (.die key) [] rfl).1
  let last := (generationMachine (fun _ => none) surroundings).step
    ((generationMachine (fun _ => none) surroundings).run system started) (.die key)
  have registered : (last.store.workspaceRoots.find? key).isSome = true := by decide +kernel
  obtain ⟨row, found⟩ := Option.isSome_iff_exists.mp registered
  obtain ⟨authority, -, survives⟩ := survives key row found
  have closed : last.opened key = none := by decide +kernel
  have quiet : ∀ opened ∈ last.opened key, opened.work.isWriting = false := by
    rw [closed]
    rintro _ ⟨⟩
  obtain ⟨-, -, -, -, known⟩ := inspectRoot_eq_ok.mp (survives.opens quiet).1
  have unknown : checkAll (inspectEntry (fun _ => none) []) (last.directories key).entries ≠
      .ok () := by
    decide +kernel
  exact unknown known

/-- A creation that no process leaves early. -/
theorem completed_survives :
    AllSurvive (fun _ => none) surroundings system ∧
    (generationMachine (fun _ => none) surroundings).Throughout
      (SurvivesStep (fun _ => none) surroundings) system
      (started ++ [.publish key true, .complete key]) := by
  refine (generations_survive_iff initial _).mpr ?_
  intro before label rest split
  rintro ⟨other, -, -, ends⟩
  have mem : label ∈ started ++ [.publish key true, .complete key] := by
    rw [split]
    simp
  obtain rfl | rfl := ends <;> simp [started] at mem

end RootSample

end Iq
