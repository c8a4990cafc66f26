import Iq.Library.Transition
import Iq.Workspace.Root

/-!
# Processes and their roots

Any number of roots, each with the process that has opened it. A repository lease admits one process
to a root. The marker is replaced through a temporary file, so a process may die between any two of
four writes. A step changes one root, in one of few ways.
-/

namespace Iq

open Library

/-! ## Processes -/

/-- Where a process stands in a creation. -/
inductive GenerationWork where
  | idle
  | begun (authority : WorkspaceGenerationState)
  | writing (current pending : Nat) (id : String)
  | reconciled (authority : WorkspaceGenerationState)
  deriving DecidableEq, Repr

/-- A root that a process has opened. -/
structure OpenRoot where
  manager : RiftWorkspaceManager
  work : GenerationWork
  deriving DecidableEq, Repr

/-- The database, the roots, and the processes that have opened them; with the number of operations
that were completed, counted from the first generation. -/
structure GenerationSystem where
  store : RootStore
  directories : RootKey → RootDirectory
  opened : RootKey → Option OpenRoot
  completed : RootKey → Nat

/-- What a creation begins with. -/
inductive BeginRequest where
  | workspace (id : String)
  | item (id path : String)
  deriving DecidableEq, Repr

/-- The kind of root that a request is about. -/
def BeginRequest.kind : BeginRequest → RootKind
  | .workspace _ => .development
  | .item _ _ => .integration

/-- `begin_development_workspace_generation` or `begin_workspace_creation`. -/
def RootStore.begin (store : RootStore) (repoKey : String) :
    BeginRequest → Except String (WorkspaceGenerationState × RootStore)
  | .workspace id =>
    store.beginWorkspaceGenerationForKind repoKey .development (some (.workspace id))
  | .item id path => store.beginWorkspaceCreation repoKey id path

/-- The steps of the processes. A failure leaves a process without work; a death leaves none. -/
inductive GenerationLabel where
  | openRoot (key : RootKey)
  | begin (repoKey : String) (request : BeginRequest)
  | prepare (key : RootKey) (id : String)
  | publish (key : RootKey) (synced : Bool)
  | complete (key : RootKey)
  | fail (key : RootKey)
  | die (key : RootKey)

namespace GenerationSystem

/-- What a process has opened, changed. -/
def setOpened (system : GenerationSystem) (key : RootKey) (opened : Option OpenRoot) :
    GenerationSystem :=
  { system with opened := Function.update system.opened key opened }

/-- A root, changed. -/
def setDirectory (system : GenerationSystem) (key : RootKey) (directory : RootDirectory) :
    GenerationSystem :=
  { system with directories := Function.update system.directories key directory }

variable (uuid : String → Option String) (surroundings : RootKey → Surroundings)

/-- A process opens a root with the authority in the database. -/
def openAt (system : GenerationSystem) (key : RootKey) : GenerationSystem :=
  match system.opened key, system.store.workspaceRoots.find? key with
  | none, some row =>
    match WorkspaceGenerationState.fromStored row.generation row.pendingGeneration with
    | .error _ => system
    | .ok authority =>
      match openRoot uuid (surroundings key) authority (system.directories key) with
      | .error _ => system
      | .ok manager => system.setOpened key (some ⟨manager, .idle⟩)
  | _, _ => system

/-- A process begins a creation. -/
def beginAt (system : GenerationSystem) (repoKey : String) (request : BeginRequest) :
    GenerationSystem :=
  match system.opened (repoKey, request.kind) with
  | some ⟨manager, .idle⟩ =>
    match system.store.begin repoKey request with
    | .error _ => system
    | .ok (authority, store) =>
      { system with store := store }.setOpened (repoKey, request.kind)
        (some ⟨manager, .begun authority⟩)
  | _ => system

/-- A process reconciles the marker, up to the rename if there is one. -/
def prepareAt (system : GenerationSystem) (key : RootKey) (id : String) : GenerationSystem :=
  match system.opened key with
  | some ⟨manager, .begun authority⟩ =>
    match authority, manager.reconcilePendingGeneration (surroundings key) authority
        (system.directories key) with
    | .pending _ pending, .ok none =>
      system.setOpened key (some ⟨⟨pending⟩, .reconciled authority⟩)
    | .pending current _, .ok (some pending) =>
      match (system.directories key).createTemporary id pending with
      | .error _ => system.setOpened key (some ⟨manager, .idle⟩)
      | .ok directory =>
        (system.setDirectory key directory).setOpened key
          (some ⟨manager, .writing current pending id⟩)
    | _, _ => system.setOpened key (some ⟨manager, .idle⟩)
  | _ => system

/-- A process renames the temporary marker; the synchronization after it may fail. -/
def publishAt (system : GenerationSystem) (key : RootKey) (synced : Bool) : GenerationSystem :=
  match system.opened key with
  | some ⟨manager, .writing current pending id⟩ =>
    (system.setDirectory key ((system.directories key).renameTemporary id)).setOpened key
      (some (if synced then ⟨⟨pending⟩, .reconciled (.pending current pending)⟩
        else ⟨manager, .idle⟩))
  | _ => system

/-- A process completes the generation. -/
def completeAt (system : GenerationSystem) (key : RootKey) : GenerationSystem :=
  match system.opened key with
  | some ⟨manager, .reconciled authority⟩ =>
    match system.store.completeWorkspaceGeneration key authority with
    | .error _ => system.setOpened key (some ⟨manager, .idle⟩)
    | .ok store =>
      { system with
        store := store
        completed := Function.update system.completed key (system.completed key + 1)
        }.setOpened key (some ⟨manager, .idle⟩)
  | _ => system

/-- An operation of a process fails. -/
def failAt (system : GenerationSystem) (key : RootKey) : GenerationSystem :=
  match system.opened key with
  | some opened => system.setOpened key (some ⟨opened.manager, .idle⟩)
  | none => system

end GenerationSystem

/-- The first state: every root as its provisioning leaves it. -/
structure Provisioned (uuid : String → Option String) (surroundings : RootKey → Surroundings)
    (system : GenerationSystem) (key : RootKey) (row : WorkspaceRoot) : Prop where
  generation : row.generation < 2 ^ 63
  ready : row.pendingGeneration = none
  counted : system.completed key = row.generation
  closed : system.opened key = none
  marker : (system.directories key).generation = some (markerText row.generation)
  accepted : inspectRoot uuid (surroundings key) (.ready row.generation)
    (system.directories key) = .ok ()

/-- The machine of the processes. -/
def generationMachine (uuid : String → Option String) (surroundings : RootKey → Surroundings) :
    Machine GenerationSystem GenerationLabel where
  Initial system := ∀ key row, system.store.workspaceRoots.find? key = some row →
    Provisioned uuid surroundings system key row
  step system
    | .openRoot key => system.openAt uuid surroundings key
    | .begin repoKey request => system.beginAt repoKey request
    | .prepare key id => system.prepareAt surroundings key id
    | .publish key synced => system.publishAt key synced
    | .complete key => system.completeAt key
    | .fail key => system.failAt key
    | .die key => system.setOpened key none

/-- Whether a process is between the creation of a temporary marker and its rename. -/
def GenerationWork.isWriting : GenerationWork → Bool
  | .writing _ _ _ => true
  | _ => false

/-- A process fails or dies between the creation of a temporary marker and its rename. -/
def Interrupts (system : GenerationSystem) (label : GenerationLabel) : Prop :=
  ∃ key, (system.store.workspaceRoots.find? key).isSome = true ∧
    (∃ opened ∈ system.opened key, opened.work.isWriting = true) ∧
    (label = .fail key ∨ label = .die key)

/-! ## What a step does to a root -/

/-- A root with its row and the process that has opened it. -/
structure RootView where
  row : WorkspaceRoot
  directory : RootDirectory
  opened : Option OpenRoot
  completed : Nat

/-- The parts of a state that belong to a root. -/
def GenerationSystem.view (system : GenerationSystem) (key : RootKey) : Option RootView :=
  (system.store.workspaceRoots.find? key).map fun row =>
    ⟨row, system.directories key, system.opened key, system.completed key⟩

/-- What a step may do to a root. -/
inductive Moves (uuid : String → Option String) (surroundings : Surroundings)
    (view : RootView) : RootView → Prop where
  | stays : Moves uuid surroundings view view
  | opens {authority : WorkspaceGenerationState} {manager : RiftWorkspaceManager} :
    view.opened = none →
    WorkspaceGenerationState.fromStored view.row.generation view.row.pendingGeneration =
      .ok authority →
    openRoot uuid surroundings authority view.directory = .ok manager →
    Moves uuid surroundings view { view with opened := some ⟨manager, .idle⟩ }
  | begins {manager : RiftWorkspaceManager} {pending : Nat} :
    view.opened = some ⟨manager, .idle⟩ →
    view.row.enterPending.pendingGeneration = some pending → pending < 2 ^ 63 →
    Moves uuid surroundings view
      { view with
        row := view.row.enterPending
        opened := some ⟨manager, .begun (.pending view.row.generation pending)⟩ }
  | waits {manager : RiftWorkspaceManager} {current pending : Nat} :
    view.opened = some ⟨manager, .begun (.pending current pending)⟩ →
    manager.verifyRootIdentity surroundings view.directory = .ok () →
    manager.generation = pending →
    Moves uuid surroundings view
      { view with opened := some ⟨⟨pending⟩, .reconciled (.pending current pending)⟩ }
  | writes {manager : RiftWorkspaceManager} {current pending : Nat} {id : String}
      {directory : RootDirectory} :
    view.opened = some ⟨manager, .begun (.pending current pending)⟩ →
    manager.verifyRootIdentity surroundings view.directory = .ok () →
    manager.generation = current →
    view.directory.createTemporary id pending = .ok directory →
    Moves uuid surroundings view
      { view with
        directory := directory
        opened := some ⟨manager, .writing current pending id⟩ }
  | publishes {manager after : RiftWorkspaceManager} {current pending : Nat} {id : String}
      {work : GenerationWork} :
    view.opened = some ⟨manager, .writing current pending id⟩ →
    work = .idle ∨ work = .reconciled (.pending current pending) →
    Moves uuid surroundings view
      { view with
        directory := view.directory.renameTemporary id
        opened := some ⟨after, work⟩ }
  | completes {manager : RiftWorkspaceManager} {current pending : Nat} :
    view.opened = some ⟨manager, .reconciled (.pending current pending)⟩ →
    Moves uuid surroundings view
      { view with
        row := view.row.finish pending
        opened := some ⟨manager, .idle⟩
        completed := view.completed + 1 }
  | ends {opened : Option OpenRoot} :
    (∀ before ∈ view.opened, before.work.isWriting = false) →
    (∀ after ∈ opened, after.work = .idle) →
    Moves uuid surroundings view { view with opened := opened }

namespace GenerationSystem

variable {system later : GenerationSystem} {key other : RootKey}

/-- The view of a root whose process was set. -/
theorem view_setOpened {opened : Option OpenRoot} :
    (system.setOpened key opened).view key =
      (system.view key).map fun view => { view with opened := opened } := by
  unfold view setOpened
  cases system.store.workspaceRoots.find? key <;> simp

/-- The process of a root is seen in no other view. -/
theorem view_setOpened_ne {opened : Option OpenRoot} (apart : other ≠ key) :
    (system.setOpened key opened).view other = system.view other := by
  simp [view, setOpened, apart]

/-- The view of a root whose directory was set. -/
theorem view_setDirectory {directory : RootDirectory} :
    (system.setDirectory key directory).view key =
      (system.view key).map fun view => { view with directory := directory } := by
  unfold view setDirectory
  cases system.store.workspaceRoots.find? key <;> simp

/-- The directory of a root is seen in no other view. -/
theorem view_setDirectory_ne {directory : RootDirectory} (apart : other ≠ key) :
    (system.setDirectory key directory).view other = system.view other := by
  simp [view, setDirectory, apart]

/-- The view of a root is its row, directory, process and count. -/
theorem view_eq_some {view : RootView} :
    system.view key = some view ↔ system.store.workspaceRoots.find? key = some view.row ∧
      view.directory = system.directories key ∧ view.opened = system.opened key ∧
      view.completed = system.completed key := by
  unfold GenerationSystem.view
  cases system.store.workspaceRoots.find? key with
  | none => simp
  | some row =>
    cases view
    simp only [Option.map_some, Option.some.injEq, RootView.mk.injEq]
    tauto

/-- A stored root has a view. -/
theorem view_of_found {row : WorkspaceRoot}
    (found : system.store.workspaceRoots.find? key = some row) :
    system.view key =
      some ⟨row, system.directories key, system.opened key, system.completed key⟩ := by
  simp [view, found]

/-- A step changes one root, as a relation allows, and no other. -/
def StepsAt (system later : GenerationSystem) (key : RootKey) (moves : RootView → RootView → Prop) :
    Prop :=
  (∀ other, other ≠ key → later.view other = system.view other) ∧
    Option.Rel moves (system.view key) (later.view key)

/-- A process that was set is a step of its root. -/
theorem stepsAt_setOpened {moves : RootView → RootView → Prop} {opened : Option OpenRoot}
    (moved : ∀ view, system.view key = some view → moves view { view with opened := opened }) :
    StepsAt system (system.setOpened key opened) key moves := by
  refine ⟨fun other apart => view_setOpened_ne apart, ?_⟩
  rw [view_setOpened]
  cases seen : system.view key with
  | none => exact .none
  | some view => exact .some (moved view seen)

/-- A system that stays makes no step. -/
theorem stepsAt_refl {moves : RootView → RootView → Prop} (stays : ∀ view, moves view view) :
    StepsAt system system key moves := by
  refine ⟨fun _ _ => rfl, ?_⟩
  cases system.view key with
  | none => exact .none
  | some view => exact .some (stays view)

end GenerationSystem

/-! ## The tables -/

/-- A root enters the generation after its own, within the integers of the database. -/
theorem enterPending_eq_ok {store later : RootStore} {key : RootKey}
    {authority : WorkspaceGenerationState}
    (entered : store.enterPending key = .ok (authority, later)) :
    ∃ row pending, store.workspaceRoots.find? key = some row ∧
      row.enterPending.pendingGeneration = some pending ∧ pending < 2 ^ 63 ∧
      authority = .pending row.generation pending ∧
      later.workspaceRoots = store.workspaceRoots.update (fun row => row.key == key)
        WorkspaceRoot.enterPending WorkspaceRoot.key_enterPending := by
  unfold RootStore.enterPending at entered
  cases found : store.workspaceRoots.find? key with
  | none => simp [Table.find?_update, found] at entered
  | some row =>
    have updated := Table.find?_update_key _ WorkspaceRoot.key_enterPending found
    simp only [updated] at entered
    cases pended : row.enterPending.pendingGeneration with
    | none => simp [pended] at entered
    | some pending =>
      have same : row.enterPending.generation = row.generation := by
        unfold WorkspaceRoot.enterPending
        split <;> rfl
      by_cases large : 2 ^ 63 ≤ pending
      · simp only [pended, if_pos large, reduceCtorEq] at entered
      · simp only [pended, if_neg large, Except.ok.injEq, Prod.mk.injEq, same] at entered
        obtain ⟨rfl, rfl⟩ := entered
        exact ⟨row, pending, rfl, pended, by omega, rfl, rfl⟩

/-- A creation begins with a pending generation. -/
theorem begin_eq_ok {store later : RootStore} {repoKey : String} {request : BeginRequest}
    {authority : WorkspaceGenerationState}
    (began : store.begin repoKey request = .ok (authority, later)) :
    ∃ row pending, store.workspaceRoots.find? (repoKey, request.kind) = some row ∧
      row.enterPending.pendingGeneration = some pending ∧ pending < 2 ^ 63 ∧
      authority = .pending row.generation pending ∧
      later.workspaceRoots = store.workspaceRoots.update
        (fun row => row.key == (repoKey, request.kind))
        WorkspaceRoot.enterPending WorkspaceRoot.key_enterPending := by
  cases request with
  | workspace id =>
    unfold RootStore.begin RootStore.beginWorkspaceGenerationForKind at began
    cases state : store.operationStates repoKey with
    | none => simp [state, bind, Except.bind] at began
    | some operation =>
      simp only [state] at began
      rw [Checked.bind_eq_ok] at began
      obtain ⟨_, -, entered⟩ := began
      exact enterPending_eq_ok entered
  | item id path =>
    unfold RootStore.begin RootStore.beginWorkspaceCreation at began
    rw [Checked.bind_eq_ok] at began
    obtain ⟨⟨state, entered⟩, pended, began⟩ := began
    simp only [] at began
    rw [Checked.seq_eq_ok] at began
    have same := Except.ok.inj began.2
    obtain ⟨rfl, rfl⟩ := Prod.mk.inj same
    obtain ⟨row, pending, found, raised, small, authority, roots⟩ := enterPending_eq_ok pended
    exact ⟨row, pending, found, raised, small, authority, roots⟩

/-- A row that is awaited has its key, its generation and the pending one. -/
theorem awaits_eq_true {key : RootKey} {current pending : Nat} {row : WorkspaceRoot} :
    row.awaits key current pending = true ↔
      row.key = key ∧ row.generation = current ∧ row.pendingGeneration = some pending := by
  simp [WorkspaceRoot.awaits, and_assoc]

/-- A completion finishes the pending generation of its row. -/
theorem complete_eq_ok {store later : RootStore} {key : RootKey}
    {authority : WorkspaceGenerationState}
    (completed : store.completeWorkspaceGeneration key authority = .ok later) :
    ∃ current pending row, authority = .pending current pending ∧
      store.workspaceRoots.find? key = some row ∧
      later.workspaceRoots.find? key = some (row.finish pending) ∧
      ∀ other, other ≠ key →
        later.workspaceRoots.find? other = store.workspaceRoots.find? other := by
  unfold RootStore.completeWorkspaceGeneration at completed
  cases authority with
  | ready current => cases completed
  | pending current pending =>
    simp only [] at completed
    split at completed
    · rename_i one
      have same := Except.ok.inj completed
      subst same
      obtain ⟨row, mem, chosen⟩ := Table.count_pos.mp (one ▸ Nat.zero_lt_one)
      have named := (awaits_eq_true.mp chosen).1
      have found : store.workspaceRoots.find? key = some row :=
        Table.find?_eq_some.mpr ⟨mem, named⟩
      refine ⟨current, pending, row, rfl, found, ?_, ?_⟩
      · rw [Table.find?_update, found, Option.map_some, Table.rewrite_of_chosen chosen]
      · intro other apart
        rw [Table.find?_update]
        cases found : store.workspaceRoots.find? other with
        | none => rfl
        | some row =>
          rw [Option.map_some, Table.rewrite_of_not_chosen]
          intro hit
          exact apart ((Table.find?_eq_some.mp found).2.symm.trans (awaits_eq_true.mp hit).1)
    · cases completed

/-- A completion succeeds for the row that awaits it. -/
theorem complete_of_awaits {store : RootStore} {key : RootKey} {row : WorkspaceRoot}
    {current pending : Nat} (found : store.workspaceRoots.find? key = some row)
    (generation : row.generation = current) (awaited : row.pendingGeneration = some pending) :
    ∃ later, store.completeWorkspaceGeneration key (.pending current pending) = .ok later := by
  obtain ⟨mem, named⟩ := Table.find?_eq_some.mp found
  have one : store.workspaceRoots.count (WorkspaceRoot.awaits key current pending) = 1 := by
    apply (Table.count_eq_one key ?_).mpr
    · exact ⟨row, mem, awaits_eq_true.mpr ⟨named, generation, awaited⟩⟩
    · intro other chosen
      exact (awaits_eq_true.mp chosen).1
  exact ⟨_, if_pos one⟩

/-! ## Steps -/

/-- The root that a step is about. -/
def GenerationLabel.key : GenerationLabel → RootKey
  | .openRoot key | .prepare key _ | .publish key _ | .complete key | .fail key | .die key => key
  | .begin repoKey request => (repoKey, request.kind)

section Steps

variable {uuid : String → Option String} {surroundings : RootKey → Surroundings}
  {system : GenerationSystem} {key : RootKey}

open GenerationSystem

/-- To open a root is a move of it. -/
theorem stepsAt_openAt :
    StepsAt system (system.openAt uuid surroundings key) key (Moves uuid (surroundings key)) := by
  unfold openAt
  cases closed : system.opened key with
  | some opened => exact stepsAt_refl fun view => .stays
  | none =>
    cases found : system.store.workspaceRoots.find? key with
    | none => exact stepsAt_refl fun view => .stays
    | some row =>
      simp only []
      cases read : WorkspaceGenerationState.fromStored row.generation row.pendingGeneration with
      | error message => exact stepsAt_refl fun view => .stays
      | ok authority =>
        simp only []
        cases opens : openRoot uuid (surroundings key) authority (system.directories key) with
        | error message => exact stepsAt_refl fun view => .stays
        | ok manager =>
          apply stepsAt_setOpened
          intro view seen
          obtain ⟨stored, directory, opened, -⟩ := view_eq_some.mp seen
          have same : row = view.row := Option.some.inj (found.symm.trans stored)
          subst same
          exact .opens (opened.trans closed) read (directory ▸ opens)

/-- To begin a creation is a move of its root. -/
theorem stepsAt_beginAt {repoKey : String} {request : BeginRequest} :
    StepsAt system (system.beginAt repoKey request) (repoKey, request.kind)
      (Moves uuid (surroundings (repoKey, request.kind))) := by
  unfold beginAt
  cases idle : system.opened (repoKey, request.kind) with
  | none => exact stepsAt_refl fun view => .stays
  | some opened =>
    obtain ⟨manager, work⟩ := opened
    cases work with
    | begun | writing | reconciled => exact stepsAt_refl fun view => .stays
    | idle =>
      simp only []
      cases began : system.store.begin repoKey request with
      | error message => exact stepsAt_refl fun view => .stays
      | ok result =>
        obtain ⟨authority, store⟩ := result
        obtain ⟨row, pending, found, raised, small, rfl, roots⟩ := begin_eq_ok began
        constructor
        · intro other apart
          rw [view_setOpened_ne apart]
          have kept : store.workspaceRoots.find? other =
              system.store.workspaceRoots.find? other := by
            rw [roots, Table.find?_update]
            cases stored : system.store.workspaceRoots.find? other with
            | none => rfl
            | some row =>
              have named := (Table.find?_eq_some.mp stored).2
              rw [Option.map_some, Table.rewrite_of_key_ne (named ▸ apart)]
          simp only [GenerationSystem.view, kept]
        · have updated : store.workspaceRoots.find? (repoKey, request.kind) =
              some row.enterPending := by
            rw [roots, Table.find?_update_key _ _ found]
          have after : GenerationSystem.view { system with store := store }
              (repoKey, request.kind) = some _ := view_of_found updated
          rw [view_setOpened, view_of_found found, after]
          exact .some (.begins idle raised small)

/-- To create a temporary marker is a move of its root. -/
theorem stepsAt_prepareAt {id : String} :
    StepsAt system (system.prepareAt surroundings key id) key (Moves uuid (surroundings key)) := by
  have ends : ∀ opened work, system.opened key = some ⟨opened, .begun work⟩ →
      StepsAt system (system.setOpened key (some ⟨opened, .idle⟩)) key
        (Moves uuid (surroundings key)) := by
    intro manager work begun
    apply stepsAt_setOpened
    intro view seen
    obtain ⟨-, -, opened, -⟩ := view_eq_some.mp seen
    apply Moves.ends
    · intro before mem
      rw [opened, begun] at mem
      cases mem
      rfl
    · rintro after ⟨⟩
      rfl
  unfold prepareAt
  cases begun : system.opened key with
  | none => exact stepsAt_refl fun view => .stays
  | some opened =>
    obtain ⟨manager, work⟩ := opened
    cases work with
    | idle | writing | reconciled => exact stepsAt_refl fun view => .stays
    | begun authority =>
      cases authority with
      | ready current => exact ends manager _ begun
      | pending current pending =>
        simp only [RiftWorkspaceManager.reconcilePendingGeneration]
        cases verified : manager.verifyRootIdentity (surroundings key) (system.directories key) with
        | error message => exact ends manager _ begun
        | ok _ =>
          by_cases old : manager.generation = current
          · simp only [bind, Except.bind, if_pos old, pure, Except.pure]
            cases created : (system.directories key).createTemporary id pending with
            | error message => exact ends manager _ begun
            | ok directory =>
              constructor
              · intro other apart
                rw [view_setOpened_ne apart, view_setDirectory_ne apart]
              · rw [view_setOpened, view_setDirectory]
                cases seen : system.view key with
                | none => exact .none
                | some view =>
                  obtain ⟨-, same, opened, -⟩ := view_eq_some.mp seen
                  exact .some (.writes (opened.trans begun) (same ▸ verified) old
                    (same ▸ created))
          · by_cases new : manager.generation = pending
            · simp only [bind, Except.bind, if_neg old, if_pos new, pure, Except.pure]
              apply stepsAt_setOpened
              intro view seen
              obtain ⟨-, same, opened, -⟩ := view_eq_some.mp seen
              exact .waits (opened.trans begun) (same ▸ verified) new
            · simp only [bind, Except.bind, if_neg old, if_neg new]
              exact ends manager _ begun

/-- To rename the temporary marker is a move of its root. -/
theorem stepsAt_publishAt {synced : Bool} :
    StepsAt system (system.publishAt key synced) key (Moves uuid (surroundings key)) := by
  unfold publishAt
  cases writing : system.opened key with
  | none => exact stepsAt_refl fun view => .stays
  | some opened =>
    obtain ⟨manager, work⟩ := opened
    cases work with
    | idle | begun | reconciled => exact stepsAt_refl fun view => .stays
    | writing current pending id =>
      constructor
      · intro other apart
        rw [view_setOpened_ne apart, view_setDirectory_ne apart]
      · rw [view_setOpened, view_setDirectory]
        cases seen : system.view key with
        | none => exact .none
        | some view =>
          obtain ⟨-, same, opened, -⟩ := view_eq_some.mp seen
          rw [← same]
          cases synced with
          | false => exact .some (.publishes (opened.trans writing) (.inl rfl))
          | true => exact .some (.publishes (opened.trans writing) (.inr rfl))

/-- To complete a generation is a move of its root. -/
theorem stepsAt_completeAt :
    StepsAt system (system.completeAt key) key (Moves uuid (surroundings key)) := by
  unfold completeAt
  cases reconciled : system.opened key with
  | none => exact stepsAt_refl fun view => .stays
  | some opened =>
    obtain ⟨manager, work⟩ := opened
    cases work with
    | idle | begun | writing => exact stepsAt_refl fun view => .stays
    | reconciled authority =>
      simp only []
      cases completed : system.store.completeWorkspaceGeneration key authority with
      | error message =>
        apply stepsAt_setOpened
        intro view seen
        obtain ⟨-, -, opened, -⟩ := view_eq_some.mp seen
        apply Moves.ends
        · intro before mem
          rw [opened, reconciled] at mem
          cases mem
          rfl
        · rintro after ⟨⟩
          rfl
      | ok store =>
        obtain ⟨current, pending, row, rfl, found, finished, others⟩ := complete_eq_ok completed
        constructor
        · intro other apart
          rw [view_setOpened_ne apart]
          simp [GenerationSystem.view, others other apart, apart]
        · rw [view_setOpened, view_of_found found]
          simp only [GenerationSystem.view, finished, Option.map_some, Function.update_self]
          exact .some (.completes reconciled)

/-- A step that interrupts no marker is a move of its root. -/
theorem stepsAt_step {label : GenerationLabel} (whole : ¬Interrupts system label) :
    StepsAt system ((generationMachine uuid surroundings).step system label) label.key
      (Moves uuid (surroundings label.key)) := by
  have quiet : ∀ view, system.view label.key = some view →
      label = .fail label.key ∨ label = .die label.key →
      ∀ before ∈ view.opened, before.work.isWriting = false := by
    intro view seen ends before mem
    obtain ⟨found, -, opened, -⟩ := view_eq_some.mp seen
    by_contra writing
    rw [Bool.not_eq_false] at writing
    exact whole ⟨label.key, by simp [found], ⟨before, opened ▸ mem, writing⟩, ends⟩
  cases label with
  | openRoot key => exact stepsAt_openAt
  | begin repoKey request => exact stepsAt_beginAt
  | prepare key id => exact stepsAt_prepareAt
  | publish key synced => exact stepsAt_publishAt
  | complete key => exact stepsAt_completeAt
  | fail key =>
    show StepsAt system (system.failAt key) key _
    unfold failAt
    cases opened : system.opened key with
    | none => exact stepsAt_refl fun view => .stays
    | some opened =>
      apply stepsAt_setOpened
      intro view seen
      apply Moves.ends (quiet view seen (.inl rfl))
      rintro after ⟨⟩
      rfl
  | die key =>
    apply stepsAt_setOpened
    intro view seen
    exact .ends (quiet view seen (.inr rfl)) (by rintro _ ⟨⟩)

end Steps

end Iq
