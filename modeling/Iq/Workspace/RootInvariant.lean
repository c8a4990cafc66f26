import Iq.Workspace.RootSystem

/-!
# Steady roots

What a root satisfies between the steps of its process, as long as no write of its marker was
interrupted: the marker is that of the row or of its pending generation, and there is a temporary
marker only while one is being written.
-/

namespace Iq

open Library

/-! ## The invariant -/

/-- The temporary marker of a process that is writing one. -/
def temporaries : Option OpenRoot → List (String × EntryKind)
  | some ⟨_, .writing _ pending id⟩ => [(temporaryName id, .regular (markerText pending))]
  | _ => []

/-- The authority of a process is the one in the database. -/
def RootView.Pends (view : RootView) (current pending : Nat) : Prop :=
  view.row.generation = current ∧ view.row.pendingGeneration = some pending

/-- What the work of a process has seen and written. -/
def RootView.WorkHolds (view : RootView) : GenerationWork → Prop
  | .idle => True
  | .begun authority => ∃ current pending, authority = .pending current pending ∧
      view.Pends current pending
  | .writing current pending _ => view.Pends current pending
  | .reconciled authority => ∃ current pending, authority = .pending current pending ∧
      view.Pends current pending ∧ view.directory.generation = some (markerText pending)

/-- What holds of a root as long as no marker is interrupted. -/
structure Steady (uuid : String → Option String) (surroundings : Surroundings)
    (view : RootView) : Prop where
  bounded : view.row.generation < 2 ^ 63 ∧ ∀ pending ∈ view.row.pendingGeneration, pending < 2 ^ 63
  counted : view.row.generation = view.completed
  verified : surroundings.verified = .ok ()
  owner : view.directory.owner = some surroundings.owner
  marker : ∃ generation, view.directory.generation = some (markerText generation) ∧
    (generation = view.row.generation ∨ view.row.pendingGeneration = some generation)
  work : ∀ opened ∈ view.opened, view.WorkHolds opened.work
  entries : ∃ base, EntriesPass uuid surroundings base ∧
    view.directory.entries = base ++ temporaries view.opened ∧
    ∀ entry ∈ temporaries view.opened, entry.1 ∉ base.map Prod.fst

section Invariant

variable {uuid : String → Option String} {surroundings : Surroundings} {view next : RootView}

/-- The number in the marker fits. -/
theorem Steady.small (steady : Steady uuid surroundings view) {generation : Nat}
    (known : generation = view.row.generation ∨ view.row.pendingGeneration = some generation) :
    generation < 2 ^ 63 := by
  obtain rfl | pending := known
  · exact steady.bounded.1
  · exact steady.bounded.2 generation pending

/-- The pending generation is the next one. -/
theorem pending_eq {row : WorkspaceRoot} {pending : Nat}
    (pended : row.pendingGeneration = some pending) : pending = row.generation + 1 := by
  have checked := row.checked
  rw [pended] at checked
  simpa using checked

/-- An added entry is found under its new name. -/
theorem lookup_append_of_not_mem {entries : List (String × EntryKind)} {name : String}
    {kind : EntryKind} (fresh : name ∉ entries.map Prod.fst) :
    (entries ++ [(name, kind)]).lookup name = some kind := by
  induction entries with
  | nil => simp
  | cons entry rest found =>
    obtain ⟨other, content⟩ := entry
    rw [List.map_cons, List.mem_cons, not_or] at fresh
    have apart : (name == other) = false := by simpa using fresh.1
    rw [List.cons_append, List.lookup_cons, apart]
    exact found fresh.2

/-- An added entry is dropped by its new name. -/
theorem filter_append_of_not_mem {entries : List (String × EntryKind)} {name : String}
    {kind : EntryKind} (fresh : name ∉ entries.map Prod.fst) :
    (entries ++ [(name, kind)]).filter (fun entry => entry.1 != name) = entries := by
  rw [List.filter_append, List.filter_eq_self.mpr]
  · simp
  · intro entry mem
    have apart : entry.1 ≠ name := fun same => fresh (same ▸ List.mem_map_of_mem mem)
    simpa using apart

/-- Where no marker is being written there is no temporary one. -/
theorem temporaries_of_quiet {opened : Option OpenRoot}
    (quiet : ∀ before ∈ opened, before.work.isWriting = false) : temporaries opened = [] := by
  cases opened with
  | none => rfl
  | some opened =>
    obtain ⟨manager, work⟩ := opened
    cases work with
    | writing current pending id => exact absurd (quiet _ rfl) (by simp [GenerationWork.isWriting])
    | _ => rfl

/-- The root of a process that does not write is as an inspection accepts it. -/
theorem Steady.entriesPass (steady : Steady uuid surroundings view)
    (quiet : ∀ before ∈ view.opened, before.work.isWriting = false) :
    EntriesPass uuid surroundings view.directory.entries := by
  obtain ⟨base, pass, entries, -⟩ := steady.entries
  rw [temporaries_of_quiet quiet, List.append_nil] at entries
  rwa [entries]

/-- A change of what is opened, on a root where nothing is written. -/
theorem Steady.withOpened (steady : Steady uuid surroundings view)
    (quiet : ∀ before ∈ view.opened, before.work.isWriting = false) {opened : Option OpenRoot}
    (quiet' : ∀ after ∈ opened, after.work.isWriting = false)
    (work : ∀ after ∈ opened, view.WorkHolds after.work) :
    Steady uuid surroundings { view with opened := opened } where
  bounded := steady.bounded
  counted := steady.counted
  verified := steady.verified
  owner := steady.owner
  marker := steady.marker
  work := work
  entries := by
    refine ⟨view.directory.entries, steady.entriesPass quiet, ?_, ?_⟩
    · rw [temporaries_of_quiet quiet', List.append_nil]
    · rw [temporaries_of_quiet quiet']
      rintro _ ⟨⟩

/-- A root is steady after a begin. -/
theorem Steady.begins (steady : Steady uuid surroundings view) {manager : RiftWorkspaceManager}
    {pending : Nat} (idle : view.opened = some ⟨manager, .idle⟩)
    (raised : view.row.enterPending.pendingGeneration = some pending)
    (small : pending < 2 ^ 63) :
    Steady uuid surroundings
      { view with
        row := view.row.enterPending
        opened := some ⟨manager, .begun (.pending view.row.generation pending)⟩ } := by
  have same : view.row.enterPending.generation = view.row.generation := by
    unfold WorkspaceRoot.enterPending
    split <;> rfl
  have kept : ∀ generation, view.row.pendingGeneration = some generation →
      view.row.enterPending.pendingGeneration = some generation := by
    intro generation pended
    unfold WorkspaceRoot.enterPending
    rw [pended]
    exact pended
  obtain ⟨base, pass, entries, -⟩ := steady.entries
  rw [idle] at entries
  constructor
  · refine ⟨same ▸ steady.bounded.1, ?_⟩
    intro other mem
    rw [Option.mem_def, raised] at mem
    exact Option.some.inj mem ▸ small
  · exact same.trans steady.counted
  · exact steady.verified
  · exact steady.owner
  · obtain ⟨generation, marker, current | pended⟩ := steady.marker
    · exact ⟨generation, marker, .inl (current.trans same.symm)⟩
    · exact ⟨generation, marker, .inr (kept generation pended)⟩
  · rintro opened ⟨⟩
    exact ⟨_, _, rfl, same, raised⟩
  · exact ⟨base, pass, entries, by rintro _ ⟨⟩⟩

/-- A root is steady while its marker is being written. -/
theorem Steady.writes (steady : Steady uuid surroundings view) {manager : RiftWorkspaceManager}
    {current pending : Nat} {id : String} {directory : RootDirectory}
    (begun : view.opened = some ⟨manager, .begun (.pending current pending)⟩)
    (created : view.directory.createTemporary id pending = .ok directory) :
    Steady uuid surroundings
      { view with
        directory := directory
        opened := some ⟨manager, .writing current pending id⟩ } := by
  have pass := steady.entriesPass (by
    rw [begun]
    rintro before ⟨⟩
    rfl)
  have pends : view.Pends current pending := by
    obtain ⟨current', pending', same, pends⟩ := steady.work _ begun
    cases same
    exact pends
  unfold RootDirectory.createTemporary at created
  split at created
  · cases created
  · rename_i fresh
    have same := Except.ok.inj created
    subst same
    refine ⟨steady.bounded, steady.counted, steady.verified, steady.owner, steady.marker, ?_,
      view.directory.entries, pass, rfl, ?_⟩
    · rintro opened ⟨⟩
      exact pends
    · intro entry mem
      have named : entry = (temporaryName id, .regular (markerText pending)) := by
        simpa [temporaries] using mem
      subst named
      simpa using fresh

/-- A root is steady after its marker was renamed. -/
theorem Steady.publishes (steady : Steady uuid surroundings view)
    {manager after : RiftWorkspaceManager} {current pending : Nat} {id : String}
    {work : GenerationWork}
    (writing : view.opened = some ⟨manager, .writing current pending id⟩)
    (done : work = .idle ∨ work = .reconciled (.pending current pending)) :
    Steady uuid surroundings
      { view with
        directory := view.directory.renameTemporary id
        opened := some ⟨after, work⟩ } := by
  have pends : view.Pends current pending := steady.work _ writing
  obtain ⟨base, pass, entries, fresh⟩ := steady.entries
  rw [writing] at entries fresh
  have free : temporaryName id ∉ base.map Prod.fst := fresh _ List.mem_cons_self
  have renamed : view.directory.renameTemporary id =
      { view.directory with
        generation := some (markerText pending)
        entries := base } := by
    unfold RootDirectory.renameTemporary
    rw [entries]
    simp only [temporaries, lookup_append_of_not_mem free, filter_append_of_not_mem free]
  rw [renamed]
  refine ⟨steady.bounded, steady.counted, steady.verified, steady.owner,
    ⟨pending, rfl, .inr pends.2⟩, ?_, base, pass, ?_, ?_⟩
  · rintro opened ⟨⟩
    obtain rfl | rfl := done
    · exact trivial
    · exact ⟨current, pending, rfl, pends, rfl⟩
  · obtain rfl | rfl := done <;> exact (List.append_nil base).symm
  · obtain rfl | rfl := done <;> rintro _ ⟨⟩

/-- A root is steady after its generation was completed. -/
theorem Steady.completes (steady : Steady uuid surroundings view)
    {manager : RiftWorkspaceManager} {current pending : Nat}
    (reconciled : view.opened = some ⟨manager, .reconciled (.pending current pending)⟩) :
    Steady uuid surroundings
      { view with
        row := view.row.finish pending
        opened := some ⟨manager, .idle⟩
        completed := view.completed + 1 } := by
  have pass := steady.entriesPass (by
    rw [reconciled]
    rintro before ⟨⟩
    rfl)
  obtain ⟨current', pending', same, pends, marker⟩ := steady.work _ reconciled
  cases same
  have next := pending_eq pends.2
  refine ⟨⟨steady.small (.inr pends.2), by rintro _ ⟨⟩⟩, ?_, steady.verified, steady.owner,
    ⟨pending, marker, .inl rfl⟩, ?_, view.directory.entries, pass, ?_, by rintro _ ⟨⟩⟩
  · show pending = view.completed + 1
    rw [next, steady.counted]
  · rintro opened ⟨⟩
    exact trivial
  · exact (List.append_nil _).symm

/-- Moves keep a root steady. -/
theorem steady_of_moves (steady : Steady uuid surroundings view)
    (moved : Moves uuid surroundings view next) : Steady uuid surroundings next := by
  cases moved with
  | stays => exact steady
  | opens closed read opens =>
    apply steady.withOpened
    · rw [closed]
      rintro _ ⟨⟩
    · rintro after ⟨⟩
      rfl
    · rintro after ⟨⟩
      exact trivial
  | begins idle raised small => exact steady.begins idle raised small
  | @waits manager current pending begun verified new =>
    obtain ⟨_, _, same, pends⟩ := steady.work _ begun
    cases same
    obtain ⟨generation, marker, known⟩ := steady.marker
    have persisted := ((verifyRootIdentity_eq_ok (steady.small known) marker).mp verified).2
    apply steady.withOpened
    · rw [begun]
      rintro before ⟨⟩
      rfl
    · rintro after ⟨⟩
      rfl
    · rintro after ⟨⟩
      refine ⟨current, pending, rfl, pends, ?_⟩
      rw [marker, persisted, new]
  | writes begun verified old created => exact steady.writes begun created
  | publishes writing done => exact steady.publishes writing done
  | completes reconciled => exact steady.completes reconciled
  | ends quiet idle =>
    apply steady.withOpened quiet
    · intro after mem
      rw [idle after mem]
      rfl
    · intro after mem
      rw [idle after mem]
      exact trivial

end Invariant

end Iq
