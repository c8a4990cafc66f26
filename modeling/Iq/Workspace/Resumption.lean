import Iq.Workspace.Sound

/-!
# Resumption of an operator's removal

Runs of `remove_workspace` and `cleanup_repo` on a development workspace, with failures and crashes
between any two effects and with whatever else happens to the workspace between two calls. A removal
that the operator requested can be resumed from a state exactly when its request is still recorded
there or the workspace has an integrated submission at its head; the request is lost when a call
ends after it has replaced the request and before Rift has removed the workspace.
-/

namespace Iq.Workspace

open Library

variable {site later : Site} {row : WorkspaceRow} {tree : WorkspaceTree} {choice : Choice}

/-! ## Runs of calls -/

/-- What happens to a workspace between two calls. -/
inductive Outside where
  | edit (tree : WorkspaceTree)
  | occupy (residue : Option Residue)
  | vanish
  | submit
  | cancel (reset : Bool)
  | integrate (sha : String)
  deriving DecidableEq, Repr

/-- The workspace after that. -/
def Site.outside (site : Site) : Outside → Site
  | .edit tree => { site with tree := site.tree.map fun _ => tree }
  | .occupy residue => { site with residue }
  | .vanish => { site with tree := none }
  | .submit =>
    if site.row.status = .active then
      { site with row := { site.row with status := .submitted } }
    else site
  | .cancel reset =>
    if site.row.status = .submitted then
      { site with row := { site.row with
        status := .active, cleanup := if reset then .pending else site.row.cleanup } }
    else site
  | .integrate sha =>
    if site.row.status = .submitted then
      { site with
        row := { site.row with status := .cleanupPending, cleanup := .pending }
        integratedSha := some sha }
    else site

/-- The calls. -/
inductive Call where
  | removeWorkspace
  | cleanupRepo
  deriving DecidableEq, Repr

/-- The program of a call. -/
def Call.program : Call → Routine WorkspaceRow
  | removeWorkspace => Workspace.removeWorkspace
  | cleanupRepo => Workspace.cleanupRepo

/-- A workspace before the first of the calls: an operator request, if there is one, is a cleanup
state of a workspace with a Rift. -/
structure Initial (site : Site) : Prop where
  created : site.row.status = .creating → site.row.identity = none
  identified : site.row.status = .active ∨ site.row.status = .submitted →
    site.row.identity.isSome = true
  operator : site.row.cleanup.isOperator = true →
    isCleanup site.row.status = true ∧ site.row.identity.isSome = true
  requested : site.requested = site.row.cleanup.isOperator
  removals : site.removals = []

/-- Every choice of the surroundings. -/
abbrev anyChoice : Site → Choice → Bool := fun _ _ => true

/-- The runs of calls on a workspace. -/
def calls : Machine (Process Site Effect Answer RemovalError WorkspaceRow)
    (ProcessLabel Outside Call Choice) :=
  processes Initial Site.outside Call.program (world anyChoice)

/-! ## The invariant over runs -/

/-- The first state of a site is consistent. -/
theorem Initial.consistent (initial : Initial site) : Consistent site := by
  refine ⟨initial.created, initial.identified, fun operator => ?_, fun asked => ?_, ?_⟩
  · rw [initial.requested, operator]
  · rw [initial.requested] at asked
    refine ⟨.inl (initial.operator asked).1, (initial.operator asked).2, fun discard same => ?_⟩
    rw [same] at asked
    cases asked
  · rw [initial.removals]
    nofun

/-- A submitted workspace has no operator request. -/
theorem Consistent.unrequested (consistent : Consistent site)
    (open_ : site.row.status = .active ∨ site.row.status = .submitted) : site.requested = false := by
  by_contra asked
  have settled := (consistent.requested (Bool.not_eq_false _ ▸ asked)).1
  rcases open_ with status | status <;> simp [status, isCleanup] at settled

/-- A change of the row from outside keeps a site without a request consistent. -/
theorem Consistent.moveOn (consistent : Consistent site) (unrequested : site.requested = false)
    (identified : site.row.identity.isSome = true) (status : DevelopmentWorkspaceStatus)
    (cleanup : CleanupState) (integratedSha : Option String) (created : status ≠ .creating)
    (plain : cleanup.isOperator = false) :
    Consistent { site with row := { site.row with status, cleanup }, integratedSha } := by
  refine ⟨fun creating => absurd creating created, fun _ => identified, fun operator => ?_,
    fun asked => ?_, consistent.removals⟩
  · have operator' : cleanup.isOperator = true := operator
    rw [plain] at operator'
    cases operator'
  · have asked' : site.requested = true := asked
    rw [unrequested] at asked'
    cases asked'

/-- What others do to a site keeps it consistent. -/
theorem consistent_outside (label : Outside) (consistent : Consistent site) :
    Consistent (site.outside label) := by
  have plain : site.row.status = .active ∨ site.row.status = .submitted →
      site.row.cleanup.isOperator = false := by
    intro open_
    by_contra operator
    have asked := consistent.operator (Bool.not_eq_false _ ▸ operator)
    rw [consistent.unrequested open_] at asked
    cases asked
  have moveOn := fun open_ =>
    consistent.moveOn (consistent.unrequested open_) (consistent.identified open_)
  cases label with
  | edit | occupy | vanish =>
    exact ⟨consistent.created, consistent.identified, consistent.operator, consistent.requested,
      consistent.removals⟩
  | submit =>
    simp only [Site.outside]
    split
    · rename_i active
      exact moveOn (.inl active) .submitted _ _ (by decide) (plain (.inl active))
    · exact consistent
  | cancel reset =>
    simp only [Site.outside]
    split
    · rename_i submitted
      refine moveOn (.inr submitted) .active _ _ (by decide) ?_
      cases reset with
      | true => rfl
      | false => exact plain (.inr submitted)
    · exact consistent
  | integrate sha =>
    simp only [Site.outside]
    split
    · rename_i submitted
      exact moveOn (.inr submitted) .cleanupPending .pending _ (by decide) rfl
    · exact consistent

/-! ## Where a removal can be resumed -/

/-- The operator's request is no longer recorded and Rift still holds the workspace. -/
def Site.overwritten (site : Site) : Bool :=
  site.requested && site.row.status != .removed && !site.row.cleanup.isOperator && site.tree.isSome

/-- A working Rift removes the workspace: it is clean and without children, and nothing else
stands where it was. -/
structure Removable (site : Site) : Prop where
  clean : ∀ tree, site.tree = some tree → tree.clean = true ∧ tree.gitOperation = false
  childless : ∀ tree, site.tree = some tree → tree.childless = true
  vacated : ∀ tree, site.tree = some tree → tree.moved = true → site.residue = none
  left : site.tree = none → site.residue ≠ some .content

/-- The surroundings in which every effect works. -/
abbrev working : Program.Interpretation Site Effect Answer Choice :=
  world fun _ choice => choice == .works

/-- A call in which every effect works removes the workspace. -/
def Removes (site : Site) (call : Call) : Prop :=
  ∃ row final, call.program.run working site (fun _ => .works) = (.ok row, final) ∧
    final.row.status = .removed ∧ final.tree = none

/-- A removal that the operator requested, and that is not complete, is completed by each call when
a working Rift removes the workspace. -/
def Resumable (site : Site) : Prop :=
  site.requested = true → site.row.status ≠ .removed → Removable site →
    ∀ call, Removes site call

section Working

variable {α β : Type} {program : Routine α} {ok : α → Site → Prop}
  {stop : RemovalError → Site → Prop} {error : RemovalError} {action : Action}
  {observation : Observation}

/-- The obligation of a program whose effects all work. -/
abbrev Works (program : Routine α) (ok : α → Site → Prop) (stop : RemovalError → Site → Prop)
    (site : Site) : Prop :=
  program.Upholds working (fun _ => True) ok stop site

/-- Where every effect works, none fails. -/
theorem not_fallible : ¬Fallible (fun _ choice => choice == .works) site :=
  fun ⟨_, other, works⟩ => other (beq_iff_eq.mp works)

/-- A working read answers. -/
theorem works_observe {ok : observation.Value → Site → Prop} (works : ok (site.read observation) site) :
    Works (observe observation error) ok stop site :=
  upholds_observe trivial works fun fallible => absurd fallible not_fallible

/-- A working effect that is accepted acts. -/
theorem works_perform {ok : Unit → Site → Prop} (accepts : site.accepts action = true)
    (works : ok () (site.act action none)) : Works (perform action error) ok stop site := by
  refine upholds_perform trivial (fun _ _ => trivial) (fun _ => works) (fun refuses => ?_)
    (fun fallible => absurd fallible not_fallible) fun _ fallible => absurd fallible not_fallible
  rw [accepts] at refuses
  cases refuses

/-- A working record is written. -/
theorem works_updateCleanup {status : DevelopmentWorkspaceStatus} {cleanup : CleanupState}
    {ok : WorkspaceRow → Site → Prop}
    (works : ok ⟨status, cleanup, site.row.identity⟩
      (site.act (.updateCleanup status cleanup) none)) :
    Works (updateCleanup status cleanup) ok stop site := by
  unfold updateCleanup
  rw [Works, Program.upholds_bind]
  exact works_perform rfl (works_observe works)

/-- Rift has removed the workspace and its row is as before. -/
abbrev Gone (row : WorkspaceRow) (later : Site) : Prop := later.row = row ∧ later.tree = none

/-- A working collection of garbage goes through. -/
theorem works_collectGarbage (gone : Gone row site) :
    Works collectGarbage (fun _ => Gone row) stop site := by
  unfold collectGarbage
  rw [Works, Program.upholds_bind]
  refine works_perform rfl ?_
  rw [Program.upholds_bind]
  refine works_perform rfl ?_
  exact works_perform rfl gone

/-- A working removal of a removable site leaves no tree. -/
theorem works_removeRift (removable : Removable site) :
    Works removeRift (fun _ => Gone site.row) stop site := by
  unfold removeRift
  rw [Works, Program.upholds_bind]
  refine works_observe ?_
  cases retained : site.tree with
  | none =>
    simp only [Site.read, retained]
    unfold removeAbsentRift
    rw [Program.upholds_bind]
    refine works_observe ?_
    rw [Program.upholds_ite]
    refine ⟨fun _ => ?_, fun _ => works_collectGarbage ⟨rfl, retained⟩⟩
    rw [Program.upholds_bind]
    refine works_perform rfl ?_
    rw [Program.upholds_bind]
    refine works_perform ?_ (works_collectGarbage ⟨rfl, retained⟩)
    exact bne_iff_ne.mpr (removable.left retained)
  | some tree =>
    simp only [Site.read, retained]
    unfold removeRetainedRift
    rw [Program.upholds_bind]
    refine works_observe ?_
    rw [Program.upholds_bind, Program.upholds_require]
    refine ⟨fun _ => ?_, fun occupied => absurd ?_ occupied⟩
    · rw [Program.upholds_bind, Program.upholds_require]
      refine ⟨fun _ => ?_, fun dirty => absurd (removable.clean tree retained) dirty⟩
      rw [Program.upholds_bind, Program.upholds_require]
      refine ⟨fun _ => ?_, fun parent => absurd (removable.childless tree retained) parent⟩
      rw [Program.upholds_bind]
      refine works_perform rfl ?_
      rw [Program.upholds_bind]
      exact works_perform rfl (works_collectGarbage ⟨rfl, rfl⟩)
    · intro moved
      simp [Site.read, Site.entryExists, retained, moved, removable.vacated tree retained moved]

/-- The postcondition of a call that removes the workspace. -/
abbrev Removed (_ : WorkspaceRow) (later : Site) : Prop :=
  later.row.status = .removed ∧ later.tree = none

/-- An operator request that is not complete. -/
structure Due (site : Site) : Prop where
  consistent : Consistent site
  requested : site.requested = true
  unfinished : site.row.status ≠ .removed
  removable : Removable site

/-- A removal that is due has a row in cleanup. -/
theorem Due.isCleanup (due : Due site) : isCleanup site.row.status = true :=
  (due.consistent.requested due.requested).1.resolve_right due.unfinished

/-- A removal that is due has a row that is no longer being created. -/
theorem Due.not_creating (due : Due site) : site.row.status ≠ .creating := by
  intro creating
  have settled := due.isCleanup
  rw [creating] at settled
  cases settled

/-- A removal that is due has a row that is no longer active. -/
theorem Due.not_active (due : Due site) : site.row.status ≠ .active := by
  intro active
  have settled := due.isCleanup
  rw [active] at settled
  cases settled

/-- The calls come down to the removal of an identified workspace. -/
theorem Due.works_call {ok : WorkspaceRow → Site → Prop} (due : Due site)
    (removes : Works (removeIdentified site.row) ok stop site) (call : Call) :
    Works call.program ok stop site := by
  have locked : Works (removeWorkspaceLocked site.row) ok stop site := by
    have settled := due.consistent.requested due.requested
    have general : Works (removeUnfinished site.row) ok stop site := by
      rw [Works, removeUnfinished, Program.upholds_bind, Program.upholds_require]
      refine ⟨fun _ => ?_, fun refused => absurd (.inr due.isCleanup) refused⟩
      obtain ⟨identity, identified⟩ := Option.isSome_iff_exists.mp settled.2.1
      simp only [identified]
      exact removes
    unfold removeWorkspaceLocked
    cases state : site.row.cleanup with
    | residueDiscard discard => exact absurd state (settled.2.2 discard)
    | _ =>
      simp only [if_neg due.unfinished]
      exact general
  cases call with
  | removeWorkspace =>
    show Works removeWorkspace ok stop site
    unfold removeWorkspace
    rw [Works, Program.upholds_bind]
    refine works_observe ?_
    rw [Program.upholds_bind]
    show Works (requestRemoval site.row) _ _ _
    unfold requestRemoval
    rw [if_neg due.not_active]
    exact locked
  | cleanupRepo =>
    show Works cleanupRepo ok stop site
    have same : site.act .prepareCleanup none = site := by
      rw [Site.act, if_neg due.not_creating]
    unfold cleanupRepo
    rw [Works, Program.upholds_bind]
    refine works_perform rfl ?_
    rw [same, Program.upholds_bind]
    refine works_observe ?_
    show Works (if Workspace.isCleanup site.row.status = true then _ else _) _ _ _
    rw [if_pos due.isCleanup]
    exact locked

/-- The removal is authorised by a recorded request, or by the integrated submission. -/
def Admissible (site : Site) : Prop :=
  site.overwritten = true → ∀ tree, site.tree = some tree → site.integratedSha = some tree.head

/-- A due removal whose request is not recorded has been overwritten. -/
theorem Due.overwritten (due : Due site) (present : site.tree = some tree)
    (unrecorded : site.row.cleanup.isOperator = false) : site.overwritten = true := by
  simp [Site.overwritten, due.requested, due.unfinished, present, unrecorded]

/-- A working removal of a removable site ends in the removed state. -/
theorem works_removal (removable : Removable site) :
    Works (removeRift >>= fun _ => updateCleanup .removed .complete) Removed stop site := by
  rw [Works, Program.upholds_bind]
  refine (works_removeRift removable).mono (fun _ later gone => ?_) fun _ _ stopped => stopped
  exact works_updateCleanup ⟨rfl, gone.2⟩

/-- A removal that is due and admissible works. -/
theorem Due.works_removeIdentified (due : Due site) (admissible : Admissible site) :
    Works (removeIdentified site.row) Removed stop site := by
  unfold removeIdentified
  rw [Works, Program.upholds_bind]
  refine works_observe ?_
  cases retained : site.tree with
  | none =>
    simp only [Site.read, retained]
    exact works_removal due.removable
  | some tree =>
    have whole := due.removable.clean tree retained
    have clean : ¬(tree.clean = false ∨ tree.gitOperation = true) := by simp [whole]
    have write : Works (updateCleanup .cleanupPending .pending)
        (fun _ later => Works (removeRift >>= fun _ => updateCleanup .removed .complete) Removed
          stop later) stop site := by
      refine works_updateCleanup (works_removal ?_)
      exact ⟨due.removable.clean, due.removable.childless, due.removable.vacated,
        due.removable.left⟩
    simp only [Site.read, retained]
    unfold authorizeRemoval
    rw [if_neg clean, Program.upholds_bind, Program.upholds_bind]
    unfold requireAuthorization
    rw [Program.upholds_ite]
    refine ⟨fun unrecorded => ?_, fun _ => ?_⟩
    · have integrated := admissible (due.overwritten retained unrecorded.2) tree retained
      unfold requireIntegrated
      rw [Program.upholds_bind]
      refine works_observe ?_
      simp only [Site.read, integrated]
      rw [Program.upholds_require]
      refine ⟨fun _ => ?_, fun differs => absurd trivial differs⟩
      rw [Program.upholds_bind]
      exact write
    · show Works (updateCleanup .cleanupPending .pending >>= fun _ => pure ()) _ _ _
      rw [Works, Program.upholds_bind]
      exact write

/-- A removal that is due and not admissible is refused. -/
theorem Due.works_removeIdentified_refused {ok : WorkspaceRow → Site → Prop} (due : Due site)
    (inadmissible : ¬Admissible site) :
    Works (removeIdentified site.row) ok
      (fun error _ => error = .noIntegratedSubmission ∨ error = .headDiffers) site := by
  unfold Admissible at inadmissible
  push Not at inadmissible
  obtain ⟨overwritten, tree, retained, differs⟩ := inadmissible
  have unrecorded : site.row.cleanup.isOperator = false := by
    simp only [Site.overwritten, Bool.and_eq_true, Bool.not_eq_true'] at overwritten
    exact overwritten.1.2
  have whole := due.removable.clean tree retained
  have clean : ¬(tree.clean = false ∨ tree.gitOperation = true) := by simp [whole]
  unfold removeIdentified
  rw [Works, Program.upholds_bind]
  refine works_observe ?_
  simp only [Site.read, retained]
  unfold authorizeRemoval
  rw [if_neg clean, Program.upholds_bind, Program.upholds_bind]
  unfold requireAuthorization
  rw [if_pos ⟨due.not_creating, unrecorded⟩]
  unfold requireIntegrated
  rw [Program.upholds_bind]
  refine works_observe ?_
  cases integrated : site.integratedSha with
  | none =>
    simp only [Site.read, integrated]
    exact .inl rfl
  | some sha =>
    simp only [Site.read, integrated]
    rw [Program.upholds_require]
    refine ⟨fun same => absurd ?_ differs, fun _ => .inr rfl⟩
    rw [integrated, same]

end Working

/-- Answers that all work are permitted to a working process. -/
theorem permitted_working (program : Routine WorkspaceRow) (site : Site) :
    program.Permitted working site fun _ => .works :=
  Program.permitted_of_forall (fun _ _ => rfl) program site

/-- A removal that the operator requested is resumed exactly when it is admissible. -/
theorem Due.removes_iff (due : Due site) (call : Call) :
    Removes site call ↔ Admissible site := by
  refine ⟨fun ⟨row, final, ends, _⟩ => ?_, fun admissible => ?_⟩
  · by_contra inadmissible
    have refused := due.works_call (@Due.works_removeIdentified_refused site (fun _ _ => False) due
      inadmissible) call
    have ended := refused.run (permitted_working _ site)
    rw [ends] at ended
    exact ended
  · have removed := due.works_call (@Due.works_removeIdentified site (fun _ _ => False) due
      admissible) call
    have ended := removed.run (permitted_working _ site)
    cases result : call.program.run working site (fun _ => .works) with
    | mk outcome final =>
      rw [result] at ended
      cases outcome with
      | ok row => exact ⟨row, final, result, ended⟩
      | error error => exact ended.elim

/-- The states from which a removal that the operator requested is resumed. -/
theorem resumable_iff (consistent : Consistent site) :
    Resumable site ↔ (Removable site → Admissible site) := by
  refine ⟨fun resumable removable overwritten => ?_, fun admissible asked open_ removable call => ?_⟩
  · have facts : site.requested = true ∧ site.row.status ≠ .removed := by
      simp only [Site.overwritten, Bool.and_eq_true, bne_iff_ne] at overwritten
      exact overwritten.1.1
    have due : Due site := ⟨consistent, facts.1, facts.2, removable⟩
    exact (due.removes_iff .removeWorkspace).mp (resumable facts.1 facts.2 removable _) overwritten
  · exact (Due.removes_iff ⟨consistent, asked, open_, removable⟩ call).mpr (admissible removable)

/-! ## Undisturbed runs -/

/-- The workspace is dirty or has an active Git operation. -/
def Soiled (site : Site) : Prop :=
  ∃ tree, site.tree = some tree ∧ (tree.clean = false ∨ tree.gitOperation = true)

/-- A call on the operator's request finds no workspace that it leaves: neither one that Rift
refuses nor one that is dirty for a second time. -/
structure Unobstructed (site : Site) (call : Call) : Prop where
  free : site.requested = true ∨ call = .removeWorkspace ∧ site.row.status = .active →
    ¬Stuck site
  clean : site.requested = true → site.row.cleanup ≠ .operatorRequested → ¬Soiled site

/-- A call is not obstructed, and between the replacement of the request and the removal of the
workspace no effect fails and no call is interrupted. -/
def Undisturbed (process : Process Site Effect Answer RemovalError WorkspaceRow) :
    ProcessLabel Outside Call Choice → Prop
  | .outside _ => True
  | .start call => process.running = none → Unobstructed process.state call
  | .advance choice => process.state.overwritten = true → choice = .works
  | .stop => process.state.overwritten = true →
    ∀ effect next, process.running ≠ some (.perform effect next)

/-- The surroundings work while the request is replaced. -/
abbrev steady : Site → Choice → Bool := fun site choice =>
  !site.overwritten || choice == .works

/-- The request is recorded, or there is nothing left to authorise. -/
abbrev Recorded (site : Site) : Prop := site.overwritten = false

/-- Without a request nothing has to be recorded. -/
theorem overwritten_of_unrequested (unrequested : site.requested = false) : Recorded site := by
  simp [Recorded, Site.overwritten, unrequested]

/-- Recorded requests tolerate what the proofs of the calls ask. -/
theorem tolerant_recorded : Tolerant steady Recorded where
  gone gone := by simp [Recorded, Site.overwritten, gone]
  unrequested := overwritten_of_unrequested
  operator operator := by simp [Recorded, Site.overwritten, operator]
  fallible := by
    rintro site ⟨choice, other, permitted⟩
    cases state : site.overwritten with
    | false => exact state
    | true =>
      rw [steady, state] at permitted
      exact absurd (beq_iff_eq.mp permitted) other

/-- What others do keeps recorded requests recorded. -/
theorem recorded_outside (label : Outside) (ends : Ends Recorded site) :
    Recorded (site.outside label) := by
  have still : ∀ {later : Site}, site.row.status = .active ∨ site.row.status = .submitted →
      later.requested = site.requested → Recorded later := fun open_ same =>
    overwritten_of_unrequested (same.trans (ends.1.unrequested open_))
  cases label with
  | edit tree =>
    have same : (site.outside (.edit tree)).overwritten = site.overwritten := by
      simp [Site.outside, Site.overwritten]
    rw [Recorded, same]
    exact ends.2
  | occupy residue => exact ends.2
  | vanish => exact tolerant_recorded.gone rfl
  | submit =>
    simp only [Site.outside]
    split
    · rename_i active
      exact still (.inl active) rfl
    · exact ends.2
  | cancel reset =>
    simp only [Site.outside]
    split
    · rename_i submitted
      exact still (.inr submitted) rfl
    · exact ends.2
  | integrate sha =>
    simp only [Site.outside]
    split
    · rename_i submitted
      exact still (.inr submitted) rfl
    · exact ends.2

/-- What an undisturbed run keeps: between two calls the request is recorded, and the running call
ends only where it is. -/
structure Steady (process : Process Site Effect Answer RemovalError WorkspaceRow) : Prop where
  consistent : Consistent process.state
  idle : process.running = none → Recorded process.state
  running : ∀ program, process.running = some program →
    program.Upholds (world steady) Consistent (fun _ => Ends Recorded) (fun _ => Ends Recorded)
      process.state

/-- An unobstructed call keeps the request recorded. -/
theorem Unobstructed.upholds {call : Call} (here : Ends Recorded site)
    (unobstructed : Unobstructed site call) :
    call.program.Upholds (world steady) Consistent (fun _ => Ends Recorded)
      (fun _ => Ends Recorded) site := by
  have dirty : ToleratesDirty Recorded site := by
    intro tree present soiled other later same
    by_cases asked : site.requested = true
    · exact absurd ⟨tree, present, soiled⟩ (unobstructed.clean asked other)
    · exact overwritten_of_unrequested (same.trans (Bool.not_eq_true _ ▸ asked))
  have stuck : ∀ asks, (asks → ¬Stuck site) → ToleratesStuck Recorded asks site := by
    intro asks free sticks later asked
    refine overwritten_of_unrequested (Bool.not_eq_true _ ▸ fun requested => ?_)
    exact free (asked requested) sticks
  cases call with
  | removeWorkspace =>
    refine removeWorkspace_upholds tolerant_recorded here (stuck _ ?_) dirty
    exact fun asks => unobstructed.free (asks.imp id fun active => ⟨rfl, active⟩)
  | cleanupRepo =>
    exact cleanupRepo_upholds tolerant_recorded here
      (stuck _ fun asks => unobstructed.free (.inl asks)) dirty

/-- Where no call runs, a recorded request is steady. -/
theorem Steady.of_idle (ends : Ends Recorded site) : Steady ⟨site, none⟩ :=
  ⟨ends.1, fun _ => ends.2, fun _ running => nomatch running⟩

/-- What others do keeps a process steady. -/
theorem Steady.outside {process : Process Site Effect Answer RemovalError WorkspaceRow}
    (keeps : Steady process) (label : Outside) : Steady (calls.step process (.outside label)) := by
  obtain ⟨site, running⟩ := process
  cases running with
  | none =>
    have ends : Ends Recorded site := ⟨keeps.consistent, keeps.idle rfl⟩
    exact .of_idle ⟨consistent_outside label ends.1, recorded_outside label ends⟩
  | some program => exact keeps

/-- An unobstructed call may start. -/
theorem Steady.start {process : Process Site Effect Answer RemovalError WorkspaceRow}
    (keeps : Steady process) (call : Call)
    (unobstructed : process.running = none → Unobstructed process.state call) :
    Steady (calls.step process (.start call)) := by
  obtain ⟨site, running⟩ := process
  cases running with
  | none =>
    have ends : Ends Recorded site := ⟨keeps.consistent, keeps.idle rfl⟩
    refine ⟨ends.1, nofun, fun program started => ?_⟩
    cases started
    exact (unobstructed rfl).upholds ends
  | some program => exact keeps

/-- A call goes on steadily when nothing fails while its request is overwritten. -/
theorem Steady.advance {process : Process Site Effect Answer RemovalError WorkspaceRow}
    (keeps : Steady process) (choice : Choice)
    (works : process.state.overwritten = true → choice = .works) :
    Steady (calls.step process (.advance choice)) := by
  obtain ⟨site, running⟩ := process
  have permitted : steady site choice = true := by
    cases state : site.overwritten with
    | false => simp [steady, state]
    | true => simp [steady, works state]
  cases running with
  | none => exact keeps
  | some program =>
    cases program with
    | pure value => exact keeps
    | raise reason => exact keeps
    | perform effect next =>
      have stepped := keeps.running _ rfl choice permitted
      refine ⟨stepped.1, nofun, fun program running => ?_⟩
      cases running
      exact stepped.2

/-- A call may stop while its request is recorded. -/
theorem Steady.stop {process : Process Site Effect Answer RemovalError WorkspaceRow}
    (keeps : Steady process)
    (ended : process.state.overwritten = true →
      ∀ effect next, process.running ≠ some (.perform effect next)) :
    Steady (calls.step process .stop) := by
  obtain ⟨site, running⟩ := process
  have recorded : Recorded site := by
    by_contra overwritten
    have stopped := ended (Bool.not_eq_false _ ▸ overwritten)
    cases running with
    | none => exact overwritten (keeps.idle rfl)
    | some program =>
      have upheld := keeps.running program rfl
      cases program with
      | pure value => exact overwritten upheld.2
      | raise reason => exact overwritten upheld.2
      | perform effect next => exact stopped effect next rfl
  cases running with
  | none => exact .of_idle ⟨keeps.consistent, recorded⟩
  | some program => exact .of_idle ⟨keeps.consistent, recorded⟩

/-- Undisturbed steps keep a process steady. -/
theorem Steady.step {process : Process Site Effect Answer RemovalError WorkspaceRow}
    (keeps : Steady process) (label : ProcessLabel Outside Call Choice)
    (undisturbed : Undisturbed process label) : Steady (calls.step process label) := by
  cases label with
  | outside label => exact keeps.outside label
  | start call => exact keeps.start call undisturbed
  | advance choice => exact keeps.advance choice undisturbed
  | stop => exact keeps.stop undisturbed

/-! ## All runs -/

/-- Every choice is tolerated where a call may end anywhere. -/
theorem tolerant_anywhere : Tolerant anyChoice fun _ => True :=
  ⟨fun _ => trivial, fun _ => trivial, fun _ => trivial, fun _ => trivial⟩

/-- Every reachable process has a consistent site. -/
theorem consistent_of_reachable {process : Process Site Effect Answer RemovalError WorkspaceRow}
    (reachable : calls.Reachable process) : Consistent process.state := by
  refine (@processes_invariant _ _ _ _ _ _ _ _ Initial Site.outside Call.program
    (world anyChoice) Consistent (fun _ => Ends fun _ => True) (fun _ => Ends fun _ => True) process
    (fun _ initial => initial.consistent) (fun _ label => consistent_outside label)
    (fun call site consistent => ?_) reachable).1
  cases call with
  | removeWorkspace =>
    exact removeWorkspace_upholds tolerant_anywhere ⟨consistent, trivial⟩
      (fun _ _ _ => trivial) fun _ _ _ _ _ _ => trivial
  | cleanupRepo =>
    exact cleanupRepo_upholds tolerant_anywhere ⟨consistent, trivial⟩
      (fun _ _ _ => trivial) fun _ _ _ _ _ _ => trivial

/-- No request is overwritten at first. -/
theorem Initial.recorded (initial : Initial site) : Recorded site := by
  cases operator : site.row.cleanup.isOperator with
  | true => exact tolerant_recorded.operator operator
  | false => exact overwritten_of_unrequested (initial.requested.trans operator)

/-- In every run, with any failures and interruptions, a workspace leaves the Rift inventory only
on the operator's request or with its integrated submission's commit as its head, and the removal
that the operator requested can be resumed exactly from the states in which the request is still
recorded, the workspace is gone or its head is its integrated submission's commit. In an
undisturbed run it can be resumed from every state between two calls. -/
theorem operatorRemoval_resumable {start : Site} (initial : Initial start)
    (labels : List (ProcessLabel Outside Call Choice)) :
    let process := calls.run ⟨start, none⟩ labels
    (∀ removed ∈ process.state.removals,
        removed.requested = true ∨ removed.integratedSha = some removed.head) ∧
      (Resumable process.state ↔ (Removable process.state → Admissible process.state)) ∧
      ((∀ before label rest, labels = before ++ label :: rest →
          Undisturbed (calls.run ⟨start, none⟩ before) label) →
        process.running = none → Resumable process.state) := by
  intro process
  have reachable : calls.Reachable process := ⟨⟨start, none⟩, labels, ⟨initial, rfl⟩, rfl⟩
  have consistent := consistent_of_reachable reachable
  refine ⟨consistent.removals, resumable_iff consistent, fun undisturbed idle => ?_⟩
  have kept : Steady process :=
    Machine.run_keeps_while (fun _ label keeps allowed => keeps.step label allowed)
      (.of_idle ⟨initial.consistent, initial.recorded⟩) labels undisturbed
  refine (resumable_iff consistent).mpr fun _ overwritten => ?_
  rw [kept.idle idle] at overwritten
  cases overwritten

/-- A clean active workspace that was never submitted. -/
def unsubmitted : Site :=
  { row := ⟨.active, .ready, some ⟨"/work", "rift-2", "rift-1"⟩⟩
    integratedSha := none
    tree := some ⟨false, true, false, "c1", true⟩
    residue := none
    gcDebt := false
    expectedTargetSha := "c0"
    created := ⟨"/work", "rift-2", "rift-1"⟩
    requested := false
    removals := [] }

/-- The sample begins as a workspace does. -/
theorem unsubmitted_initial : Initial unsubmitted :=
  ⟨nofun, fun _ => rfl, nofun, rfl, rfl⟩

/-- An undisturbed step before an undisturbed run. -/
theorem undisturbed_cons {process : Process Site Effect Answer RemovalError WorkspaceRow}
    {first : ProcessLabel Outside Call Choice} {labels : List (ProcessLabel Outside Call Choice)}
    (here : Undisturbed process first)
    (later : ∀ before label rest, labels = before ++ label :: rest →
      Undisturbed (calls.run (calls.step process first) before) label) :
    ∀ before label rest, first :: labels = before ++ label :: rest →
      Undisturbed (calls.run process before) label := by
  intro before label rest split
  cases before with
  | nil =>
    obtain ⟨rfl, -⟩ := List.cons.inj split
    exact here
  | cons head before =>
    obtain ⟨rfl, same⟩ := List.cons.inj split
    exact later before label rest same

/-- A removal that is interrupted before the request is replaced can be resumed. -/
theorem operatorRemoval_resumable_requested :
    Resumable (calls.run ⟨unsubmitted, none⟩
      [.start .removeWorkspace, .advance .works, .advance .works, .stop]).state := by
  refine (operatorRemoval_resumable unsubmitted_initial _).2.2 ?_ rfl
  refine undisturbed_cons (fun _ => ⟨fun _ sticks => ?_, nofun⟩) ?_
  · obtain ⟨tree, present, -, parent | moved⟩ := sticks
    · cases present
      cases parent
    · cases present
      cases moved.1
  · refine undisturbed_cons nofun (undisturbed_cons nofun (undisturbed_cons nofun ?_))
    intro before label rest none
    exact absurd none.symm (by simp)

/-- The operator's removal of it, interrupted after the write that replaces the request. -/
def interruptedRemoval : List (ProcessLabel Outside Call Choice) :=
  .start .removeWorkspace :: List.replicate 5 (.advance .works) ++ [.stop]

/-- The workspace after that. -/
def interrupted : Site := (calls.run ⟨unsubmitted, none⟩ interruptedRemoval).state

/-- The interrupted sample can be removed. -/
theorem interrupted_removable : Removable interrupted := by
  refine ⟨?_, ?_, ?_, nofun⟩
  · rintro tree ⟨⟩
    decide
  · rintro tree ⟨⟩
    rfl
  · rintro tree ⟨⟩ _
    rfl

/-- The interrupted removal leaves the clean workspace as it was, and the next call asks for the
integrated submission that it never had. -/
theorem operatorRemoval_not_resumable :
    (interrupted.requested = true ∧ interrupted.tree = unsubmitted.tree ∧
      (removeWorkspace.run working interrupted fun _ => .works).1 =
        .error .noIntegratedSubmission) ∧
      ¬∀ start labels, Initial start → (calls.run ⟨start, none⟩ labels).running = none →
        Resumable (calls.run ⟨start, none⟩ labels).state := by
  have refused : (removeWorkspace.run working interrupted fun _ => .works).1 =
      .error .noIntegratedSubmission := rfl
  refine ⟨⟨rfl, rfl, refused⟩, fun holds => ?_⟩
  have resumable : Resumable interrupted :=
    holds unsubmitted interruptedRemoval unsubmitted_initial rfl
  obtain ⟨row, final, ends, -⟩ :=
    resumable rfl (by decide) interrupted_removable .removeWorkspace
  have same := refused.symm.trans (congrArg Prod.fst ends)
  cases same

end Iq.Workspace
