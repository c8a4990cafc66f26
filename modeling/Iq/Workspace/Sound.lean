import Iq.Workspace.Removal

/-!
# What a removal keeps

A workspace leaves the Rift inventory only on the operator's request or with the commit of its
integrated submission as its head, wherever a call fails or is interrupted. The same walk through
the calls shows where a call may end: with a condition on the choices of the surroundings, never
between the write that replaces the operator's request and the removal that it authorises.
-/

namespace Iq.Workspace

open Library

variable {permits : Site → Choice → Bool} {allowed : Site → Prop} {inv : Site → Prop}
  {site later : Site} {row : WorkspaceRow} {tree : WorkspaceTree} {error : RemovalError}
  {action : Action} {observation : Observation}

/-! ## The invariant -/

/-- What holds of a workspace between any two effects. -/
structure Consistent (site : Site) : Prop where
  created : site.row.status = .creating → site.row.identity = none
  identified : site.row.status = .active ∨ site.row.status = .submitted →
    site.row.identity.isSome = true
  operator : site.row.cleanup.isOperator = true → site.requested = true
  requested : site.requested = true →
    (isCleanup site.row.status = true ∨ site.row.status = .removed) ∧
      site.row.identity.isSome = true ∧ ∀ discard, site.row.cleanup ≠ .residueDiscard discard
  removals : ∀ removed ∈ site.removals,
    removed.requested = true ∨ removed.integratedSha = some removed.head

/-- The removal of the workspace as it stands is authorised. -/
def Authorized (site : Site) : Prop :=
  site.requested = true ∨ ∀ tree, site.tree = some tree → site.integratedSha = some tree.head

/-- The workspace is clean, but Rift does not remove it. -/
def Stuck (site : Site) : Prop :=
  ∃ tree, site.tree = some tree ∧ (tree.clean = true ∧ tree.gitOperation = false) ∧
    (tree.childless = false ∨ tree.moved = true ∧ site.residue.isSome = true)

/-- Some choice other than to work is permitted. -/
def Fallible (permits : Site → Choice → Bool) (site : Site) : Prop :=
  ∃ choice, choice ≠ .works ∧ permits site choice = true

/-- A condition on where a call may end that speaks only about operator requests of which Rift still
holds the workspace, and that the choices of the surroundings respect. -/
structure Tolerant (permits : Site → Choice → Bool) (allowed : Site → Prop) : Prop where
  gone : ∀ {site}, site.tree = none → allowed site
  unrequested : ∀ {site}, site.requested = false → allowed site
  operator : ∀ {site}, site.row.cleanup.isOperator = true → allowed site
  fallible : ∀ {site}, Fallible permits site → allowed site

/-! ## Rules of the effects -/

/-- An attempted read answers or fails, and changes nothing. -/
theorem upholds_attemptRead {ok : Option observation.Value → Site → Prop}
    {stop : RemovalError → Site → Prop} (holds : inv site)
    (works : ok (some (site.read observation)) site)
    (fails : Fallible permits site → ok none site) :
    (attemptRead observation).Upholds (world permits) inv ok stop site := by
  intro choice permitted
  cases choice with
  | works => exact ⟨holds, works⟩
  | fails => exact ⟨holds, fails ⟨.fails, nofun, permitted⟩⟩
  | lost residue => exact ⟨holds, fails ⟨.lost residue, nofun, permitted⟩⟩

/-- A read answers or ends the call, and changes nothing. -/
theorem upholds_observe {ok : observation.Value → Site → Prop} {stop : RemovalError → Site → Prop}
    (holds : inv site) (works : ok (site.read observation) site)
    (fails : Fallible permits site → stop error site) :
    (observe observation error).Upholds (world permits) inv ok stop site := by
  unfold observe
  rw [Program.upholds_bind]
  exact upholds_attemptRead holds works fails

/-- An attempted effect acts, is refused, fails, or acts and is lost. -/
theorem upholds_attempt {ok : Bool → Site → Prop} {stop : RemovalError → Site → Prop}
    (holds : inv site)
    (acts : ∀ left, site.accepts action = true → inv (site.act action left))
    (works : site.accepts action = true → ok true (site.act action none))
    (refused : site.accepts action = false → ok false site)
    (fails : Fallible permits site → ok false site)
    (lost : ∀ left, Fallible permits site → site.accepts action = true →
      action.isTransaction = false → ok false (site.act action left)) :
    (attempt action).Upholds (world permits) inv ok stop site := by
  unfold attempt
  intro choice permitted
  cases choice with
  | works =>
    cases accepts : site.accepts action with
    | true => simpa [world, Site.perform, accepts] using ⟨acts none accepts, works accepts⟩
    | false => simpa [world, Site.perform, accepts] using ⟨holds, refused accepts⟩
  | fails => exact ⟨holds, fails ⟨.fails, nofun, permitted⟩⟩
  | lost left =>
    have fallible : Fallible permits site := ⟨.lost left, nofun, permitted⟩
    cases accepts : site.accepts action with
    | false => simpa [world, Site.perform, accepts] using ⟨holds, refused accepts⟩
    | true =>
      cases transaction : action.isTransaction with
      | true => simpa [world, Site.perform, accepts, transaction] using ⟨holds, fails fallible⟩
      | false =>
        simpa [world, Site.perform, accepts, transaction] using
          ⟨acts left accepts, lost left fallible accepts transaction⟩

/-- An effect acts, or ends the call whether or not it acted. -/
theorem upholds_perform {ok : Unit → Site → Prop} {stop : RemovalError → Site → Prop}
    (holds : inv site)
    (acts : ∀ left, site.accepts action = true → inv (site.act action left))
    (works : site.accepts action = true → ok () (site.act action none))
    (refused : site.accepts action = false → stop error site)
    (fails : Fallible permits site → stop error site)
    (lost : ∀ left, Fallible permits site → site.accepts action = true →
      action.isTransaction = false → stop error (site.act action left)) :
    (perform action error).Upholds (world permits) inv ok stop site := by
  unfold perform
  rw [Program.upholds_bind]
  refine upholds_attempt holds acts (fun accepts => ?_) (fun refuses => ?_) (fun fallible => ?_)
    fun left fallible accepts transaction => ?_
  · exact Program.upholds_require.mpr ⟨fun _ => works accepts, fun wrong => absurd rfl wrong⟩
  · exact Program.upholds_require.mpr ⟨nofun, fun _ => refused refuses⟩
  · exact Program.upholds_require.mpr ⟨nofun, fun _ => fails fallible⟩
  · exact Program.upholds_require.mpr ⟨nofun, fun _ => lost left fallible accepts transaction⟩

/-! ## The actions keep the invariant -/

/-- The debt of collecting garbage is read by nothing that has to be consistent. -/
theorem Consistent.recordGcDebt (consistent : Consistent site) (debt : Bool) :
    Consistent { site with gcDebt := debt } :=
  ⟨consistent.created, consistent.identified, consistent.operator, consistent.requested,
    consistent.removals⟩

/-- A site without its residue is consistent. -/
theorem Consistent.removeResidue (consistent : Consistent site) (residue : Option Residue) :
    Consistent { site with residue } :=
  ⟨consistent.created, consistent.identified, consistent.operator, consistent.requested,
    consistent.removals⟩

/-- A recorded state keeps the site consistent when it forgets no removal and claims no request. -/
theorem Consistent.updateCleanup (consistent : Consistent site)
    {status : DevelopmentWorkspaceStatus} {cleanup : CleanupState}
    (settled : isCleanup status = true ∨ status = .removed)
    (operator : cleanup.isOperator = true → cleanup = .operatorRequested ∨ site.requested = true)
    (identified : cleanup = .operatorRequested → site.row.identity.isSome = true)
    (plain : ∀ discard, cleanup = .residueDiscard discard → site.requested = false)
    (left : Option Residue) : Consistent (site.act (.updateCleanup status cleanup) left) := by
  have requests : (site.act (.updateCleanup status cleanup) left).requested = true ↔
      site.requested = true ∨ cleanup = .operatorRequested := by
    simp [Site.act]
  constructor
  · rintro rfl
    simp [isCleanup] at settled
  · rintro (rfl | rfl) <;> simp [isCleanup] at settled
  · intro asks
    exact requests.mpr (operator asks).symm
  · intro asks
    refine ⟨settled, ?_, fun discard discards => ?_⟩
    · rcases requests.mp asks with before | now
      · exact (consistent.requested before).2.1
      · exact identified now
    · rcases requests.mp asks with before | now
      · rw [plain discard discards] at before
        cases before
      · have discards' : cleanup = .residueDiscard discard := discards
        rw [now] at discards'
        cases discards'
  · exact consistent.removals

/-- An authorized removal of the tree keeps the site consistent. -/
theorem Consistent.removeTree (consistent : Consistent site) (authorized : Authorized site)
    (left : Option Residue) : Consistent (site.act .removeTree left) := by
  refine ⟨consistent.created, consistent.identified, consistent.operator, consistent.requested, ?_⟩
  intro removed mem
  rcases List.mem_append.mp mem with old | new
  · exact consistent.removals removed old
  · simp only [Option.mem_toList, Option.map_eq_some_iff] at new
    obtain ⟨tree, present, rfl⟩ := new
    exact authorized.imp id fun same => same tree present

/-! ## Removal of the Rift -/

/-- The postcondition of a call that may end in a state. -/
abbrev Ends (allowed : Site → Prop) (site : Site) : Prop := Consistent site ∧ allowed site

/-- What passes the check of the integrated submission is authorized. -/
theorem requireIntegrated_upholds (here : Ends allowed site) (present : site.tree = some tree) :
    (requireIntegrated tree).Upholds (world permits) Consistent
      (fun _ later => later = site ∧ Authorized site) (fun _ => Ends allowed) site := by
  unfold requireIntegrated
  rw [Program.upholds_bind]
  refine upholds_observe here.1 ?_ fun _ => here
  cases integrated : site.integratedSha with
  | none =>
    simp only [Site.read, integrated]
    exact here
  | some sha =>
    simp only [Site.read, integrated]
    refine Program.upholds_require.mpr ⟨fun same => ⟨rfl, .inr fun other found => ?_⟩, fun _ => here⟩
    rw [present] at found
    rw [integrated, ← same, Option.some.inj found]

/-- What passes the check before a removal is authorized. -/
theorem requireAuthorization_upholds (here : Ends allowed site) (present : site.tree = some tree)
    (identified : site.row.identity.isSome = true) :
    (requireAuthorization site.row tree).Upholds (world permits) Consistent
      (fun _ later => later = site ∧ Authorized site) (fun _ => Ends allowed) site := by
  unfold requireAuthorization
  rw [Program.upholds_ite]
  refine ⟨fun _ => requireIntegrated_upholds here present, fun asked => ⟨rfl, .inl ?_⟩⟩
  refine here.1.operator ?_
  by_contra unasked
  refine asked ⟨fun creating => ?_, Bool.not_eq_true _ ▸ unasked⟩
  rw [here.1.created creating] at identified
  cases identified

section Walk

variable (tolerant : Tolerant permits allowed)
include tolerant

/-- The collection of garbage leaves the removed tree removed. -/
theorem collectGarbage_upholds (consistent : Consistent site) (gone : site.tree = none) :
    collectGarbage.Upholds (world permits) Consistent
      (fun _ later => Consistent later ∧ later.tree = none) (fun _ => Ends allowed) site := by
  have ends : ∀ debt, Ends allowed { site with gcDebt := debt } := fun debt =>
    ⟨consistent.recordGcDebt debt, tolerant.gone gone⟩
  have here : Ends allowed site := ⟨consistent, tolerant.gone gone⟩
  unfold collectGarbage
  rw [Program.upholds_bind]
  refine upholds_perform consistent (fun _ _ => (ends true).1) (fun _ => ?_) nofun (fun _ => here)
    nofun
  rw [Program.upholds_bind]
  refine upholds_perform (ends true).1 (fun _ _ => (ends true).1) (fun _ => ?_) nofun
    (fun _ => ends true) fun _ _ _ _ => ends true
  refine upholds_perform (ends true).1 (fun _ _ => (ends false).1)
    (fun _ => ⟨(ends false).1, gone⟩) nofun (fun _ => ends true) nofun

/-- A tree that is gone stays so. -/
theorem removeAbsentRift_upholds (consistent : Consistent site) (gone : site.tree = none) :
    removeAbsentRift.Upholds (world permits) Consistent
      (fun _ later => Consistent later ∧ later.tree = none) (fun _ => Ends allowed) site := by
  have ends : ∀ later, Consistent later → later.tree = none → Ends allowed later :=
    fun _ consistent gone => ⟨consistent, tolerant.gone gone⟩
  have indebted := consistent.recordGcDebt true
  have cleared := indebted.removeResidue none
  unfold removeAbsentRift
  rw [Program.upholds_bind]
  refine upholds_observe consistent ?_ fun _ => ends site consistent gone
  by_cases occupied : site.read .entryExists = true
  · rw [if_pos occupied, Program.upholds_bind]
    refine upholds_perform consistent (fun _ _ => indebted) (fun _ => ?_) nofun
      (fun _ => ends site consistent gone) nofun
    rw [Program.upholds_bind]
    refine upholds_perform indebted (fun _ _ => cleared) (fun _ => ?_)
      (fun _ => ends _ indebted gone) (fun _ => ends _ indebted gone)
      fun _ _ _ _ => ends _ cleared gone
    exact collectGarbage_upholds tolerant cleared gone
  · rw [if_neg occupied]
    exact collectGarbage_upholds tolerant consistent gone

/-- The removal of a retained tree ends with none, or where it may end. -/
theorem removeRetainedRift_upholds (consistent : Consistent site) (authorized : Authorized site)
    (present : site.tree = some tree)
    (soiled : tree.clean = false ∨ tree.gitOperation = true → allowed site)
    (stuck : Stuck site → allowed site) :
    (removeRetainedRift tree).Upholds (world permits) Consistent
      (fun _ later => Consistent later ∧ later.tree = none) (fun _ => Ends allowed) site := by
  have indebted := consistent.recordGcDebt true
  have removed : ∀ left, Consistent ((site.act .recordGcDebt none).act .removeTree left) :=
    fun left => indebted.removeTree authorized left
  unfold removeRetainedRift
  rw [Program.upholds_bind]
  refine upholds_observe consistent ?_ fun fallible => ⟨consistent, tolerant.fallible fallible⟩
  rw [Program.upholds_bind, Program.upholds_require]
  refine ⟨fun free => ?_, fun occupied => ?_⟩
  · rw [Program.upholds_bind, Program.upholds_require]
    refine ⟨fun clean => ?_, fun dirty => ⟨consistent, soiled ?_⟩⟩
    · rw [Program.upholds_bind, Program.upholds_require]
      refine ⟨fun childless => ?_, fun parent => ?_⟩
      · rw [Program.upholds_bind]
        refine upholds_perform consistent (fun _ _ => indebted) (fun _ => ?_) nofun
          (fun fallible => ⟨consistent, tolerant.fallible fallible⟩) nofun
        rw [Program.upholds_bind]
        refine upholds_perform indebted (fun left _ => removed left) (fun _ => ?_) nofun
          (fun fallible => ⟨indebted, tolerant.fallible fallible⟩)
          fun left _ _ _ => ⟨removed left, tolerant.gone rfl⟩
        exact collectGarbage_upholds tolerant (removed none) rfl
      · exact ⟨consistent, stuck ⟨tree, present, clean, .inl (Bool.not_eq_true _ ▸ parent)⟩⟩
    · cases clean : tree.clean with
      | false => exact .inl rfl
      | true => exact .inr (by simpa [clean] using dirty)
  · by_cases clean : tree.clean = true ∧ tree.gitOperation = false
    · have moved : tree.moved = true := by
        by_contra still
        exact occupied fun moved => absurd moved still
      have entry : site.residue.isSome = true := by
        have exists_entry : site.entryExists ≠ false := fun free => occupied fun _ => free
        simpa [Site.entryExists, present, moved, Option.isSome_iff_ne_none] using exists_entry
      exact ⟨consistent, stuck ⟨tree, present, clean, .inr ⟨moved, entry⟩⟩⟩
    · refine ⟨consistent, soiled ?_⟩
      cases whole : tree.clean with
      | false => exact .inl rfl
      | true => exact .inr (by simpa [whole] using clean)

/-- A removal by Rift ends with no tree, or where it may end. -/
theorem removeRift_upholds (consistent : Consistent site) (authorized : Authorized site)
    (soiled : ∀ tree, site.tree = some tree → tree.clean = false ∨ tree.gitOperation = true →
      allowed site)
    (stuck : Stuck site → allowed site) :
    removeRift.Upholds (world permits) Consistent
      (fun _ later => Consistent later ∧ later.tree = none) (fun _ => Ends allowed) site := by
  unfold removeRift
  rw [Program.upholds_bind]
  refine upholds_observe consistent ?_ fun fallible => ⟨consistent, tolerant.fallible fallible⟩
  cases retained : site.tree with
  | none =>
    simp only [Site.read, retained]
    exact removeAbsentRift_upholds tolerant consistent retained
  | some tree =>
    simp only [Site.read, retained]
    exact removeRetainedRift_upholds tolerant consistent authorized retained
      (soiled tree retained) stuck

/-! ## Removal of a workspace -/

/-- A recorded state is consistent, also when the call ends with it. -/
theorem updateCleanup_upholds {status : DevelopmentWorkspaceStatus} {cleanup : CleanupState}
    {ok : WorkspaceRow → Site → Prop} (here : Ends allowed site)
    (written : ∀ left, Consistent (site.act (.updateCleanup status cleanup) left))
    (works : ok ⟨status, cleanup, site.row.identity⟩
      (site.act (.updateCleanup status cleanup) none)) :
    (updateCleanup status cleanup).Upholds (world permits) Consistent ok
      (fun _ => Ends allowed) site := by
  unfold updateCleanup
  rw [Program.upholds_bind]
  refine upholds_perform here.1 (fun left _ => written left) (fun _ => ?_) nofun (fun _ => here)
    nofun
  exact upholds_observe (written none) works fun fallible =>
    ⟨written none, tolerant.fallible fallible⟩

/-- The states after the authorisation of a removal. -/
structure Admitted (site later : Site) : Prop where
  consistent : Consistent later
  authorized : Authorized later
  tree : later.tree = site.tree
  residue : later.residue = site.residue
  requested : later.requested = site.requested
  clean : ∀ tree, site.tree = some tree → tree.clean = true ∧ tree.gitOperation = false

/-- Of an authorized tree the plain request is recorded before it is removed. -/
theorem authorizeRemoval_upholds (here : Ends allowed site) (present : site.tree = some tree)
    (identified : site.row.identity.isSome = true)
    (failed : tree.clean = false ∨ tree.gitOperation = true →
      site.row.cleanup ≠ .operatorRequested →
      ∀ later : Site, later.requested = site.requested → allowed later) :
    (authorizeRemoval site.row tree).Upholds (world permits) Consistent
      (fun _ => Admitted site) (fun _ => Ends allowed) site := by
  have consistent := here.1
  unfold authorizeRemoval
  rw [Program.upholds_ite]
  refine ⟨fun dirty => ?_, fun clean => ?_⟩
  · rw [Program.upholds_bind]
    by_cases requested : site.row.cleanup = .operatorRequested
    · rw [if_pos requested]
      have asked := consistent.operator (by rw [requested]; rfl)
      have written : ∀ left, Consistent (site.act (.updateCleanup .cleanupFailed
          (.operatorFailed dirtyMessage)) left) :=
        consistent.updateCleanup (.inl rfl) (fun _ => .inr asked) (by rintro ⟨⟩) (by rintro _ ⟨⟩)
      exact updateCleanup_upholds tolerant here written ⟨written none, tolerant.operator rfl⟩
    · rw [if_neg requested]
      have written : ∀ left, Consistent (site.act (.updateCleanup .cleanupFailed
          (.failed dirtyMessage)) left) :=
        consistent.updateCleanup (.inl rfl) (by rintro ⟨⟩) (by rintro ⟨⟩) (by rintro _ ⟨⟩)
      refine updateCleanup_upholds tolerant here written ⟨written none, ?_⟩
      exact failed dirty requested _ (Bool.or_false _)
  · have whole : tree.clean = true ∧ tree.gitOperation = false := by
      simpa only [not_or, Bool.not_eq_false, Bool.not_eq_true] using clean
    have written : ∀ left, Consistent (site.act (.updateCleanup .cleanupPending .pending) left) :=
      consistent.updateCleanup (.inl rfl) (by rintro ⟨⟩) (by rintro ⟨⟩) (by rintro _ ⟨⟩)
    have admitted : Authorized site → Admitted site (site.act (.updateCleanup .cleanupPending
        .pending) none) := fun authorized =>
      ⟨written none, authorized.imp (fun asked => by simp [Site.act, asked]) id, rfl, rfl,
        Bool.or_false _, fun other found => Option.some.inj (present.symm.trans found) ▸ whole⟩
    have write : ∀ authorized : Authorized site,
        (updateCleanup .cleanupPending .pending).Upholds (world permits) Consistent
          (fun _ => Admitted site) (fun _ => Ends allowed) site := fun authorized =>
      updateCleanup_upholds tolerant here written (admitted authorized)
    rw [Program.upholds_bind]
    refine (requireAuthorization_upholds here present identified).mono ?_ fun _ _ ends => ends
    rintro _ _ ⟨rfl, authorized⟩
    rw [Program.upholds_bind]
    exact write authorized

/-- The removal of a workspace with an identity ends where it may end. -/
theorem removeIdentified_upholds (here : Ends allowed site)
    (identified : site.row.identity.isSome = true)
    (stuck : Stuck site → ∀ later : Site, later.requested = site.requested → allowed later)
    (failed : ∀ tree, site.tree = some tree → tree.clean = false ∨ tree.gitOperation = true →
      site.row.cleanup ≠ .operatorRequested →
      ∀ later : Site, later.requested = site.requested → allowed later) :
    (removeIdentified site.row).Upholds (world permits) Consistent (fun _ => Ends allowed)
      (fun _ => Ends allowed) site := by
  have finish : ∀ later, Consistent later → later.tree = none →
      (updateCleanup .removed .complete).Upholds (world permits) Consistent (fun _ => Ends allowed)
        (fun _ => Ends allowed) later := by
    intro later consistent gone
    have written : ∀ left, Consistent (later.act (.updateCleanup .removed .complete) left) :=
      consistent.updateCleanup (.inr rfl) nofun nofun nofun
    exact updateCleanup_upholds tolerant ⟨consistent, tolerant.gone gone⟩ written
      ⟨written none, tolerant.gone gone⟩
  have remove : ∀ later, Admitted site later →
      (removeRift >>= fun _ => updateCleanup .removed .complete).Upholds (world permits) Consistent
        (fun _ => Ends allowed) (fun _ => Ends allowed) later := by
    intro later admitted
    rw [Program.upholds_bind]
    refine (removeRift_upholds tolerant admitted.consistent admitted.authorized
      (fun tree present soiled => ?_) fun sticks => ?_).mono
        (fun _ last ⟨consistent, gone⟩ => finish last consistent gone) fun _ _ ends => ends
    · have clean := admitted.clean tree (admitted.tree ▸ present)
      simp [clean] at soiled
    · refine stuck ?_ later admitted.requested
      obtain ⟨tree, present, sticks⟩ := sticks
      exact ⟨tree, admitted.tree ▸ present, admitted.residue ▸ sticks⟩
  unfold removeIdentified
  rw [Program.upholds_bind]
  refine upholds_observe here.1 ?_ fun _ => here
  cases retained : site.tree with
  | none =>
    simp only [Site.read, retained]
    refine remove site ⟨here.1, .inr fun tree present => ?_, rfl, rfl, rfl, fun tree present => ?_⟩
    · rw [retained] at present
      cases present
    · rw [retained] at present
      cases present
  | some tree =>
    simp only [Site.read, retained]
    rw [Program.upholds_bind]
    exact (authorizeRemoval_upholds tolerant here retained identified (failed tree retained)).mono
      (fun _ later admitted => remove later admitted) fun _ _ ends => ends

/-- A workspace without an identity is recorded as removed. -/
theorem removeUnidentified_upholds (here : Ends allowed site)
    (unidentified : site.row.identity = none) :
    (removeUnidentified site.row).Upholds (world permits) Consistent (fun _ => Ends allowed)
      (fun _ => Ends allowed) site := by
  have unrequested : site.requested = false := by
    by_contra asked
    have identified := (here.1.requested (Bool.not_eq_false _ ▸ asked)).2.1
    rw [unidentified] at identified
    cases identified
  have written : ∀ left, Consistent (site.act (.updateCleanup .removed .complete) left) :=
    here.1.updateCleanup (.inr rfl) nofun nofun nofun
  unfold removeUnidentified
  rw [Program.upholds_bind, Program.upholds_require]
  refine ⟨fun _ => ?_, fun _ => here⟩
  rw [Program.upholds_bind]
  refine upholds_observe here.1 ?_ fun _ => here
  rw [Program.upholds_bind, Program.upholds_require]
  refine ⟨fun _ => ?_, fun _ => here⟩
  refine updateCleanup_upholds tolerant here written ⟨written none, tolerant.unrequested ?_⟩
  rw [← unrequested]
  exact Bool.or_false _

/-! ## The discard of a residue -/

/-- A workspace without an operator request. -/
abbrev Quiet (site : Site) : Prop := Consistent site ∧ site.requested = false

omit tolerant in
/-- A recorded state keeps a site that is quiet about requests quiet. -/
theorem quiet_updateCleanup {status : DevelopmentWorkspaceStatus} {cleanup : CleanupState}
    (quiet : Quiet site) (settled : isCleanup status = true ∨ status = .removed)
    (plain : cleanup.isOperator = false) (left : Option Residue) :
    Quiet (site.act (.updateCleanup status cleanup) left) := by
  have other : cleanup ≠ .operatorRequested := by
    rintro rfl
    cases plain
  refine ⟨quiet.1.updateCleanup settled ?_ (fun same => absurd same other)
    (fun _ _ => quiet.2) left, ?_⟩
  · intro operator
    rw [plain] at operator
    cases operator
  · simp [Site.act, quiet.2, other]

omit tolerant in
/-- The effects that discard residue keep a quiet site quiet. -/
theorem quiet_act {discard : ResidueDiscardState} {occupied : Bool} (quiet : Quiet site)
    (mem : action ∈ discardActions discard occupied) (left : Option Residue) :
    Quiet (site.act action left) := by
  simp only [discardActions, List.mem_append, List.mem_cons, List.not_mem_nil, or_false] at mem
  rcases mem with ((inspects | rfl) | removes) | rfl | rfl
  · split at inspects
    · rw [List.mem_singleton.mp inspects]
      exact quiet_updateCleanup quiet (.inl rfl) rfl left
    · cases inspects
  · exact ⟨quiet.1.recordGcDebt true, quiet.2⟩
  · split at removes
    · rw [List.mem_singleton.mp removes]
      exact ⟨quiet.1.removeResidue none, quiet.2⟩
    · cases removes
  · exact quiet
  · refine ⟨⟨nofun, nofun, nofun, fun asked => ?_, quiet.1.removals⟩, quiet.2⟩
    have asked' : site.requested = true := asked
    rw [quiet.2] at asked'
    cases asked'

omit tolerant in
/-- Attempted effects that each keep a site quiet keep it so together. -/
theorem attemptAll_upholds {actions : List Action}
    (kept : ∀ action ∈ actions, ∀ site, Quiet site → ∀ left, Quiet (site.act action left))
    (quiet : Quiet site) :
    (attemptAll actions).Upholds (world permits) Consistent (fun _ => Quiet)
      (fun _ => Ends allowed) site := by
  induction actions generalizing site with
  | nil => exact quiet
  | cons action rest hypothesis =>
    have acted := kept action List.mem_cons_self site quiet
    have remaining := fun other mem => kept other (List.mem_cons_of_mem _ mem)
    unfold attemptAll
    rw [Program.upholds_bind]
    refine upholds_attempt quiet.1 (fun left _ => (acted left).1) (fun _ => ?_) (fun _ => quiet)
      (fun _ => quiet) fun left _ _ _ => acted left
    exact hypothesis remaining (acted none)

omit tolerant in
/-- The discard of retained residue keeps a site quiet. -/
theorem discardRetainedResidue_upholds (discard : ResidueDiscardState) (quiet : Quiet site) :
    (discardRetainedResidue discard).Upholds (world permits) Consistent (fun _ => Quiet)
      (fun _ => Ends allowed) site := by
  unfold discardRetainedResidue
  rw [Program.upholds_bind]
  refine upholds_attemptRead quiet.1 ?_ fun _ => quiet
  cases retained : site.tree with
  | some tree =>
    simp only [Site.read, retained]
    exact quiet
  | none =>
    simp only [Site.read, retained]
    rw [Program.upholds_bind]
    refine upholds_attemptRead quiet.1 ?_ fun _ => quiet
    exact attemptAll_upholds (fun _ mem _ quiet left => quiet_act quiet mem left) quiet

/-- The discard of residue under the lock ends where it may end. -/
theorem discardResidueLocked_upholds (quiet : Quiet site) :
    discardResidueLocked.Upholds (world permits) Consistent (fun _ => Ends allowed)
      (fun _ => Ends allowed) site := by
  have ends : ∀ {later}, Quiet later → Ends allowed later := fun quiet =>
    ⟨quiet.1, tolerant.unrequested quiet.2⟩
  have read : ∀ {later} (_ : Quiet later) {α : Type} {next : WorkspaceRow → Routine α}
      {ok : α → Site → Prop}, (next later.row).Upholds (world permits) Consistent ok
        (fun _ => Ends allowed) later →
      (readWorkspace >>= next).Upholds (world permits) Consistent ok (fun _ => Ends allowed)
        later := by
    intro later quiet α next ok works
    rw [Program.upholds_bind]
    exact upholds_observe quiet.1 works fun _ => ends quiet
  unfold discardResidueLocked
  refine read quiet ?_
  rw [Program.upholds_bind, Program.upholds_require]
  refine ⟨fun _ => ?_, fun _ => ends quiet⟩
  rw [Program.upholds_bind, Program.upholds_require]
  refine ⟨fun _ => ?_, fun _ => ends quiet⟩
  cases state : site.row.cleanup with
  | residueDiscard discard =>
    rw [Program.upholds_bind]
    refine (discardRetainedResidue_upholds discard quiet).mono (fun discarded later quiet => ?_)
      fun _ _ ends => ends
    rw [Program.upholds_ite]
    refine ⟨fun _ => ?_, fun _ => read quiet ?_⟩
    · exact upholds_observe quiet.1 (ends quiet) fun _ => ends quiet
    · rw [Program.upholds_ite]
      refine ⟨fun _ => ends quiet, fun _ => ?_⟩
      have marked : ∀ left, Quiet (later.act (.updateCleanup .cleanupFailed (.residueDiscard
          (failedDiscardState later.row.cleanup discard.identity.1
            "cleanup residue discard failed"))) left) :=
        quiet_updateCleanup quiet (.inl rfl) rfl
      rw [Program.upholds_bind]
      exact updateCleanup_upholds tolerant (ends quiet) (fun left => (marked left).1)
        (ends (marked none))
  | _ => exact ends quiet

/-! ## The calls -/

/-- A workspace that Rift does not remove may be left as it is. -/
abbrev ToleratesStuck (allowed : Site → Prop) (asks : Prop) (site : Site) : Prop :=
  Stuck site → ∀ later : Site, (later.requested = true → asks) → allowed later

/-- A workspace that is dirty after an operator request that failed may be left as it is. -/
abbrev ToleratesDirty (allowed : Site → Prop) (site : Site) : Prop :=
  ∀ tree, site.tree = some tree → tree.clean = false ∨ tree.gitOperation = true →
    site.row.cleanup ≠ .operatorRequested →
    ∀ later : Site, later.requested = site.requested → allowed later

/-- What follows in `remove_workspace_locked` for a workspace that is not removed. -/
def removeUnfinished (row : WorkspaceRow) : Routine WorkspaceRow := do
  Program.require (row.status = .creating ∨ isCleanup row.status = true) .noCleanupAuthorization
  match row.identity with
  | none => removeUnidentified row
  | some _ => removeIdentified row

/-- A removal under the lock ends where it may end. -/
theorem removeWorkspaceLocked_upholds (here : Ends allowed site)
    (stuck : ToleratesStuck allowed (site.requested = true) site)
    (dirty : ToleratesDirty allowed site) :
    (removeWorkspaceLocked site.row).Upholds (world permits) Consistent (fun _ => Ends allowed)
      (fun _ => Ends allowed) site := by
  have general : (if site.row.status = .removed then do
        let occupied ← observe .entryExists .git
        Program.require (occupied = false) .pathReappeared
        pure site.row
      else removeUnfinished site.row : Routine WorkspaceRow).Upholds (world permits)
          Consistent (fun _ => Ends allowed) (fun _ => Ends allowed) site := by
    rw [Program.upholds_ite]
    refine ⟨fun _ => ?_, fun _ => ?_⟩
    · rw [Program.upholds_bind]
      refine upholds_observe here.1 ?_ fun _ => here
      rw [Program.upholds_bind, Program.upholds_require]
      exact ⟨fun _ => here, fun _ => here⟩
    · rw [removeUnfinished, Program.upholds_bind, Program.upholds_require]
      refine ⟨fun _ => ?_, fun _ => here⟩
      cases identity : site.row.identity with
      | none => exact removeUnidentified_upholds tolerant here identity
      | some _ =>
        refine removeIdentified_upholds tolerant here (by rw [identity]; rfl) ?_ dirty
        exact fun sticks later same => stuck sticks later fun asked => same ▸ asked
  unfold removeWorkspaceLocked
  cases state : site.row.cleanup with
  | residueDiscard discard =>
    refine discardResidueLocked_upholds tolerant ⟨here.1, ?_⟩
    by_contra asked
    exact (here.1.requested (Bool.not_eq_false _ ▸ asked)).2.2 discard state
  | _ => exact general

/-- A call of `remove_workspace` ends where it may end. -/
theorem removeWorkspace_upholds (here : Ends allowed site)
    (stuck : ToleratesStuck allowed (site.requested = true ∨ site.row.status = .active) site)
    (dirty : ToleratesDirty allowed site) :
    removeWorkspace.Upholds (world permits) Consistent (fun _ => Ends allowed)
      (fun _ => Ends allowed) site := by
  unfold removeWorkspace
  rw [Program.upholds_bind]
  refine upholds_observe here.1 ?_ fun _ => here
  rw [Program.upholds_bind]
  show (requestRemoval site.row).Upholds _ _ _ _ _
  unfold requestRemoval
  rw [Program.upholds_ite]
  refine ⟨fun active => ?_, fun _ => ?_⟩
  · have identified := here.1.identified (.inl active)
    have written : ∀ left, Consistent (site.act (.updateCleanup .cleanupPending
        .operatorRequested) left) :=
      here.1.updateCleanup (.inl rfl) (fun _ => .inl rfl) (fun _ => identified) nofun
    refine updateCleanup_upholds tolerant here written ?_
    refine removeWorkspaceLocked_upholds tolerant ⟨written none, tolerant.operator rfl⟩ ?_ ?_
    · exact fun sticks later _ => stuck sticks later fun _ => .inr active
    · exact fun _ _ _ other => absurd rfl other
  · refine removeWorkspaceLocked_upholds tolerant here ?_ dirty
    exact fun sticks later asks => stuck sticks later fun asked => .inl (asks asked)

/-- A call of `cleanup_repo` ends where it may end. -/
theorem cleanupRepo_upholds (here : Ends allowed site)
    (stuck : ToleratesStuck allowed (site.requested = true) site)
    (dirty : ToleratesDirty allowed site) :
    cleanupRepo.Upholds (world permits) Consistent (fun _ => Ends allowed)
      (fun _ => Ends allowed) site := by
  have pass : ∀ later, Ends allowed later → (isCleanup later.row.status = true → later = site) →
      (readWorkspace >>= fun row =>
        if isCleanup row.status = true then removeWorkspaceLocked row else pure row).Upholds
          (world permits) Consistent (fun _ => Ends allowed) (fun _ => Ends allowed) later := by
    intro later ends same
    rw [Program.upholds_bind]
    refine upholds_observe ends.1 ?_ fun _ => ends
    rw [Program.upholds_ite]
    refine ⟨fun due => ?_, fun _ => ends⟩
    obtain rfl := same due
    exact removeWorkspaceLocked_upholds tolerant here stuck dirty
  unfold cleanupRepo
  rw [Program.upholds_bind]
  by_cases creating : site.row.status = .creating
  · have unrequested : site.requested = false := by
      by_contra asked
      have settled := (here.1.requested (Bool.not_eq_false _ ▸ asked)).1
      simp [creating, isCleanup] at settled
    have resumed : ∀ left, Quiet (site.act .prepareCleanup left) := by
      intro left
      rw [Site.act, if_pos creating]
      refine ⟨⟨nofun, fun _ => rfl, ?_, fun asked => ?_, here.1.removals⟩, unrequested⟩
      · exact here.1.operator
      · have asked' : site.requested = true := asked
        rw [unrequested] at asked'
        cases asked'
    have ends : ∀ left, Ends allowed (site.act .prepareCleanup left) := fun left =>
      ⟨(resumed left).1, tolerant.unrequested (resumed left).2⟩
    refine upholds_perform here.1 (fun left _ => (ends left).1) (fun _ => pass _ (ends none) ?_)
      nofun (fun _ => here) fun left _ _ _ => ends left
    intro due
    rw [Site.act, if_pos creating] at due
    cases due
  · have same : ∀ left, site.act .prepareCleanup left = site := fun left => by
      rw [Site.act, if_neg creating]
    refine upholds_perform here.1 (fun left _ => ?_) (fun _ => ?_) nofun (fun _ => here)
      fun left _ _ _ => ?_
    · rw [same left]
      exact here.1
    · refine pass _ ?_ fun _ => same none
      rw [same none]
      exact here
    · rw [same left]
      exact here

end Walk

end Iq.Workspace
