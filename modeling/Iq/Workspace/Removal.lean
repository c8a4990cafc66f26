import Iq.Library.Program
import Iq.Store.Schema

/-!
# Removal of a development workspace

`remove_workspace` and the part of `cleanup_repo` that is about one development workspace, as
programs whose effects are single transactions, observations and Rift commands. The operator's
request lives in the cleanup state of the workspace, which the removal writes before Rift acts. The
surroundings choose which effects fail and whether a command that fails has acted.
-/

namespace Iq.Workspace

open Library

/-! ## The workspace -/

/-- `ResidueDiscardState`, up to the inspected tree. -/
inductive ResidueDiscardState where
  | pending (quarantineName : String)
  | inspected (quarantineName : String)
  | failedPending (quarantineName message : String)
  | failedInspected (quarantineName message : String)
  deriving DecidableEq, Repr

/-- `discard_identity`: the quarantine name, and whether a root was inspected. -/
def ResidueDiscardState.identity : ResidueDiscardState → String × Bool
  | pending name => (name, false)
  | inspected name => (name, true)
  | failedPending name _ => (name, false)
  | failedInspected name _ => (name, true)

/-- `CleanupState` of a development workspace, up to the time of its completion. -/
inductive CleanupState where
  | ready
  | pending
  | operatorRequested
  | operatorFailed (message : String)
  | failed (message : String)
  | residueDiscard (discard : ResidueDiscardState)
  | complete
  deriving DecidableEq, Repr

/-- `CleanupState::OperatorRequested | CleanupState::OperatorFailed`. -/
def CleanupState.isOperator : CleanupState → Bool
  | operatorRequested | operatorFailed _ => true
  | _ => false

/-- The columns of a row of `development_workspaces` that the removal reads. -/
structure WorkspaceRow where
  status : DevelopmentWorkspaceStatus
  cleanup : CleanupState
  identity : Option WorkspaceIdentity
  deriving DecidableEq, Repr

/-- `CleanupPending | CleanupFailed`. -/
def isCleanup (status : DevelopmentWorkspaceStatus) : Bool :=
  status == .cleanupPending || status == .cleanupFailed

/-- What Rift and Git report of a workspace that is in the Rift inventory. -/
structure WorkspaceTree where
  /-- It is not at the recorded path. -/
  moved : Bool
  clean : Bool
  gitOperation : Bool
  head : String
  childless : Bool
  deriving DecidableEq, Repr

/-- What stands at the recorded path without being the workspace. -/
inductive Residue where
  | empty
  | content
  deriving DecidableEq, Repr

/-- A removal of a workspace from the Rift inventory. -/
structure RemovedTree where
  requested : Bool
  head : String
  integratedSha : Option String
  deriving DecidableEq, Repr

/-- One development workspace. -/
structure Site where
  row : WorkspaceRow
  /-- What `integrated_submission_sha` reads. -/
  integratedSha : Option String
  tree : Option WorkspaceTree
  residue : Option Residue
  gcDebt : Bool
  expectedTargetSha : String
  /-- The identity that Rift gives the workspace when its creation is resumed. -/
  created : WorkspaceIdentity
  /-- `remove_workspace` has recorded an operator request. -/
  requested : Bool
  /-- The removals so far. -/
  removals : List RemovedTree
  deriving DecidableEq, Repr

/-- `entry_exists` of the recorded path. -/
def Site.entryExists (site : Site) : Bool :=
  site.tree.any (fun tree => !tree.moved) || site.residue.isSome

/-! ## Effects -/

/-- What a removal reads of a workspace. -/
inductive Observation where
  | workspace
  | entryExists
  | retained
  | integratedSubmission
  deriving DecidableEq, Repr

/-- The type of a reading. -/
abbrev Observation.Value : Observation → Type
  | workspace => WorkspaceRow
  | entryExists => Bool
  | retained => Option WorkspaceTree
  | integratedSubmission => Option String

/-- What a removal does to a workspace. -/
inductive Action where
  | prepareCleanup
  | updateCleanup (status : DevelopmentWorkspaceStatus) (cleanup : CleanupState)
  | completeCleanup
  | recordGcDebt
  | removeTree
  | removeEmptyResidue
  | removeResidue
  | collectGarbage
  | clearGcDebt
  deriving DecidableEq, Repr

/-- The effects of a removal. -/
inductive Effect where
  | observe (observation : Observation)
  | act (action : Action)

/-- The answers to the effects: the reading, if there is one, and whether an action is reported as
done. -/
abbrev Answer : Effect → Type
  | .observe observation => Option observation.Value
  | .act _ => Bool

/-- How an effect ends: it works; it fails; it acts and is reported as failed, a Rift command
possibly with a residue. -/
inductive Choice where
  | works
  | fails
  | lost (residue : Option Residue)
  deriving DecidableEq, Repr

/-- A reading that works. -/
def Site.read (site : Site) : (observation : Observation) → observation.Value
  | .workspace => site.row
  | .entryExists => site.entryExists
  | .retained => site.tree
  | .integratedSubmission => site.integratedSha

/-- Whether an action finds what it acts on. -/
def Site.accepts (site : Site) : Action → Bool
  | .completeCleanup => isCleanup site.row.status
  | .removeEmptyResidue => site.residue != some .content
  | _ => true

/-- What an action does, and the residue that it may leave. -/
def Site.act (site : Site) : Action → Option Residue → Site
  | .prepareCleanup, _ =>
    -- `resume_workspace_creation`; the other steps do not touch the workspace
    if site.row.status = .creating then
      { site with
        row := { site.row with status := .active, identity := some site.created }
        tree := some ⟨false, true, false, site.expectedTargetSha, true⟩ }
    else site
  | .updateCleanup status cleanup, _ =>
    { site with
      row := { site.row with status, cleanup }
      requested := site.requested || cleanup == .operatorRequested }
  | .completeCleanup, _ =>
    { site with
      row := { site.row with status := .removed, cleanup := .complete }
      gcDebt := false }
  | .recordGcDebt, _ => { site with gcDebt := true }
  | .clearGcDebt, _ => { site with gcDebt := false }
  | .collectGarbage, _ => site
  | .removeTree, left =>
    { site with
      tree := none
      residue := if site.tree.any (·.moved) then site.residue else left
      removals := site.removals ++
        (site.tree.map fun tree => ⟨site.requested, tree.head, site.integratedSha⟩).toList }
  | .removeEmptyResidue, _ => { site with residue := none }
  | .removeResidue, _ => { site with residue := none }

/-- The actions that are database transactions, which act wholly or not at all. -/
def Action.isTransaction : Action → Bool
  | updateCleanup .. | completeCleanup | recordGcDebt | clearGcDebt => true
  | _ => false

/-- What an effect answers and leaves. -/
def Site.perform (site : Site) : (effect : Effect) → Choice → Answer effect × Site
  | .observe observation, .works => (some (site.read observation), site)
  | .observe _, _ => (none, site)
  | .act action, .works =>
    if site.accepts action = true then (true, site.act action none) else (false, site)
  | .act _, .fails => (false, site)
  | .act action, .lost residue =>
    (false, if site.accepts action && !action.isTransaction then site.act action residue else site)

/-- The meaning of the effects, where some choices may be ruled out in a state. -/
def world (permits : Site → Choice → Bool) : Program.Interpretation Site Effect Answer Choice where
  permits site _ choice := permits site choice
  perform := Site.perform

/-! ## Programs -/

/-- Why a call returns an error. -/
inductive RemovalError where
  | database
  | git
  | rift
  | pathReappeared
  | noCleanupAuthorization
  | noRiftIdentity
  | unknownEntry
  | dirty
  | noIntegratedSubmission
  | headDiffers
  | oldPathOccupied
  | notChildless
  | noDiscardAuthorization
  | discardFailed
  | cleanupFailed
  deriving DecidableEq, Repr

/-- A program on a workspace. -/
abbrev Routine (α : Type) : Type := Program Effect Answer RemovalError α

/-- A reading, if there is one. -/
def attemptRead (observation : Observation) : Routine (Option observation.Value) :=
  Program.ask (Effect.observe observation)

/-- A reading, or the error of the call. -/
def observe (observation : Observation) (error : RemovalError) : Routine observation.Value := do
  match ← attemptRead observation with
  | some value => pure value
  | none => .raise error

/-- An action, and whether it is reported as done. -/
def attempt (action : Action) : Routine Bool := Program.ask (Effect.act action)

/-- An action that is reported as done, or the error of the call. -/
def perform (action : Action) (error : RemovalError) : Routine Unit := do
  let done ← attempt action
  Program.require (done = true) error

/-- `workspace`. -/
def readWorkspace : Routine WorkspaceRow := observe .workspace .database

/-- `update_development_workspace_cleanup`. -/
def updateCleanup (status : DevelopmentWorkspaceStatus) (cleanup : CleanupState) :
    Routine WorkspaceRow := do
  perform (.updateCleanup status cleanup) .database
  readWorkspace

/-- `gc_unlocked` with its gate, and the completion of the mutation. -/
def collectGarbage : Routine Unit := do
  perform .recordGcDebt .database
  perform .collectGarbage .rift
  perform .clearGcDebt .database

/-- `remove` of a Rift that left the inventory. -/
def removeAbsentRift : Routine Unit := do
  let occupied ← observe .entryExists .rift
  if occupied = true then
    perform .recordGcDebt .database
    perform .removeEmptyResidue .rift
  collectGarbage

/-- `remove` of a Rift in the inventory. -/
def removeRetainedRift (tree : WorkspaceTree) : Routine Unit := do
  let occupied ← observe .entryExists .rift
  Program.require (tree.moved = true → occupied = false) .oldPathOccupied
  Program.require (tree.clean = true ∧ tree.gitOperation = false) .dirty
  Program.require (tree.childless = true) .notChildless
  perform .recordGcDebt .database
  perform .removeTree .rift
  collectGarbage

/-- `remove_rift`. -/
def removeRift : Routine Unit := do
  match ← observe .retained .rift with
  | none => removeAbsentRift
  | some tree => removeRetainedRift tree

/-- The message of a workspace that is preserved. -/
def dirtyMessage : String := "workspace is dirty or has an active Git operation; IQ preserved it"

/-- The authorisation of a removal without an operator request. -/
def requireIntegrated (tree : WorkspaceTree) : Routine Unit := do
  match ← observe .integratedSubmission .database with
  | none => .raise .noIntegratedSubmission
  | some sha => Program.require (tree.head = sha) .headDiffers

/-- The condition under which a retained workspace is removed. -/
def requireAuthorization (row : WorkspaceRow) (tree : WorkspaceTree) : Routine Unit :=
  if row.status ≠ .creating ∧ row.cleanup.isOperator = false then requireIntegrated tree
  else pure ()

/-- The checks that `remove_workspace_locked` makes of a retained workspace, and its authorisation. -/
def authorizeRemoval (row : WorkspaceRow) (tree : WorkspaceTree) : Routine Unit :=
  if tree.clean = false ∨ tree.gitOperation = true then do
    let _ ← updateCleanup .cleanupFailed
      (if row.cleanup = .operatorRequested then .operatorFailed dirtyMessage
        else .failed dirtyMessage)
    .raise .dirty
  else do
    requireAuthorization row tree
    let _ ← updateCleanup .cleanupPending .pending

/-- `remove_workspace_locked` on a workspace with a Rift identity. -/
def removeIdentified (row : WorkspaceRow) : Routine WorkspaceRow := do
  match ← observe .retained .rift with
  | none => pure ()
  | some tree => authorizeRemoval row tree
  removeRift
  updateCleanup .removed .complete

/-- `remove_workspace_locked` on a workspace without a Rift identity. -/
def removeUnidentified (row : WorkspaceRow) : Routine WorkspaceRow := do
  Program.require (row.status = .creating ∨ row.cleanup.isOperator = true) .noRiftIdentity
  let occupied ← observe .entryExists .git
  Program.require (occupied = false) .unknownEntry
  updateCleanup .removed .complete

/-- The actions in order up to the first that is not reported as done. -/
def attemptAll : List Action → Routine Bool
  | [] => pure true
  | action :: rest => do
    let done ← attempt action
    if done = true then attemptAll rest else pure false

/-- The actions of `discard_retained_residue` with its callbacks. -/
def discardActions (discard : ResidueDiscardState) (occupied : Bool) : List Action :=
  let inspected := .updateCleanup .cleanupPending (.residueDiscard (.inspected discard.identity.1))
  (if occupied && !discard.identity.2 then [inspected] else []) ++ [.recordGcDebt] ++
    (if occupied then [.removeResidue] else []) ++ [.collectGarbage, .completeCleanup]

/-- `discard_retained_residue` with its callbacks, and whether it succeeds. -/
def discardRetainedResidue (discard : ResidueDiscardState) : Routine Bool := do
  match ← attemptRead .retained with
  | none => pure false
  | some (some _) => pure false
  | some none =>
    match ← attemptRead .entryExists with
    | none => pure false
    | some occupied => attemptAll (discardActions discard occupied)

/-- `failed_discard_state`. -/
def failedDiscardState (cleanup : CleanupState) (quarantineName message : String) :
    ResidueDiscardState :=
  match cleanup with
  | .residueDiscard discard =>
    if discard.identity.2 then .failedInspected quarantineName message
    else .failedPending quarantineName message
  | _ => .failedPending quarantineName message

/-- `discard_workspace_residue_locked` without a new authorisation. -/
def discardResidueLocked : Routine WorkspaceRow := do
  let row ← readWorkspace
  Program.require (isCleanup row.status = true) .noCleanupAuthorization
  Program.require (row.identity.isSome = true) .noRiftIdentity
  match row.cleanup with
  | .residueDiscard discard => do
    let discarded ← discardRetainedResidue discard
    if discarded = true then readWorkspace
    else do
      let current ← readWorkspace
      if current.status = .removed then .raise .discardFailed
      else do
        let _ ← updateCleanup .cleanupFailed (.residueDiscard
          (failedDiscardState current.cleanup discard.identity.1 "cleanup residue discard failed"))
        .raise .discardFailed
  | _ => .raise .noDiscardAuthorization

/-- `remove_workspace_locked`. -/
def removeWorkspaceLocked (row : WorkspaceRow) : Routine WorkspaceRow :=
  match row.cleanup with
  | .residueDiscard _ => discardResidueLocked
  | _ =>
    if row.status = .removed then do
      let occupied ← observe .entryExists .git
      Program.require (occupied = false) .pathReappeared
      pure row
    else do
      Program.require (row.status = .creating ∨ isCleanup row.status = true) .noCleanupAuthorization
      match row.identity with
      | none => removeUnidentified row
      | some _ => removeIdentified row

/-- The operator's request of an active workspace. -/
def requestRemoval (row : WorkspaceRow) : Routine WorkspaceRow :=
  if row.status = .active then updateCleanup .cleanupPending .operatorRequested else pure row

/-- `remove_workspace`. -/
def removeWorkspace : Routine WorkspaceRow := do
  let row ← requestRemoval (← readWorkspace)
  removeWorkspaceLocked row

/-- `cleanup_repo`, for one workspace: the steps before its loop, and the pass of the loop. The passes
over other workspaces, of which the first that fails ends the loop, count as steps before it. -/
def cleanupRepo : Routine WorkspaceRow := do
  perform .prepareCleanup .cleanupFailed
  let row ← readWorkspace
  if isCleanup row.status = true then removeWorkspaceLocked row else pure row

end Iq.Workspace
