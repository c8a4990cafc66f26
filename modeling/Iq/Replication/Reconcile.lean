import Mathlib.Data.Prod.Lex
import Mathlib.Data.String.Basic
import Iq.Library.Program
import Iq.Replication.Debt

/-!
# Reconciling replication debts

`reconcile_replication_debt` and the two loops over it as programs whose effects are single
transactions, reads, checks and Git commands. The surroundings choose what a replica answers,
whether a command is run at all and whether its answer arrives. A destination is not part of the
world: what `git ls-remote` reports of it is free, and every report and every push is recorded.
-/

namespace Iq.Replication

open Library

/-- The Git commands of a reconciliation, on the pin or the destination of one debt. -/
inductive GitCommand where
  | verifySource
  | publishPin
  | confirmPin
  | deletePin
  | observe
  | push
  deriving DecidableEq, Repr

/-- `git ls-remote` and `git push` go to the replica. -/
def GitCommand.isExternal : GitCommand → Bool
  | observe | push => true
  | _ => false

/-- The commands that `authorize_replication_command` permits while the source is not pinned. -/
def GitCommand.isPinning : GitCommand → Bool
  | verifySource | publishPin | confirmPin => true
  | _ => false

/-- The effects of a reconciliation. -/
inductive Effect where
  | listDebts
  | readDebt (debtId : String)
  | newerCompleted (debt : ReplicationDebt)
  | olderUnfinished (debt : ReplicationDebt)
  | update (debtId : String) (update : DebtUpdate)
  | applicationId
  | verifyReplica
  | verifyCanonical
  | inspectPin (debtId : String)
  | git (debtId : String) (command : GitCommand)

/-- What a Git command answers: its error, or the object that it reports. -/
abbrev GitAnswer : Type := Except String (Option String)

/-- The answers to the effects. -/
abbrev Answer : Effect → Type
  | .listDebts => List ReplicationDebt
  | .readDebt _ | .newerCompleted _ | .olderUnfinished _ => Option ReplicationDebt
  | .update .. => Bool
  | .applicationId => String
  | .verifyReplica => Option String
  | .verifyCanonical => Bool
  | .inspectPin _ => GitAnswer
  | .git .. => GitAnswer

/-- Why a reconciliation returns an error. -/
inductive ReconcileError where
  | missing
  | refused
  | blockedByOlder
  | canonicalRemote
  | noExpectedDestination
  | noSupersessionAuthority
  | git (error : String)
  | pinDrifted
  | pinRemains
  | differsFromLanding
  deriving DecidableEq, Repr

/-- A program of a reconciliation. -/
abbrev Routine (α : Type) : Type := Program Effect Answer ReconcileError α

section Programs

/-- The select of `replication_debt`. -/
def findDebt (debtId : String) : Routine (Option ReplicationDebt) :=
  Program.ask (Effect.readDebt debtId)

/-- `replication_debt`. -/
def readDebt (debtId : String) : Routine ReplicationDebt := do
  match ← findDebt debtId with
  | some debt => pure debt
  | none => .raise .missing

/-- `replication_debts`. -/
def listDebts : Routine (List ReplicationDebt) := Program.ask Effect.listDebts

/-- `newer_completed_replication`. -/
def newerCompleted (debt : ReplicationDebt) : Routine (Option ReplicationDebt) :=
  Program.ask (Effect.newerCompleted debt)

/-- `older_unfinished_replication`. -/
def olderUnfinished (debt : ReplicationDebt) : Routine (Option ReplicationDebt) :=
  Program.ask (Effect.olderUnfinished debt)

/-- A replication transaction, and whether it commits. -/
def commit (debtId : String) (update : DebtUpdate) : Routine Bool :=
  Program.ask (Effect.update debtId update)

/-- A replication transaction, and the row that it leaves. -/
def update (debtId : String) (update : DebtUpdate) : Routine ReplicationDebt := do
  let committed ← commit debtId update
  Program.require (committed = true) .refused
  readDebt debtId

/-- `Uuid::new_v4`. -/
def newApplicationId : Routine String := Program.ask Effect.applicationId

/-- `replica.verify_local_bare`. -/
def verifyReplica : Routine (Option String) := Program.ask Effect.verifyReplica

/-- `verify_remote_identity` of the canonical repository. -/
def verifyCanonical : Routine Bool := Program.ask Effect.verifyCanonical

/-- `run_git`. -/
def runGit (debtId : String) (command : GitCommand) : Routine GitAnswer :=
  Program.ask (Effect.git debtId command)

/-- `git rev-parse --verify --quiet` of the pin, which is run without an authorisation. -/
def revParse (debtId : String) : Routine GitAnswer := Program.ask (Effect.inspectPin debtId)

/-- The object of the pin. -/
def inspectPin (debtId : String) : Routine (Option String) := do
  match ← revParse debtId with
  | .ok found => pure found
  | .error error => .raise (.git error)

/-- The deletion in `compare_and_delete_replication_source_pin`. -/
def deletePin (debt : ReplicationDebt) : Routine Unit := do
  match ← runGit debt.id .deletePin with
  | .ok _ => pure ()
  | .error error =>
    match ← inspectPin debt.id with
    | none => pure ()
    | some observed =>
      if observed ≠ debt.canonicalSourceSha then .raise .pinDrifted else .raise (.git error)

/-- `compare_and_delete_replication_source_pin`. -/
def compareAndDeletePin (debt : ReplicationDebt) : Routine Unit := do
  match ← inspectPin debt.id with
  | none => pure ()
  | some existing =>
    Program.require (existing = debt.canonicalSourceSha) .pinDrifted
    deletePin debt
  match ← inspectPin debt.id with
  | none => pure ()
  | some remaining =>
    if remaining ≠ debt.canonicalSourceSha then .raise .pinDrifted else .raise .pinRemains

/-- `complete_replication_source_cleanup`. -/
def completeSourceCleanup (debt : ReplicationDebt) : Routine ReplicationDebt := do
  compareAndDeletePin debt
  update debt.id .completeSourceCleanup

/-- `complete_superseded_source_cleanup`. -/
def completeSupersededCleanup (debt : ReplicationDebt) : Routine ReplicationDebt := do
  Program.require (debt.outcome = .supersededCleanupPending ∧ debt.supersededById.isSome)
    .noSupersessionAuthority
  compareAndDeletePin debt
  update debt.id .completeSupersession

/-- `publish_replication_source_pin`. -/
def publishSourcePin (debt : ReplicationDebt) : Routine ReplicationDebt := do
  match ← runGit debt.id .verifySource with
  | .error _ => update debt.id (.finish (some .sourceUnavailable))
  | .ok _ =>
    match ← runGit debt.id .publishPin with
    | .ok _ => update debt.id .completeSourcePin
    | .error _ =>
      match ← runGit debt.id .confirmPin with
      | .ok _ => update debt.id .completeSourcePin
      | .error error => .raise (.git error)

/-- A failure before the push: evidence on an application in flight, else the end of the debt's
turn. -/
def recordFailure (debt : ReplicationDebt) (inFlight failed : ReplicationFailure) :
    Routine ReplicationDebt :=
  if debt.outcome.isInFlight then update debt.id (.markUncertain inFlight)
  else update debt.id (.finish (some failed))

/-- The observed commit is the landed one. -/
def finishApplied (debtId : String) : Routine ReplicationDebt := do
  let applied ← update debtId (.finish none)
  completeSourceCleanup applied

/-- The push with its verification. -/
def pushExact (debt : ReplicationDebt) (expected : String) : Routine ReplicationDebt := do
  let pushed ← runGit debt.id .push
  let failure := match pushed with
    | .ok _ => none
    | .error error => some error
  match ← runGit debt.id .observe with
  | .error error => update debt.id (.markUncertain (.cannotVerifyResult failure error))
  | .ok actual =>
    if actual = some debt.canonicalSourceSha then finishApplied debt.id
    else
      match failure with
      | some error =>
        if actual = some expected then update debt.id (.finish (some (.pushFailed error)))
        else update debt.id (.markUncertain (.resultUncertain failure actual))
      | none => update debt.id (.markUncertain (.resultUncertain failure actual))

/-- The decision on the observed destination. -/
def advanceExact (debt : ReplicationDebt) (actual : String) : Routine ReplicationDebt :=
  if debt.outcome.isInFlight then
    match debt.expectedDestinationSha with
    | none => .raise .noExpectedDestination
    | some expected =>
      if actual ≠ expected then update debt.id (.markUncertain (.moved expected actual))
      else if debt.outcome = .uncertain then do
        let _ ← update debt.id .resumeApplication
        pushExact debt expected
      else pushExact debt expected
  else do
    let applicationId ← newApplicationId
    let _ ← update debt.id (.beginApplication actual applicationId)
    pushExact debt actual

/-- The part of `reconcile_replication_debt` that works on the destination. -/
def reconcileDestination (debt : ReplicationDebt) : Routine ReplicationDebt := do
  match ← verifyReplica with
  | some error => recordFailure debt (.cannotVerifyApplyingReplica error) (.cannotVerifyReplica error)
  | none =>
    let verified ← verifyCanonical
    Program.require (verified = true) .canonicalRemote
    match ← runGit debt.id .observe with
    | .error error => recordFailure debt (.cannotObserveApplying error) (.cannotObserve error)
    | .ok observed =>
      let actual := observed.getD debt.replica.objectFormat.zeroOid
      if actual = debt.canonicalSourceSha then finishApplied debt.id
      else advanceExact debt actual

/-- The part of `reconcile_replication_debt` after the supersession check. -/
def reconcileInTurn (debt : ReplicationDebt) : Routine ReplicationDebt := do
  let debt ← if debt.operation = .pinSource then publishSourcePin debt else pure debt
  if debt.outcome = .applied then completeSourceCleanup debt
  else
    match ← olderUnfinished debt with
    | some _ => .raise .blockedByOlder
    | none => reconcileDestination debt

/-- `reconcile_replication_debt`. -/
def reconcileDebt (debtId : String) (allowFailed : Bool) : Routine ReplicationDebt := do
  let debt ← readDebt debtId
  if debt.outcome.isFinished || (debt.outcome == .failed && !allowFailed) then pure debt
  else if debt.outcome = .supersededCleanupPending then completeSupersededCleanup debt
  else
    match ← newerCompleted debt with
    | some newer => do
      let debt ← update debt.id (.beginSupersession newer.id)
      completeSupersededCleanup debt
    | none => reconcileInTurn debt

/-- The debts that `reconcile_pending_replication` works on: the first unfinished debt of each
destination target, in the order of the listing. -/
def due : List ReplicationDebt → List ReplicationDebt → List ReplicationDebt
  | _, [] => []
  | seen, debt :: rest =>
    if debt.outcome.isFinished || seen.any (·.sameTarget debt) then due seen rest
    else debt :: due (debt :: seen) rest

/-- The loop of `reconcile_pending_replication`. -/
def reconcileEach : List ReplicationDebt → Routine Unit
  | [] => pure ()
  | debt :: rest => do
    let _ ← reconcileDebt debt.id true
    reconcileEach rest

/-- `reconcile_pending_replication`. -/
def reconcilePending : Routine Unit := do
  let debts ← listDebts
  reconcileEach (due [] debts)

/-- `retry_replication`. -/
def retryReplication (debtId : String) : Routine Unit := do
  let _ ← reconcileDebt debtId true
  pure ()

/-- The loop of `replicate_canonical_landing`: the pins of the debts of an item that has landed. -/
def publishEach (landedSha : String) : List ReplicationDebt → Routine Unit
  | [] => pure ()
  | debt :: rest => do
    Program.require (debt.canonicalSourceSha = landedSha) .differsFromLanding
    if debt.operation = .pinSource then
      let _ ← publishSourcePin debt
      publishEach landedSha rest
    else publishEach landedSha rest

/-- `replicate_canonical_landing`. -/
def replicateLanding (itemId landedSha : String) : Routine Unit := do
  let debts ← listDebts
  publishEach landedSha (debts.filter fun debt => debt.itemId == itemId)
  reconcilePending

end Programs

/-! ## The world -/

/-- The outcomes that a debt has only in its turn. -/
def turnOutcomes : List ReplicationOutcome := [.applying, .uncertain, .applied, .succeeded]

/-- What happens between a debt and its destination. -/
inductive DestinationEvent where
  /-- `git ls-remote` reported the object of the target; whether every older debt of the target was
  finished. -/
  | reported (debtId : String) (observed : Option String) (inTurn : Bool)
  /-- `git push` was run; whether no newer debt of the target had its turn before. -/
  | pushed (debtId : String) (orderly : Bool)
  deriving DecidableEq, Repr

/-- The tables, the pins `refs/iq/replication/<id>` and the events at the destinations, newest
first. -/
structure World where
  store : ReplicationStore
  pins : String → Option String
  log : List DestinationEvent

/-- What the surroundings choose of one effect. -/
structure Choice where
  /-- The gate of `run_replication_git` also checks the pin; that of `retry_replication` does not. -/
  checksPin : Bool
  /-- The command passes the rest of its gate and is run. -/
  ran : Bool
  /-- The answer of the command arrives. -/
  answered : Bool
  /-- The object is there, or the canonical remote is the registered one. -/
  found : Bool
  /-- What the destination target holds. -/
  observed : Option String
  /-- The replica is not the one of the policy. -/
  mismatch : Option String
  /-- The text of an error, or a new identifier. -/
  text : String

/-- `authorize_replication_command`, with the check of the pin in `run_replication_git`. -/
def World.authorizes (world : World) (debt : ReplicationDebt) (command : GitCommand)
    (checksPin : Bool) : Bool :=
  world.store.requiresReplication debt &&
    if debt.operation = .pinSource then command.isPinning
    else !checksPin || world.pins debt.id == some debt.canonicalSourceSha

/-- The world with another pin. -/
def World.withPin (world : World) (debtId : String) (pin : Option String) : World :=
  { world with pins := fun id => if id = debtId then pin else world.pins id }

/-- The world with another event at a destination. -/
def World.record (world : World) (event : DestinationEvent) : World :=
  { world with log := event :: world.log }

/-- No newer debt of the target had its turn. -/
def World.isNewest (world : World) (debt : ReplicationDebt) : Bool :=
  !world.store.debts.any fun newer =>
    newer.sameTarget debt && debt.sequence < newer.sequence && turnOutcomes.contains newer.outcome

/-- The answer of a command that was run, if it arrives. -/
def Choice.answer (choice : Choice) (answer : Option String) : GitAnswer :=
  if choice.answered then .ok answer else .error choice.text

/-- A Git command that was run. -/
def World.runCommand (world : World) (debt : ReplicationDebt) (choice : Choice) :
    GitCommand → GitAnswer × World
  | .verifySource => (if choice.found then .ok none else .error choice.text, world)
  | .publishPin =>
    if world.pins debt.id = none then
      (choice.answer none, world.withPin debt.id (some debt.canonicalSourceSha))
    else (.error choice.text, world)
  | .confirmPin =>
    if world.pins debt.id = some debt.canonicalSourceSha then (choice.answer none, world)
    else (.error choice.text, world)
  | .deletePin =>
    if world.pins debt.id = some debt.canonicalSourceSha then
      (choice.answer none, world.withPin debt.id none)
    else (.error choice.text, world)
  | .observe =>
    if choice.answered && choice.observed.all debt.replica.objectFormat.isOid then
      (.ok choice.observed,
        world.record (.reported debt.id choice.observed (world.store.olderUnfinished debt).isNone))
    else (.error choice.text, world)
  | .push => (choice.answer none, world.record (.pushed debt.id (world.isNewest debt)))

/-- `run_git` on a debt. -/
def World.runGit (world : World) (debtId : String) (choice : Choice) (command : GitCommand) :
    GitAnswer × World :=
  match world.store.debts.find? debtId with
  | none => (.error choice.text, world)
  | some debt =>
    if world.authorizes debt command choice.checksPin && choice.ran then
      world.runCommand debt choice command
    else (.error choice.text, world)

/-- `ORDER BY destination_key,target_ref,sequence`. -/
def listedBefore (first second : ReplicationDebt) : Prop :=
  first.destinationKey < second.destinationKey ∨ first.destinationKey = second.destinationKey ∧
    (first.targetRef.text < second.targetRef.text ∨
      first.targetRef.text = second.targetRef.text ∧ first.sequence ≤ second.sequence)

instance : DecidableRel listedBefore := fun first second =>
  inferInstanceAs (Decidable (first.destinationKey < second.destinationKey ∨
    first.destinationKey = second.destinationKey ∧
      (first.targetRef.text < second.targetRef.text ∨
        first.targetRef.text = second.targetRef.text ∧ first.sequence ≤ second.sequence)))

/-- The meaning of an effect. -/
def World.perform (world : World) : (effect : Effect) → Choice → Answer effect × World
  | .listDebts, _ => (world.store.debts.rows.insertionSort listedBefore, world)
  | .readDebt debtId, _ => (world.store.debts.find? debtId, world)
  | .newerCompleted debt, _ => (world.store.newerCompleted debt, world)
  | .olderUnfinished debt, _ => (world.store.olderUnfinished debt, world)
  | .update debtId update, _ =>
    match world.store.update debtId update with
    | some store => (true, { world with store })
    | none => (false, world)
  | .applicationId, choice => (choice.text, world)
  | .verifyReplica, choice => (choice.mismatch, world)
  | .verifyCanonical, choice => (choice.found, world)
  | .inspectPin debtId, choice =>
    (if choice.answered then .ok (world.pins debtId) else .error choice.text, world)
  | .git debtId command, choice => world.runGit debtId choice command

/-- The canonical remote is the registered one, and the commands on the pin are run and answered.
Nothing is said of the replica, nor of the source object before it is pinned. -/
def Choice.sparesLocal (choice : Choice) : Effect → Bool
  | .verifyCanonical => choice.found
  | .inspectPin _ => choice.answered
  | .git _ command =>
    command.isExternal || command == .verifySource || choice.ran && choice.answered
  | _ => true

/-- The interpretation of a reconciliation, in which every command may fail, or only those that go
to the replica. -/
def world (localFaults : Bool) : Program.Interpretation World Effect Answer Choice where
  permits _ effect choice := localFaults || choice.sparesLocal effect
  perform := World.perform

/-! ## The machine -/

/-- What happens outside reconciliations, under the same lease. -/
inductive Command where
  | admitItem (itemId : String) (targetRef : TargetRef)
  | cancel (itemId : String)
  | markIntegrated (itemId : String) (landed : CommitId) (debtIds : List String)
  | beginDraining
  | disableDrained

/-- A command on the tables; a refused one changes nothing. -/
def World.command (world : World) : Command → World
  | .admitItem itemId targetRef =>
    { world with store := (world.store.admitItem itemId targetRef).getD world.store }
  | .cancel itemId => { world with store := world.store.cancel itemId }
  | .markIntegrated itemId landed debtIds =>
    { world with store := (world.store.markIntegrated itemId landed debtIds).getD world.store }
  | .beginDraining => { world with store := world.store.beginDraining.getD world.store }
  | .disableDrained => { world with store := world.store.disableDrained.getD world.store }

/-- The programs that are run. -/
inductive Entry where
  | reconcilePending
  | retryReplication (debtId : String)
  | replicateLanding (itemId landedSha : String)
  deriving DecidableEq, Repr

/-- The program of an entry. -/
def Entry.program : Entry → Routine Unit
  | .reconcilePending => Iq.Replication.reconcilePending
  | .retryReplication debtId => Iq.Replication.retryReplication debtId
  | .replicateLanding itemId landedSha => Iq.Replication.replicateLanding itemId landedSha

/-- The world of a registered repository before its first debt. -/
structure World.Initial (world : World) : Prop where
  enabled : world.store.policy.operationState = .enabled
  undebted : world.store.debts.rows = []
  unpinned : ∀ debtId, world.pins debtId = none
  unlogged : world.log = []

/-- The machine of a repository's replication: reconciliations that may end after any effect, and
the commands between them. -/
def replication (localFaults : Bool) :
    Machine (Process World Effect Answer ReconcileError Unit)
      (ProcessLabel Command Entry Choice) :=
  processes World.Initial World.command Entry.program (world localFaults)

end Iq.Replication
