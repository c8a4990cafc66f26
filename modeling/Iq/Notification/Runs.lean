import Iq.Library.Transition
import Iq.Notification.Delivery

/-!
# Dispatchers around restarts

Several dispatchers over one store, each with the claim, the start mark, the command and its result
as separate steps between which it may stop. Restarts of the daemon, alert events and redeliveries
come at any time. A claim's identity is drawn by `Uuid::new_v4`, which does not repeat one.
-/

namespace Iq.Notification

open Library

/-- A process in `dispatch_once`: outside, after its claim, after its start mark, and after the
command has ended. -/
inductive Dispatcher where
  | idle
  | claimed (delivery : PendingDelivery)
  | marked (delivery : PendingDelivery)
  | ran (delivery : PendingDelivery) (outcome : Except String Unit)

/-- The delivery that a process holds. -/
def Dispatcher.held : Dispatcher → Option PendingDelivery
  | .idle => none
  | .claimed delivery | .marked delivery | .ran delivery _ => some delivery

/-- A start mark or a command: the claim that it belongs to and the delivery. -/
structure Start where
  claimId : String
  id : Nat
  deriving DecidableEq, Repr

/-- The store with the claims, start marks and commands so far. -/
structure Journal where
  store : Store
  claims : List String
  marks : List Start
  commands : List Start

/-- The journal and the processes. -/
structure System where
  journal : Journal
  dispatchers : Nat → Dispatcher

/-- What happens next. A process is named by a number. -/
inductive Label where
  | append (event : Event) (now : String)
  | configure (pid : Nat)
  | claim (pid : Nat) (now claimId : String)
  | proceed (pid : Nat) (now : Int)
  | run (pid : Nat) (outcome : Except String Unit)
  | record (pid : Nat) (retryAt : Nat → String)
  | stop (pid : Nat)
  | restart
  | redeliver (id : Nat) (actor now : String)

/-- A journal with another store. -/
def Journal.write (journal : Journal) (store : Store) : Journal :=
  { journal with
    store := store }

/-- A statement that may be refused. -/
def Journal.execute (journal : Journal) (statement : Store → Except String Store) : Journal :=
  match statement journal.store with
  | .error _ => journal
  | .ok store => journal.write store

/-- A process goes on as another over a journal. -/
def System.become (system : System) (journal : Journal) (pid : Nat) (dispatcher : Dispatcher) :
    System :=
  ⟨journal, Function.update system.dispatchers pid dispatcher⟩

section Step

variable (parse : String → Except String Int) (config : Nat → Config)

/-- The claim of a process that is outside of `dispatch_once`. -/
def System.claim (system : System) (pid : Nat) (now claimId : String) : System :=
  match system.dispatchers pid with
  | .idle =>
    if claimId ∈ system.journal.claims then system
    else
      match claimNext now claimId (registerBackends (config pid) system.journal.store) with
      | .ok (some delivery, store) =>
        system.become ⟨store, claimId :: system.journal.claims, system.journal.marks,
          system.journal.commands⟩ pid (.claimed delivery)
      | _ => system
  | _ => system

/-- The step of a process after its claim: the expiry, the start mark, or an error. -/
def System.proceed (system : System) (pid : Nat) (now : Int) : System :=
  match system.dispatchers pid with
  | .claimed delivery =>
    match planDelivery parse (config pid) now delivery with
    | .panics | .fail _ => system.become system.journal pid .idle
    | .expire =>
      system.become (system.journal.execute (setDeliveryState delivery.id
        (.claimed delivery.claimId) .expired delivery.attemptCount none)) pid .idle
    | .start _ _ =>
      match markCommandStarted delivery.id delivery.claimId system.journal.store with
      | .error _ => system.become system.journal pid .idle
      | .ok store =>
        system.become ⟨store, system.journal.claims,
          ⟨delivery.claimId, delivery.id⟩ :: system.journal.marks, system.journal.commands⟩ pid
          (.marked delivery)
  | _ => system

/-- The command of a process after its start mark. -/
def System.run (system : System) (pid : Nat) (outcome : Except String Unit) : System :=
  match system.dispatchers pid with
  | .marked delivery =>
    system.become ⟨system.journal.store, system.journal.claims, system.journal.marks,
      ⟨delivery.claimId, delivery.id⟩ :: system.journal.commands⟩ pid (.ran delivery outcome)
  | _ => system

/-- The record of a command's outcome. -/
def System.record (system : System) (pid : Nat) (retryAt : Nat → String) : System :=
  match system.dispatchers pid with
  | .ran delivery outcome =>
    system.become (system.journal.execute (recordOutcome (config pid) delivery outcome retryAt))
      pid .idle
  | _ => system

/-- One step. A process that stops leaves the store as it is. -/
def System.step (system : System) : Label → System
  | .append event now =>
    ⟨system.journal.write (appendAlert event now system.journal.store), system.dispatchers⟩
  | .configure pid =>
    ⟨system.journal.write (registerBackends (config pid) system.journal.store),
      system.dispatchers⟩
  | .claim pid now claimId => system.claim config pid now claimId
  | .proceed pid now => system.proceed parse config pid now
  | .run pid outcome => system.run pid outcome
  | .record pid retryAt => system.record config pid retryAt
  | .stop pid => system.become system.journal pid .idle
  | .restart =>
    ⟨system.journal.write (markStartedUnknownAfterRestart system.journal.store),
      system.dispatchers⟩
  | .redeliver id actor now =>
    ⟨system.journal.execute (redeliver id actor now), system.dispatchers⟩

/-- The runs of an installation from an empty store. -/
def notifications : Machine System Label where
  Initial system := system = ⟨⟨⟨.empty, 0, .empty, []⟩, [], [], []⟩, fun _ => .idle⟩
  step := System.step parse config

end Step

/-- The start marks of a delivery. -/
def Journal.starts (journal : Journal) (id : Nat) : Nat := journal.marks.countP (·.id == id)

/-- The commands that were run for a delivery. -/
def Journal.commandsOf (journal : Journal) (id : Nat) : Nat := journal.commands.countP (·.id == id)

end Iq.Notification
