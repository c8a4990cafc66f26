import Iq.Lifecycle.Runs
import Iq.Projection.Outbox

/-!
# Convergence of the projection outbox

When a call of `project_item` returns and no event was appended since it read its effort, the item
should have left the list, with the issue of an ended effort closed. What the outbox may become
while a call is in progress, what a call knows of it, and when nothing is owed for an item.
-/

namespace Iq

open Library

variable {store later : Outbox} {effort : IntegrationEffort} {effortId itemId : String}

/-! ## Settled items -/

namespace Outbox

/-- The list selects an item, now or later. -/
def Lists (store : Outbox) (itemId : String) : Prop :=
  ∃ effort ∈ store.efforts, effort.itemId = itemId ∧ ∃ now, store.isListed effort now = true

/-- Only items that the list selects are returned. -/
theorem lists_of_mem_projectionItems {limit now : Nat} {items : List String}
    (listed : store.projectionItems limit now = some items) (mem : itemId ∈ items) :
    store.Lists itemId := by
  simp only [projectionItems, Option.ite_none_right_eq_some, Option.some.injEq] at listed
  rw [← listed.2] at mem
  rcases List.mem_map.mp (List.mem_of_mem_take mem) with ⟨effort, chosen, rfl⟩
  rcases List.mem_filter.mp chosen with ⟨stored, selected⟩
  exact ⟨effort, stored, rfl, now, selected⟩

/-- An item is not returned any more, and the issue of an ended effort is recorded closed. -/
structure Settled (store : Outbox) (itemId : String) : Prop where
  unlisted : ∀ limit now items, store.projectionItems limit now = some items → itemId ∉ items
  closed : ∀ effort ∈ store.efforts, effort.itemId = itemId → effort.state.isTerminal = true →
    ∀ artifact, store.artifacts.find? effort.id = some artifact → artifact.state = .closed

/-- Nothing is owed for an effort. -/
structure NothingOwed (store : Outbox) (effort : IntegrationEffort)
    (visibility : IssueVisibility) : Prop where
  /-- An earlier failure left no debt that will be retried. -/
  debt : ∀ debt, store.debts.find? effort.id = some debt → 10 ≤ debt.attemptCount
  /-- Without an artifact and a debt, the effort waits for nobody. -/
  unopened : store.debts.find? effort.id = none → store.artifacts.find? effort.id = none →
    visibility ≠ .full ∧ effort.state.blocker = none ∧ effort.state.name ≠ .reviewRequired
  /-- With an artifact and no debt, no unread event wakes the effort. -/
  unread : store.debts.find? effort.id = none → ∀ artifact,
    store.artifacts.find? effort.id = some artifact →
      ∀ event ∈ Log.after OutboxEvent.sequence (store.eventsOf effort.id)
        artifact.lastEventSequence, wakes visibility effort.state event = false
  /-- The issue of an ended effort is closed. -/
  closed : effort.state.isTerminal = true → ∀ artifact,
    store.artifacts.find? effort.id = some artifact → artifact.state = .closed

end Outbox

/-! ## Growth of the outbox -/

namespace Outbox

/-- Efforts of one item are one, and events are numbered in the order of the log. -/
structure Ordered (store : Outbox) : Prop where
  distinct : ∀ effort ∈ store.efforts, ∀ other ∈ store.efforts, effort.itemId = other.itemId →
    effort = other
  ordered : Log.Ordered OutboxEvent.sequence store.events
  within : ∀ event ∈ store.events, event.sequence ≤ store.events.length

/-- The events of an effort are in order. -/
theorem Ordered.eventsOf (ordered : store.Ordered) (effortId : String) :
    Log.Ordered OutboxEvent.sequence (store.eventsOf effortId) :=
  List.Pairwise.filter _ ordered.ordered

/-- How an outbox may differ from an earlier one: logs grow, efforts keep their items, and an effort
without new events is as it was. -/
structure Extends (store later : Outbox) : Prop where
  events : ∀ effortId, store.eventsOf effortId <+: later.eventsOf effortId
  items : ∀ effortId row, store.efforts.find? effortId = some row →
    ∃ next, later.efforts.find? effortId = some next ∧ next.itemId = row.itemId
  quiet : ∀ effortId row, store.eventsOf effortId = later.eventsOf effortId →
    store.efforts.find? effortId = some row → later.efforts.find? effortId = some row

/-- A change of artifacts, debts or the clock. -/
theorem Extends.of_same (events : later.events = store.events)
    (efforts : later.efforts = store.efforts) : store.Extends later where
  events effortId := by
    have same : store.eventsOf effortId = later.eventsOf effortId := by
      rw [Outbox.eventsOf, Outbox.eventsOf, events]
    exact same ▸ List.prefix_rfl
  items effortId row found := ⟨row, by rw [efforts]; exact found, rfl⟩
  quiet effortId row _ found := by
    rw [efforts]
    exact found

/-- The order is read from events and efforts only. -/
theorem Ordered.of_same (ordered : store.Ordered) (events : later.events = store.events)
    (efforts : later.efforts = store.efforts) : later.Ordered where
  distinct := by
    rw [efforts]
    exact ordered.distinct
  ordered := by
    rw [events]
    exact ordered.ordered
  within := by
    rw [events]
    exact ordered.within

variable {eventType : String} {alert : Bool}

/-- The events of an effort after one was appended. -/
theorem eventsOf_appendEvent (other : String) :
    (store.appendEvent effortId eventType alert).eventsOf other = store.eventsOf other ++
      if effortId = other then [⟨store.events.length + 1, effortId, eventType, alert⟩] else [] := by
  by_cases same : effortId = other <;> simp [eventsOf, appendEvent, same]

/-- An appended event keeps the order. -/
theorem Ordered.appendEvent (ordered : store.Ordered) :
    (store.appendEvent effortId eventType alert).Ordered where
  distinct := ordered.distinct
  ordered := by
    apply List.pairwise_append.mpr
    refine ⟨ordered.ordered, List.pairwise_singleton _ _, fun event mem last added => ?_⟩
    have below := ordered.within event mem
    rw [List.mem_singleton.mp added]
    show event.sequence < store.events.length + 1
    omega
  within event mem := by
    have size : (store.appendEvent effortId eventType alert).events.length =
        store.events.length + 1 := by
      simp [Outbox.appendEvent]
    rw [size]
    rcases List.mem_append.mp mem with old | added
    · have below := ordered.within event old
      omega
    · rw [List.mem_singleton.mp added]

/-- An appended event, with any change of the efforts that keeps the items and the other rows. -/
theorem Extends.appendEvent (events : later.events = store.events)
    (items : ∀ other row, store.efforts.find? other = some row →
      ∃ next, later.efforts.find? other = some next ∧ next.itemId = row.itemId)
    (others : ∀ other row, other ≠ effortId → store.efforts.find? other = some row →
      later.efforts.find? other = some row) :
    store.Extends (later.appendEvent effortId eventType alert) where
  events other := by
    rw [eventsOf_appendEvent, show later.eventsOf other = store.eventsOf other by
      rw [eventsOf, eventsOf, events]]
    exact List.prefix_append _ _
  items := items
  quiet other row same found := by
    apply others other row ?_ found
    rintro rfl
    rw [eventsOf_appendEvent, show later.eventsOf other = store.eventsOf other by
      rw [eventsOf, eventsOf, events]] at same
    simp at same

/-- A bound reservation leaves events and efforts. -/
theorem bindReservation_same (store : Outbox) (effortId : String)
    (reserved : Option StoredRepositoryArtifact) :
    (store.bindReservation effortId reserved).events = store.events ∧
      (store.bindReservation effortId reserved).efforts = store.efforts := by
  cases reserved <;> exact ⟨rfl, rfl⟩

/-- A store extends itself. -/
theorem Extends.refl (store : Outbox) : store.Extends store := .of_same rfl rfl

end Outbox

/-- The creation of an effort keeps the outbox in order and extends it. -/
theorem Projector.create_extends (effort : IntegrationEffort)
    (reserved : Option StoredRepositoryArtifact) (eventType : String) (alert : Bool)
    (ordered : store.Ordered) :
    (Projector.create store effort reserved eventType alert).Ordered ∧
      store.Extends (Projector.create store effort reserved eventType alert) := by
  unfold Projector.create
  split
  · exact ⟨ordered, .refl store⟩
  · rename_i free
    split
    · exact ⟨ordered, .refl store⟩
    · rename_i efforts inserted
      have unowned : ∀ row ∈ store.efforts, row.itemId ≠ effort.itemId := by
        intro row mem same
        apply free
        rw [Outbox.effortForItem, List.find?_isSome]
        exact ⟨row, mem, by simpa using same⟩
      have created : Outbox.Ordered { store with efforts } := by
        refine ⟨fun first mem second mem' same => ?_, ordered.ordered, ordered.within⟩
        rcases (Table.mem_of_insert? inserted).mp mem with old | rfl <;>
          rcases (Table.mem_of_insert? inserted).mp mem' with old' | rfl
        · exact ordered.distinct first old second old' same
        · exact absurd same (unowned first old)
        · exact absurd same.symm (unowned second old')
        · rfl
      have kept : ∀ other row, store.efforts.find? other = some row →
          efforts.find? other = some row := by
        intro other row found
        rcases Table.find?_eq_some.mp found with ⟨mem, named⟩
        exact Table.find?_eq_some.mpr ⟨(Table.mem_of_insert? inserted).mpr (.inl mem), named⟩
      have bound := ({ store with efforts } : Outbox).bindReservation_same effort.id reserved
      refine ⟨(created.of_same bound.1 bound.2).appendEvent, .appendEvent bound.1 ?_ ?_⟩
      · intro other row found
        rw [bound.2]
        exact ⟨row, kept other row found, rfl⟩
      · intro other row _ found
        rw [bound.2]
        exact kept other row found

/-- An operation on an effort keeps the outbox in order and extends it. -/
theorem Projector.operate_extends (effort : IntegrationEffort) (eventType : String) (alert : Bool)
    (ordered : store.Ordered) :
    (Projector.operate store effort eventType alert).Ordered ∧
      store.Extends (Projector.operate store effort eventType alert) := by
  unfold Projector.operate
  split
  · exact ⟨ordered, .refl store⟩
  · rename_i old found
    have stored : old ∈ store.efforts := (Table.find?_eq_some.mp found).1
    have rows : ∀ row ∈ store.efforts.update (fun row => row.id == effort.id)
        (fun row => { effort with id := row.id, itemId := old.itemId }) fun _ => rfl,
        row = { effort with id := old.id, itemId := old.itemId } ∨
          row ∈ store.efforts ∧ row.id ≠ effort.id :=
      fun row mem => Table.mem_update_key found mem
    constructor
    · apply Outbox.Ordered.appendEvent
      refine ⟨fun first mem second mem' same => ?_, ordered.ordered, ordered.within⟩
      rcases rows first mem with rfl | ⟨mem, apart⟩ <;>
        rcases rows second mem' with rfl | ⟨mem', apart'⟩
      · rfl
      · have one := ordered.distinct old stored second mem' same
        exact absurd (one ▸ (Table.find?_eq_some.mp found).2) apart'
      · have one := ordered.distinct old stored first mem same.symm
        exact absurd (one ▸ (Table.find?_eq_some.mp found).2) apart
      · exact ordered.distinct first mem second mem' same
    · refine .appendEvent rfl (fun other row stored => ?_) fun other row apart stored => ?_
      · by_cases same : other = effort.id
        · subst same
          obtain rfl := Option.some_inj.mp (stored.symm.trans found)
          refine ⟨{ effort with id := row.id, itemId := row.itemId }, ?_, rfl⟩
          exact Table.find?_update_key
            (fun other => { effort with id := other.id, itemId := row.itemId }) (fun _ => rfl) found
        · refine ⟨row, ?_, rfl⟩
          rw [Table.find?_update, stored, Option.map_some, Table.rewrite_of_key_ne]
          rw [(Table.find?_eq_some.mp stored).2]
          exact same
      · rw [Table.find?_update, stored, Option.map_some, Table.rewrite_of_key_ne]
        rw [(Table.find?_eq_some.mp stored).2]
        exact apart

/-! ## Calls in progress -/

namespace Outbox

/-- Recording a failed projection keeps the outbox in order and extends it. -/
theorem recordProjectionDebt_extends (ordered : store.Ordered) :
    (store.recordProjectionDebt effortId).Ordered ∧
      store.Extends (store.recordProjectionDebt effortId) := by
  constructor
  · apply Ordered.appendEvent
    exact ordered.of_same rfl rfl
  · exact .appendEvent rfl (fun other row found => ⟨row, found, rfl⟩) fun other row _ found => found

/-- Recording a projection changes neither events nor efforts. -/
theorem recordRepositoryProjection_same {receipt : StoredRepositoryArtifact}
    (recorded : store.recordRepositoryProjection receipt = some later) :
    later.events = store.events ∧ later.efforts = store.efforts := by
  unfold recordRepositoryProjection at recorded
  split at recorded
  · cases recorded
    exact ⟨rfl, rfl⟩
  · simp only [Option.ite_none_right_eq_some, Option.some.injEq] at recorded
    rw [← recorded.2]
    exact ⟨rfl, rfl⟩

end Outbox

variable {call : ProjectionCall}

/-- The end of a call keeps the outbox in order and extends it. -/
theorem ProjectionCall.finish_extends (ordered : store.Ordered) :
    (call.finish store).1.Ordered ∧ store.Extends (call.finish store).1 := by
  have unchanged : store.Ordered ∧ store.Extends store := ⟨ordered, .refl store⟩
  unfold finish
  split
  · split
    · exact Outbox.recordProjectionDebt_extends ordered
    · exact unchanged
    · split
      · exact unchanged
      · split
        · exact unchanged
        · rename_i recorded
          have same := Outbox.recordRepositoryProjection_same recorded
          exact ⟨ordered.of_same same.1 same.2, .of_same same.1 same.2⟩
  · exact unchanged

/-- The artifact and the events that a call has read, once it has read both. -/
def ProjectionPhase.batch? :
    ProjectionPhase → Option (Option StoredRepositoryArtifact × List OutboxEvent)
  | .gathered stored events | .projected stored events _ => some (stored, events)
  | .fetched | .loaded _ => none

/-- What a call in progress knows about the outbox. -/
structure ProjectionCall.Consistent (call : ProjectionCall) (store : Outbox) : Prop where
  grown : call.known <+: store.eventsOf call.effort.id
  stored : ∃ row, store.efforts.find? call.effort.id = some row ∧ row.itemId = call.effort.itemId
  current : call.known = store.eventsOf call.effort.id →
    store.efforts.find? call.effort.id = some call.effort
  gathered : ∀ stored events, call.phase.batch? = some (stored, events) → ∃ seen,
    call.known <+: seen ∧ seen <+: store.eventsOf call.effort.id ∧
      events = Log.batch OutboxEvent.sequence seen (cursorOf stored) Outbox.projectionLimit

/-- A call stays consistent while the outbox grows. -/
theorem ProjectionCall.Consistent.extends (consistent : call.Consistent store)
    (grows : store.Extends later) : call.Consistent later where
  grown := consistent.grown.trans (grows.events _)
  stored := by
    rcases consistent.stored with ⟨row, found, same⟩
    rcases grows.items _ row found with ⟨next, found, kept⟩
    exact ⟨next, found, kept.trans same⟩
  current whole := by
    -- Nothing was appended, so the log was the same in between.
    have between : call.known = store.eventsOf call.effort.id :=
      consistent.grown.eq_of_length_le (by rw [whole]; exact (grows.events _).length_le)
    exact grows.quiet _ _ (between.symm.trans whole) (consistent.current between)
  gathered stored events phase := by
    rcases consistent.gathered stored events phase with ⟨seen, known, below, batch⟩
    exact ⟨seen, known, below.trans (grows.events _), batch⟩

/-- What every reachable projector satisfies. -/
structure Projector.Consistent (world : Projector) : Prop where
  store : world.store.Ordered
  calls : ∀ number call, world.calls number = some call → call.Consistent world.store

/-- A step of the outbox alone. -/
theorem Projector.Consistent.of_extends {world : Projector} (consistent : world.Consistent)
    (ordered : later.Ordered) (grows : world.store.Extends later) :
    Projector.Consistent { world with store := later } where
  store := ordered
  calls number call found := (consistent.calls number call found).extends grows

/-- A step of one call. -/
theorem Projector.Consistent.setCall {world : Projector} (consistent : world.Consistent)
    {number : Nat} {next : Option ProjectionCall}
    (moved : ∀ call, next = some call → call.Consistent world.store) :
    (world.setCall number next).Consistent where
  store := consistent.store
  calls other call found := by
    simp only [Projector.setCall] at found
    split at found
    · exact moved call found
    · exact consistent.calls other call found

/-- The call that has just read its effort. -/
theorem consistent_fetched (found : store.effortForItem itemId = some effort) :
    ProjectionCall.Consistent ⟨effort, store.eventsOf effort.id, .fetched⟩ store where
  grown := List.prefix_rfl
  stored := ⟨effort, Table.find?_eq_some.mpr ⟨List.mem_of_find?_eq_some found, rfl⟩, rfl⟩
  current _ := Table.find?_eq_some.mpr ⟨List.mem_of_find?_eq_some found, rfl⟩
  gathered := by rintro _ _ ⟨⟩

/-- Every step keeps the projector consistent. -/
theorem Projector.Consistent.step {world : Projector} (consistent : world.Consistent)
    (action : ProjectorAction) : (world.step action).Consistent := by
  cases action with
  | create effort reserved eventType alert =>
    have extended := Projector.create_extends effort reserved eventType alert consistent.store
    exact consistent.of_extends extended.1 extended.2
  | operate effort eventType alert =>
    have extended := Projector.operate_extends effort eventType alert consistent.store
    exact consistent.of_extends extended.1 extended.2
  | tick seconds =>
    exact consistent.of_extends (consistent.store.of_same rfl rfl) (.of_same rfl rfl)
  | fetch number itemId =>
    simp only [Projector.step]
    split
    · rename_i idle found
      refine consistent.setCall ?_
      rintro call ⟨⟩
      exact consistent_fetched found
    · exact consistent
  | load number =>
    simp only [Projector.step]
    split
    · rename_i found
      have before := consistent.calls _ _ found
      refine consistent.setCall ?_
      rintro call ⟨⟩
      exact ⟨before.grown, before.stored, before.current, by rintro _ _ ⟨⟩⟩
    · exact consistent
  | gather number =>
    simp only [Projector.step]
    split
    · rename_i effort known stored found
      have before := consistent.calls _ _ found
      refine consistent.setCall ?_
      rintro call ⟨⟩
      refine ⟨before.grown, before.stored, before.current, fun other events phase => ?_⟩
      rcases Prod.mk.inj (Option.some_inj.mp phase) with ⟨rfl, rfl⟩
      exact ⟨world.store.eventsOf effort.id, before.grown, List.prefix_rfl, rfl⟩
    · exact consistent
  | project number answers =>
    simp only [Projector.step]
    split
    · rename_i effort known stored events found
      have before := consistent.calls _ _ found
      refine consistent.setCall ?_
      rintro call ⟨⟩
      refine ⟨before.grown, before.stored, before.current, fun other read phase => ?_⟩
      rcases Prod.mk.inj (Option.some_inj.mp phase) with ⟨rfl, rfl⟩
      exact before.gathered stored events rfl
    · exact consistent
  | finish number =>
    simp only [Projector.step]
    split
    · rename_i call found
      split
      · have extended := call.finish_extends consistent.store
        refine (consistent.of_extends extended.1 extended.2).setCall ?_
        rintro next ⟨⟩
      · exact consistent
    · exact consistent
  | crash number =>
    refine consistent.setCall ?_
    rintro next ⟨⟩

/-- Every reachable projector is consistent. -/
theorem consistent_of_reachable {world : Projector} (reachable : projector.Reachable world) :
    world.Consistent := by
  refine reachable.invariant ?_ fun state action consistent => consistent.step action
  rintro state ⟨efforts, events, -, -, calls⟩
  refine ⟨⟨?_, ?_, ?_⟩, ?_⟩
  · intro effort mem
    rw [efforts] at mem
    exact absurd mem (Table.not_mem_empty effort)
  · rw [events]
    exact List.Pairwise.nil
  · intro event mem
    rw [events] at mem
    cases mem
  · intro number call found
    rw [calls] at found
    cases found

/-! ## What a returning call leaves -/

variable {provider : IssueProvider} {issue : IssueRepositorySnapshot}

/-- The list selects an effort with an issue repository, now or later, exactly when a debt is to be
retried, or without a debt the effort or an unread event asks for a projection. -/
theorem Outbox.listed_iff (bound : effort.stateRepository.issue? = some (provider, issue)) :
    (∃ now, store.isListed effort now = true) ↔
      (∃ debt, store.debts.find? effort.id = some debt ∧ debt.attemptCount < 10) ∨
      store.debts.find? effort.id = none ∧
        match store.artifacts.find? effort.id with
        | none => issue.visibility = .full ∨ effort.state.blocker ≠ none ∨
          effort.state.name = .reviewRequired
        | some artifact =>
          (∃ event ∈ Log.after OutboxEvent.sequence (store.eventsOf effort.id)
            artifact.lastEventSequence, wakes issue.visibility effort.state event = true) ∨
          effort.state.isTerminal = true ∧ artifact.state ≠ .closed := by
  simp only [isListed, bound]
  cases owed : store.debts.find? effort.id with
  | some debt =>
    simp only [Bool.and_eq_true, decide_eq_true_eq, Option.some.injEq, exists_eq_left', reduceCtorEq,
      false_and, or_false]
    constructor
    · rintro ⟨-, few, -⟩
      exact few
    · intro few
      exact ⟨debt.nextAttemptAt, few, Nat.le_refl _⟩
  | none =>
    cases stored : store.artifacts.find? effort.id with
    | none =>
      simp [Option.isSome_iff_ne_none, or_assoc]
    | some artifact =>
      simp [Log.mem_after, and_assoc]

/-- An item with an issue repository is settled when nothing is owed for its effort. -/
theorem Outbox.settled_of_nothingOwed (ordered : store.Ordered) (mem : effort ∈ store.efforts)
    (bound : effort.stateRepository.issue? = some (provider, issue))
    (nothing : store.NothingOwed effort issue.visibility) : store.Settled effort.itemId := by
  have only : ∀ other ∈ store.efforts, other.itemId = effort.itemId → other = effort :=
    fun other stored same => ordered.distinct other stored effort mem same
  constructor
  · intro limit now items returned listed
    obtain ⟨other, stored, same, listed⟩ := lists_of_mem_projectionItems returned listed
    rw [only other stored same, listed_iff bound] at listed
    rcases listed with ⟨debt, found, few⟩ | ⟨clear, asks⟩
    · have exhausted := nothing.debt debt found
      omega
    · cases artifact : store.artifacts.find? effort.id with
      | none =>
        rw [artifact] at asks
        rcases nothing.unopened clear artifact with ⟨minimal, unblocked, unreviewed⟩
        rcases asks with full | blocked | review
        · exact minimal full
        · exact blocked unblocked
        · exact unreviewed review
      | some row =>
        rw [artifact] at asks
        rcases asks with ⟨event, unread, woken⟩ | ⟨terminal, opened⟩
        · rw [nothing.unread clear row artifact event unread] at woken
          cases woken
        · exact opened (nothing.closed terminal row artifact)
  · intro other stored same
    rw [only other stored same]
    exact nothing.closed

/-- A recorded projection leaves the receipt as the artifact, without debt. -/
theorem Outbox.recorded_rows {receipt : StoredRepositoryArtifact}
    (recorded : store.recordRepositoryProjection receipt = some later) :
    later.debts.find? receipt.effortId = none ∧
      ∃ revision, later.artifacts.find? receipt.effortId =
        some { receipt with projectionRevision := revision } := by
  have cleared : (store.debts.delete fun debt => debt.effortId == receipt.effortId).find?
      receipt.effortId = none := by
    apply Table.find?_eq_none.mpr
    intro debt mem
    simpa using (Table.mem_delete.mp mem).2
  unfold recordRepositoryProjection at recorded
  split at recorded
  · cases recorded
    exact ⟨cleared, 1, by rw [Table.find?_put, if_pos rfl]⟩
  · rename_i old found
    simp only [Option.ite_none_right_eq_some, Option.some.injEq] at recorded
    rw [← recorded.2]
    exact ⟨cleared, old.projectionRevision + 1, by rw [Table.find?_put, if_pos rfl]⟩

/-- A call for an item with an issue repository returns `Ok` when it ends, and no event was appended
since it read its effort. -/
structure Projector.Returns (world : Projector) (number : Nat) (call : ProjectionCall) : Prop where
  running : world.calls number = some call
  ok : (call.finish world.store).2 = true
  quiet : world.store.eventsOf call.effort.id = call.known
  bound : call.effort.stateRepository.issue?.isSome = true

/-! ## Runs of the projector -/

/-- In a run, every call that returns with no event appended since it read its effort settles its
item. -/
def Converges (start : Projector) (actions : List ProjectorAction) : Prop :=
  ∀ earlier number rest call, actions = earlier ++ .finish number :: rest →
    (projector.run start earlier).Returns number call →
      (projector.run start (earlier ++ [.finish number])).store.Settled call.effort.itemId

/-- The store after a call that returns is what the call leaves. -/
theorem Projector.Returns.store_run {start : Projector} {earlier : List ProjectorAction}
    {number : Nat} (returns : (projector.run start earlier).Returns number call) :
    (projector.run start (earlier ++ [.finish number])).store =
      (call.finish (projector.run start earlier).store).1 := by
  rw [Machine.run_append]
  show (Projector.step (projector.run start earlier) (.finish number)).store = _
  simp only [Projector.step, returns.running]
  cases phase : call.phase with
  | projected => rfl
  | _ =>
    have finished := returns.ok
    rw [ProjectionCall.finish, phase] at finished
    cases finished

end Iq
