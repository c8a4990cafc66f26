import Iq.Projection.Convergence

/-!
# The rows of an effort

The rows of the outbox that are about one effort, whether a projection of them is sent, and what
each step of the outbox does to them: it changes the rows of one effort and leaves the others.
-/

namespace Iq

open Library

/-! ## The rows of one effort -/

/-- The rows of the outbox that are about one effort. -/
structure EffortRows where
  effort : Option IntegrationEffort
  events : List OutboxEvent
  artifact : Option StoredRepositoryArtifact
  debt : Option ProjectionDebt

/-- The rows of an effort. -/
def Outbox.rowsOf (store : Outbox) (effortId : String) : EffortRows where
  effort := store.efforts.find? effortId
  events := store.eventsOf effortId
  artifact := store.artifacts.find? effortId
  debt := store.debts.find? effortId

namespace EffortRows

/-- The events after the cursor of the artifact. -/
def unread (rows : EffortRows) : List OutboxEvent :=
  Log.after OutboxEvent.sequence rows.events (cursorOf rows.artifact)

/-- An unread event is one that a projection with minimal visibility reports. -/
def Reports (rows : EffortRows) : Prop :=
  ∃ event ∈ rows.unread, isRelevant .minimal event = true

/-- Whether a projection of an effort with these rows is sent. -/
def sends (rows : EffortRows) (visibility : IssueVisibility) (state : IntegrationEffortState) :
    Bool :=
  sendsProjection visibility state rows.unread
    (rows.artifact.map StoredRepositoryArtifact.artifactId)

end EffortRows

variable {store later : Outbox} {effort : IntegrationEffort} {effortId : String}
  {rows : EffortRows} {state : IntegrationEffortState}

/-- With minimal visibility a projection is sent for an effort that has an issue or waits for
somebody, if an unread event is to be reported. -/
theorem EffortRows.sends_minimal :
    rows.sends .minimal state = true ↔
      (state.blocker ≠ none ∨ state.isProviderInputState = true ∨ rows.artifact ≠ none) ∧
        rows.Reports := by
  have reports : ((rows.unread.filter (isRelevant .minimal)).isEmpty = false) ↔ rows.Reports := by
    rw [← Bool.not_eq_true, List.isEmpty_iff, List.filter_eq_nil_iff]
    simp [EffortRows.Reports]
  rw [← reports, EffortRows.sends, sendsProjection]
  cases state.blocker <;> cases state.isProviderInputState <;> cases rows.artifact <;> simp

/-- With full visibility a projection is always sent. -/
theorem EffortRows.sends_full : rows.sends .full state = true := by
  simp [EffortRows.sends, sendsProjection]

/-! ## What a step does to the rows -/

variable {eventType : String} {alert : Bool}

/-- The event that is appended next. -/
def Outbox.nextEvent (store : Outbox) (effortId eventType : String) (alert : Bool) : OutboxEvent :=
  ⟨store.events.length + 1, effortId, eventType, alert⟩

/-- An effort of an item without one is created. -/
theorem create_eq {reserved : Option StoredRepositoryArtifact}
    (free : store.effortForItem effort.itemId = none)
    (absent : store.efforts.find? effort.id = none) :
    ∃ efforts, store.efforts.insert? effort = some efforts ∧
      Projector.create store effort reserved eventType alert =
        ({ store with efforts }.bindReservation effort.id reserved).appendEvent effort.id eventType
          alert := by
  have inserted : (store.efforts.insert? effort).isSome = true :=
    Table.insert?_isSome.mpr (Table.find?_eq_none.mp absent)
  obtain ⟨efforts, inserted⟩ := Option.isSome_iff_exists.mp inserted
  refine ⟨efforts, inserted, ?_⟩
  rw [Projector.create, free, inserted]
  rfl

/-- The creation of an effort gives it its rows. -/
theorem rowsOf_create {reserved : Option StoredRepositoryArtifact}
    (free : store.effortForItem effort.itemId = none)
    (absent : store.efforts.find? effort.id = none) (other : String) :
    (Projector.create store effort reserved eventType alert).rowsOf other =
      if other = effort.id then
        { effort := some effort
          events := store.eventsOf effort.id ++ [store.nextEvent effort.id eventType alert]
          artifact := (reserved.map (·.bindTo effort.id)).or (store.artifacts.find? effort.id)
          debt := store.debts.find? effort.id }
      else store.rowsOf other := by
  obtain ⟨efforts, inserted, created⟩ :=
    @create_eq store effort eventType alert reserved free absent
  have found : efforts.find? other = if effort.id = other then some effort else
      store.efforts.find? other := Table.find?_of_insert? other inserted
  rw [created]
  unfold Outbox.rowsOf
  rw [Outbox.eventsOf_appendEvent]
  by_cases own : other = effort.id
  · subst own
    rw [if_pos rfl, if_pos rfl] at *
    cases reserved with
    | none =>
      simp [Outbox.bindReservation, Outbox.appendEvent, Outbox.eventsOf, Outbox.nextEvent, found]
    | some row =>
      simp [Outbox.bindReservation, Outbox.appendEvent, Outbox.eventsOf, Outbox.nextEvent, found,
        Table.find?_put, StoredRepositoryArtifact.bindTo]
  · rw [if_neg own]
    rw [if_neg (Ne.symm own)] at *
    cases reserved with
    | none => simp [Outbox.bindReservation, Outbox.appendEvent, Outbox.eventsOf, found]
    | some row =>
      simp [Outbox.bindReservation, Outbox.appendEvent, Outbox.eventsOf, found,
        Table.find?_put, StoredRepositoryArtifact.bindTo, Ne.symm own]

/-- An operation on an effort changes its row and appends an event. -/
theorem rowsOf_operate {old : IntegrationEffort} (found : store.efforts.find? effort.id = some old)
    (other : String) :
    (Projector.operate store effort eventType alert).rowsOf other =
      if other = effort.id then
        { store.rowsOf effort.id with
          effort := some { effort with id := old.id, itemId := old.itemId }
          events := store.eventsOf effort.id ++ [store.nextEvent effort.id eventType alert] }
      else store.rowsOf other := by
  have operated : Projector.operate store effort eventType alert =
      Outbox.appendEvent { store with
        efforts := store.efforts.update (fun row => row.id == effort.id)
          (fun row => { effort with id := row.id, itemId := old.itemId }) fun _ => rfl }
        effort.id eventType alert := by
    rw [Projector.operate, found]
  rw [operated]
  unfold Outbox.rowsOf
  rw [Outbox.eventsOf_appendEvent]
  by_cases own : other = effort.id
  · subst own
    rw [if_pos rfl, if_pos rfl]
    have updated := Table.find?_update_key
      (fun row => { effort with id := row.id, itemId := old.itemId }) (fun _ => rfl) found
    simp [Outbox.appendEvent, Outbox.eventsOf, Outbox.nextEvent, updated]
  · rw [if_neg own, if_neg (Ne.symm own)]
    have untouched : (store.efforts.update (fun row => row.id == effort.id)
        (fun row => { effort with id := row.id, itemId := old.itemId }) fun _ => rfl).find? other =
        store.efforts.find? other := by
      rw [Table.find?_update]
      cases stored : store.efforts.find? other with
      | none => rfl
      | some row =>
        rw [Option.map_some, Table.rewrite_of_key_ne]
        rw [(Table.find?_eq_some.mp stored).2]
        exact own
    simp [Outbox.appendEvent, Outbox.eventsOf, untouched]

/-- A recorded failure changes the debt and appends an event. -/
theorem rowsOf_recordProjectionDebt (other : String) :
    (store.recordProjectionDebt effortId).rowsOf other =
      if other = effortId then
        { store.rowsOf effortId with
          events := store.eventsOf effortId ++ [store.nextEvent effortId "projection_debt" false]
          debt := (store.recordProjectionDebt effortId).debts.find? effortId }
      else store.rowsOf other := by
  unfold Outbox.recordProjectionDebt
  dsimp only
  unfold Outbox.rowsOf
  rw [Outbox.eventsOf_appendEvent]
  by_cases own : other = effortId
  · subst own
    rw [if_pos rfl, if_pos rfl]
    rfl
  · rw [if_neg own, if_neg (Ne.symm own)]
    simp [Outbox.appendEvent, Outbox.eventsOf, Table.find?_put, Ne.symm own]

/-- A recorded projection leaves the rows of other efforts. -/
theorem Outbox.recorded_others {receipt : StoredRepositoryArtifact} {other : String}
    (recorded : store.recordRepositoryProjection receipt = some later)
    (apart : other ≠ receipt.effortId) :
    later.artifacts.find? other = store.artifacts.find? other ∧
      later.debts.find? other = store.debts.find? other := by
  have debts : (store.debts.delete fun debt => debt.effortId == receipt.effortId).find? other =
      store.debts.find? other := by
    rw [Table.find?_delete]
    cases found : store.debts.find? other with
    | none => rfl
    | some debt =>
      have named : debt.effortId = other := (Table.find?_eq_some.mp found).2
      simp [named, apart]
  unfold recordRepositoryProjection at recorded
  split at recorded
  · cases recorded
    exact ⟨by rw [Table.find?_put, if_neg (Ne.symm apart)], debts⟩
  · simp only [Option.ite_none_right_eq_some, Option.some.injEq] at recorded
    rw [← recorded.2]
    exact ⟨by rw [Table.find?_put, if_neg (Ne.symm apart)], debts⟩

/-- A recorded projection changes the artifact and clears the debt. -/
theorem rowsOf_recorded {receipt : StoredRepositoryArtifact}
    (recorded : store.recordRepositoryProjection receipt = some later) (other : String) :
    later.rowsOf other =
      if other = receipt.effortId then
        { store.rowsOf receipt.effortId with
          artifact := later.artifacts.find? receipt.effortId
          debt := none }
      else store.rowsOf other := by
  have kept := Outbox.recordRepositoryProjection_same recorded
  have logs : later.eventsOf other = store.eventsOf other := by
    rw [Outbox.eventsOf, Outbox.eventsOf, kept.1]
  by_cases own : other = receipt.effortId
  · subst own
    rw [if_pos rfl, Outbox.rowsOf, logs, kept.2, (Outbox.recorded_rows recorded).1]
    rfl
  · obtain ⟨artifact, debt⟩ := Outbox.recorded_others recorded own
    rw [if_neg own, Outbox.rowsOf, logs, kept.2, artifact, debt]
    rfl

end Iq
