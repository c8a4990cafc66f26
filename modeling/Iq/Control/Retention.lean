import Iq.Control.Watch

/-!
# Retention of durable events

Durable events are appended and, with the items that they are about, purged. A reader whose cursor
is older than the retained events is told so; the test compares its cursor with the oldest retained
sequence number only, while the events of a purged item lie anywhere in the sequence.
-/

namespace Iq

open Library Watch

/-- The rows of `durable_events` that go with an item: `ON DELETE CASCADE` of `item_id` and, through
the efforts of the item, of `effort_id`. -/
def EventRow.goesWith (row : EventRow) (itemId : String) (effortIds : List String) : Bool :=
  row.event.itemId == itemId || effortIds.contains row.event.effortId

/-- `DELETE FROM queue_items` on `durable_events`. The sequence is `AUTOINCREMENT`, so no number is
given out again. -/
def Watch.EventLog.purge (log : EventLog) (itemId : String) (effortIds : List String) :
    EventLog where
  table := log.table.filter fun row => !row.goesWith itemId effortIds
  lastSequence := log.lastSequence

namespace Retention

/-- The log with every row that was ever appended. -/
structure History where
  log : EventLog
  appended : List EventRow
  deriving DecidableEq, Repr

/-- What happens to the log: an event is appended, or `purge_terminal_item` commits for an item and
its efforts. -/
inductive Label where
  | append (event : DurableEvent)
  | purge (itemId : String) (effortIds : List String)
  deriving DecidableEq, Repr

/-- One operation. -/
def History.step (history : History) : Label → History
  | .append event => ⟨history.log.append event,
      history.appended ++ [⟨history.log.lastSequence + 1, event⟩]⟩
  | .purge itemId effortIds => { history with log := history.log.purge itemId effortIds }

/-- The log before any event. -/
def History.fresh : History := ⟨⟨[], 0⟩, []⟩

/-- Histories of one installation. -/
def retention : Machine History Label where
  Initial history := history = .fresh
  step := History.step

/-- The start check of a stream passes, or `events_after` returns rows. -/
def Answers (table : List EventRow) (cursor : Nat) : Prop :=
  isExpired table cursor = false ∨ ∃ limit rows, eventsAfter table cursor limit = .ok rows

/-- A reader that gets an answer has lost no event after its cursor. -/
def NoSilentGap (history : History) (cursor : Nat) : Prop :=
  Answers history.log.table cursor →
    ∀ row ∈ history.appended, cursor < row.sequence → row ∈ history.log.table

/-- The operation is no purge, or the purged item has no event after the cursor, or the cursor is
not zero and the events of other items, of which there are some, begin after the one that follows
it. -/
def Label.Spares (history : History) (cursor : Nat) : Label → Prop
  | .append _ => True
  | .purge itemId effortIds =>
    (∀ row ∈ history.log.table, row.goesWith itemId effortIds = true → row.sequence ≤ cursor) ∨
      (cursor ≠ 0 ∧ (∃ row ∈ history.log.table, row.goesWith itemId effortIds = false) ∧
        ∀ row ∈ history.log.table, row.goesWith itemId effortIds = false →
          cursor + 1 < row.sequence)

/-! ## The expiry test -/

variable {table : List EventRow} {cursor : Nat} {history : History} {label : Label}
  {row : EventRow} {itemId : String} {effortIds : List String}

/-- A cursor is answered when it has not expired. -/
theorem answers_iff : Answers table cursor ↔ isExpired table cursor = false := by
  constructor
  · rintro (retained | ⟨limit, rows, selected⟩)
    · exact retained
    · unfold eventsAfter at selected
      by_cases expired : isExpired table cursor = true
      · rw [expired] at selected
        split at selected <;> cases selected
      · exact Bool.not_eq_true _ ▸ expired
  · exact .inl

/-- Rows in sequence order have expired for a cursor when there are some and all of them lie beyond
the one that follows it. -/
theorem isExpired_iff (ordered : Log.Ordered EventRow.sequence table) :
    isExpired table cursor = true ↔
      cursor ≠ 0 ∧ (∃ row, row ∈ table) ∧ ∀ row ∈ table, cursor + 1 < row.sequence := by
  cases table with
  | nil => simp [isExpired, oldestEventSequence]
  | cons first rest =>
    have later : ∀ row ∈ rest, first.sequence < row.sequence := (List.pairwise_cons.mp ordered).1
    rw [isExpired, oldestEventSequence, List.head?_cons, Option.map_some]
    simp only [Bool.and_eq_true, bne_iff_ne, decide_eq_true_eq]
    refine and_congr_right fun _ => ⟨fun beyond => ⟨⟨first, List.mem_cons_self⟩, ?_⟩, ?_⟩
    · intro row mem
      rcases List.mem_cons.mp mem with rfl | mem
      · exact beyond
      · have above := later row mem
        omega
    · rintro ⟨-, beyond⟩
      exact beyond first List.mem_cons_self

/-! ## One operation -/

/-- The rows after a purge. -/
theorem mem_purge : row ∈ (history.log.purge itemId effortIds).table ↔
    row ∈ history.log.table ∧ row.goesWith itemId effortIds = false := by
  rw [EventLog.purge, List.mem_filter, Bool.not_eq_true']

/-- The rows of the log stand in order and were appended. -/
structure History.Recorded (history : History) : Prop where
  numbered : history.log.Numbered
  appended : ∀ row ∈ history.log.table, row ∈ history.appended

/-- A step keeps the history recorded. -/
theorem recorded_step (recorded : history.Recorded) : (history.step label).Recorded := by
  cases label with
  | append event =>
    have ordered : Log.Ordered EventRow.sequence (history.log.append event).table := by
      refine List.pairwise_append.mpr ⟨recorded.numbered.ordered, List.pairwise_singleton _ _, ?_⟩
      intro earlier mem last is_last
      have below := recorded.numbered.bounded earlier mem
      rw [List.mem_singleton.mp is_last]
      show earlier.sequence < history.log.lastSequence + 1
      omega
    refine ⟨⟨ordered, fun row mem => ?_⟩, fun row mem => ?_⟩
    · show row.sequence ≤ history.log.lastSequence + 1
      rcases List.mem_append.mp mem with old | new
      · have below := recorded.numbered.bounded row old
        omega
      · obtain rfl := List.mem_singleton.mp new
        exact Nat.le_refl _
    · rcases List.mem_append.mp mem with old | new
      · exact List.mem_append_left _ (recorded.appended row old)
      · exact List.mem_append_right _ new
  | purge itemId effortIds =>
    refine ⟨⟨recorded.numbered.ordered.filter _, fun row mem => ?_⟩, fun row mem => ?_⟩
    · exact recorded.numbered.bounded row (mem_purge.mp mem).1
    · exact recorded.appended row (mem_purge.mp mem).1

/-- An operation that spares a cursor leaves it without a silent gap. -/
theorem noSilentGap_step (recorded : history.Recorded) (holds : NoSilentGap history cursor)
    (spares : label.Spares history cursor) : NoSilentGap (history.step label) cursor := by
  intro answers row mem after
  rw [answers_iff] at answers
  cases label with
  | append event =>
    rcases List.mem_append.mp mem with old | new
    · refine List.mem_append_left _ (holds (answers_iff.mpr ?_) row old after)
      cases rows : history.log.table with
      | nil => rfl
      | cons first rest =>
        have grown : (history.step (.append event)).log.table =
            first :: (rest ++ [⟨history.log.lastSequence + 1, event⟩]) := by
          show history.log.table ++ _ = _
          rw [rows, List.cons_append]
        rw [grown] at answers
        exact answers
    · exact List.mem_append_right _ new
  | purge itemId effortIds =>
    have ordered := (@recorded_step _ (.purge itemId effortIds) recorded).numbered.ordered
    have unexpired := mt (isExpired_iff ordered).mpr (Bool.not_eq_true _ ▸ answers)
    rcases spares with unread | ⟨positive, ⟨other, other_mem, kept⟩, beyond⟩
    · by_cases before : isExpired history.log.table cursor = true
      · -- Every row lies beyond the cursor, so the purge removes none and the cursor stays expired.
        obtain ⟨positive, ⟨first, first_mem⟩, beyond⟩ :=
          (isExpired_iff recorded.numbered.ordered).mp before
        have kept : first.goesWith itemId effortIds = false := by
          by_contra goes
          have le := unread first first_mem (Bool.not_eq_false _ ▸ goes)
          have above := beyond first first_mem
          omega
        exact absurd ⟨positive, ⟨first, mem_purge.mpr ⟨first_mem, kept⟩⟩,
          fun row mem => beyond row (mem_purge.mp mem).1⟩ unexpired
      · have retained := holds (answers_iff.mpr (Bool.not_eq_true _ ▸ before)) row mem after
        refine mem_purge.mpr ⟨retained, ?_⟩
        by_contra goes
        have le := unread row retained (Bool.not_eq_false _ ▸ goes)
        omega
    · refine absurd ⟨positive, ⟨other, mem_purge.mpr ⟨other_mem, kept⟩⟩, ?_⟩ unexpired
      intro row mem
      exact beyond row (mem_purge.mp mem).1 (mem_purge.mp mem).2

/-- A purge after which a cursor has no silent gap spares it. -/
theorem spares_of_noSilentGap (recorded : history.Recorded)
    (holds : NoSilentGap (history.step label) cursor) : label.Spares history cursor := by
  cases label with
  | append event => trivial
  | purge itemId effortIds =>
    have ordered := (@recorded_step _ (.purge itemId effortIds) recorded).numbered.ordered
    by_cases expired : isExpired (history.log.purge itemId effortIds).table cursor = true
    · obtain ⟨positive, ⟨other, other_mem⟩, beyond⟩ := (isExpired_iff ordered).mp expired
      have kept := mem_purge.mp other_mem
      exact .inr ⟨positive, ⟨other, kept.1, kept.2⟩,
        fun row mem stays => beyond row (mem_purge.mpr ⟨mem, stays⟩)⟩
    · refine .inl fun row mem goes => ?_
      by_contra after
      have retained := holds (answers_iff.mpr (Bool.not_eq_true _ ▸ expired)) row
        (recorded.appended row mem) (Nat.lt_of_not_le after)
      have stays := (mem_purge.mp retained).2
      rw [goes] at stays
      cases stays

/-! ## Histories -/

/-- A run keeps the history recorded. -/
theorem recorded_run (labels : List Label) : (retention.run .fresh labels).Recorded := by
  refine Machine.run_keeps (fun history label => recorded_step) ⟨⟨.nil, ?_⟩, ?_⟩ labels
  · exact fun row mem => absurd mem List.not_mem_nil
  · exact fun row mem => absurd mem List.not_mem_nil

/-- A cursor has no silent gap after any operation exactly when every purge spares it. -/
theorem noSilentGap_iff_spares (labels : List Label) (cursor : Nat) :
    (∀ before rest, labels = before ++ rest → NoSilentGap (retention.run .fresh before) cursor) ↔
      ∀ before label rest, labels = before ++ label :: rest →
        label.Spares (retention.run .fresh before) cursor := by
  constructor
  · intro holds before label rest split
    have next := holds (before ++ [label]) rest (by rw [split, List.append_assoc]; rfl)
    rw [Machine.run_append] at next
    exact spares_of_noSilentGap (recorded_run before) next
  · intro spares before rest split
    have kept : ∀ history label, history.Recorded ∧ NoSilentGap history cursor →
        label.Spares history cursor →
        (retention.step history label).Recorded ∧
          NoSilentGap (retention.step history label) cursor :=
      fun history label holds spared =>
        ⟨recorded_step holds.1, noSilentGap_step holds.1 holds.2 spared⟩
    have start : History.fresh.Recorded ∧ NoSilentGap .fresh cursor :=
      ⟨recorded_run [], fun _ row mem => absurd mem List.not_mem_nil⟩
    refine (Machine.run_keeps_while kept start before fun earlier label later split_before => ?_).2
    refine spares earlier label (later ++ rest) ?_
    rw [split, split_before, List.append_assoc, List.cons_append]

/-- Purging a cancelled item whose events are the newest leaves no trace of them for a reader of the
event before. -/
theorem noSilentGap_newest_purged :
    ¬∀ labels cursor, NoSilentGap (retention.run .fresh labels) cursor := by
  intro holds
  have gap := holds [.append ⟨"e1", "older", "effort-1", "agent_ready", .fields [], false⟩,
    .append ⟨"e2", "newer", "effort-2", "agent_ready", .fields [], false⟩,
    .append ⟨"e3", "newer", "effort-2", "cancelled", .fields [], true⟩,
    .purge "newer" ["effort-2"]] 1
  have retained := gap (.inl (by decide))
    ⟨3, ⟨"e3", "newer", "effort-2", "cancelled", .fields [], true⟩⟩ (by decide) (by decide)
  exact absurd retained (by decide)

end Retention

end Iq
