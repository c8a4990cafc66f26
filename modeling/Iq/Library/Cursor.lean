import Mathlib.Tactic.Common

/-!
# Reading a log by cursor

A log whose entries carry increasing sequence numbers, read in batches after a cursor. A reader
that advances its cursor to the last entry of each batch misses nothing: what is left after the
new cursor is what was left after the old one, without the batch.
-/

namespace Iq.Library

universe u

namespace Log

variable {α : Type u} (sequence : α → Nat)

/-- The entries stand in the order of their sequence numbers. -/
def Ordered (log : List α) : Prop := log.Pairwise fun first second => sequence first < sequence second

/-- The entries after a cursor. -/
def after (log : List α) (cursor : Nat) : List α := log.filter fun entry => cursor < sequence entry

/-- The first entries after a cursor. -/
def batch (log : List α) (cursor limit : Nat) : List α := (after sequence log cursor).take limit

/-- The cursor after a batch. -/
def advance (cursor : Nat) (entries : List α) : Nat :=
  (entries.getLast?.map sequence).getD cursor

variable {sequence} {log : List α} {cursor limit : Nat} {entry : α}

/-- The entries after a cursor. -/
theorem mem_after : entry ∈ after sequence log cursor ↔ entry ∈ log ∧ cursor < sequence entry := by
  simp [after]

/-- Entries in order, read after a later cursor. -/
theorem after_after {later : Nat} (le : cursor ≤ later) :
    after sequence (after sequence log cursor) later = after sequence log later := by
  unfold after
  rw [List.filter_filter]
  apply List.filter_congr
  intro entry _
  simp only [← Bool.decide_and, decide_eq_decide]
  omega

/-- Nothing is after a cursor that has passed all. -/
theorem after_eq_nil (all : ∀ entry ∈ log, sequence entry ≤ cursor) :
    after sequence log cursor = [] := by
  apply List.filter_eq_nil_iff.mpr
  intro entry mem
  have le := all entry mem
  simp only [decide_eq_true_eq]
  omega

/-- All is after a cursor that has passed nothing. -/
theorem after_eq_self (all : ∀ entry ∈ log, cursor < sequence entry) :
    after sequence log cursor = log := by
  apply List.filter_eq_self.mpr
  intro entry mem
  simpa using all entry mem

/-- After a batch, what is left is what the batch left out. -/
theorem after_advance (ordered : Ordered sequence log) :
    after sequence log (advance sequence cursor (batch sequence log cursor limit)) =
      (after sequence log cursor).drop limit := by
  have pending_ordered : Ordered sequence (after sequence log cursor) :=
    List.Pairwise.filter _ ordered
  rcases List.eq_nil_or_concat (batch sequence log cursor limit) with empty | ⟨front, last, split⟩
  · have whole : (after sequence log cursor).drop limit = after sequence log cursor := by
      have parts := List.take_append_drop limit (after sequence log cursor)
      rw [show (after sequence log cursor).take limit = [] from empty] at parts
      exact parts
    rw [empty, whole]
    rfl
  · rw [List.concat_eq_append] at split
    have parts : (front ++ [last]) ++ (after sequence log cursor).drop limit =
        after sequence log cursor := by
      rw [← split]
      exact List.take_append_drop limit _
    have advanced : advance sequence cursor (batch sequence log cursor limit) = sequence last := by
      rw [split]
      simp [advance]
    have last_after : cursor < sequence last := by
      have mem : last ∈ after sequence log cursor := by
        rw [← parts]
        simp
      exact (mem_after.mp mem).2
    rw [advanced, ← after_after (Nat.le_of_lt last_after)]
    rw [Ordered, ← parts, List.pairwise_append, List.pairwise_append] at pending_ordered
    rcases pending_ordered with ⟨⟨-, -, front_last⟩, -, batch_rest⟩
    have batch_gone : after sequence (front ++ [last]) (sequence last) = [] := by
      apply after_eq_nil
      intro entry mem
      rcases List.mem_append.mp mem with mem | mem
      · exact Nat.le_of_lt (front_last entry mem last (List.mem_singleton_self _))
      · exact Nat.le_of_eq (congrArg sequence (List.mem_singleton.mp mem))
    have rest_kept : after sequence ((after sequence log cursor).drop limit) (sequence last) =
        (after sequence log cursor).drop limit := by
      apply after_eq_self
      intro entry mem
      exact batch_rest last (List.mem_append_right _ (List.mem_singleton_self _)) entry mem
    calc after sequence (after sequence log cursor) (sequence last)
        = after sequence ((front ++ [last]) ++ (after sequence log cursor).drop limit)
            (sequence last) := by rw [parts]
      _ = after sequence (front ++ [last]) (sequence last) ++
            after sequence ((after sequence log cursor).drop limit) (sequence last) :=
          List.filter_append ..
      _ = (after sequence log cursor).drop limit := by
          rw [batch_gone, rest_kept, List.nil_append]

/-- A cursor that is advanced over bounded entries stays bounded. -/
theorem advance_le {bound : Nat} {entries : List α} (below : cursor ≤ bound)
    (within : ∀ entry ∈ entries, sequence entry ≤ bound) :
    advance sequence cursor entries ≤ bound := by
  unfold advance
  cases last : entries.getLast? with
  | none => exact below
  | some entry => exact within entry (List.mem_of_getLast? last)

/-- After all entries, nothing is left. -/
theorem after_advance_all (ordered : Ordered sequence log) :
    after sequence log (advance sequence cursor (after sequence log cursor)) = [] := by
  have left := @after_advance _ sequence log cursor (after sequence log cursor).length ordered
  rwa [batch, List.take_length, List.drop_length] at left

/-- An entry after the cursor and behind the entries of a batch is after the new cursor. -/
theorem advance_lt {more : List α} (ordered : Ordered sequence (log ++ more)) (mem : entry ∈ more)
    (later : cursor < sequence entry) :
    advance sequence cursor (after sequence log cursor) < sequence entry := by
  rcases List.eq_nil_or_concat (after sequence log cursor) with empty | ⟨front, last, split⟩
  · rw [empty]
    exact later
  · rw [List.concat_eq_append] at split
    have read : last ∈ log := (mem_after.mp (by rw [split]; simp)).1
    rw [split]
    simpa [advance] using (List.pairwise_append.mp ordered).2.2 last read entry mem

end Log

end Iq.Library
