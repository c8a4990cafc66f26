import Mathlib.Data.List.Basic
import Mathlib.Data.List.Pairwise
import Mathlib.Tactic.Common

/-!
# Exclusive entries

A list of entries in the order of their arrival, where an arriving entry may clash with older ones.
Of two entries that clash, at least one is closed. An entry that looks for the open entries that it
clashes with before it arrives keeps that, closed entries stay closed, and a search for the open
entries of a clash finds the only one.
-/

namespace Iq.Library

universe u

/-- Which entries clash, the older one first, and which are closed. -/
structure Contest (ρ : Type u) where
  Clash : ρ → ρ → Prop
  Closed : ρ → Prop

namespace Contest

variable {ρ : Type u} {contest : Contest ρ} {rows : List ρ} {row : ρ}

/-- Of two entries that clash, one is closed. -/
def Exclusive (contest : Contest ρ) (rows : List ρ) : Prop :=
  rows.Pairwise fun older newer =>
    contest.Clash older newer → contest.Closed older ∨ contest.Closed newer

/-- A contest without steps is exclusive. -/
theorem Exclusive.nil : contest.Exclusive [] := List.Pairwise.nil

/-- A rewrite that clashes no more than before and opens nothing keeps exclusion. -/
theorem Exclusive.map (exclusive : contest.Exclusive rows) {change : ρ → ρ}
    (clash : ∀ older ∈ rows, ∀ newer ∈ rows,
      contest.Clash (change older) (change newer) → contest.Clash older newer)
    (closed : ∀ row ∈ rows, contest.Closed row → contest.Closed (change row)) :
    contest.Exclusive (rows.map change) := by
  unfold Exclusive
  rw [List.pairwise_map]
  refine List.Pairwise.imp_of_mem ?_ exclusive
  intro older newer mem mem' apart clashes
  cases apart (clash older mem newer mem' clashes) with
  | inl done => exact .inl (closed older mem done)
  | inr done => exact .inr (closed newer mem' done)

/-- An entry arrives when everything that it clashes with is closed. -/
theorem Exclusive.append (exclusive : contest.Exclusive rows)
    (free : ∀ older ∈ rows, contest.Clash older row → contest.Closed older) :
    contest.Exclusive (rows ++ [row]) := by
  unfold Exclusive
  rw [List.pairwise_append]
  refine ⟨exclusive, List.pairwise_singleton _ _, ?_⟩
  intro older mem newer last clashes
  rw [List.mem_singleton.mp last] at clashes
  exact .inl (free older mem clashes)

/-- A search that accepts an open entry, and of the others only open ones that it clashes with,
finds it. -/
theorem Exclusive.find? (exclusive : contest.Exclusive rows) {wanted : ρ → Bool}
    (mem : row ∈ rows) (itself : wanted row = true) (opened : ¬contest.Closed row)
    (wants : ∀ other ∈ rows, wanted other = true →
      contest.Clash other row ∧ ¬contest.Closed other) :
    rows.find? wanted = some row := by
  obtain ⟨found, search⟩ := Option.isSome_iff_exists.mp (List.find?_isSome.mpr ⟨row, mem, itself⟩)
  obtain ⟨accepted, before, after, split, misses⟩ := List.find?_eq_some_iff_append.mp search
  have stored : found ∈ rows := List.mem_of_find?_eq_some search
  obtain ⟨clashes, foundOpen⟩ := wants found stored accepted
  rw [split, List.mem_append, List.mem_cons] at mem
  rcases mem with early | rfl | late
  · have missed := misses row early
    rw [itself] at missed
    cases missed
  · exact search
  · unfold Exclusive at exclusive
    rw [split, List.pairwise_append, List.pairwise_cons] at exclusive
    cases exclusive.2.1.1 row late clashes with
    | inl done => exact absurd done foundOpen
    | inr done => exact absurd done opened

/-- A search that accepts nothing leaves only closed entries of a clash. -/
theorem closed_of_find? {wanted : ρ → Bool} (missing : rows.find? wanted = none)
    (wants : ∀ older ∈ rows, contest.Clash older row → ¬contest.Closed older →
      wanted older = true) :
    ∀ older ∈ rows, contest.Clash older row → contest.Closed older := by
  intro older mem clashes
  by_contra opened
  have missed := List.find?_eq_none.mp missing older mem
  exact missed (wants older mem clashes opened)

end Contest

end Iq.Library
