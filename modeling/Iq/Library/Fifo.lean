import Mathlib.Data.List.Nodup
import Mathlib.Data.List.Pairwise
import Mathlib.Tactic.Common

/-!
# Lanes served in order

A list of entries in the order of their arrival, divided into lanes. An entry may be claimed when
every older entry of its lane is finished. The order is kept by every step that rewrites entries in
place, claims only the front of a lane and takes no finish back, and by every arrival.
-/

namespace Iq.Library

universe u v w

/-- How entries are served: their identity, their lane, and what it is for an entry to be claimed
and to be finished. -/
structure Fifo (ρ : Type u) (κ : Type v) (γ : Type w) where
  key : ρ → κ
  lane : ρ → γ
  Claimed : ρ → Prop
  Finished : ρ → Prop

namespace Fifo

variable {ρ : Type u} {κ : Type v} {γ : Type w} {fifo : Fifo ρ κ γ} {rows later : List ρ} {row : ρ}

section

variable (fifo)

/-- Behind an unfinished entry nothing of its lane is claimed. -/
def InOrder (rows : List ρ) : Prop :=
  rows.Pairwise fun older newer =>
    fifo.lane older = fifo.lane newer → fifo.Claimed newer → fifo.Finished older

/-- Everything that is older than an entry and in its lane is finished. -/
def FrontOf (k : κ) (rows : List ρ) : Prop :=
  ∀ older row, [older, row].Sublist rows → fifo.key row = k → fifo.lane older = fifo.lane row →
    fifo.Finished older

/-- A later version of an entry, which is not claimed for the first time. -/
structure Follows (row later : ρ) : Prop where
  key : fifo.key later = fifo.key row
  lane : fifo.lane later = fifo.lane row
  claimed : fifo.Claimed later → fifo.Claimed row
  finished : fifo.Finished row → fifo.Finished later

/-- A list whose entries were rewritten in place and not claimed. -/
def Progress (rows later : List ρ) : Prop :=
  ∃ change : ρ → ρ, later = rows.map change ∧ ∀ row ∈ rows, fifo.Follows row (change row)

end

/-- A row follows itself. -/
@[refl] theorem Follows.refl : fifo.Follows row row := ⟨rfl, rfl, id, id⟩

/-- Rows follow on. -/
theorem Follows.trans {first second third : ρ} (before : fifo.Follows first second)
    (after : fifo.Follows second third) : fifo.Follows first third :=
  ⟨after.key.trans before.key, after.lane.trans before.lane,
    fun claimed => before.claimed (after.claimed claimed),
    fun finished => after.finished (before.finished finished)⟩

/-- Rows progress to themselves. -/
@[refl] theorem Progress.refl : fifo.Progress rows rows :=
  ⟨id, (List.map_id rows).symm, fun _ _ => Follows.refl⟩

/-- One more rewrite of the entries. -/
theorem Progress.map (progress : fifo.Progress rows later) {change : ρ → ρ}
    (follows : ∀ row ∈ later, fifo.Follows row (change row)) :
    fifo.Progress rows (later.map change) := by
  obtain ⟨before, rfl, kept⟩ := progress
  refine ⟨change ∘ before, List.map_map, fun row mem => ?_⟩
  have stays : before row ∈ rows.map before := List.mem_map_of_mem mem
  exact (kept row mem).trans (follows _ stays)

/-- A rewrite that claims only fronts keeps the order. -/
theorem InOrder.map (ordered : fifo.InOrder rows) {change : ρ → ρ}
    (lane : ∀ row ∈ rows, fifo.lane (change row) = fifo.lane row)
    (finished : ∀ row ∈ rows, fifo.Finished row → fifo.Finished (change row))
    (claims : ∀ row ∈ rows, fifo.Claimed (change row) →
      fifo.Claimed row ∨ fifo.FrontOf (fifo.key row) rows) :
    fifo.InOrder (rows.map change) := by
  unfold InOrder at ordered ⊢
  rw [List.pairwise_map, List.pairwise_iff_forall_sublist]
  intro older newer placed same claimed
  have mem : older ∈ rows := placed.subset List.mem_cons_self
  have mem' : newer ∈ rows := placed.subset (List.mem_cons_of_mem _ List.mem_cons_self)
  rw [lane older mem, lane newer mem'] at same
  apply finished older mem
  cases claims newer mem' claimed with
  | inl before => exact List.pairwise_iff_forall_sublist.mp ordered placed same before
  | inr front => exact front older newer placed rfl same

/-- An entry arrives unclaimed. -/
theorem InOrder.append (ordered : fifo.InOrder rows) (unclaimed : ¬fifo.Claimed row) :
    fifo.InOrder (rows ++ [row]) := by
  unfold InOrder
  rw [List.pairwise_append]
  refine ⟨ordered, List.pairwise_singleton _ _, ?_⟩
  intro older _ newer mem _ claimed
  rw [List.mem_singleton.mp mem] at claimed
  exact absurd claimed unclaimed

/-- A claimed entry is a front. -/
theorem InOrder.front (ordered : fifo.InOrder rows) {older newer : ρ}
    (placed : [older, newer].Sublist rows) (same : fifo.lane older = fifo.lane newer)
    (claimed : fifo.Claimed newer) : fifo.Finished older :=
  List.pairwise_iff_forall_sublist.mp ordered placed same claimed

/-- A lane has one claimed entry that is not finished. -/
theorem InOrder.unique (ordered : fifo.InOrder rows) {row other : ρ} (mem : row ∈ rows)
    (mem' : other ∈ rows) (same : fifo.lane row = fifo.lane other)
    (claimed : fifo.Claimed row ∧ ¬fifo.Finished row)
    (claimed' : fifo.Claimed other ∧ ¬fifo.Finished other) : row = other := by
  by_contra apart
  let Alone (first second : ρ) : Prop := fifo.lane first = fifo.lane second →
    fifo.Claimed first ∧ ¬fifo.Finished first → ¬(fifo.Claimed second ∧ ¬fifo.Finished second)
  have symmetric : Std.Symm Alone :=
    ⟨fun first second alone same active active' => alone same.symm active' active⟩
  have alone : rows.Pairwise Alone := by
    apply ordered.imp
    intro older newer behind same active active'
    exact active.2 (behind same active'.1)
  exact alone.forall mem mem' apart same claimed claimed'

/-- A front stays a front while entries are rewritten in place. -/
theorem FrontOf.map {k : κ} (front : fifo.FrontOf k rows) {change : ρ → ρ}
    (key : ∀ row ∈ rows, fifo.key (change row) = fifo.key row)
    (lane : ∀ row ∈ rows, fifo.lane (change row) = fifo.lane row)
    (finished : ∀ row ∈ rows, fifo.Finished row → fifo.Finished (change row)) :
    fifo.FrontOf k (rows.map change) := by
  intro older row placed named same
  obtain ⟨pair, sub, mapped⟩ := List.sublist_map_iff.mp placed
  obtain ⟨first, tail, rfl, rfl, single⟩ := List.map_eq_cons_iff.mp mapped.symm
  obtain ⟨second, rest, rfl, rfl, ended⟩ := List.map_eq_cons_iff.mp single
  obtain rfl := List.map_eq_nil_iff.mp ended
  have mem : first ∈ rows := sub.subset List.mem_cons_self
  have mem' : second ∈ rows := sub.subset (List.mem_cons_of_mem _ List.mem_cons_self)
  rw [key second mem'] at named
  rw [lane first mem, lane second mem'] at same
  exact finished first mem (front first second sub named same)

/-- A front stays a front when another entry arrives. -/
theorem FrontOf.append {k : κ} (front : fifo.FrontOf k rows) (apart : fifo.key row ≠ k) :
    fifo.FrontOf k (rows ++ [row]) := by
  intro older newer placed named same
  obtain ⟨first, second, split, left, right⟩ := List.sublist_append_iff.mp placed
  cases right with
  | cons _ none =>
    rw [List.sublist_nil.mp none, List.append_nil] at split
    rw [← split] at left
    exact front older newer left named same
  | cons_cons _ none =>
    rw [List.sublist_nil.mp none] at split
    have same : newer = row := by simpa using congrArg List.getLast? split
    exact absurd (same ▸ named) apart

/-- The first unfinished entry of a lane is a front. -/
theorem frontOf_of_find? {wanted : ρ → Bool} (distinct : (rows.map fifo.key).Nodup)
    (wants : ∀ older, fifo.lane older = fifo.lane row → ¬fifo.Finished older → wanted older = true)
    (found : rows.find? wanted = some row) : fifo.FrontOf (fifo.key row) rows := by
  obtain ⟨_, before, after, rfl, misses⟩ := List.find?_eq_some_iff_append.mp found
  intro older newer placed named same
  have alone : fifo.key row ∉ before.map fifo.key ∧ fifo.key row ∉ after.map fifo.key := by
    rw [List.map_append, List.map_cons, List.nodup_append, List.nodup_cons] at distinct
    exact ⟨fun mem => distinct.2.2 _ mem _ List.mem_cons_self rfl, distinct.2.1.1⟩
  have mem : newer ∈ before ++ row :: after :=
    placed.subset (List.mem_cons_of_mem _ List.mem_cons_self)
  have inBefore : older ∈ before := by
    obtain ⟨first, second, split, left, right⟩ := List.sublist_append_iff.mp placed
    cases first with
    | nil =>
      rw [List.nil_append] at split
      subst split
      have behind : newer ∈ after := by
        cases right with
        | cons _ rest => exact rest.subset (List.mem_cons_of_mem _ List.mem_cons_self)
        | cons_cons _ rest => exact rest.subset List.mem_cons_self
      exact absurd (List.mem_map.mpr ⟨newer, behind, named⟩) alone.2
    | cons head tail =>
      rw [List.cons_append] at split
      injection split with same
      exact same ▸ left.subset List.mem_cons_self
  by_contra unfinished
  have same' : fifo.lane older = fifo.lane row := by
    cases List.mem_append.mp mem with
    | inl inside => exact absurd (List.mem_map.mpr ⟨newer, inside, named⟩) alone.1
    | inr behind =>
      cases List.mem_cons.mp behind with
      | inl itself => exact itself ▸ same
      | inr inside => exact absurd (List.mem_map.mpr ⟨newer, inside, named⟩) alone.2
  have missed := misses older inBefore
  rw [wants older same' unfinished] at missed
  cases missed

/-! ## Steps -/

/-- A step of a list that is served in order: its entries are rewritten in place and only fronts
claimed, or an entry arrives. -/
inductive Serves (fifo : Fifo ρ κ γ) (rows : List ρ) : List ρ → Prop where
  | rewrite {change : ρ → ρ} (key : ∀ row ∈ rows, fifo.key (change row) = fifo.key row)
    (lane : ∀ row ∈ rows, fifo.lane (change row) = fifo.lane row)
    (finished : ∀ row ∈ rows, fifo.Finished row → fifo.Finished (change row))
    (claims : ∀ row ∈ rows, fifo.Claimed (change row) →
      fifo.Claimed row ∨ fifo.FrontOf (fifo.key row) rows) : Serves fifo rows (rows.map change)
  | arrive {row : ρ} (fresh : fifo.key row ∉ rows.map fifo.key) (unclaimed : ¬fifo.Claimed row) :
    Serves fifo rows (rows ++ [row])

/-- Progress serves the queue. -/
theorem Progress.serves (progress : fifo.Progress rows later) : fifo.Serves rows later := by
  obtain ⟨change, rfl, follows⟩ := progress
  apply Serves.rewrite
  · exact fun row mem => (follows row mem).key
  · exact fun row mem => (follows row mem).lane
  · exact fun row mem => (follows row mem).finished
  · exact fun row mem claimed => .inl ((follows row mem).claimed claimed)

/-- Serving keeps the order. -/
theorem InOrder.serves (ordered : fifo.InOrder rows) (serves : fifo.Serves rows later) :
    fifo.InOrder later := by
  cases serves with
  | rewrite _ lane finished claims => exact ordered.map lane finished claims
  | arrive _ unclaimed => exact ordered.append unclaimed

/-- Serving keeps the front that an entry has reached. -/
theorem FrontOf.serves {k : κ} (front : fifo.FrontOf k rows) (present : k ∈ rows.map fifo.key)
    (serves : fifo.Serves rows later) : fifo.FrontOf k later ∧ k ∈ later.map fifo.key := by
  cases serves with
  | @rewrite change key lane finished =>
    have same : (rows.map change).map fifo.key = rows.map fifo.key := by
      rw [List.map_map]
      exact List.map_congr_left key
    exact ⟨front.map key lane finished, same ▸ present⟩
  | @arrive row fresh =>
    have apart : fifo.key row ≠ k := fun same => fresh (same ▸ present)
    refine ⟨front.append apart, ?_⟩
    rw [List.map_append]
    exact List.mem_append_left _ present

/-- What a step claims was a front. -/
theorem Serves.front (serves : fifo.Serves rows later) (distinct : (rows.map fifo.key).Nodup)
    {older newer claimed : ρ} (placed : [older, newer].Sublist rows)
    (same : fifo.lane older = fifo.lane newer) (before : ¬fifo.Claimed newer)
    (mem : claimed ∈ later) (itself : fifo.key claimed = fifo.key newer)
    (after : fifo.Claimed claimed) : fifo.Finished older := by
  have stored : newer ∈ rows := placed.subset (List.mem_cons_of_mem _ List.mem_cons_self)
  cases serves with
  | @rewrite change key lane finished claims =>
    obtain ⟨row, inside, rfl⟩ := List.mem_map.mp mem
    have named : fifo.key row = fifo.key newer := (key row inside).symm.trans itself
    obtain rfl := List.inj_on_of_nodup_map distinct inside stored named
    cases claims row inside after with
    | inl claimed => exact absurd claimed before
    | inr front => exact front older row placed rfl same
  | @arrive row fresh unclaimed =>
    cases List.mem_append.mp mem with
    | inl inside =>
      obtain rfl := List.inj_on_of_nodup_map distinct inside stored itself
      exact absurd after before
    | inr last =>
      rw [List.mem_singleton.mp last] at after
      exact absurd after unclaimed

end Fifo

end Iq.Library
