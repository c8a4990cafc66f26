import Mathlib.Data.List.Induction
import Mathlib.Tactic.Common

/-!
# Transition systems

A machine has initial states and a total step function over labels: a label that the machine
refuses leaves the state as it is. A run applies a list of labels in order. The rules below give
the induction over runs once: an invariant that holds initially and that every step keeps holds of
every reachable state, and a relation between the two states of one step that is reflexive and
transitive holds between the two ends of every run.
-/

namespace Iq.Library

universe u v

/-- Initial states and a total step function over labels. -/
structure Machine (σ : Type u) (ι : Type v) where
  /-- The states a run may begin in. -/
  Initial : σ → Prop
  /-- The state after one label. -/
  step : σ → ι → σ

namespace Machine

variable {σ : Type u} {ι : Type v} (machine : Machine σ ι)

/-- The state after a list of labels, applied in order. -/
def run (state : σ) (labels : List ι) : σ := labels.foldl machine.step state

/-- A run without steps. -/
@[simp] theorem run_nil (state : σ) : machine.run state [] = state := rfl

/-- A run with a first step. -/
@[simp] theorem run_cons (state : σ) (label : ι) (rest : List ι) :
    machine.run state (label :: rest) = machine.run (machine.step state label) rest := rfl

/-- A run after a run. -/
@[simp] theorem run_append (state : σ) (first second : List ι) :
    machine.run state (first ++ second) = machine.run (machine.run state first) second :=
  List.foldl_append

/-- A state that some run from an initial state ends in. -/
def Reachable (state : σ) : Prop :=
  ∃ start labels, machine.Initial start ∧ machine.run start labels = state

variable {machine}

/-- Initial states are reachable. -/
theorem Reachable.initial {state : σ} (initial : machine.Initial state) :
    machine.Reachable state :=
  ⟨state, [], initial, rfl⟩

/-- Steps lead to reachable states. -/
theorem Reachable.step {state : σ} (reachable : machine.Reachable state) (label : ι) :
    machine.Reachable (machine.step state label) := by
  obtain ⟨start, labels, initial, rfl⟩ := reachable
  exact ⟨start, labels ++ [label], initial, by rw [run_append]; rfl⟩

/-- Runs lead to reachable states. -/
theorem Reachable.run {state : σ} (reachable : machine.Reachable state) (labels : List ι) :
    machine.Reachable (machine.run state labels) := by
  induction labels generalizing state with
  | nil => exact reachable
  | cons label rest continue_run => exact continue_run (reachable.step label)

/-- A predicate that every step keeps is kept by every run. -/
theorem run_keeps {Keeps : σ → Prop}
    (kept : ∀ state label, Keeps state → Keeps (machine.step state label))
    {state : σ} (holds : Keeps state) (labels : List ι) : Keeps (machine.run state labels) := by
  induction labels generalizing state with
  | nil => exact holds
  | cons label rest keeps_rest => exact keeps_rest (kept state label holds)

/-- A predicate that every step keeps or leaves by an exit is kept by every run up to its first
exit. -/
theorem run_keeps_until {Keeps : σ → Prop} {Exits : σ → ι → Prop}
    (kept : ∀ state label, Keeps state → Keeps (machine.step state label) ∨ Exits state label)
    {state : σ} (holds : Keeps state) (labels : List ι) :
    Keeps (machine.run state labels) ∨ ∃ before label rest, labels = before ++ label :: rest ∧
      Keeps (machine.run state before) ∧ Exits (machine.run state before) label := by
  induction labels generalizing state with
  | nil => exact .inl holds
  | cons label rest keeps_rest =>
    obtain next | exits := kept state label holds
    · obtain final | ⟨before, exit, after, rfl, keeps, exits⟩ := keeps_rest next
      · exact .inl final
      · exact .inr ⟨label :: before, exit, after, rfl, keeps, exits⟩
    · exact .inr ⟨[], label, rest, rfl, holds, exits⟩

/-- A predicate that every allowed step keeps is kept by every run of allowed steps. -/
theorem run_keeps_while {Keeps : σ → Prop} {Allowed : σ → ι → Prop}
    (kept : ∀ state label, Keeps state → Allowed state label → Keeps (machine.step state label))
    {state : σ} (holds : Keeps state) (labels : List ι)
    (allowed : ∀ before label rest, labels = before ++ label :: rest →
      Allowed (machine.run state before) label) : Keeps (machine.run state labels) := by
  induction labels generalizing state with
  | nil => exact holds
  | cons label rest keeps_rest =>
    have first : Allowed state label := allowed [] label rest rfl
    apply keeps_rest (kept state label holds first)
    intro before next after split
    have later := allowed (label :: before) next after (by rw [split]; rfl)
    exact later

/-- The invariant rule: initially true and kept by every step, hence true of every reachable
state. -/
theorem Reachable.invariant {Invariant : σ → Prop}
    (initially : ∀ state, machine.Initial state → Invariant state)
    (kept : ∀ state label, Invariant state → Invariant (machine.step state label))
    {state : σ} (reachable : machine.Reachable state) : Invariant state := by
  obtain ⟨start, labels, initial, rfl⟩ := reachable
  exact run_keeps kept (initially start initial) labels

/-- The invariant rule with reachability of the state at hand in every step. -/
theorem Reachable.invariant_of_reachable {Invariant : σ → Prop}
    (initially : ∀ state, machine.Initial state → Invariant state)
    (kept : ∀ state label, machine.Reachable state → Invariant state →
      Invariant (machine.step state label))
    {state : σ} (reachable : machine.Reachable state) : Invariant state := by
  have rule := @Reachable.invariant σ ι machine fun now => machine.Reachable now ∧ Invariant now
  refine (rule ?_ ?_ reachable).2
  · exact fun start initial => ⟨.initial initial, initially start initial⟩
  · exact fun now label now_holds => ⟨now_holds.1.step label, kept now label now_holds.1 now_holds.2⟩

/-! ## Since an event -/

/-- A label of the run was an event, which may depend on the labels before it, and a property has
held ever since. -/
def Since (machine : Machine σ ι) (start : σ) (Event : List ι → ι → Prop) (Holds : σ → Prop)
    (labels : List ι) : Prop :=
  ∃ before label after, labels = before ++ label :: after ∧ Event before label ∧
    ∀ mid rest, after = mid ++ rest → Holds (machine.run start (before ++ label :: mid))

variable {start : σ} {Event : List ι → ι → Prop} {Holds : σ → Prop}

/-- A property that holds at the end of a run, not at its start, and that a step can only keep or
establish by an event, has held since an event. -/
theorem since_of_run (never : ¬Holds start) {labels : List ι}
    (steps : ∀ before label rest, labels = before ++ label :: rest →
      Holds (machine.run start (before ++ [label])) →
      Holds (machine.run start before) ∨ Event before label)
    (holds : Holds (machine.run start labels)) :
    machine.Since start Event Holds labels := by
  induction labels using List.reverseRecOn with
  | nil => exact absurd holds never
  | append_singleton earlier last since_earlier =>
    have stepped : ∀ before label rest, earlier = before ++ label :: rest →
        Holds (machine.run start (before ++ [label])) →
        Holds (machine.run start before) ∨ Event before label :=
      fun before label rest split => steps before label (rest ++ [last]) (by simp [split])
    rcases steps earlier last [] rfl holds with held | event
    · rcases since_earlier stepped held with ⟨before, label, after, rfl, event, held_since⟩
      refine ⟨before, label, after ++ [last], by simp, event, fun mid rest split => ?_⟩
      rcases List.eq_nil_or_concat rest with rfl | ⟨rest, final, rfl⟩
      · rw [List.append_nil] at split
        rw [← split]
        simpa using holds
      · rw [List.concat_eq_append, ← List.append_assoc] at split
        exact held_since mid rest (List.append_inj' split rfl).1
    · refine ⟨earlier, last, [], rfl, event, fun mid rest split => ?_⟩
      rcases List.append_eq_nil_iff.mp split.symm with ⟨rfl, rfl⟩
      exact holds

/-- A property that does not hold before the last label has held since that label. -/
theorem Since.last {labels : List ι} {label : ι}
    (since : machine.Since start Event Holds (labels ++ [label]))
    (new : ¬Holds (machine.run start labels)) : Event labels label := by
  rcases since with ⟨before, event, after, split, happened, held⟩
  rcases List.eq_nil_or_concat after with rfl | ⟨mid, final, rfl⟩
  · rcases List.append_inj' split rfl with ⟨rfl, same⟩
    cases same
    exact happened
  · rw [List.concat_eq_append, ← List.cons_append, ← List.append_assoc] at split
    rcases List.append_inj' split rfl with ⟨rfl, -⟩
    exact absurd (held mid [final] (List.concat_eq_append)) new

/-! ## Throughout a run -/

/-- What holds of each step of a run: of the state before it and its label. -/
def Throughout (machine : Machine σ ι) (holds : σ → ι → Prop) (start : σ) (labels : List ι) :
    Prop :=
  ∀ before label rest, labels = before ++ label :: rest → holds (machine.run start before) label

/-- A run without steps satisfies everything. -/
theorem throughout_nil {holds : σ → ι → Prop} : machine.Throughout holds start [] := by
  intro before label rest split
  cases before <;> cases split

/-- A run satisfies what its first step and its rest do. -/
theorem throughout_cons {holds : σ → ι → Prop} {label : ι} {rest : List ι} :
    machine.Throughout holds start (label :: rest) ↔
      holds start label ∧ machine.Throughout holds (machine.step start label) rest := by
  constructor
  · intro every
    refine ⟨every [] label rest rfl, ?_⟩
    intro before next after split
    exact every (label :: before) next after (by rw [split]; rfl)
  · rintro ⟨first, later⟩ before next after split
    cases before with
    | nil =>
      cases split
      exact first
    | cons head before =>
      cases split
      exact later before next after rfl

/-- What holds of each step of a run holds of each step of its first part. -/
theorem Throughout.of_append {holds : σ → ι → Prop} {first second : List ι}
    (every : machine.Throughout holds start (first ++ second)) :
    machine.Throughout holds start first :=
  fun before label rest split => every before label (rest ++ second) (by simp [split])

/-- Two properties of steps that agree wherever an invariant holds, the second of which keeps the
invariant, hold throughout the same runs. -/
theorem throughout_iff {Keeps : σ → Prop} {Given Good Allowed : σ → ι → Prop}
    (agree : ∀ state label, Keeps state → Given state label →
      (Good state label ↔ Allowed state label))
    (kept : ∀ state label, Keeps state → Given state label → Allowed state label →
      Keeps (machine.step state label))
    (holds : Keeps start) {labels : List ι} (given : machine.Throughout Given start labels) :
    machine.Throughout Good start labels ↔ machine.Throughout Allowed start labels := by
  induction labels generalizing start with
  | nil => exact iff_of_true throughout_nil throughout_nil
  | cons label rest iff_rest =>
    rw [throughout_cons] at given
    rw [throughout_cons, throughout_cons, agree start label holds given.1]
    apply and_congr_right
    intro allowed
    have next := kept start label holds given.1 allowed
    exact iff_rest next given.2

end Machine

end Iq.Library
