import Iq.Library.Program

/-!
# Journals of programs

A program whose effects may be answered in any way, with a journal of the effects that it has
performed and of their answers. `Guarded` says of a journal that every effect was allowed by what
the journal held before it; `Respects` is the obligation of a program to perform allowed effects
only, computed along its structure.
-/

namespace Iq.Library.Program

universe u

variable {ε : Type u} {answer : ε → Type u} {ρ α β : Type u}

/-- The effects that have been performed, with their answers. -/
abbrev Journal (answer : ε → Type u) : Type u := List (Sigma answer)

/-- Surroundings that answer anything and keep a journal. -/
def journal : Interpretation (Journal answer) ε answer ((effect : ε) → answer effect) where
  permits _ _ _ := true
  perform log effect reply := (reply effect, log ++ [⟨effect, reply effect⟩])

variable {Allowed : Journal answer → ε → Prop} {log later : Journal answer}

/-- Every effect of a journal was allowed by what the journal held before it. -/
def Guarded (Allowed : Journal answer → ε → Prop) (log : Journal answer) : Prop :=
  ∀ before effect reply after, log = before ++ ⟨effect, reply⟩ :: after → Allowed before effect

/-- An empty journal is guarded. -/
theorem guarded_nil : Guarded Allowed [] := by
  intro before effect reply after split
  exact absurd split.symm (by simp)

/-- An allowed effect is added to a guarded journal. -/
theorem Guarded.append {effect : ε} {reply : answer effect} (guarded : Guarded Allowed log)
    (allowed : Allowed log effect) : Guarded Allowed (log ++ [⟨effect, reply⟩]) := by
  intro before performed answered after split
  rcases List.append_eq_append_iff.mp split with
    ⟨middle, rfl, rest⟩ | ⟨middle, rfl, rest⟩
  · cases middle with
    | nil =>
      rw [List.nil_append, List.cons.injEq, Sigma.mk.injEq] at rest
      rw [List.append_nil, ← rest.1.1]
      exact allowed
    | cons head tail =>
      rw [List.cons_append, List.cons.injEq] at rest
      exact absurd rest.2.symm (by simp)
  · cases middle with
    | nil =>
      rw [List.nil_append, List.cons.injEq, Sigma.mk.injEq] at rest
      rw [List.append_nil] at allowed
      rw [rest.1.1]
      exact allowed
    | cons head tail =>
      rw [List.cons_append, List.cons.injEq] at rest
      rw [← rest.1] at guarded
      exact guarded before performed answered tail rfl

/-- From a guarded journal, the program performs allowed effects only; when it returns, the journal
meets the postcondition. -/
def Respects (Allowed : Journal answer → ε → Prop) (program : Program ε answer ρ α)
    (log : Journal answer) (post : α → Journal answer → Prop) : Prop :=
  Guarded Allowed log → program.Upholds journal (Guarded Allowed)
    (fun value later => Guarded Allowed later ∧ post value later)
    (fun _ later => Guarded Allowed later) log

variable {post : α → Journal answer → Prop} {final : β → Journal answer → Prop}

/-- A value calls nothing. -/
theorem respects_pure {value : α} (holds : post value log) :
    Respects Allowed (pure value : Program ε answer ρ α) log post :=
  fun guarded => ⟨guarded, holds⟩

/-- An error calls nothing. -/
theorem respects_raise {reason : ρ} :
    Respects Allowed (raise reason : Program ε answer ρ α) log post :=
  fun guarded => guarded

/-- A sequence respects what both parts do. -/
theorem respects_bind {first : Program ε answer ρ α} {next : α → Program ε answer ρ β}
    (post : α → Journal answer → Prop) (before : Respects Allowed first log post)
    (after : ∀ value later, post value later → Respects Allowed (next value) later final) :
    Respects Allowed (first >>= next) log final := by
  intro guarded
  rw [upholds_bind]
  refine (before guarded).mono ?_ fun _ _ stopped => stopped
  intro value later holds
  exact after value later holds.2 holds.1

/-- The rule of consequence. -/
theorem Respects.mono {program : Program ε answer ρ α} {weaker : α → Journal answer → Prop}
    (respects : Respects Allowed program log post)
    (weakens : ∀ value later, post value later → weaker value later) :
    Respects Allowed program log weaker := by
  intro guarded
  refine (respects guarded).mono ?_ fun _ _ stopped => stopped
  intro value later holds
  exact ⟨holds.1, weakens value later holds.2⟩

/-- The rule of one effect. -/
theorem respects_ask {effect : ε} {post : answer effect → Journal answer → Prop}
    (allowed : Allowed log effect) (holds : ∀ reply, post reply (log ++ [⟨effect, reply⟩])) :
    Respects Allowed (ask effect : Program ε answer ρ (answer effect)) log post := by
  intro guarded
  rw [upholds_ask]
  intro reply _
  have added : Guarded Allowed (log ++ [⟨effect, reply effect⟩]) := guarded.append allowed
  exact ⟨added, added, holds (reply effect)⟩

/-- The journal of a run is guarded. -/
theorem Respects.run {program : Program ε answer ρ α} (respects : Respects Allowed program [] post)
    (replies : Nat → (effect : ε) → answer effect) :
    Guarded Allowed (program.run journal [] replies).2 := by
  have all : ∀ (program : Program ε answer ρ α) (log : Journal answer)
      (replies : Nat → (effect : ε) → answer effect), program.Permitted journal log replies := by
    intro program
    induction program with
    | pure | raise => exact fun _ _ => trivial
    | perform effect next all_next => exact fun log replies => ⟨rfl, all_next _ _ _⟩
  have ended := (respects guarded_nil).run (all program [] replies)
  split at ended
  · rename_i same
    rw [same]
    exact ended.1
  · rename_i same
    rw [same]
    exact ended

end Iq.Library.Program
