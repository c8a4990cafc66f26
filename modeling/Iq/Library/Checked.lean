import Mathlib.Tactic.Common

/-!
# Computations that may fail

The success of a sequence of steps as the success of each of them, and the induction over a loop
that stops at its first failure. The motive of a loop speaks about the items that are done.
-/

namespace Iq.Library.Checked

universe u v

variable {ε : Type u} {σ α β : Type v} {ι : Type u}

/-- A sequence succeeds when both parts do. -/
theorem bind_eq_ok {first : Except ε α} {next : α → Except ε β} {value : β} :
    (first >>= next) = .ok value ↔ ∃ middle, first = .ok middle ∧ next middle = .ok value := by
  cases first with
  | error reason => exact iff_of_false nofun fun ⟨_, same, _⟩ => nomatch same
  | ok middle =>
    constructor
    · intro result
      exact ⟨middle, rfl, result⟩
    · rintro ⟨_, ⟨⟩, result⟩
      exact result

/-- A step without a result, before others. -/
theorem seq_eq_ok {first : Except ε PUnit} {next : Except ε β} {value : β} :
    (first >>= fun _ => next) = .ok value ↔ first = .ok ⟨⟩ ∧ next = .ok value := by
  cases first <;> simp [bind_eq_ok]

/-- A result that passes has a value. -/
theorem exists_of_isOk {result : Except ε α} (passes : result.isOk = true) :
    ∃ value, result = .ok value := by
  cases result with
  | error reason => exact nomatch passes
  | ok value => exact ⟨value, rfl⟩

variable {body : σ → ι → Except ε σ} {motive : List ι → σ → Prop} {items : List ι}
  {state last : σ}

/-- What holds before a loop and is kept by each of its passes that succeed holds after it. -/
theorem foldlM_keeps (start : motive [] state)
    (step : ∀ done item rest before after, items = done ++ item :: rest → motive done before →
      body before item = .ok after → motive (done ++ [item]) after)
    (ran : items.foldlM body state = .ok last) : motive items last := by
  suffices general : ∀ rest done before, items = done ++ rest → motive done before →
      rest.foldlM body before = .ok last → motive items last from
    general items [] state rfl start ran
  intro rest
  induction rest with
  | nil =>
    intro done before split holds ran
    rw [List.append_nil] at split
    obtain rfl : before = last := Except.ok.inj ran
    exact split ▸ holds
  | cons item rest hypothesis =>
    intro done before split holds ran
    rw [List.foldlM_cons, bind_eq_ok] at ran
    obtain ⟨after, passed, ran⟩ := ran
    refine hypothesis (done ++ [item]) after ?_ (step done item rest before after split holds passed)
      ran
    rw [split, List.append_assoc, List.singleton_append]

/-- A loop succeeds when each of its passes does from the states that the motive allows. -/
theorem foldlM_succeeds (start : motive [] state)
    (step : ∀ done item rest before, items = done ++ item :: rest → motive done before →
      ∃ after, body before item = .ok after ∧ motive (done ++ [item]) after) :
    ∃ last, items.foldlM body state = .ok last ∧ motive items last := by
  suffices general : ∀ rest done before, items = done ++ rest → motive done before →
      ∃ last, rest.foldlM body before = .ok last ∧ motive items last from
    general items [] state rfl start
  intro rest
  induction rest with
  | nil =>
    intro done before split holds
    rw [List.append_nil] at split
    exact ⟨before, rfl, split ▸ holds⟩
  | cons item rest hypothesis =>
    intro done before split holds
    obtain ⟨after, passed, holds⟩ := step done item rest before split holds
    have next : items = (done ++ [item]) ++ rest := by
      rw [split, List.append_assoc, List.singleton_append]
    obtain ⟨last, ran, holds⟩ := hypothesis (done ++ [item]) after next holds
    refine ⟨last, ?_, holds⟩
    rw [List.foldlM_cons, bind_eq_ok]
    exact ⟨after, passed, ran⟩

end Iq.Library.Checked
