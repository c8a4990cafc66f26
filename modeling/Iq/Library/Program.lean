import Iq.Library.Transition

/-!
# Interruptible programs

A program performs effects on a shared state one at a time and goes on with the answer of each; it
returns a value or raises a reason. What an effect does and answers depends on the state and on a
choice of its surroundings. Between two effects the program may be interrupted for good: an
invariant of the state must therefore hold after every single effect, not only at the end.
`Upholds` is that obligation together with the postconditions; the rules below compute it along the
structure of a program. `processes` is the machine of all runs in which programs are started one
after another, advanced effect by effect and interrupted anywhere.
-/

namespace Iq.Library

universe u

/-- A program over effects, each of which has its own type of answers. -/
inductive Program (ε : Type u) (answer : ε → Type u) (ρ α : Type u) : Type u where
  | pure (value : α)
  | raise (reason : ρ)
  | perform (effect : ε) (next : answer effect → Program ε answer ρ α)

namespace Program

variable {ε : Type u} {answer : ε → Type u} {ρ α β : Type u}

/-- Go on with the value of a program. -/
def andThen : Program ε answer ρ α → (α → Program ε answer ρ β) → Program ε answer ρ β
  | .pure value, next => next value
  | .raise reason, _ => .raise reason
  | .perform effect rest, next => .perform effect fun reply => (rest reply).andThen next

instance : Monad (Program ε answer ρ) where
  pure := .pure
  bind := andThen

/-- The program of one effect. -/
def ask (effect : ε) : Program ε answer ρ (answer effect) := .perform effect .pure

/-- Go on only when a condition holds. -/
def require (condition : Prop) [Decidable condition] (reason : ρ) :
    Program ε answer ρ PUnit :=
  if condition then .pure ⟨⟩ else .raise reason

/-- What an effect answers and leaves, in a state and under a choice of the surroundings. -/
structure Interpretation (σ ε : Type u) (answer : ε → Type u) (χ : Type u) where
  /-- The choices that the surroundings have. -/
  permits : σ → ε → χ → Bool
  /-- The answer to an effect, and the state after it. -/
  perform : σ → (effect : ε) → χ → answer effect × σ

variable {σ χ : Type u} (world : Interpretation σ ε answer χ)

/-- Every permitted run of a program keeps an invariant after each effect and ends in one of the two
postconditions. -/
def Upholds (invariant : σ → Prop) (ok : α → σ → Prop) (stop : ρ → σ → Prop) :
    Program ε answer ρ α → σ → Prop
  | .pure value, state => ok value state
  | .raise reason, state => stop reason state
  | .perform effect next, state => ∀ choice, world.permits state effect choice = true →
      invariant (world.perform state effect choice).2 ∧
        Upholds invariant ok stop (next (world.perform state effect choice).1)
          (world.perform state effect choice).2

variable {world} {invariant : σ → Prop} {ok later : α → σ → Prop} {stop other : ρ → σ → Prop}
  {state : σ}

/-- The rule of a value. -/
@[simp] theorem upholds_pure {value : α} :
    (pure value : Program ε answer ρ α).Upholds world invariant ok stop state ↔ ok value state :=
  Iff.rfl

/-- The rule of an error. -/
@[simp] theorem upholds_raise {reason : ρ} :
    (raise reason : Program ε answer ρ α).Upholds world invariant ok stop state ↔
      stop reason state :=
  Iff.rfl

/-- The rule of a sequence. -/
@[simp] theorem upholds_bind {first : Program ε answer ρ α} {next : α → Program ε answer ρ β}
    {final : β → σ → Prop} :
    (first >>= next).Upholds world invariant final stop state ↔
      first.Upholds world invariant
        (fun value => (next value).Upholds world invariant final stop) stop state := by
  induction first generalizing state with
  | pure value => exact Iff.rfl
  | raise reason => exact Iff.rfl
  | perform effect rest rest_iff =>
    exact forall₂_congr fun choice _ => and_congr_right fun _ => rest_iff _

/-- The rule of an effect: every permitted answer keeps the invariant. -/
@[simp] theorem upholds_ask {effect : ε} {ok : answer effect → σ → Prop} :
    (ask effect : Program ε answer ρ (answer effect)).Upholds world invariant ok stop state ↔
      ∀ choice, world.permits state effect choice = true →
        invariant (world.perform state effect choice).2 ∧
          ok (world.perform state effect choice).1 (world.perform state effect choice).2 :=
  Iff.rfl

/-- The rule of a required condition. -/
@[simp] theorem upholds_require {condition : Prop} [Decidable condition] {reason : ρ}
    {ok : PUnit → σ → Prop} :
    (require condition reason : Program ε answer ρ PUnit).Upholds world invariant ok stop state ↔
      (condition → ok ⟨⟩ state) ∧ (¬condition → stop reason state) := by
  by_cases holds : condition <;> simp [require, holds]

/-- The rule of a choice. -/
@[simp] theorem upholds_ite {condition : Prop} [Decidable condition]
    {first second : Program ε answer ρ α} :
    (if condition then first else second).Upholds world invariant ok stop state ↔
      (condition → first.Upholds world invariant ok stop state) ∧
        (¬condition → second.Upholds world invariant ok stop state) := by
  by_cases holds : condition <;> simp [holds]

/-- The rule of consequence. -/
theorem Upholds.mono {program : Program ε answer ρ α}
    (upholds : program.Upholds world invariant ok stop state)
    (weaker : ∀ value state, ok value state → later value state)
    (softer : ∀ reason state, stop reason state → other reason state) :
    program.Upholds world invariant later other state := by
  induction program generalizing state with
  | pure value => exact weaker value state upholds
  | raise reason => exact softer reason state upholds
  | perform effect rest mono_rest =>
    intro choice permitted
    exact ⟨(upholds choice permitted).1, mono_rest _ (upholds choice permitted).2⟩

/-! ## Whole runs -/

/-- The end of a run under a stream of choices. -/
def run (world : Interpretation σ ε answer χ) :
    Program ε answer ρ α → σ → (Nat → χ) → Except ρ α × σ
  | .pure value, state, _ => (.ok value, state)
  | .raise reason, state, _ => (.error reason, state)
  | .perform effect next, state, choices =>
    run world (next (world.perform state effect (choices 0)).1)
      (world.perform state effect (choices 0)).2 fun index => choices (index + 1)

/-- The choices of a run are permitted where it makes them. -/
def Permitted (world : Interpretation σ ε answer χ) :
    Program ε answer ρ α → σ → (Nat → χ) → Prop
  | .pure _, _, _ => True
  | .raise _, _, _ => True
  | .perform effect next, state, choices =>
    world.permits state effect (choices 0) = true ∧
      Permitted world (next (world.perform state effect (choices 0)).1)
        (world.perform state effect (choices 0)).2 fun index => choices (index + 1)

/-- A choice that is always permitted may be made throughout. -/
theorem permitted_of_forall {choice : χ}
    (permitted : ∀ state effect, world.permits state effect choice = true)
    (program : Program ε answer ρ α) (state : σ) : program.Permitted world state fun _ => choice := by
  induction program generalizing state with
  | pure value => trivial
  | raise reason => trivial
  | perform effect rest permitted_rest => exact ⟨permitted state effect, permitted_rest _ _⟩

/-- The end of a permitted run meets the postconditions. -/
theorem Upholds.run {program : Program ε answer ρ α} {choices : Nat → χ}
    (upholds : program.Upholds world invariant ok stop state)
    (permitted : program.Permitted world state choices) :
    match program.run world state choices with
    | (.ok value, final) => ok value final
    | (.error reason, final) => stop reason final := by
  induction program generalizing state choices with
  | pure value => exact upholds
  | raise reason => exact upholds
  | perform effect rest run_rest =>
    exact run_rest _ (upholds (choices 0) permitted.1).2 permitted.2

end Program

/-! ## Processes -/

/-- A state with the program that is running on it. -/
structure Process (σ ε : Type u) (answer : ε → Type u) (ρ α : Type u) where
  state : σ
  running : Option (Program ε answer ρ α)

/-- What happens in a process: a step from outside while nothing runs, the start of a program, one
effect of the running program, and its end, which may come at any point. -/
inductive ProcessLabel (ι κ χ : Type u) where
  | outside (label : ι)
  | start (entry : κ)
  | advance (choice : χ)
  | stop

section Processes

variable {σ ε : Type u} {answer : ε → Type u} {ρ α ι κ χ : Type u}

/-- The machine of a process, from its initial states, its steps from outside, the programs that
can be started and the meaning of their effects. -/
def processes (Initial : σ → Prop) (outside : σ → ι → σ) (entry : κ → Program ε answer ρ α)
    (world : Program.Interpretation σ ε answer χ) :
    Machine (Process σ ε answer ρ α) (ProcessLabel ι κ χ) where
  Initial process := Initial process.state ∧ process.running = none
  step process label :=
    match label, process.running with
    | .outside label, none => { process with state := outside process.state label }
    | .start chosen, none => { process with running := some (entry chosen) }
    | .advance choice, some (.perform effect next) =>
      if world.permits process.state effect choice then
        ⟨(world.perform process.state effect choice).2,
          some (next (world.perform process.state effect choice).1)⟩
      else process
    | .stop, _ => { process with running := none }
    | _, _ => process

variable {Initial : σ → Prop} {outside : σ → ι → σ} {entry : κ → Program ε answer ρ α}
  {world : Program.Interpretation σ ε answer χ} {invariant : σ → Prop}
  {ok : α → σ → Prop} {stop : ρ → σ → Prop} {process : Process σ ε answer ρ α}

/-- The invariant rule of processes: what every step from outside keeps and every program upholds
holds of every reachable state, and the running program upholds it from there. -/
theorem processes_invariant (initially : ∀ state, Initial state → invariant state)
    (kept : ∀ state label, invariant state → invariant (outside state label))
    (upheld : ∀ chosen state, invariant state →
      (entry chosen).Upholds world invariant ok stop state)
    (reachable : (processes Initial outside entry world).Reachable process) :
    invariant process.state ∧ ∀ program, process.running = some program →
      program.Upholds world invariant ok stop process.state := by
  have rule := @Machine.Reachable.invariant _ _ (processes Initial outside entry world)
    fun process => invariant process.state ∧ ∀ program, process.running = some program →
      program.Upholds world invariant ok stop process.state
  refine rule ?_ ?_ reachable
  · rintro start ⟨initial, idle⟩
    refine ⟨initially _ initial, fun program running => ?_⟩
    rw [idle] at running
    cases running
  · rintro now label ⟨holds, upholds⟩
    simp only [processes]
    split
    · refine ⟨kept _ _ holds, fun program running => ?_⟩
      rename_i idle
      rw [idle] at running
      cases running
    · refine ⟨holds, fun program running => ?_⟩
      cases running
      exact upheld _ _ holds
    · rename_i choice effect next running
      split
      · rename_i permitted
        have stepped := upholds _ running choice permitted
        refine ⟨stepped.1, fun program running => ?_⟩
        cases running
        exact stepped.2
      · exact ⟨holds, upholds⟩
    · exact ⟨holds, fun _ none => nomatch none⟩
    · exact ⟨holds, upholds⟩

end Processes

end Iq.Library
