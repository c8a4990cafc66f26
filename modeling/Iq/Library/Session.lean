import Iq.Library.Transition

/-!
# Sessions

A session performs operations of a machine one at a time, each in the state that the earlier ones
left, and goes on with what it reads and what it is answered. From a state it returns a value or
stops for a reason; either way it has performed a list of operations, and the state it leaves is the
run of that list. A session that stops halfway therefore leaves what it did: nothing is undone.
-/

namespace Iq.Library

/-- What a session returns or stops for, and the operations it performed on the way. -/
def Session {σ ι : Type} (_machine : Machine σ ι) (ρ α : Type) : Type :=
  σ → Except ρ α × List ι

namespace Session

variable {σ ι ρ α β : Type} {machine : Machine σ ι}

/-- Go on with the value of a session, in the state that it left. -/
def andThen (first : Session machine ρ α) (next : α → Session machine ρ β) :
    Session machine ρ β := fun state =>
  match first state with
  | (.error reason, labels) => (.error reason, labels)
  | (.ok value, labels) =>
    let rest := next value (machine.run state labels)
    (rest.1, labels ++ rest.2)

instance : Monad (Session machine ρ) where
  pure value := fun _ => (.ok value, [])
  bind := andThen

/-- Stop. -/
def raise (reason : ρ) : Session machine ρ α := fun _ => (.error reason, [])

/-- Read the state. -/
def read (look : σ → Except ρ α) : Session machine ρ α := fun state => (look state, [])

/-- Perform one operation, which answers from the state before it. -/
def perform (answer : σ → Except ρ α) (label : ι) : Session machine ρ α := fun state =>
  (answer state, [label])

/-- Go on also when a session stops, with the reason. -/
def attempt (session : Session machine ρ α) : Session machine ρ (Except ρ α) := fun state =>
  (.ok (session state).1, (session state).2)

/-! ## What a session performs -/

/-- Every operation that a session performs is allowed. -/
def Performs (allowed : ι → Prop) (session : Session machine ρ α) : Prop :=
  ∀ state, ∀ label ∈ (session state).2, allowed label

variable {allowed : ι → Prop} {state : σ} {value : α} {reason : ρ} {labels : List ι}

/-- A value performs nothing. -/
theorem performs_pure : (pure value : Session machine ρ α).Performs allowed := nofun

/-- An error performs nothing. -/
theorem performs_raise : (raise reason : Session machine ρ α).Performs allowed := nofun

/-- A read performs nothing. -/
theorem performs_read {look : σ → Except ρ α} :
    (read look : Session machine ρ α).Performs allowed := nofun

/-- A label is performed when it is allowed. -/
theorem performs_perform {answer : σ → Except ρ α} {label : ι} (one : allowed label) :
    (perform answer label : Session machine ρ α).Performs allowed := by
  intro state performed mem
  cases List.mem_singleton.mp mem
  exact one

/-- An attempt performs what the session does. -/
theorem performs_attempt {session : Session machine ρ α} (performs : session.Performs allowed) :
    session.attempt.Performs allowed := performs

/-- A sequence performs what both parts do. -/
theorem performs_bind {first : Session machine ρ α} {next : α → Session machine ρ β}
    (before : first.Performs allowed) (after : ∀ value, (next value).Performs allowed) :
    (first >>= next).Performs allowed := by
  intro state label mem
  show allowed label
  have parts : label ∈ (andThen first next state).2 := mem
  unfold andThen at parts
  cases same : first state with
  | mk result labels =>
    have earlier : ∀ label ∈ labels, allowed label := by
      have all := before state
      rw [same] at all
      exact all
    rw [same] at parts
    cases result with
    | error reason => exact earlier label parts
    | ok value =>
      rcases List.mem_append.mp parts with mem | mem
      · exact earlier label mem
      · exact after value _ label mem

/-! ## What a session comes to -/

/-- A session returns a value after the operations, from a state. -/
def Yields (session : Session machine ρ α) (state : σ) (value : α) (labels : List ι) : Prop :=
  session state = (.ok value, labels)

/-- A session stops for a reason after the operations, from a state. -/
def Stops (session : Session machine ρ α) (state : σ) (reason : ρ) (labels : List ι) : Prop :=
  session state = (.error reason, labels)

/-- A read that answers yields its value. -/
theorem yields_read {look : σ → Except ρ α} (found : look state = .ok value) :
    (read look : Session machine ρ α).Yields state value [] := by
  rw [Yields, read, found]

/-- A label that answers yields its value and is performed. -/
theorem yields_perform {answer : σ → Except ρ α} {label : ι} (answered : answer state = .ok value) :
    (perform answer label : Session machine ρ α).Yields state value [label] := by
  rw [Yields, perform, answered]

/-- What follows a session that yields runs on what it leaves. -/
theorem bind_of_yields {first : Session machine ρ α} {next : α → Session machine ρ β}
    (yields : first.Yields state value labels) :
    (first >>= next) state = ((next value (machine.run state labels)).1,
      labels ++ (next value (machine.run state labels)).2) := by
  show andThen first next state = _
  rw [andThen, yields]

/-- What follows a session that stops does not run. -/
theorem bind_of_stops {first : Session machine ρ α} {next : α → Session machine ρ β}
    (stops : first.Stops state reason labels) : (first >>= next).Stops state reason labels := by
  show andThen first next state = _
  rw [andThen, stops]

/-- A sequence yields what its second part does. -/
theorem yields_bind {first : Session machine ρ α} {next : α → Session machine ρ β} {result : β}
    {more : List ι} (before : first.Yields state value labels)
    (after : (next value).Yields (machine.run state labels) result more) :
    (first >>= next).Yields state result (labels ++ more) := by
  rw [Yields, bind_of_yields before, after]

/-- Sequences associate. -/
theorem bind_assoc {γ : Type} {first : Session machine ρ α} {second : α → Session machine ρ β}
    {third : β → Session machine ρ γ} :
    first >>= second >>= third = first >>= fun value => second value >>= third := by
  funext state
  show andThen (andThen first second) third state =
    andThen first (fun value => andThen (second value) third) state
  simp only [andThen]
  rcases first state with ⟨_ | value, labels⟩
  · rfl
  · dsimp only
    rcases second value (machine.run state labels) with ⟨_ | value, more⟩
    · rfl
    · simp only [Machine.run_append, List.append_assoc]

/-- A session returns or stops. -/
theorem yields_or_stops (session : Session machine ρ α) (state : σ) :
    (∃ value labels, session.Yields state value labels) ∨
      ∃ reason labels, session.Stops state reason labels := by
  unfold Yields Stops
  cases session state with
  | mk result labels =>
    cases result with
    | error reason => exact .inr ⟨reason, labels, rfl⟩
    | ok value => exact .inl ⟨value, labels, rfl⟩

end Session

end Iq.Library
