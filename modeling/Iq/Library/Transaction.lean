import Mathlib.Tactic.Common

/-!
# Transactions

A transaction reads and rewrites a state and either commits with a value or aborts with a reason.
An aborted transaction has no resulting state, which is the rollback: `settle` returns the state it
started from. The rules below take a transaction apart along its sequential structure. `Commits`
inverts a commit into the facts that every step established; `Aborts` locates the step that
stopped it. They are stated for any state type and any type of reasons.
-/

namespace Iq.Library

universe u v w

/-- A computation over a state that commits with a value or aborts with a reason. -/
def Transaction (ε : Type u) (σ : Type v) (α : Type w) : Type (max u v w) :=
  σ → Except ε (α × σ)

namespace Transaction

variable {ε : Type u} {σ : Type v}

/-- Sequencing threads the state and stops at the first abort. -/
def andThen {α β : Type w} (first : Transaction ε σ α) (next : α → Transaction ε σ β) :
    Transaction ε σ β := fun state =>
  match first state with
  | .ok (value, later) => next value later
  | .error reason => .error reason

instance : Monad (Transaction ε σ) where
  pure value := fun state => .ok (value, state)
  bind := andThen

/-- Stop the transaction. -/
def abort {α : Type w} (reason : ε) : Transaction ε σ α := fun _ => .error reason

/-- Continue only when a decidable condition holds. -/
def require (condition : Prop) [Decidable condition] (reason : ε) : Transaction ε σ Unit :=
  fun state => if condition then .ok ((), state) else .error reason

/-- Take the value of an option or stop. -/
def expect {α : Type w} (value : Option α) (reason : ε) : Transaction ε σ α := fun state =>
  match value with
  | some found => .ok (found, state)
  | none => .error reason

/-- Read a value that the state may lack. -/
def lookup {α : Type w} (look : σ → Option α) (reason : ε) : Transaction ε σ α := fun state =>
  match look state with
  | some found => .ok (found, state)
  | none => .error reason

/-- Read a value that the state always gives. -/
def query {α : Type w} (look : σ → α) : Transaction ε σ α := fun state => .ok (look state, state)

/-- Rewrite the state and return a value computed from the state before it. -/
def write {α : Type w} (change : σ → α × σ) : Transaction ε σ α := fun state => .ok (change state)

/-- A commit from a state, with the value returned and the state it leaves. -/
def Commits {α : Type w} (transaction : Transaction ε σ α) (state : σ) (value : α) (later : σ) :
    Prop :=
  transaction state = .ok (value, later)

/-- An abort from a state, with its reason. -/
def Aborts {α : Type w} (transaction : Transaction ε σ α) (state : σ) (reason : ε) : Prop :=
  transaction state = .error reason

/-- The state after a transaction was tried: an abort leaves the state it started from. -/
def settle {α : Type w} (transaction : Transaction ε σ α) (state : σ) : σ :=
  match transaction state with
  | .ok (_, later) => later
  | .error _ => state

/-- The reason for which a transaction aborts, if it does. -/
def reason? {α : Type w} (transaction : Transaction ε σ α) (state : σ) : Option ε :=
  match transaction state with
  | .ok _ => none
  | .error reason => some reason

variable {α β : Type w} {state later : σ} {reason : ε}

/-- The reason that is computed is the one of the abort. -/
theorem reason?_eq_some {transaction : Transaction ε σ α} :
    transaction.reason? state = some reason ↔ transaction.Aborts state reason := by
  unfold reason? Aborts
  cases transaction state <;> simp

/-- Every transaction commits or aborts. -/
theorem commits_or_aborts (transaction : Transaction ε σ α) (state : σ) :
    (∃ value later, transaction.Commits state value later) ∨
      ∃ reason, transaction.Aborts state reason := by
  unfold Commits Aborts
  cases outcome : transaction state with
  | ok committed => exact .inl ⟨committed.1, committed.2, rfl⟩
  | error reason => exact .inr ⟨reason, rfl⟩

/-- No transaction both commits and aborts from one state. -/
theorem Commits.not_aborts {transaction : Transaction ε σ α} {value : α}
    (commits : transaction.Commits state value later) : ¬transaction.Aborts state reason := by
  intro aborts
  unfold Commits at commits
  unfold Aborts at aborts
  rw [commits] at aborts
  cases aborts

/-- Settling a committed transaction gives the state it committed. -/
theorem settle_of_commits {transaction : Transaction ε σ α} {value : α}
    (commits : transaction.Commits state value later) : transaction.settle state = later := by
  unfold Commits at commits
  simp only [settle, commits]

/-- Settling an aborted transaction gives back the state it started from. -/
theorem settle_of_aborts {transaction : Transaction ε σ α}
    (aborts : transaction.Aborts state reason) : transaction.settle state = state := by
  unfold Aborts at aborts
  simp only [settle, aborts]

/-- A settled state is the starting state or a committed one. -/
theorem settle_cases (transaction : Transaction ε σ α) (state : σ) :
    transaction.settle state = state ∨
      ∃ value, transaction.Commits state value (transaction.settle state) := by
  rcases commits_or_aborts transaction state with ⟨value, later, commits⟩ | ⟨reason, aborts⟩
  · exact .inr ⟨value, by rw [settle_of_commits commits]; exact commits⟩
  · exact .inl (settle_of_aborts aborts)

/-! ## Commit rules -/

/-- A value commits on the state as it is. -/
@[simp] theorem commits_pure {value other : α} :
    (pure value : Transaction ε σ α).Commits state other later ↔ value = other ∧ state = later := by
  simp [Commits, pure]

/-- A sequence commits when both parts do, the second on what the first leaves. -/
@[simp] theorem commits_bind {first : Transaction ε σ α} {next : α → Transaction ε σ β}
    {value : β} :
    (first >>= next).Commits state value later ↔
      ∃ middle between, first.Commits state middle between ∧
        (next middle).Commits between value later := by
  simp only [Commits, bind, andThen]
  cases first state with
  | ok committed =>
    constructor
    · intro rest
      exact ⟨committed.1, committed.2, rfl, rest⟩
    · rintro ⟨middle, between, found, rest⟩
      cases found
      exact rest
  | error reason => simp

/-- A mapped transaction commits with the mapped value. -/
@[simp] theorem commits_map {change : α → β} {transaction : Transaction ε σ α} {value : β} :
    (change <$> transaction).Commits state value later ↔
      ∃ middle, transaction.Commits state middle later ∧ change middle = value := by
  change (transaction >>= fun middle => pure (change middle)).Commits state value later ↔ _
  simp only [commits_bind, commits_pure]
  constructor
  · rintro ⟨middle, between, first, rfl, rfl⟩
    exact ⟨middle, first, rfl⟩
  · rintro ⟨middle, first, rfl⟩
    exact ⟨middle, later, first, rfl, rfl⟩

/-- An abort never commits. -/
@[simp] theorem commits_abort {value : α} :
    ¬(abort reason : Transaction ε σ α).Commits state value later := by
  simp [Commits, abort]

/-- A required condition commits when it holds. -/
@[simp] theorem commits_require {condition : Prop} [Decidable condition] {value : Unit} :
    (require condition reason : Transaction ε σ Unit).Commits state value later ↔
      condition ∧ state = later := by
  by_cases holds : condition <;> simp [Commits, require, holds]

/-- An expected value commits when it is there. -/
@[simp] theorem commits_expect {found : Option α} {value : α} :
    (expect found reason : Transaction ε σ α).Commits state value later ↔
      found = some value ∧ state = later := by
  cases found <;> simp [Commits, expect]

/-- A lookup commits with the row it finds. -/
@[simp] theorem commits_lookup {look : σ → Option α} {value : α} :
    (lookup look reason).Commits state value later ↔ look state = some value ∧ state = later := by
  cases outcome : look state <;> simp [Commits, lookup, outcome]

/-- A query commits with what it reads. -/
@[simp] theorem commits_query {look : σ → α} {value : α} :
    (query look : Transaction ε σ α).Commits state value later ↔
      look state = value ∧ state = later := by
  simp [Commits, query]

/-- A write commits with what it changes. -/
@[simp] theorem commits_write {change : σ → α × σ} {value : α} :
    (write change : Transaction ε σ α).Commits state value later ↔
      (change state).1 = value ∧ (change state).2 = later := by
  simp [Commits, write, Prod.ext_iff]

/-- A choice commits as the branch that is taken. -/
@[simp] theorem commits_ite {condition : Prop} [Decidable condition]
    {first second : Transaction ε σ α} {value : α} :
    (if condition then first else second).Commits state value later ↔
      (condition ∧ first.Commits state value later) ∨
        (¬condition ∧ second.Commits state value later) := by
  by_cases holds : condition <;> simp [holds]

/-! ## Sequential commit rules

A bind whose first transaction leaves the state alone, or rewrites it outright, hands the rest of
the transaction a known state. -/

/-- What follows a value gets it. -/
theorem commits_pure_bind {first : α} {next : α → Transaction ε σ β} {value : β} :
    (pure first >>= next).Commits state value later ↔ (next first).Commits state value later := by
  simp

/-- What follows a required condition runs when it holds. -/
theorem commits_require_bind {γ : Type} {condition : Prop} [Decidable condition]
    {next : Unit → Transaction ε σ γ} {value : γ} :
    (require condition reason >>= next).Commits state value later ↔
      condition ∧ (next ()).Commits state value later := by
  by_cases holds : condition <;> simp [Commits, bind, andThen, require, holds]

/-- What follows an expected value gets it. -/
theorem commits_expect_bind {found : Option α} {next : α → Transaction ε σ β} {value : β} :
    (expect found reason >>= next).Commits state value later ↔
      ∃ first, found = some first ∧ (next first).Commits state value later := by
  simp [and_assoc]

/-- What follows a lookup gets the row that is found. -/
theorem commits_lookup_bind {look : σ → Option α} {next : α → Transaction ε σ β} {value : β} :
    (lookup look reason >>= next).Commits state value later ↔
      ∃ first, look state = some first ∧ (next first).Commits state value later := by
  simp [and_assoc]

/-- What follows a query gets what it reads. -/
theorem commits_query_bind {look : σ → α} {next : α → Transaction ε σ β} {value : β} :
    (query look >>= next).Commits state value later ↔
      (next (look state)).Commits state value later := by
  simp

/-- What follows a write runs on what it leaves. -/
theorem commits_write_bind {change : σ → α × σ} {next : α → Transaction ε σ β} {value : β} :
    (write change >>= next).Commits state value later ↔
      (next (change state).1).Commits (change state).2 value later := by
  simp

/-! ## Abort rules -/

/-- A value never aborts. -/
@[simp] theorem aborts_pure {value : α} :
    ¬(pure value : Transaction ε σ α).Aborts state reason := by
  simp [Aborts, pure]

/-- A sequence aborts in its first part, or in the second on what the first leaves. -/
@[simp] theorem aborts_bind {first : Transaction ε σ α} {next : α → Transaction ε σ β} :
    (first >>= next).Aborts state reason ↔
      first.Aborts state reason ∨
        ∃ middle between, first.Commits state middle between ∧
          (next middle).Aborts between reason := by
  simp only [Aborts, Commits, bind, andThen]
  cases first state with
  | ok committed =>
    constructor
    · intro rest
      exact .inr ⟨committed.1, committed.2, rfl, rest⟩
    · rintro (stopped | ⟨middle, between, found, rest⟩)
      · cases stopped
      · cases found
        exact rest
  | error other => simp

/-- A mapped transaction aborts as the transaction does. -/
@[simp] theorem aborts_map {change : α → β} {transaction : Transaction ε σ α} :
    (change <$> transaction).Aborts state reason ↔ transaction.Aborts state reason := by
  change (transaction >>= fun middle => pure (change middle)).Aborts state reason ↔ _
  simp only [aborts_bind, aborts_pure, and_false, exists_false, or_false]

/-- A change of the result leaves the state that settling gives. -/
@[simp] theorem settle_map {change : α → β} {transaction : Transaction ε σ α} :
    (change <$> transaction).settle state = transaction.settle state := by
  rcases commits_or_aborts transaction state with ⟨value, later, commits⟩ | ⟨reason, aborts⟩
  · have mapped := (@commits_map ε σ α β state later change transaction _).mpr ⟨value, commits, rfl⟩
    rw [settle_of_commits commits, settle_of_commits mapped]
  · rw [settle_of_aborts aborts, settle_of_aborts (aborts_map.mpr aborts)]

/-- A query never aborts. -/
@[simp] theorem aborts_query {look : σ → α} :
    ¬(query look : Transaction ε σ α).Aborts state reason := by
  simp [Aborts, query]

/-! ## Sequential abort rules -/

/-- A required condition aborts, or what follows it does. -/
theorem aborts_require_bind {γ : Type} {condition : Prop} [Decidable condition] {other : ε}
    {next : Unit → Transaction ε σ γ} :
    (require condition other >>= next).Aborts state reason ↔
      (¬condition ∧ other = reason) ∨ (condition ∧ (next ()).Aborts state reason) := by
  by_cases holds : condition <;> simp [Aborts, bind, andThen, require, holds]

/-- What follows a query aborts on what it reads. -/
theorem aborts_query_bind {look : σ → α} {next : α → Transaction ε σ β} :
    (query look >>= next).Aborts state reason ↔ (next (look state)).Aborts state reason := by
  simp

/-! ## Frames -/

/-- A transaction keeps an observation of the state when no commit changes it. -/
def Keeps {γ : Type*} (observe : σ → γ) (transaction : Transaction ε σ α) : Prop :=
  ∀ ⦃state value later⦄, transaction.Commits state value later → observe later = observe state

section Frames

variable {γ : Type*} {observe : σ → γ}

/-- A value keeps every observation. -/
theorem keeps_pure {value : α} : (pure value : Transaction ε σ α).Keeps observe := by
  intro state other later commits
  rw [(commits_pure.mp commits).2]

/-- An abort keeps every observation. -/
theorem keeps_abort : (abort reason : Transaction ε σ α).Keeps observe :=
  fun _ _ _ commits => absurd commits commits_abort

/-- A required condition keeps every observation. -/
theorem keeps_require {condition : Prop} [Decidable condition] :
    (require condition reason : Transaction ε σ Unit).Keeps observe := by
  intro state value later commits
  rw [(commits_require.mp commits).2]

/-- An expected value keeps every observation. -/
theorem keeps_expect {found : Option α} :
    (expect found reason : Transaction ε σ α).Keeps observe := by
  intro state value later commits
  rw [(commits_expect.mp commits).2]

/-- A lookup keeps every observation. -/
theorem keeps_lookup {look : σ → Option α} : (lookup look reason).Keeps observe := by
  intro state value later commits
  rw [(commits_lookup.mp commits).2]

/-- A query keeps every observation. -/
theorem keeps_query {look : σ → α} : (query look : Transaction ε σ α).Keeps observe := by
  intro state value later commits
  rw [(commits_query.mp commits).2]

/-- A write keeps an observation that its change keeps. -/
theorem keeps_write {change : σ → α × σ} (kept : ∀ state, observe (change state).2 = observe state) :
    (write change : Transaction ε σ α).Keeps observe := by
  intro state value later commits
  rw [← (commits_write.mp commits).2, kept]

/-- The frame rule: the continuation has to keep the observation for the values that the first
transaction can return. -/
theorem keeps_bind {first : Transaction ε σ α} {next : α → Transaction ε σ β}
    (first_keeps : first.Keeps observe)
    (next_keeps : ∀ state value later, first.Commits state value later →
      (next value).Keeps observe) :
    (first >>= next).Keeps observe := by
  intro state value later commits
  obtain ⟨middle, between, before, after⟩ := commits_bind.mp commits
  exact (next_keeps _ _ _ before after).trans (first_keeps before)

/-- A choice keeps what both branches keep. -/
theorem keeps_ite {condition : Prop} [Decidable condition] {first second : Transaction ε σ α}
    (first_keeps : condition → first.Keeps observe)
    (second_keeps : ¬condition → second.Keeps observe) :
    (if condition then first else second).Keeps observe := by
  by_cases holds : condition
  · rw [if_pos holds]
    exact first_keeps holds
  · rw [if_neg holds]
    exact second_keeps holds

end Frames

end Transaction

end Iq.Library
