import Iq.Library.Transaction

/-!
# Weakest preconditions of transactions

`wp transaction ok stop` holds of a state from which a commit ends in `ok` and an abort gives a
reason in `stop`. The equations compute it along the sequential structure of a transaction, so a
routine is verified by rewriting with them and proving what is left about the data it reads; a
routine that has its own rule is used through `wp_of_bind` and `wp_mono`. Invariants of every commit
and reasons that no abort gives are the two readings used most.
-/

namespace Iq.Library.Transaction

universe u v w

variable {ε : Type u} {σ : Type v} {α β : Type w} {state later : σ} {reason : ε}
  {ok other : α → σ → Prop} {stop allowed : ε → Prop}

/-- What must hold before a transaction for its commits to end in `ok` and its aborts in `stop`. -/
def wp (transaction : Transaction ε σ α) (ok : α → σ → Prop) (stop : ε → Prop) (state : σ) :
    Prop :=
  match transaction state with
  | .ok (value, later) => ok value later
  | .error reason => stop reason

/-- The reading of a weakest precondition by commits and aborts. -/
theorem wp_iff {transaction : Transaction ε σ α} :
    transaction.wp ok stop state ↔
      (∀ value later, transaction.Commits state value later → ok value later) ∧
        ∀ reason, transaction.Aborts state reason → stop reason := by
  unfold wp Commits Aborts
  cases transaction state with
  | ok committed =>
    constructor
    · intro holds
      refine ⟨?_, nofun⟩
      rintro value later ⟨⟩
      exact holds
    · intro both
      exact both.1 _ _ rfl
  | error reason =>
    constructor
    · intro holds
      refine ⟨nofun, ?_⟩
      rintro other ⟨⟩
      exact holds
    · intro both
      exact both.2 _ rfl

/-- The rule of consequence. -/
theorem wp_mono {transaction : Transaction ε σ α} (holds : transaction.wp ok stop state)
    (weaker : ∀ value later, transaction.Commits state value later → ok value later →
      other value later)
    (softer : ∀ reason, stop reason → allowed reason) : transaction.wp other allowed state := by
  rw [wp_iff] at holds ⊢
  exact ⟨fun value later commits => weaker value later commits (holds.1 value later commits),
    fun reason aborts => softer reason (holds.2 reason aborts)⟩

/-! ## Equations -/

/-- The rule of a value. -/
@[simp] theorem wp_pure {value : α} :
    (pure value : Transaction ε σ α).wp ok stop state ↔ ok value state := Iff.rfl

/-- The rule of a sequence: what the second part needs is what the first has to give. -/
@[simp] theorem wp_bind {first : Transaction ε σ α} {next : α → Transaction ε σ β}
    {final : β → σ → Prop} :
    (first >>= next).wp final stop state ↔
      first.wp (fun value => (next value).wp final stop) stop state := by
  simp only [wp, bind, andThen]
  cases first state <;> rfl

/-- The rule of a mapped transaction. -/
@[simp] theorem wp_map {change : α → β} {transaction : Transaction ε σ α}
    {final : β → σ → Prop} :
    (change <$> transaction).wp final stop state ↔
      transaction.wp (fun value => final (change value)) stop state :=
  wp_bind

/-- The rule of a required condition. -/
@[simp] theorem wp_require {condition : Prop} [Decidable condition]
    {final : Unit → σ → Prop} :
    (require condition reason : Transaction ε σ Unit).wp final stop state ↔
      (condition → final () state) ∧ (¬condition → stop reason) := by
  by_cases holds : condition <;> simp [wp, require, holds]

/-- The rule of an expected value. -/
@[simp] theorem wp_expect {found : Option α} :
    (expect found reason : Transaction ε σ α).wp ok stop state ↔
      (∀ value, found = some value → ok value state) ∧ (found = none → stop reason) := by
  cases found <;> simp [wp, expect]

/-- The rule of a lookup. -/
@[simp] theorem wp_lookup {look : σ → Option α} :
    (lookup look reason).wp ok stop state ↔
      (∀ value, look state = some value → ok value state) ∧
        (look state = none → stop reason) := by
  cases outcome : look state <;> simp [wp, lookup, outcome]

/-- The rule of a query. -/
@[simp] theorem wp_query {look : σ → α} :
    (query look : Transaction ε σ α).wp ok stop state ↔ ok (look state) state := Iff.rfl

/-- The rule of a write. -/
@[simp] theorem wp_write {change : σ → α × σ} :
    (write change : Transaction ε σ α).wp ok stop state ↔
      ok (change state).1 (change state).2 := Iff.rfl

/-- The rule of a choice. -/
@[simp] theorem wp_ite {condition : Prop} [Decidable condition]
    {first second : Transaction ε σ α} :
    (if condition then first else second).wp ok stop state ↔
      (condition → first.wp ok stop state) ∧ (¬condition → second.wp ok stop state) := by
  by_cases holds : condition <;> simp [holds]

/-! ## Invariants and excluded reasons -/

/-- Every commit keeps a property of the state. -/
def Preserves (property : σ → Prop) (transaction : Transaction ε σ α) : Prop :=
  ∀ state, property state → transaction.wp (fun _ => property) (fun _ => True) state

/-- No abort from a state gives one of the excluded reasons. -/
def Avoids (excluded : ε → Prop) (transaction : Transaction ε σ α) (state : σ) : Prop :=
  transaction.wp (fun _ _ => True) (fun reason => ¬excluded reason) state

/-- A commit keeps what the transaction preserves. -/
theorem Preserves.of_commits {property : σ → Prop} {transaction : Transaction ε σ α} {value : α}
    (preserves : transaction.Preserves property) (holds : property state)
    (commits : transaction.Commits state value later) : property later :=
  (wp_iff.mp (preserves state holds)).1 value later commits

/-- Every commit from a state with one property ends in a state with another. -/
def Takes (before after : σ → Prop) (transaction : Transaction ε σ α) : Prop :=
  ∀ state, before state → transaction.wp (fun _ => after) (fun _ => True) state

/-- A sequence takes a property to another by way of one between. -/
theorem takes_bind {before middle after : σ → Prop} {first : Transaction ε σ α}
    {next : α → Transaction ε σ β} (left : first.Takes before middle)
    (right : ∀ value, (next value).Takes middle after) : (first >>= next).Takes before after := by
  intro state holds
  rw [wp_bind]
  exact wp_mono (left state holds) (fun value later _ reached => right value later reached)
    fun _ _ => trivial

/-- A first part that keeps the property leaves the passage to the rest. -/
theorem takes_bind_of_preserves {before after : σ → Prop} {first : Transaction ε σ α}
    {next : α → Transaction ε σ β} (left : first.Preserves before)
    (right : ∀ value, (next value).Takes before after) : (first >>= next).Takes before after :=
  takes_bind left right

/-- A commit leads from the first property to the second. -/
theorem Takes.of_commits {before after : σ → Prop} {transaction : Transaction ε σ α} {value : α}
    (takes : transaction.Takes before after) (holds : before state)
    (commits : transaction.Commits state value later) : after later :=
  (wp_iff.mp (takes state holds)).1 value later commits

/-- Two properties that are kept are kept together. -/
theorem Preserves.and {first second : σ → Prop} {transaction : Transaction ε σ α}
    (left : transaction.Preserves first) (right : transaction.Preserves second) :
    transaction.Preserves fun state => first state ∧ second state := by
  intro state holds
  rw [wp_iff]
  refine ⟨fun value later commits => ?_, fun _ _ => trivial⟩
  exact ⟨left.of_commits holds.1 commits, right.of_commits holds.2 commits⟩

section Preserves

variable {property : σ → Prop}

/-- A value preserves every property. -/
@[simp] theorem preserves_pure {value : α} :
    (pure value : Transaction ε σ α).Preserves property := fun _ holds => holds

/-- An abort preserves every property. -/
@[simp] theorem preserves_abort : (abort reason : Transaction ε σ α).Preserves property :=
  fun _ _ => trivial

/-- A required condition preserves every property. -/
@[simp] theorem preserves_require {condition : Prop} [Decidable condition] :
    (require condition reason : Transaction ε σ Unit).Preserves property :=
  fun _ holds => wp_require.mpr ⟨fun _ => holds, fun _ => trivial⟩

/-- An expected value preserves every property. -/
@[simp] theorem preserves_expect {found : Option α} :
    (expect found reason : Transaction ε σ α).Preserves property :=
  fun _ holds => wp_expect.mpr ⟨fun _ _ => holds, fun _ => trivial⟩

/-- A lookup preserves every property. -/
@[simp] theorem preserves_lookup {look : σ → Option α} :
    (lookup look reason).Preserves property :=
  fun _ holds => wp_lookup.mpr ⟨fun _ _ => holds, fun _ => trivial⟩

/-- A query preserves every property. -/
@[simp] theorem preserves_query {look : σ → α} :
    (query look : Transaction ε σ α).Preserves property := fun _ holds => holds

/-- A write preserves what its change does. -/
theorem preserves_write {change : σ → α × σ}
    (kept : ∀ state, property state → property (change state).2) :
    (write change : Transaction ε σ α).Preserves property := kept

/-- A sequence preserves what both parts do. -/
@[simp] theorem preserves_bind {first : Transaction ε σ α} {next : α → Transaction ε σ β}
    (before : first.Preserves property) (after : ∀ value, (next value).Preserves property) :
    (first >>= next).Preserves property := by
  intro state holds
  rw [wp_bind]
  exact wp_mono (before state holds) (fun value later _ kept => after value later kept)
    fun _ _ => trivial

/-- A mapped transaction preserves what the transaction does. -/
@[simp] theorem preserves_map {change : α → β} {transaction : Transaction ε σ α}
    (kept : transaction.Preserves property) : (change <$> transaction).Preserves property :=
  fun state holds => wp_map.mpr (kept state holds)

/-- A choice preserves what both branches do. -/
@[simp] theorem preserves_ite {condition : Prop} [Decidable condition]
    {first second : Transaction ε σ α} (left : first.Preserves property)
    (right : second.Preserves property) :
    (if condition then first else second).Preserves property := by
  by_cases holds : condition
  · rwa [if_pos holds]
  · rwa [if_neg holds]

end Preserves

/-- To avoid reasons is to abort for none of them. -/
theorem avoids_iff {excluded : ε → Prop} {transaction : Transaction ε σ α} :
    transaction.Avoids excluded state ↔
      ∀ reason, transaction.Aborts state reason → ¬excluded reason := by
  rw [Avoids, wp_iff]
  simp

/-- From no state does an abort give one of the excluded reasons. -/
def Excludes (excluded : ε → Prop) (transaction : Transaction ε σ α) : Prop :=
  ∀ state, transaction.Avoids excluded state

section Excludes

variable {excluded : ε → Prop}

/-- A sequence avoids reasons when its first part does, and the second on what it leaves. -/
theorem avoids_bind {first : Transaction ε σ α} {next : α → Transaction ε σ β}
    (before : first.Avoids excluded state)
    (after : ∀ value later, first.Commits state value later →
      (next value).Avoids excluded later) : (first >>= next).Avoids excluded state := by
  rw [Avoids, wp_bind]
  exact wp_mono before (fun value later commits _ => after value later commits) fun _ => id

/-- A value aborts for no reason. -/
@[simp] theorem excludes_pure {value : α} :
    (pure value : Transaction ε σ α).Excludes excluded := fun _ => trivial

/-- A query aborts for no reason. -/
@[simp] theorem excludes_query {look : σ → α} :
    (query look : Transaction ε σ α).Excludes excluded := fun _ => trivial

/-- A write aborts for no reason. -/
@[simp] theorem excludes_write {change : σ → α × σ} :
    (write change : Transaction ε σ α).Excludes excluded := fun _ => trivial

/-- A required condition excludes the reasons that are not its own. -/
theorem excludes_require {condition : Prop} [Decidable condition] (other : ¬excluded reason) :
    (require condition reason : Transaction ε σ Unit).Excludes excluded :=
  fun _ => wp_require.mpr ⟨fun _ => trivial, fun _ => other⟩

/-- An expected value excludes the reasons that are not its own. -/
theorem excludes_expect {found : Option α} (other : ¬excluded reason) :
    (expect found reason : Transaction ε σ α).Excludes excluded :=
  fun _ => wp_expect.mpr ⟨fun _ _ => trivial, fun _ => other⟩

/-- A lookup excludes the reasons that are not its own. -/
theorem excludes_lookup {look : σ → Option α} (other : ¬excluded reason) :
    (lookup look reason).Excludes excluded :=
  fun _ => wp_lookup.mpr ⟨fun _ _ => trivial, fun _ => other⟩

/-- A sequence excludes what both parts do. -/
theorem excludes_bind {first : Transaction ε σ α} {next : α → Transaction ε σ β}
    (before : first.Excludes excluded) (after : ∀ value, (next value).Excludes excluded) :
    (first >>= next).Excludes excluded :=
  fun state => avoids_bind (before state) fun value later _ => after value later

/-- After a check its condition holds. -/
theorem excludes_require_bind {γ : Type} {condition : Prop} [Decidable condition]
    {next : Unit → Transaction ε σ γ} (other : ¬excluded reason)
    (after : condition → (next ()).Excludes excluded) :
    (require condition reason >>= next).Excludes excluded := by
  intro state
  rw [Avoids, wp_bind, wp_require]
  exact ⟨fun holds => after holds state, fun _ => other⟩

/-- After an expectation its value was found. -/
theorem excludes_expect_bind {found : Option α} {next : α → Transaction ε σ β}
    (other : ¬excluded reason)
    (after : ∀ value, found = some value → (next value).Excludes excluded) :
    (expect found reason >>= next).Excludes excluded := by
  intro state
  rw [Avoids, wp_bind, wp_expect]
  exact ⟨fun value holds => after value holds state, fun _ => other⟩

/-- A query is answered by the state it is asked in. -/
theorem excludes_query_bind {look : σ → α} {next : α → Transaction ε σ β}
    (after : ∀ state, (next (look state)).Excludes excluded) :
    (query look >>= next).Excludes excluded :=
  fun state => after state state

/-- A choice excludes what the branch that is taken does. -/
theorem excludes_ite {condition : Prop} [Decidable condition] {first second : Transaction ε σ α}
    (left : condition → first.Excludes excluded)
    (right : ¬condition → second.Excludes excluded) :
    (if condition then first else second).Excludes excluded := by
  by_cases holds : condition
  · rw [if_pos holds]
    exact left holds
  · rw [if_neg holds]
    exact right holds

end Excludes

end Iq.Library.Transaction
