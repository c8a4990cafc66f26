import Iq.Library.JsonFields
import Mathlib.Data.List.Sort

/-!
# The order of texts

Texts in the order of their characters, as `Ord` compares `String`s, and sorted lists of them.
-/

namespace Iq.Library

namespace JsonText

/-- Texts are compared by their first characters, then by the rest. -/
theorem isBefore_cons {first second : Char} {before after : List Char} :
    isBefore (first :: before) (second :: after) = true ↔
      first.toNat < second.toNat ∨ first = second ∧ isBefore before after = true := by
  simp [isBefore]

/-- Of two texts one is before the other at most. -/
theorem isBefore_asymm {text other : List Char} (before : isBefore text other = true) :
    isBefore other text = false := by
  induction text, other using isBefore.induct with
  | case1 text => cases text <;> cases before
  | case2 first rest => rfl
  | case3 first rest second after asymm_rest =>
    rw [isBefore_cons] at before
    rw [Bool.eq_false_iff, ne_eq, isBefore_cons]
    rintro (less | ⟨rfl, later⟩)
    · rcases before with greater | ⟨rfl, -⟩ <;> omega
    · rcases before with less | ⟨-, before⟩
      · omega
      · rw [asymm_rest before] at later
        cases later

/-- Of two characters that differ, one comes first. -/
theorem less_or_greater {first second : Char} (apart : first ≠ second) :
    first.toNat < second.toNat ∨ second.toNat < first.toNat :=
  Nat.lt_or_gt_of_ne fun values => apart (Char.toNat_inj.mp values)

/-- Any text comes after the first of two or before the second of them. -/
theorem isBefore_or_isBefore {text other middle : List Char} (before : isBefore text other = true) :
    isBefore text middle = true ∨ isBefore middle other = true := by
  induction text, other using isBefore.induct generalizing middle with
  | case1 text => cases text <;> cases before
  | case2 first rest =>
    cases middle with
    | nil => exact .inr rfl
    | cons next later => exact .inl rfl
  | case3 first rest second after before_rest =>
    cases middle with
    | nil => exact .inr rfl
    | cons next later =>
      rw [isBefore_cons] at before ⊢
      rw [isBefore_cons]
      by_cases same : first = next
      · subst same
        rcases before with less | ⟨rfl, before⟩
        · exact .inr (.inl less)
        · have split : isBefore rest later = true ∨ isBefore later after = true :=
            before_rest before
          tauto
      · have apart := less_or_greater same
        rcases before with less | ⟨rfl, -⟩
        · by_cases left : first.toNat < next.toNat
          · exact .inl (.inl left)
          · exact .inr (.inl (by omega))
        · tauto

/-- Texts of which none is before the other are the same. -/
theorem eq_of_not_isBefore {text other : List Char} (first : isBefore text other = false)
    (second : isBefore other text = false) : text = other := by
  induction text, other using isBefore.induct with
  | case1 text =>
    cases text with
    | nil => rfl
    | cons head tail => cases second
  | case2 head tail => cases first
  | case3 head rest next after eq_rest =>
    have left := mt isBefore_cons.mpr (Bool.eq_false_iff.mp first)
    have right := mt isBefore_cons.mpr (Bool.eq_false_iff.mp second)
    have same : head = next := by
      by_contra apart
      have order := less_or_greater apart
      omega
    subst same
    have tails := eq_rest (Bool.eq_false_iff.mpr fun before => left (.inr ⟨rfl, before⟩))
      (Bool.eq_false_iff.mpr fun before => right (.inr ⟨rfl, before⟩))
    rw [tails]

end JsonText

/-- The order of texts. -/
def TextOrder (text other : String) : Prop := JsonText.isBefore other.toList text.toList = false

instance : DecidableRel TextOrder := fun text other =>
  inferInstanceAs (Decidable (JsonText.isBefore other.toList text.toList = false))

instance : Std.Total TextOrder where
  total text other := by
    by_contra neither
    simp only [TextOrder, not_or, Bool.not_eq_false] at neither
    rw [JsonText.isBefore_asymm neither.1] at neither
    cases neither.2

instance : IsTrans String TextOrder where
  trans text middle other first second := by
    by_contra before
    simp only [TextOrder, Bool.not_eq_false] at before first second
    have split : JsonText.isBefore other.toList middle.toList = true ∨
        JsonText.isBefore middle.toList text.toList = true := JsonText.isBefore_or_isBefore before
    rcases split with left | right
    · rw [second] at left
      cases left
    · rw [first] at right
      cases right

/-- `sort`. -/
def sortedTexts (texts : List String) : List String := texts.insertionSort TextOrder

/-- Sorting keeps the texts. -/
theorem mem_sortedTexts {texts : List String} {text : String} :
    text ∈ sortedTexts texts ↔ text ∈ texts := List.mem_insertionSort _

/-- Sorting keeps texts distinct. -/
theorem nodup_sortedTexts {texts : List String} : (sortedTexts texts).Nodup ↔ texts.Nodup :=
  (List.perm_insertionSort _ _).nodup_iff

/-- Sorted texts are in order. -/
theorem pairwise_sortedTexts (texts : List String) : (sortedTexts texts).Pairwise TextOrder :=
  List.pairwise_insertionSort _ _

/-- Lists without duplicates that have the same elements are sorted alike. -/
theorem sortedTexts_eq {texts others : List String} (nodup : texts.Nodup) (nodup' : others.Nodup)
    (same : ∀ text, text ∈ texts ↔ text ∈ others) : sortedTexts texts = sortedTexts others := by
  have perm : (sortedTexts texts).Perm (sortedTexts others) := by
    rw [List.perm_ext_iff_of_nodup (nodup_sortedTexts.mpr nodup) (nodup_sortedTexts.mpr nodup')]
    intro text
    rw [mem_sortedTexts, mem_sortedTexts, same]
  refine perm.eq_of_pairwise (fun text other _ _ first second => ?_) (pairwise_sortedTexts _)
    (pairwise_sortedTexts _)
  exact String.toList_injective (JsonText.eq_of_not_isBefore second first)

end Iq.Library
