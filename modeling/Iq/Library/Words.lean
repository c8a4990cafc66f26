import Mathlib.Data.List.Flatten
import Mathlib.Tactic.Common

/-!
# Words

A word of a list is a longest stretch of it without the elements that separate words. `tidy` is
the list with one separator in each gap between two words and none at its ends, as a scanner writes
it that passes over the list once and keeps in mind whether a separator is due.
-/

namespace Iq.Library

variable {α : Type*} {separates : α → Bool} {separator : α}

/-- The words of a list. -/
def wordsBy (separates : α → Bool) (list : List α) : List (List α) :=
  (list.splitOnP separates).filter (!·.isEmpty)

/-- A list with one separator in each gap. The flags say whether a separator is due before the next
word, and whether a word was written before. -/
def tidy (separates : α → Bool) (separator : α) : Bool → Bool → List α → List α
  | _, _, [] => []
  | pending, started, element :: rest =>
    if separates element then tidy separates separator started started rest
    else if pending then separator :: element :: tidy separates separator false true rest
    else element :: tidy separates separator false true rest

/-- A separator is put off until a word follows. -/
theorem tidy_separating {pending started : Bool} {element : α} {rest : List α}
    (separating : separates element = true) :
    tidy separates separator pending started (element :: rest) =
      tidy separates separator started started rest := if_pos separating

/-- A word that follows another is separated from it. -/
theorem tidy_pending {started : Bool} {element : α} {rest : List α}
    (kept : separates element = false) :
    tidy separates separator true started (element :: rest) =
      separator :: element :: tidy separates separator false true rest := by
  rw [tidy, if_neg (by rw [kept]; exact Bool.false_ne_true), if_pos rfl]

/-- An element of a word is kept. -/
theorem tidy_kept {started : Bool} {element : α} {rest : List α}
    (kept : separates element = false) :
    tidy separates separator false started (element :: rest) =
      element :: tidy separates separator false true rest := by
  rw [tidy, if_neg (by rw [kept]; exact Bool.false_ne_true), if_neg Bool.false_ne_true]

/-- A separator before the words is dropped. -/
theorem wordsBy_separating {element : α} {rest : List α} (separating : separates element = true) :
    wordsBy separates (element :: rest) = wordsBy separates rest := by
  rw [wordsBy, List.splitOnP_cons_eq_if_modifyHead, if_pos separating,
    List.filter_cons_of_neg (by simp)]
  rfl

/-- The words of a list that separators cut. -/
theorem wordsBy_append_separating {element : α} {first rest : List α}
    (separating : separates element = true) :
    wordsBy separates (first ++ element :: rest) =
      wordsBy separates first ++ wordsBy separates rest := by
  rw [wordsBy, List.splitOnP_append_cons _ _ separating, List.filter_append]
  rfl

/-- A list without separators is its only word. -/
theorem wordsBy_of_kept {list : List α} (some_element : list ≠ [])
    (kept : ∀ element ∈ list, separates element = false) : wordsBy separates list = [list] := by
  rw [wordsBy, List.splitOnP_eq_singleton kept, List.filter_cons_of_pos]
  · rfl
  · simpa using some_element

/-- Words are read back from the list that joins them. -/
theorem wordsBy_intercalate {words : List (List α)} (separating : separates separator = true)
    (kept : ∀ word ∈ words, word ≠ [] ∧ ∀ element ∈ word, separates element = false) :
    wordsBy separates ([separator].intercalate words) = words := by
  induction words with
  | nil => simp [wordsBy]
  | cons first rest words_rest =>
    rw [List.forall_mem_cons] at kept
    cases rest with
    | nil =>
      rw [List.intercalate_singleton]
      exact wordsBy_of_kept kept.1.1 kept.1.2
    | cons second later =>
      rw [List.intercalate_cons_cons, List.append_assoc, List.singleton_append,
        wordsBy_append_separating separating, wordsBy_of_kept kept.1.1 kept.1.2,
        words_rest kept.2, List.singleton_append]

/-- No element of a piece separates pieces. -/
theorem kept_of_mem_splitOnP {list piece : List α} (mem : piece ∈ list.splitOnP separates) :
    ∀ element ∈ piece, separates element = false := by
  induction list generalizing piece with
  | nil =>
    rw [List.splitOnP_nil, List.mem_singleton] at mem
    simp [mem]
  | cons first rest kept_rest =>
    rw [List.splitOnP_cons_eq_if_modifyHead] at mem
    by_cases separating : separates first = true
    · rw [if_pos separating, List.mem_cons] at mem
      rcases mem with rfl | mem
      · exact fun _ none => nomatch none
      · exact kept_rest mem
    · obtain ⟨head, tail, split⟩ := List.exists_cons_of_ne_nil (List.splitOnP_ne_nil separates rest)
      rw [if_neg separating, split, List.modifyHead_cons, List.mem_cons] at mem
      rcases mem with rfl | mem
      · rw [List.forall_mem_cons]
        exact ⟨Bool.eq_false_iff.mpr separating, kept_rest (split ▸ List.mem_cons_self)⟩
      · exact kept_rest (split ▸ List.mem_cons_of_mem _ mem)

/-- A word is not empty and has no separator. -/
theorem kept_of_mem_wordsBy {list word : List α} (mem : word ∈ wordsBy separates list) :
    word ≠ [] ∧ ∀ element ∈ word, separates element = false := by
  obtain ⟨piece, some_element⟩ := List.mem_filter.mp mem
  exact ⟨by simpa using some_element, kept_of_mem_splitOnP piece⟩

/-- The words with a separator before each of them, without the first separator. -/
theorem intercalate_eq_tail (words : List (List α)) :
    [separator].intercalate words = (words.flatMap (separator :: ·)).tail := by
  induction words with
  | nil => rfl
  | cons first rest joined_rest =>
    cases rest with
    | nil => simp [List.intercalate_singleton]
    | cons second later =>
      rw [List.intercalate_cons_cons, joined_rest]
      simp

/-- What is written from each of the three states of the scanner: at the start, with a separator
due, and within a word. -/
theorem tidy_eq (list : List α) :
    tidy separates separator false false list =
        ((wordsBy separates list).flatMap (separator :: ·)).tail ∧
      tidy separates separator true true list =
          (wordsBy separates list).flatMap (separator :: ·) ∧
        tidy separates separator false true list = ((list.splitOnP separates).head?.getD []) ++
          ((list.splitOnP separates).tail.filter (!·.isEmpty)).flatMap (separator :: ·) := by
  induction list with
  | nil => simp [tidy, wordsBy]
  | cons element rest tidy_rest =>
    obtain ⟨first, pending, within⟩ := tidy_rest
    by_cases separating : separates element = true
    · rw [tidy_separating separating, tidy_separating separating, tidy_separating separating,
        wordsBy_separating separating, List.splitOnP_cons_eq_if_modifyHead, if_pos separating]
      exact ⟨first, pending, pending⟩
    · have kept : separates element = false := Bool.eq_false_iff.mpr separating
      obtain ⟨head, tail, split⟩ := List.exists_cons_of_ne_nil (List.splitOnP_ne_nil separates rest)
      rw [split] at within
      have pieces : (element :: rest).splitOnP separates = (element :: head) :: tail := by
        rw [List.splitOnP_cons_eq_if_modifyHead, if_neg separating, split, List.modifyHead_cons]
      rw [tidy_kept kept, tidy_pending kept, tidy_kept kept, within, wordsBy, pieces]
      simp

/-- The tidy list joins the words with one separator in each gap. -/
theorem tidy_eq_intercalate (list : List α) :
    tidy separates separator false false list =
      [separator].intercalate (wordsBy separates list) :=
  (tidy_eq list).1.trans (intercalate_eq_tail _).symm

/-- Where a separator is due, nothing else comes first. -/
theorem mem_head?_tidy_pending {list : List α} :
    ∀ first ∈ (tidy separates separator true true list).head?, first = separator := by
  induction list with
  | nil => exact fun _ none => nomatch none
  | cons element rest head_rest =>
    by_cases separating : separates element = true
    · rw [tidy_separating separating]
      exact head_rest
    · rw [tidy_pending (Bool.eq_false_iff.mpr separating)]
      exact fun _ first => (Option.some.inj first).symm

/-- The words of a tidy list are those of the list. -/
theorem wordsBy_tidy (separating : separates separator = true) (list : List α) :
    wordsBy separates (tidy separates separator false false list) = wordsBy separates list := by
  rw [tidy_eq_intercalate]
  exact wordsBy_intercalate separating fun word mem => kept_of_mem_wordsBy mem

/-- Tidying drops only separators. -/
theorem filter_tidy {pending started : Bool} {list : List α} {chosen : α → Bool}
    (dropped : ∀ element, separates element = true → chosen element = false)
    (gap : chosen separator = false) :
    (tidy separates separator pending started list).filter chosen = list.filter chosen := by
  induction list generalizing pending started with
  | nil => rfl
  | cons element rest filter_rest =>
    by_cases separating : separates element = true
    · rw [tidy_separating separating, filter_rest,
        List.filter_cons_of_neg (by rw [dropped element separating]; exact Bool.false_ne_true)]
    · have kept : separates element = false := Bool.eq_false_iff.mpr separating
      cases pending with
      | true =>
        rw [tidy_pending kept, List.filter_cons_of_neg (by rw [gap]; exact Bool.false_ne_true),
          List.filter_cons, List.filter_cons, filter_rest]
      | false => rw [tidy_kept kept, List.filter_cons, List.filter_cons, filter_rest]

end Iq.Library
