import Mathlib.Data.List.DropRight
import Mathlib.Tactic.Common

/-!
# Trimmed lists

A list without the elements at both ends that satisfy a condition. It stands within the list, and
is the list itself exactly when neither end satisfies the condition.
-/

namespace Iq.Library

variable {α : Type*} {drops : α → Bool} {list : List α}

/-- A list without what its two ends drop. -/
def trim (drops : α → Bool) (list : List α) : List α :=
  ((list.dropWhile drops).reverse.dropWhile drops).reverse

/-- A condition does not hold of the end of a list, if it has one. -/
def Keeps (drops : α → Bool) (last : Option α) : Prop := ∀ element ∈ last, drops element = false

/-- A trimmed list begins with the first element that is not dropped. -/
theorem head?_of_trim {first : α} (starts : (trim drops list).head? = some first) :
    (list.dropWhile drops).head? = some first := by
  obtain ⟨rest, whole⟩ := List.rdropWhile_prefix drops (list.dropWhile drops)
  obtain ⟨tail, kept⟩ := List.head?_eq_some_iff.mp starts
  have trimmed : (list.dropWhile drops).rdropWhile drops = first :: tail := kept
  rw [← whole, trimmed]
  rfl

/-- A dropped element at the end makes no difference. -/
theorem trim_concat {last : α} (dropped : drops last = true) :
    trim drops (list ++ [last]) = trim drops list := by
  have outer : ∀ front : List α,
      ((front ++ [last]).reverse.dropWhile drops).reverse =
        (front.reverse.dropWhile drops).reverse :=
    fun front => List.rdropWhile_concat_pos drops front last dropped
  unfold trim
  rw [List.dropWhile_append]
  split
  · rename_i all
    rw [List.isEmpty_iff.mp all, List.dropWhile_cons_of_pos dropped]
    rfl
  · exact outer _

/-- Nothing is dropped when the head is kept. -/
theorem dropWhile_eq_self_iff_keeps : list.dropWhile drops = list ↔ Keeps drops list.head? := by
  cases list with
  | nil => simp [Keeps]
  | cons first rest =>
    rw [List.dropWhile_eq_self_iff]
    simp [Keeps]

/-- Nothing is trimmed when both ends are kept. -/
theorem trim_eq_self_iff :
    trim drops list = list ↔ Keeps drops list.head? ∧ Keeps drops list.getLast? := by
  have last : ((list.reverse).dropWhile drops).reverse = list ↔ Keeps drops list.getLast? := by
    rw [List.reverse_eq_iff, dropWhile_eq_self_iff_keeps, List.head?_reverse]
  constructor
  · intro same
    have whole : list.dropWhile drops = list := by
      refine (List.dropWhile_suffix drops).eq_of_length_le ?_
      have short := (List.rdropWhile_prefix drops (list.dropWhile drops)).length_le
      have long : (trim drops list).length = list.length := by rw [same]
      unfold trim at long
      unfold List.rdropWhile at short
      omega
    unfold trim at same
    rw [whole] at same
    exact ⟨dropWhile_eq_self_iff_keeps.mp whole, last.mp same⟩
  · rintro ⟨head, tail⟩
    unfold trim
    rw [dropWhile_eq_self_iff_keeps.mpr head]
    exact last.mpr tail

end Iq.Library
