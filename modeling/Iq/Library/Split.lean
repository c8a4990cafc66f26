import Mathlib.Algebra.BigOperators.Group.List.Basic
import Mathlib.Algebra.Ring.Nat
import Mathlib.Tactic.Common

/-!
# Lists split at a separator

The pieces of a list between the occurrences of a separator. A list has one decomposition into
pieces that hold no separator, so a list of pieces is the split of what it joins to exactly when the
separator occurs in none of them. Of the first few pieces only the last may hold it.
-/

namespace Iq.Library

variable {α : Type*} [BEq α] [LawfulBEq α] {separator : α} {text piece : List α}
  {pieces : List (List α)}

/-- No piece of a split holds the separator. -/
theorem not_mem_of_mem_splitOn (mem : piece ∈ text.splitOn separator) : separator ∉ piece := by
  induction text generalizing piece with
  | nil =>
    rw [List.splitOn_nil, List.mem_singleton] at mem
    simp [mem]
  | cons head rest unseparated =>
    rw [List.splitOn_cons_eq_if_modifyHead] at mem
    split at mem
    · rcases List.mem_cons.mp mem with rfl | mem
      · simp
      · exact unseparated mem
    · rename_i other
      rcases List.exists_cons_of_ne_nil (List.splitOn_ne_nil separator rest) with
        ⟨first, later, pieces⟩
      rw [pieces, List.modifyHead_cons] at mem
      rcases List.mem_cons.mp mem with rfl | mem
      · have free : separator ∉ first := unseparated (by rw [pieces]; exact List.mem_cons_self ..)
        have distinct : separator ≠ head := by
          rintro rfl
          exact other (beq_self_eq_true _)
        simp [free, distinct]
      · exact unseparated (by rw [pieces]; exact List.mem_cons_of_mem _ mem)

/-- A list splits into the pieces that it joins and that hold no separator. -/
theorem splitOn_eq_iff :
    text.splitOn separator = pieces ↔
      pieces ≠ [] ∧ text = [separator].intercalate pieces ∧
        ∀ piece ∈ pieces, separator ∉ piece := by
  constructor
  · rintro rfl
    have joined := @List.intercalate_splitOn _ text _ _ separator
    exact ⟨List.splitOn_ne_nil separator text, joined.symm, fun _ => not_mem_of_mem_splitOn⟩
  · rintro ⟨some, rfl, free⟩
    exact List.splitOn_intercalate separator free some

omit [BEq α] [LawfulBEq α] in
/-- The elements of a join are its separators and those of the pieces. -/
theorem mem_intercalate {element : α} (other : element ≠ separator) :
    element ∈ [separator].intercalate pieces ↔ ∃ piece ∈ pieces, element ∈ piece := by
  induction pieces with
  | nil => simp [List.intercalate]
  | cons first rest mem_rest =>
    cases rest with
    | nil => simp [List.intercalate]
    | cons second later =>
      rw [List.intercalate_cons_cons]
      simp only [List.mem_append, mem_rest, List.mem_cons, List.not_mem_nil, other, or_false,
        exists_eq_or_imp]

/-- Every element of a list is the separator or belongs to a piece. -/
theorem mem_iff_mem_splitOn {element : α} (other : element ≠ separator) :
    element ∈ text ↔ ∃ piece ∈ text.splitOn separator, element ∈ piece := by
  have joined := @List.intercalate_splitOn _ text _ _ separator
  rw [← mem_intercalate other, joined]

omit [BEq α] [LawfulBEq α] in
/-- Pieces that are joined in two parts. -/
theorem intercalate_append {others : List (List α)} (some_piece : pieces ≠ [])
    (some_other : others ≠ []) :
    [separator].intercalate (pieces ++ others) =
      [separator].intercalate pieces ++ separator :: [separator].intercalate others := by
  induction pieces with
  | nil => exact absurd rfl some_piece
  | cons first rest append_rest =>
    cases rest with
    | nil =>
      obtain ⟨second, later, rfl⟩ := List.exists_cons_of_ne_nil some_other
      simp [List.intercalate_cons_cons]
    | cons second later =>
      have tail := append_rest (List.cons_ne_nil second later)
      simp only [List.cons_append, List.intercalate_cons_cons] at tail ⊢
      rw [tail]
      simp

omit [BEq α] [LawfulBEq α] in
/-- Pieces that are not empty and hold no separator join to a list that neither begins nor ends with
the separator. -/
theorem ends_of_intercalate (some_piece : pieces ≠ [])
    (free : ∀ piece ∈ pieces, piece ≠ [] ∧ separator ∉ piece) :
    [separator].intercalate pieces ≠ [] ∧
      ([separator].intercalate pieces).head? ≠ some separator ∧
      ([separator].intercalate pieces).getLast? ≠ some separator := by
  have first_free : ∀ piece ∈ pieces, piece.head? ≠ some separator := by
    intro piece mem starts
    exact (free piece mem).2 (List.mem_of_head? starts)
  have last_free : ∀ piece ∈ pieces, piece.getLast? ≠ some separator := by
    intro piece mem ends
    exact (free piece mem).2 (List.mem_of_getLast? ends)
  induction pieces with
  | nil => exact absurd rfl some_piece
  | cons first rest ends_rest =>
    have first_some : first ≠ [] := (free first List.mem_cons_self).1
    cases rest with
    | nil =>
      rw [List.intercalate_singleton]
      exact ⟨first_some, first_free _ List.mem_cons_self, last_free _ List.mem_cons_self⟩
    | cons second later =>
      have tail := ends_rest (by simp) (fun piece mem => free piece (List.mem_cons_of_mem _ mem))
        (fun piece mem => first_free piece (List.mem_cons_of_mem _ mem))
        (fun piece mem => last_free piece (List.mem_cons_of_mem _ mem))
      rw [List.intercalate_cons_cons]
      refine ⟨by simp [first_some], ?_, ?_⟩
      · obtain ⟨head, starts⟩ :=
          Option.ne_none_iff_exists'.mp (mt List.head?_eq_none_iff.mp first_some)
        have other := first_free first List.mem_cons_self
        rw [List.append_assoc, List.head?_append, starts, Option.some_or, ← starts]
        exact other
      · obtain ⟨last, ends⟩ :=
          Option.ne_none_iff_exists'.mp (mt List.getLast?_eq_none_iff.mp tail.1)
        have other := tail.2.2
        rw [List.getLast?_append, ends, Option.some_or, ← ends]
        exact other

omit [BEq α] [LawfulBEq α] in
/-- Joined pieces begin with the first. -/
theorem head?_intercalate {first : List α} {rest : List (List α)} (some_first : first ≠ []) :
    ([separator].intercalate (first :: rest)).head? = first.head? := by
  obtain ⟨head, tail, rfl⟩ := List.exists_cons_of_ne_nil some_first
  cases rest with
  | nil => rw [List.intercalate_singleton]
  | cons second later =>
    rw [List.intercalate_cons_cons]
    rfl

omit [BEq α] [LawfulBEq α] in
/-- Joined pieces end with the last. -/
theorem getLast?_intercalate {last : List α} (some_last : last ≠ []) :
    ([separator].intercalate (pieces ++ [last])).getLast? = last.getLast? := by
  by_cases some_piece : pieces = []
  · rw [some_piece, List.nil_append, List.intercalate_singleton]
  · rw [intercalate_append some_piece (List.cons_ne_nil last []), List.intercalate_singleton,
      List.getLast?_append_of_ne_nil _ (List.cons_ne_nil separator last),
      List.getLast?_cons_of_ne_nil some_last]

omit [BEq α] [LawfulBEq α] in
/-- Pieces that each have a separator after them join with one at the end. -/
theorem flatMap_terminated (some_piece : pieces ≠ []) :
    pieces.flatMap (· ++ [separator]) = [separator].intercalate pieces ++ [separator] := by
  induction pieces with
  | nil => exact absurd rfl some_piece
  | cons first rest joined_rest =>
    cases rest with
    | nil => simp [List.intercalate_singleton]
    | cons second later =>
      rw [List.flatMap_cons, joined_rest (List.cons_ne_nil second later),
        List.intercalate_cons_cons]
      simp

/-- Pieces that each have a separator after them. -/
theorem splitOn_terminated (free : ∀ piece ∈ pieces, separator ∉ piece) :
    (pieces.flatMap (· ++ [separator])).splitOn separator = pieces ++ [[]] := by
  have joined : pieces.flatMap (· ++ [separator]) = [separator].intercalate (pieces ++ [[]]) := by
    by_cases some_piece : pieces = []
    · rw [some_piece]
      rfl
    · rw [flatMap_terminated some_piece,
        intercalate_append some_piece (List.cons_ne_nil [] []), List.intercalate_singleton]
  refine splitOn_eq_iff.mpr ⟨by simp, joined, fun piece mem => ?_⟩
  rcases List.mem_append.mp mem with old | last
  · exact free piece old
  · rw [List.mem_singleton.mp last]
    exact List.not_mem_nil

/-! ## The first occurrence -/

/-- `str::split_once`: what stands before and after the first occurrence of a pattern. -/
def splitOnce (pattern : List α) : List α → Option (List α × List α)
  | [] => if pattern.isEmpty then some ([], []) else none
  | head :: rest =>
    if pattern.isPrefixOf (head :: rest) then some ([], (head :: rest).drop pattern.length)
    else (splitOnce pattern rest).map fun (before, after) => (head :: before, after)

/-- A text that is split is its parts. -/
theorem eq_of_splitOnce {pattern before after : List α}
    (split : splitOnce pattern text = some (before, after)) :
    text = before ++ pattern ++ after := by
  induction text generalizing before with
  | nil =>
    simp only [splitOnce, List.isEmpty_iff] at split
    split at split
    · rename_i empty
      cases split
      rw [empty]
      rfl
    · cases split
  | cons head rest eq_rest =>
    rw [splitOnce] at split
    split at split
    · rename_i starts
      obtain ⟨tail, whole⟩ := List.isPrefixOf_iff_prefix.mp starts
      cases split
      rw [← whole, List.drop_left, List.nil_append]
    · obtain ⟨⟨front, back⟩, found, same⟩ := Option.map_eq_some_iff.mp split
      cases same
      rw [eq_rest found]
      rfl

/-- `str::rsplit_once`: the halves around the last place of a separator. -/
def rsplitOnce (separator : α) (text : List α) : Option (List α × List α) :=
  (splitOnce [separator] text.reverse).map fun halves => (halves.2.reverse, halves.1.reverse)

/-- What stands before the first separator holds none. -/
theorem not_mem_of_splitOnce {before after : List α}
    (split : splitOnce [separator] text = some (before, after)) : separator ∉ before := by
  induction text generalizing before with
  | nil => simp [splitOnce] at split
  | cons head rest free_rest =>
    rw [splitOnce] at split
    split at split
    · cases split
      exact List.not_mem_nil
    · rename_i other
      obtain ⟨⟨front, back⟩, found, same⟩ := Option.map_eq_some_iff.mp split
      cases same
      have distinct : separator ≠ head := by
        rintro rfl
        exact other (by simp [List.isPrefixOf])
      simp [distinct, free_rest found]

/-- The first occurrence of a pattern after a text without its first element. -/
theorem splitOnce_cons_append {before after tail : List α} (free : separator ∉ before) :
    splitOnce (separator :: tail) (before ++ separator :: (tail ++ after)) =
      some (before, after) := by
  induction before with
  | nil =>
    have starts : (separator :: tail).isPrefixOf (separator :: (tail ++ after)) = true :=
      List.isPrefixOf_iff_prefix.mpr (List.prefix_append _ _)
    rw [List.nil_append, splitOnce, if_pos starts, List.length_cons, List.drop_succ_cons,
      List.drop_left]
  | cons head rest split_rest =>
    rw [List.mem_cons, not_or] at free
    have other : ((separator :: tail).isPrefixOf
        (head :: (rest ++ separator :: (tail ++ after)))) = false := by
      simp [List.isPrefixOf, free.1]
    rw [List.cons_append, splitOnce, other, if_neg (by decide), split_rest free.2]
    rfl

/-- A text is split at the first separator. -/
theorem splitOnce_append {before after : List α} (free : separator ∉ before) :
    splitOnce [separator] (before ++ separator :: after) = some (before, after) :=
  splitOnce_cons_append free

/-- A text that holds a pattern is split at it. -/
theorem isSome_splitOnce {pattern : List α} (holds : pattern <:+: text) :
    (splitOnce pattern text).isSome = true := by
  induction text with
  | nil =>
    rw [List.infix_nil.mp holds]
    rfl
  | cons head rest isSome_rest =>
    rw [splitOnce]
    split
    · rfl
    · rename_i other
      have later : pattern <:+: rest := by
        rcases List.infix_cons_iff.mp holds with starts | later
        · exact absurd (List.isPrefixOf_iff_prefix.mpr starts) other
        · exact later
      rw [Option.isSome_map]
      exact isSome_rest later

/-! ## Counts -/

/-- `str::splitn`: the pieces up to a number, the last of which is what remains. -/
def splitN (separator : α) : Nat → List α → List (List α)
  | 0, _ => []
  | 1, text => [text]
  | count + 2, text =>
    match splitOnce [separator] text with
    | some (before, after) => before :: splitN separator (count + 1) after
    | none => [text]

/-- As many pieces as are asked for: only the last one may hold the separator. -/
theorem splitN_intercalate {last : List α} (free : ∀ piece ∈ pieces, separator ∉ piece) :
    splitN separator (pieces.length + 1) ([separator].intercalate (pieces ++ [last])) =
      pieces ++ [last] := by
  induction pieces with
  | nil =>
    rw [List.nil_append, List.intercalate_singleton]
    rfl
  | cons first rest split_rest =>
    rw [List.forall_mem_cons] at free
    have joined : [separator].intercalate (first :: rest ++ [last]) =
        first ++ separator :: [separator].intercalate (rest ++ [last]) := by
      have cut := @intercalate_append _ separator [first] (rest ++ [last]) (by simp) (by simp)
      rw [List.intercalate_singleton] at cut
      exact cut
    rw [joined, List.length_cons, splitN, splitOnce_append free.1]
    simp only [split_rest free.2, List.cons_append]

end Iq.Library
