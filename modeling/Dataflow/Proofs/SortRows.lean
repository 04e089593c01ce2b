import Dataflow.Proofs.Introsort
import Dataflow.Proofs.Aggregation
/-!
# Sorting rows by key columns

**A sort node that succeeds puts the rows of its frame in order** (`sortNode_orders_rows`): its
frame holds every row of the input once, numbered anew, and two rows stand in order under the
keys (`RowsInOrder`): the first key that tells them apart puts the earlier one first, missing
values last in either direction.

* `cellLess_comparison`: `<` on values that are not missing is a comparison the quicksort can
  use, so one key puts the rows in order (`sortByColumn_spec`);
* `sortedCategories_ordered`, `category_below`: the distinct values of a sortable column, and
  the values equal to them, stand in order;
* `rankOf_lt`, `rankOf_eq`: ranks follow the values, so the stable sort by the ranks of several
  keys puts the rows in order (`sortByColumns_spec`, `sortFrame_spec`).
-/

namespace Dataflow

open Sorting

/-- `x` is below `y` in the language's order, which ranks numbers by value and texts and byte
strings by their characters; other values have no order. -/
def Cell.Below (x y : Cell) : Prop := x.order y = .ok (some .lt)

/-- Under a key sorted `ascending` or not, a row with value `x` goes before one with `y`: `x` is
there and `y` missing, or both are there, unequal, and `y` not below `x` in the key's direction.
A value is missing when it is none or equal to nothing, not even itself. -/
def Cell.Precedes (ascending : Bool) (x y : Cell) : Prop :=
  x.Keyed ∧ (¬ y.Keyed ∨ Cell.same x y = false ∧ ¬ if ascending then y.Below x else x.Below y)

/-- A key cannot tell two values apart: both missing, or both there and equal. -/
def Cell.Ties (x y : Cell) : Prop :=
  x.Keyed ∧ y.Keyed ∧ Cell.same x y = true ∨ ¬ x.Keyed ∧ ¬ y.Keyed

/-- Row `i` may stand before row `j` under the sort keys, each a column with its direction: the
first key that tells them apart puts `i` first. -/
def RowsInOrder : List (Column × Bool) → Nat → Nat → Prop
  | [], _, _ => True
  | (c, ascending) :: keys, i, j =>
    Cell.Precedes ascending (c.cell i) (c.cell j) ∨
      Cell.Ties (c.cell i) (c.cell j) ∧ RowsInOrder keys i j

/-! ### The order of values -/

/-- Values that have an order are two numbers, two texts or two byte strings. -/
theorem Cell.order_ok {x y : Cell} {o : Option Ordering} (ordered : x.order y = .ok o) :
    x.isNumber = true ∧ y.isNumber = true ∧ o = Cell.compareNumbers x y ∨
      (∃ s t, x = .str s ∧ y = .str t ∧ o = some (Cell.compareText s t)) ∨
      (∃ s t, x = .bytes s ∧ y = .bytes t ∧ o = some (Cell.compareText s t)) := by
  unfold Cell.order at ordered
  split at ordered
  · simp_all
  · split at ordered <;> simp_all

theorem compareText_asymm {s t : String} (below : Cell.compareText s t = .lt) :
    Cell.compareText t s ≠ .lt := by
  rw [Cell.compareText, compare_chars_eq_lt] at below
  rw [Cell.compareText, ne_eq, compare_chars_eq_lt]
  exact not_lt_of_gt below

theorem compareText_trans {s t u : String} (first : Cell.compareText u t ≠ .lt)
    (second : Cell.compareText t s ≠ .lt) : Cell.compareText u s ≠ .lt := by
  rw [Cell.compareText, ne_eq, compare_chars_eq_lt, not_lt] at first second ⊢
  exact second.trans first

theorem Cell.order_numbers {x y : Cell} (nx : x.isNumber = true) (ny : y.isNumber = true) :
    x.order y = .ok (Cell.compareNumbers x y) := by
  simp [Cell.order, nx, ny]

/-- Two numbers that are not missing stand in order as their values do. -/
theorem compareNumbers_ne_lt {x y : Cell} (nx : x.isNumber = true) (ny : y.isNumber = true)
    (px : x.isNull = false) (py : y.isNull = false) :
    Cell.compareNumbers y x ≠ some .lt ↔ x.scaled ≤ y.scaled := by
  rw [compareNumbers_scaled ny nx py px, ne_eq, Option.some.injEq, compare_lt_iff_lt, not_lt]

theorem order_of_cellLess {x y : Cell} {b : Bool} (less : cellLess x y = .ok b) :
    ∃ o, x.order y = .ok o ∧ (o == some .lt) = b := by
  unfold cellLess at less
  split at less
  · rename_i o ordered
    exact ⟨o, ordered, Except.ok.inj less⟩
  · cases less

theorem cellLess_of_order {x y : Cell} {o : Option Ordering} (ordered : x.order y = .ok o) :
    cellLess x y = .ok (o == some .lt) := by
  simp [cellLess, ordered]

/-- A value the language's `<` finds not below another is not `Below` it. -/
theorem not_below_of_cellLess {x y : Cell} (less : cellLess x y = .ok false) : ¬ x.Below y := by
  obtain ⟨o, ordered, answer⟩ := order_of_cellLess less
  rw [Cell.Below, ordered]
  rintro ⟨⟩
  simp at answer

theorem cellLess_asymm {x y : Cell} (less : cellLess x y = .ok true) : cellLess y x = .ok false := by
  obtain ⟨o, ordered, answer⟩ := order_of_cellLess less
  have lt : o = some .lt := by simpa using answer
  subst lt
  rcases Cell.order_ok ordered with ⟨nx, ny, below⟩ | ⟨s, t, rfl, rfl, below⟩ |
    ⟨s, t, rfl, rfl, below⟩
  · -- numbers that compare are not missing
    have px : x.isNull = false := by
      by_contra null
      simp [compareNumbers_of_null (.inl (by simpa using null))] at below
    have py : y.isNull = false := by
      by_contra null
      simp [compareNumbers_of_null (.inr (by simpa using null))] at below
    rw [cellLess_of_order (Cell.order_numbers ny nx)]
    have : ¬ Cell.compareNumbers y x = some .lt := by
      rw [← ne_eq, compareNumbers_ne_lt nx ny px py]
      rw [compareNumbers_scaled nx ny px py, Option.some.injEq, eq_comm, compare_lt_iff_lt] at below
      exact below.le
    simpa using this
  all_goals
    rw [cellLess_of_order rfl]
    simpa using compareText_asymm (Option.some.inj below).symm

/-- Standing in order under `<` is transitive through a middle value that is not a missing
number. -/
theorem cellLess_trans {x y z : Cell} (middle : y.isNumber = true → y.isNull = false)
    (first : cellLess y x = .ok false) (second : cellLess z y = .ok false) :
    cellLess z x = .ok false := by
  obtain ⟨o₁, ordered₁, answer₁⟩ := order_of_cellLess first
  obtain ⟨o₂, ordered₂, answer₂⟩ := order_of_cellLess second
  rcases Cell.order_ok ordered₁ with ⟨ny, nx, rfl⟩ | ⟨t, s, rfl, rfl, rfl⟩ | ⟨t, s, rfl, rfl, rfl⟩
  · rcases Cell.order_ok ordered₂ with ⟨nz, -, rfl⟩ | ⟨_, _, -, rfl, -⟩ | ⟨_, _, -, rfl, -⟩
    · rw [cellLess_of_order (Cell.order_numbers nz nx)]
      -- a missing end has no order; otherwise the values are in order
      by_cases missing : x.isNull = true ∨ z.isNull = true
      · simp [compareNumbers_of_null (missing.symm)]
      · simp only [not_or, Bool.not_eq_true] at missing
        have py := middle ny
        have le₁ := (compareNumbers_ne_lt nx ny missing.1 py).mp (by simpa using answer₁)
        have le₂ := (compareNumbers_ne_lt ny nz py missing.2).mp (by simpa using answer₂)
        simpa using (compareNumbers_ne_lt nx nz missing.1 missing.2).mpr (le₁.trans le₂)
    all_goals simp [Cell.isNumber] at ny
  -- texts or byte strings: the last value is of the middle one's kind
  all_goals
    rcases Cell.order_ok ordered₂ with ⟨-, ny, -⟩ | ⟨u, _, rfl, ⟨⟩, rfl⟩ | ⟨u, _, rfl, ⟨⟩, rfl⟩
    · simp [Cell.isNumber] at ny
    · rw [cellLess_of_order rfl]
      simpa using compareText_trans (by simpa using answer₂) (by simpa using answer₁)

/-- The language's `<` on positions of values none of which is missing is a comparison the
quicksort can use. -/
theorem cellLess_comparison {values : Array Cell}
    (present : ∀ i < values.size, (values.getD i .none).isNull = false) :
    Comparison fun i j => cellLess (values.getD i .none) (values.getD j .none) where
  asymm less := cellLess_asymm less
  trans {a b c} first second := by
    refine cellLess_trans (fun number => ?_) first second
    by_cases inside : b < values.size
    · exact present b inside
    · simp [Array.getD_eq_getD_getElem?, inside, Cell.isNumber] at number

/-! ### Values of a column -/

namespace Column

variable (c : Column)

@[simp] theorem size_cells : c.cells.size = c.size := by
  cases c <;> simp [cells, size]

@[simp] theorem size_nulls : c.nulls.size = c.size := by
  cases c <;> simp [nulls, size]

theorem cells_getD {i : Nat} (inside : i < c.size) : c.cells.getD i .none = c.cell i := by
  cases c <;> simp_all [cells, cell, size, Array.getD_eq_getD_getElem?]

variable {c}

/-- A value the column counts as missing is missing as a key. -/
theorem not_keyed_of_null {i : Nat} (null : c.nulls.getD i false = true) : ¬ (c.cell i).Keyed := by
  rintro ⟨present, self⟩
  by_cases inside : i < c.size
  · cases c with
    | float64 vs | float16 vs | object vs =>
      simp only [size] at inside
      simp only [nulls, cell, Cell.isNull, Array.getD_eq_getD_getElem?, Array.getElem?_map,
        Array.getElem?_eq_getElem inside, Option.map_some, Option.getD_some] at null present
      rw [present] at null
      cases null
    | complex128 vs =>
      simp only [size] at inside
      simp only [nulls, Array.getD_eq_getD_getElem?, Array.getElem?_map,
        Array.getElem?_eq_getElem inside, Option.map_some, Option.getD_some] at null
      simp only [cell, Cell.same, Cell.isNumber, Array.getD_eq_getD_getElem?,
        Array.getElem?_eq_getElem inside, Option.getD_some, Bool.and_false, Bool.false_eq_true,
        if_false, Bool.and_eq_true, Decimal.float_beq_values] at self
      rw [self.1.1, self.2.1] at null
      cases null
    | _ =>
      simp only [nulls, size, Array.getD_eq_getD_getElem?, Array.getElem?_replicate] at null inside
      simp [inside] at null
  · rw [Array.getD_eq_getD_getElem?, Array.getElem?_eq_none (by simpa using inside)] at null
    cases null

/-- A value the column does not count as missing is no missing value. -/
theorem isNull_of_present {i : Nat} (present : c.nulls.getD i false = false) (inside : i < c.size) :
    (c.cell i).isNull = false := by
  cases c <;> simp_all [nulls, cell, Cell.isNull, size, Array.getD_eq_getD_getElem?]

end Column

/-! ### One key -/

@[simp] theorem rowsInOrder_nil (i j : Nat) : RowsInOrder [] i j := trivial

theorem rowsInOrder_single {c : Column} {ascending : Bool} {i j : Nat} :
    RowsInOrder [(c, ascending)] i j ↔
      Cell.Precedes ascending (c.cell i) (c.cell j) ∨ Cell.Ties (c.cell i) (c.cell j) := by
  simp [RowsInOrder]

theorem Cell.keyed_number {x : Cell} (nx : x.isNumber = true) (px : x.isNull = false) :
    x.Keyed := by
  refine ⟨px, ?_⟩
  unfold Cell.same
  simp [nx, compareNumbers_eq_iff nx nx, px]

/-- Values that have an order and are not missing are keys. -/
theorem Cell.keyed_of_order {x y : Cell} {o : Option Ordering} (ordered : x.order y = .ok o)
    (px : x.isNull = false) (py : y.isNull = false) : x.Keyed ∧ y.Keyed := by
  rcases Cell.order_ok ordered with ⟨nx, ny, -⟩ | ⟨s, t, rfl, rfl, -⟩ | ⟨s, t, rfl, rfl, -⟩
  · exact ⟨Cell.keyed_number nx px, Cell.keyed_number ny py⟩
  all_goals exact ⟨⟨rfl, by simp [Cell.same, Cell.isNumber]⟩, ⟨rfl, by simp [Cell.same, Cell.isNumber]⟩⟩

/-- Two values not missing that `<` leaves in order stand in order under their key, ascending,
and in the other order descending. -/
theorem single_of_cellLess {c : Column} {u v : Nat} (pu : (c.cell u).isNull = false)
    (pv : (c.cell v).isNull = false) (less : cellLess (c.cell v) (c.cell u) = .ok false) :
    RowsInOrder [(c, true)] u v ∧ RowsInOrder [(c, false)] v u := by
  obtain ⟨o, ordered, -⟩ := order_of_cellLess less
  obtain ⟨kv, ku⟩ := Cell.keyed_of_order ordered pv pu
  have notBelow := not_below_of_cellLess less
  rw [rowsInOrder_single, rowsInOrder_single]
  by_cases same : Cell.same (c.cell u) (c.cell v) = true
  · exact ⟨.inr (.inl ⟨ku, kv, same⟩), .inr (.inl ⟨kv, ku, by rwa [same_comm]⟩)⟩
  · have apart : Cell.same (c.cell v) (c.cell u) = false := by simpa [same_comm] using same
    exact ⟨.inl ⟨ku, .inr ⟨by simpa using same, by simpa using notBelow⟩⟩,
      .inl ⟨kv, .inr ⟨apart, by simpa using notBelow⟩⟩⟩

/-- **One key puts the rows in order**: the present values sorted by `<`, ascending or descending,
then the missing ones. -/
theorem sortByColumn_spec {c : Column} {ascending : Bool} {order : Array Nat}
    (run : sortByColumn c ascending = .ok order) :
    order.toList.Perm (List.range c.size) ∧ order.toList.Pairwise (RowsInOrder [(c, ascending)]) := by
  simp only [sortByColumn, bind_eq_ok, pure, Except.pure, Except.ok.injEq] at run
  obtain ⟨sorted, quick, rfl⟩ := run
  set valid := (List.range c.cells.size).filter fun i => !c.nulls.getD i false
  set missing := (List.range c.cells.size).filter fun i => c.nulls.getD i false
  -- the present places, in the order their values are sorted from
  generalize hTaken : (if ascending = true then valid else valid.reverse) = taken at quick ⊢
  have takenPerm : taken.Perm valid := by
    rw [← hTaken]
    split
    · rfl
    · exact List.reverse_perm _
  have present : ∀ k (h : k < taken.length), taken[k] < c.size ∧
      c.nulls.getD taken[k] false = false := fun k h => by
    simpa [valid] using takenPerm.subset (List.getElem_mem h)
  have value : ∀ k (h : k < taken.length),
      (taken.toArray.map fun i => c.cells.getD i .none).getD k .none = c.cell taken[k] := fun k h => by
    simp [Array.getD_eq_getD_getElem?, List.getElem?_eq_getElem h, ← c.cells_getD (present k h).1]
  obtain ⟨perm, inOrder⟩ := quickArgsort_spec (cellLess_comparison fun k h => by
    rw [value k (by simpa using h)]
    exact c.isNull_of_present (present k _).2 (present k _).1) quick
  simp only [Array.size_map, List.size_toArray] at perm
  have bound : ∀ k ∈ sorted.toList, k < taken.length := fun k member => by
    simpa using perm.subset member
  have place : ∀ k (h : k < taken.length), taken.toArray.getD k 0 = taken[k] := fun k h => by
    simp [Array.getD_eq_getD_getElem?, List.getElem?_eq_getElem h]
  have listed : (List.range taken.length).map (fun k => taken.toArray.getD k 0) = taken :=
    List.ext_getElem (by simp) fun k h₁ h₂ => by rw [List.getElem_map, List.getElem_range, place k h₂]
  have front : (sorted.toList.map fun k => taken.toArray.getD k 0).Perm valid :=
    ((perm.map _).trans (by rw [listed])).trans takenPerm
  -- two present places in the sorted part stand in order in the key's direction
  have pairs : sorted.toList.Pairwise fun a b =>
      RowsInOrder [(c, true)] (taken.toArray.getD a 0) (taken.toArray.getD b 0) ∧
        RowsInOrder [(c, false)] (taken.toArray.getD b 0) (taken.toArray.getD a 0) := by
    refine inOrder.imp_of_mem fun {a b} ina inb ordered => ?_
    have ha := bound a ina
    have hb := bound b inb
    rw [InOrder, value b hb, value a ha] at ordered
    rw [place a ha, place b hb]
    exact single_of_cellLess (c.isNull_of_present (present a ha).2 (present a ha).1)
      (c.isNull_of_present (present b hb).2 (present b hb).1) ordered
  -- a missing value goes after any other
  have last : ∀ a b, b ∈ missing → RowsInOrder [(c, ascending)] a b := fun a b member => by
    have nb := c.not_keyed_of_null (List.mem_filter.mp member).2
    rw [rowsInOrder_single]
    by_cases ka : (c.cell a).Keyed
    · exact .inl ⟨ka, .inl nb⟩
    · exact .inr (.inr ⟨ka, nb⟩)
  have whole : (valid ++ missing).Perm (List.range c.size) := by
    simpa [valid, missing] using List.filter_append_perm (fun i => !c.nulls.getD i false)
      (List.range c.cells.size)
  have after := List.pairwise_of_forall_mem_list fun a (_ : a ∈ missing) b member => last a b member
  rw [Array.toList_append, List.pairwise_append]
  cases ascending
  · simp only [Bool.false_eq_true, if_false, Array.toList_reverse, Array.toList_map,
      List.pairwise_reverse, List.pairwise_map]
    exact ⟨((List.reverse_perm _).trans front).append_right _ |>.trans whole, pairs.imp (·.2),
      after, fun a _ b member => last a b member⟩
  · simp only [if_true, Array.toList_map, List.pairwise_map]
    exact ⟨(front.append_right _).trans whole, pairs.imp (·.1), after,
      fun a _ b member => last a b member⟩

/-! ### The distinct values in order -/

theorem compare_chars_ne_gt (a b : List Char) : compare a b ≠ .gt ↔ a ≤ b := by
  rw [Std.OrientedOrd.eq_swap, ne_eq, Ordering.swap_eq_gt, compare_chars_eq_lt, not_lt]

/-- A value below another: two numbers below by value, or two texts or two byte strings below by
their characters. -/
theorem Cell.below_cases {x y : Cell} (below : y.Below x) :
    y.isNumber = true ∧ x.isNumber = true ∧ Cell.compareNumbers y x = some .lt ∨
      ∃ s t, (y = .str t ∧ x = .str s ∨ y = .bytes t ∧ x = .bytes s) ∧ t.toList < s.toList := by
  rcases Cell.order_ok below with ⟨ny, nx, o⟩ | ⟨t, s, rfl, rfl, o⟩ | ⟨t, s, rfl, rfl, o⟩
  · exact .inl ⟨ny, nx, o.symm⟩
  all_goals
    refine .inr ⟨s, t, by simp, ?_⟩
    rw [← compare_chars_eq_lt]
    exact (Option.some.inj o).symm

theorem mem_distinctValues {c : Column} {x : Cell} (mem : x ∈ distinctValues c) :
    x ∈ c.cells.toList ∧ x.isNull = false := by
  rcases mem_foldl_keepFirstValue mem with nil | kept
  · cases nil
  · simpa using kept

/-- **The distinct values of a column stand in order**: none is below one before it. -/
theorem sortedCategories_ordered (c : Column) :
    (sortedCategories c).Pairwise fun u v => ¬ v.Below u := by
  set values := distinctValues c
  have split : sortedCategories c =
      (values.filter Cell.isNumber).mergeSort (fun a b => Cell.compareNumbers a b != some .gt) ++
        (values.filter fun x => !x.isNumber).mergeSort (fun a b => a.textRank < b.textRank ||
          (a.textRank == b.textRank && Cell.compareText a.sortText b.sortText != .gt)) := rfl
  -- numbers that are not missing are sorted by value
  have byValue : (values.filter Cell.isNumber).mergeSort
      (fun a b => Cell.compareNumbers a b != some .gt) =
      (values.filter Cell.isNumber).mergeSort fun a b => decide (a.scaled ≤ b.scaled) := by
    have same : ((values.filter Cell.isNumber).mergeSort
        (fun a b => Cell.compareNumbers a b != some .gt)).map id =
        ((values.filter Cell.isNumber).map id).mergeSort fun a b => decide (a.scaled ≤ b.scaled) :=
      List.map_mergeSort fun a ha b hb => by
        simp only [List.mem_filter] at ha hb
        rw [compareNumbers_scaled ha.2 hb.2 (mem_distinctValues ha.1).2 (mem_distinctValues hb.1).2]
        rw [Bool.eq_iff_iff, bne_iff_ne, ne_eq, Option.some.injEq, compare_gt_iff_gt, not_lt,
          decide_eq_true_iff, id, id]
    simpa using same
  -- texts and byte strings are sorted by kind, then by characters
  have byText : (fun a b : Cell => a.textRank < b.textRank ||
      (a.textRank == b.textRank && Cell.compareText a.sortText b.sortText != .gt)) =
      fun a b => decide (toLex (a.textRank, a.sortText.toList) ≤ toLex (b.textRank, b.sortText.toList)) := by
    funext a b
    rw [Bool.eq_iff_iff, decide_eq_true_iff, Prod.Lex.toLex_le_toLex, Cell.compareText]
    simp [compare_chars_ne_gt]
  have numbers := @sortedBy_mergeSort _ _ _ Cell.scaled (values.filter Cell.isNumber)
  have texts := @sortedBy_mergeSort _ _ _ (fun a : Cell => toLex (a.textRank, a.sortText.toList))
    (values.filter fun x => !x.isNumber)
  rw [split, byValue, byText, List.pairwise_append]
  refine ⟨numbers.imp_of_mem fun {u v} hu hv le below => ?_,
    texts.imp_of_mem fun {u v} hu hv le below => ?_, fun u hu v hv below => ?_⟩
  · have hu := List.mem_filter.mp ((List.mergeSort_perm _ _).subset hu)
    have hv := List.mem_filter.mp ((List.mergeSort_perm _ _).subset hv)
    rcases Cell.below_cases below with ⟨-, -, lt⟩ | ⟨s, t, kinds, -⟩
    · exact (compareNumbers_ne_lt hu.2 hv.2 (mem_distinctValues hu.1).2
        (mem_distinctValues hv.1).2).mpr le lt
    · rcases kinds with ⟨rfl, -⟩ | ⟨rfl, -⟩ <;> simp [Cell.isNumber] at hv
  · rcases Cell.below_cases below with ⟨ny, -, -⟩ | ⟨s, t, ⟨rfl, rfl⟩ | ⟨rfl, rfl⟩, lt⟩
    · simpa [ny] using (List.mem_filter.mp ((List.mergeSort_perm _ _).subset hv)).2
    all_goals
      simp only [Prod.Lex.toLex_le_toLex, Cell.textRank, Cell.sortText, lt_irrefl, false_or,
        true_and] at le
      exact absurd lt (not_lt.mpr le)
  · have hu := List.mem_filter.mp ((List.mergeSort_perm _ _).subset hu)
    have hv := List.mem_filter.mp ((List.mergeSort_perm _ _).subset hv)
    rcases Cell.below_cases below with ⟨ny, -, -⟩ | ⟨s, t, ⟨-, rfl⟩ | ⟨-, rfl⟩, -⟩
    · simp [ny] at hv
    all_goals simp [Cell.isNumber] at hu

/-! ### Ranks of values -/

/-- A value equal to a number is a number or a complex number. -/
theorem Cell.same_number_cases {u x : Cell} (same : Cell.same u x = true) (nx : x.isNumber = true) :
    u.isNumber = true ∨ ∃ re im, u = .complex re im := by
  cases u <;> cases x <;> simp_all [Cell.same, Cell.isNumber]

theorem Cell.same_numbers {u x : Cell} (nu : u.isNumber = true) (nx : x.isNumber = true) :
    Cell.same u x = true ↔ u.isNull = false ∧ x.isNull = false ∧ u.scaled = x.scaled := by
  unfold Cell.same
  simp [nu, nx, compareNumbers_eq_iff nu nx]

theorem eq_bytes_of_same {x : Cell} {a : String} (same : Cell.same x (.bytes a) = true) :
    x = .bytes a := by
  cases x <;> simp_all [Cell.same, Cell.isNumber]

theorem Column.cell_mem {c : Column} {i : Nat} (inside : i < c.size) : c.cell i ∈ c.cells.toList := by
  rw [← c.cells_getD inside, Array.getD_eq_getD_getElem?, Array.getElem?_eq_getElem (by simpa using inside)]
  exact Array.mem_toList_iff.mpr (Array.getElem_mem _)

/-- Every value of a column of one storage kind other than mixed values is a number, or none
is. -/
theorem Column.isNumber_cells {c : Column} (typed : ∀ cells, c ≠ .object cells) {x y : Cell}
    (hx : x ∈ c.cells.toList) (hy : y ∈ c.cells.toList) : x.isNumber = y.isNumber := by
  cases c with
  | object cells => exact absurd rfl (typed cells)
  | complex128 vs =>
    simp only [Column.cells, Array.toList_map, List.mem_map] at hx hy
    obtain ⟨⟨_, _⟩, -, rfl⟩ := hx
    obtain ⟨⟨_, _⟩, -, rfl⟩ := hy
    rfl
  | _ =>
    simp only [Column.cells, Array.toList_map, List.mem_map] at hx hy
    obtain ⟨_, -, rfl⟩ := hx
    obtain ⟨_, -, rfl⟩ := hy
    rfl

/-- A column that may be ranked has two distinct values other than texts only when they are all
numbers or all byte strings. -/
theorem checkSortable_object {cells : Array Cell} (sortable : checkSortable (.object cells) = .ok ())
    {u v : Cell} (hu : u ∈ sortedCategories (.object cells)) (hv : v ∈ sortedCategories (.object cells))
    (apart : u ≠ v) (tu : u.textRank ≠ 1) (tv : v.textRank ≠ 1) :
    u.isNumber = true ∨ u.textRank = 0 := by
  simp only [checkSortable] at sortable
  set others := (sortedCategories (.object cells)).filter (·.textRank != 1)
  have mem : ∀ w ∈ sortedCategories (.object cells), w.textRank ≠ 1 → w ∈ others :=
    fun w hw tw => List.mem_filter.mpr ⟨hw, by simpa using tw⟩
  have many : 1 < others.length := by
    have two : ∀ l : List Cell, u ∈ l → v ∈ l → 1 < l.length := by
      rintro (_ | ⟨w, _ | ⟨w', rest⟩⟩) mu mv
      · cases mu
      · simp only [List.mem_singleton] at mu mv
        exact absurd (mu.trans mv.symm) apart
      · simp
    exact two _ (mem u hu tu) (mem v hv tv)
  -- a column whose other values are of several kinds is refused
  have kinds : others.all Cell.isNumber ∨ others.all (·.textRank == 0) := by
    by_contra mixed
    split at sortable
    · cases sortable
    · rw [if_pos (by simpa [many] using mixed)] at sortable
      cases sortable
  rcases kinds with all | all
  · exact .inl (List.all_eq_true.mp all u (mem u hu tu))
  · exact .inr (by simpa using List.all_eq_true.mp all u (mem u hu tu))

/-- In a column that may be ranked, a distinct value equal to a number beside another distinct
value equal to a number is itself a number, not a complex number. -/
theorem sortable_same_number {c : Column} (sortable : checkSortable c = .ok ()) {u v x y : Cell}
    (hu : u ∈ sortedCategories c) (hv : v ∈ sortedCategories c) (apart : u ≠ v)
    (hx : x ∈ c.cells.toList) (nx : x.isNumber = true) (ny : y.isNumber = true)
    (su : Cell.same u x = true) (sv : Cell.same v y = true) : u.isNumber = true := by
  rcases Cell.same_number_cases su nx with nu | ⟨re, im, rfl⟩
  · exact nu
  have tv : v.textRank ≠ 1 := by
    rcases Cell.same_number_cases sv ny with nv | ⟨_, _, rfl⟩
    · cases v <;> simp_all [Cell.isNumber, Cell.textRank]
    · simp [Cell.textRank]
  have mu := (mem_distinctValues ((sortedCategories_perm c).subset hu)).1
  cases c with
  | object cells =>
    simpa [Cell.isNumber, Cell.textRank] using
      checkSortable_object sortable hu hv apart (by simp [Cell.textRank]) tv
  | complex128 vs =>
    simp only [Column.cells, Array.toList_map, List.mem_map] at hx
    obtain ⟨⟨_, _⟩, -, rfl⟩ := hx
    cases nx
  | _ =>
    have kinds := Column.isNumber_cells (fun _ h => Column.noConfusion h) mu hx
    rw [nx] at kinds
    cases kinds

/-- **The distinct values of a sortable column rank their equals in order**: a value equal to an
earlier distinct value is not below one equal to a later distinct value. -/
theorem category_below {c : Column} (sortable : checkSortable c = .ok ()) {a b : Nat}
    (ha : a < (sortedCategories c).length) (hb : b < (sortedCategories c).length) (ab : a < b)
    {x y : Cell} (hx : x ∈ c.cells.toList) (hy : y ∈ c.cells.toList)
    (sx : Cell.same (sortedCategories c)[a] x = true) (sy : Cell.same (sortedCategories c)[b] y = true) :
    ¬ y.Below x := by
  intro below
  have ordered : ¬ (sortedCategories c)[b].Below (sortedCategories c)[a] :=
    List.pairwise_iff_getElem.mp (sortedCategories_ordered c) a b ha hb ab
  have apart : (sortedCategories c)[a] ≠ (sortedCategories c)[b] := fun same => by
    have unequal := List.pairwise_iff_getElem.mp (unequal_sortedCategories c) a b ha hb ab
    rw [same, same_self sy] at unequal
    cases unequal
  rcases Cell.below_cases below with ⟨ny, nx, lt⟩ | ⟨s, t, ⟨rfl, rfl⟩ | ⟨rfl, rfl⟩, -⟩
  · -- numbers: the distinct values are numbers of the same values
    have nu := sortable_same_number sortable (List.getElem_mem ha) (List.getElem_mem hb) apart hx nx ny sx sy
    have nv := sortable_same_number sortable (List.getElem_mem hb) (List.getElem_mem ha) apart.symm hy ny nx sy sx
    obtain ⟨pu, px, eu⟩ := (Cell.same_numbers nu nx).mp sx
    obtain ⟨pv, py, ev⟩ := (Cell.same_numbers nv ny).mp sy
    apply ordered
    rw [Cell.Below, Cell.order_numbers nv nu, compareNumbers_scaled nv nu pv pu, ev, eu,
      ← compareNumbers_scaled ny nx py px, lt]
  · rw [eq_str_of_same sx, eq_str_of_same sy] at ordered
    exact ordered below
  · rw [eq_bytes_of_same sx, eq_bytes_of_same sy] at ordered
    exact ordered below

section Ranks

variable {cats : List Cell} {ascending : Bool} {x y : Cell}

theorem rankOf_le : rankOf cats ascending x ≤ cats.length := by
  unfold rankOf
  split
  · exact le_refl _
  · split
    · rename_i code found
      have inside := (List.findIdx?_eq_some_iff_getElem.mp found).1
      split <;> omega
    · exact le_refl _

/-- A missing value ranks after all distinct values. -/
theorem rankOf_missing (missing : ¬ x.Keyed) : rankOf cats ascending x = cats.length := by
  unfold rankOf
  by_cases null : x.isNull = true
  · simp [null]
  · -- a value equal to a distinct value is equal to itself
    have none : cats.findIdx? (· == x) = none := List.findIdx?_eq_none_iff.mpr fun u _ => by
      by_contra same
      rw [Bool.not_eq_false] at same
      exact missing ⟨by simpa using null, same_self ((same_comm x u).trans same)⟩
    simp [null, none]

theorem rankOf_found (present : x.isNull = false) {code : Nat} (found : cats.findIdx? (· == x) = some code) :
    rankOf cats ascending x = if ascending then code else cats.length - code - 1 := by
  simp [rankOf, present, found]

theorem findIdx?_same (same : Cell.same x y = true) :
    cats.findIdx? (· == x) = cats.findIdx? (· == y) := by
  congr 1
  funext z
  rw [Bool.eq_iff_iff]
  exact ⟨fun zx => same_trans zx same, fun zy => same_trans zy (by rwa [same_comm])⟩

end Ranks

/-- A key value of a column is equal to a distinct value, the first at its code. -/
theorem exists_code {c : Column} {x : Cell} (mem : x ∈ c.cells.toList) (keyed : x.Keyed) :
    ∃ code, (sortedCategories c).findIdx? (· == x) = some code := by
  obtain ⟨u, cat, same⟩ := exists_same_category c mem keyed
  exact Option.isSome_iff_exists.mp (List.findIdx?_isSome.trans (List.any_eq_true.mpr ⟨u, cat, same⟩))

section Column

variable {c : Column} {ascending : Bool} {i j : Nat}

/-- A key value of a column has a code, the place of the first distinct value equal to it, and
its rank counts that place from the start, ascending, or from the end. -/
theorem exists_code_rank (ascending : Bool) (hi : i < c.size) (keyed : (c.cell i).Keyed) :
    ∃ a, (sortedCategories c).findIdx? (· == c.cell i) = some a ∧
      ∃ ha : a < (sortedCategories c).length, Cell.same (sortedCategories c)[a] (c.cell i) = true ∧
        rankOf (sortedCategories c) ascending (c.cell i) =
          if ascending then a else (sortedCategories c).length - a - 1 := by
  obtain ⟨a, found⟩ := exists_code (Column.cell_mem hi) keyed
  obtain ⟨ha, same, -⟩ := List.findIdx?_eq_some_iff_getElem.mp found
  exact ⟨a, found, ha, same, rankOf_found keyed.1 found⟩

/-- **A lower rank puts a row first under its key.** -/
theorem rankOf_lt (sortable : checkSortable c = .ok ()) (hi : i < c.size) (hj : j < c.size)
    (lt : rankOf (sortedCategories c) ascending (c.cell i) <
      rankOf (sortedCategories c) ascending (c.cell j)) :
    Cell.Precedes ascending (c.cell i) (c.cell j) := by
  by_cases kx : (c.cell i).Keyed
  swap
  · rw [rankOf_missing kx] at lt
    exact absurd lt (not_lt.mpr rankOf_le)
  by_cases ky : (c.cell j).Keyed
  swap
  · exact ⟨kx, .inl ky⟩
  obtain ⟨a, fa, ha, sa, ra⟩ := exists_code_rank ascending hi kx
  obtain ⟨b, fb, hb, sb, rb⟩ := exists_code_rank ascending hj ky
  rw [ra, rb] at lt
  refine ⟨kx, .inr ⟨?_, ?_⟩⟩
  · -- equal values have one code
    by_contra same
    rw [findIdx?_same (by simpa using same), fb, Option.some.injEq] at fa
    subst fa
    simp at lt
  · cases ascending
    · exact category_below sortable hb ha (by simp at lt; omega) (Column.cell_mem hj)
        (Column.cell_mem hi) sb sa
    · exact category_below sortable ha hb (by simpa using lt) (Column.cell_mem hi)
        (Column.cell_mem hj) sa sb

/-- **Equal ranks tie the rows under their key.** -/
theorem rankOf_eq (hi : i < c.size) (hj : j < c.size)
    (eq : rankOf (sortedCategories c) ascending (c.cell i) =
      rankOf (sortedCategories c) ascending (c.cell j)) :
    Cell.Ties (c.cell i) (c.cell j) := by
  -- a value that is there ranks before the missing ones
  have before : ∀ {k}, k < c.size → (c.cell k).Keyed →
      rankOf (sortedCategories c) ascending (c.cell k) < (sortedCategories c).length := fun hk keyed => by
    obtain ⟨a, -, inside, -, rank⟩ := exists_code_rank ascending hk keyed
    rw [rank]
    split <;> omega
  by_cases kx : (c.cell i).Keyed <;> by_cases ky : (c.cell j).Keyed
  · obtain ⟨a, -, ha, sa, ra⟩ := exists_code_rank ascending hi kx
    obtain ⟨b, -, hb, sb, rb⟩ := exists_code_rank ascending hj ky
    rw [ra, rb] at eq
    have code : a = b := by cases ascending <;> simp at eq <;> omega
    subst code
    exact .inl ⟨kx, ky, same_trans ((same_comm _ _).trans sa) sb⟩
  · have := before hi kx
    rw [eq, rankOf_missing ky] at this
    exact absurd this (lt_irrefl _)
  · have := before hj ky
    rw [← eq, rankOf_missing kx] at this
    exact absurd this (lt_irrefl _)
  · exact .inr ⟨kx, ky⟩

end Column

/-! ### Several keys -/

theorem rankKeys_getD {c : Column} {ascending : Bool} {i : Nat} (inside : i < c.size) :
    (rankKeys c ascending).getD i 0 = rankOf (sortedCategories c) ascending (c.cell i) := by
  rw [rankKeys, ← c.cells_getD inside]
  simp [Array.getD_eq_getD_getElem?, Array.getElem?_eq_getElem (c.size_cells ▸ inside)]

/-- Rows whose rank lists stand in order stand in order under the keys. The induction is on the
keys: the first rank that differs decides, and equal ranks tie the rows. -/
theorem rowsInOrder_of_ranksLe {rows i j : Nat} (hi : i < rows) (hj : j < rows) :
    ∀ keys : List (Column × Bool), (∀ k ∈ keys, k.1.size = rows ∧ checkSortable k.1 = .ok ()) →
      ranksLe ((keys.map fun k => rankKeys k.1 k.2).map (·.getD i 0))
        ((keys.map fun k => rankKeys k.1 k.2).map (·.getD j 0)) = true →
      RowsInOrder keys i j
  | [], _, _ => trivial
  | (c, ascending) :: keys, fit, le => by
    obtain ⟨size, sortable⟩ := fit _ List.mem_cons_self
    subst size
    simp only [List.map_cons, ranksLe, rankKeys_getD hi, rankKeys_getD hj] at le
    by_cases lt : rankOf (sortedCategories c) ascending (c.cell i) <
        rankOf (sortedCategories c) ascending (c.cell j)
    · exact .inl (rankOf_lt sortable hi hj lt)
    · by_cases gt : rankOf (sortedCategories c) ascending (c.cell j) <
          rankOf (sortedCategories c) ascending (c.cell i)
      · simp [lt, gt] at le
      · simp only [lt, gt, if_false] at le
        have tie : rankOf (sortedCategories c) ascending (c.cell i) =
            rankOf (sortedCategories c) ascending (c.cell j) := by omega
        exact .inr ⟨rankOf_eq hi hj tie,
          rowsInOrder_of_ranksLe hi hj keys (fun k hk => fit k (List.mem_cons_of_mem _ hk)) le⟩

/-- **Several keys put the rows in order**: the stable sort by rank lists permutes the rows and
leaves each before the next under the keys. -/
theorem sortByColumns_spec {keys : List (Column × Bool)} {rows : Nat}
    (fit : ∀ k ∈ keys, k.1.size = rows ∧ checkSortable k.1 = .ok ()) :
    (sortByColumns keys rows).toList.Perm (List.range rows) ∧
      (sortByColumns keys rows).toList.Pairwise (RowsInOrder keys) := by
  unfold sortByColumns
  rw [List.toList_toArray, ranksLe_eq]
  refine ⟨List.mergeSort_perm _ _, (sortedBy_mergeSort _).imp_of_mem fun hi hj le => ?_⟩
  exact rowsInOrder_of_ranksLe (List.mem_range.mp ((List.mergeSort_perm _ _).subset hi))
    (List.mem_range.mp ((List.mergeSort_perm _ _).subset hj)) keys fit ((ranksLe_iff _ _).mpr le)

/-! ### The sort node -/

theorem sortKey_mem {f : Frame} {key : Json} {c : Column} (found : sortKey f key = .ok c) :
    ∃ label, (label, c) ∈ f.columns := by
  unfold sortKey at found
  split at found
  · simp only [pure_bind] at found
    split at found
    · rename_i l c' labeled
      cases found
      exact ⟨l, (List.mem_filter.mp (labeled ▸ List.mem_singleton_self _)).1⟩
    all_goals cases found
  · cases found

theorem forM_ok {α ε : Type} {f : α → Except ε Unit} :
    ∀ {l : List α}, l.forM f = .ok () → ∀ a ∈ l, f a = .ok ()
  | [], _ => fun _ member => absurd member List.not_mem_nil
  | a :: l, run => by
    rw [List.forM, bind_eq_ok] at run
    obtain ⟨⟨⟩, first, rest⟩ := run
    rintro b (_ | ⟨_, later⟩)
    · exact first
    · exact forM_ok rest b later

/-- The direction of each of `n` keys: one flag for all, or one flag each. -/
def Direction.flagsFor : Direction → Nat → List Bool
  | .flag ascending _, n => List.replicate n ascending
  | .each flags, _ => flags

/-- The keys a sort is configured with: the columns its labels name, in order, each with the
direction it is given. -/
def SortKeys (f : Frame) (columns ascending : Json) (keys : List (Column × Bool)) : Prop :=
  (sortLabels columns).mapM (sortKey f) = .ok (keys.map (·.1)) ∧
    ∃ d, directionOf ascending = .ok d ∧ keys.map (·.2) = d.flagsFor keys.length

/-- The order of the rows by the columns of some labels puts the rows in order under them. -/
theorem sortOrder_spec {f : Frame} {labels : List Json} {d : Direction} {order : Array Nat}
    (sized : ∀ col ∈ f.columns, col.2.size = f.rows)
    (counted : ∀ flags, d = .each flags → flags.length = labels.length)
    (run : sortOrder f labels d = .ok order) :
    ∃ keys : List (Column × Bool), labels.mapM (sortKey f) = .ok (keys.map (·.1)) ∧
      keys.map (·.2) = d.flagsFor keys.length ∧
      order.toList.Perm (List.range f.rows) ∧ order.toList.Pairwise (RowsInOrder keys) := by
  have size {key c} (found : sortKey f key = .ok c) : c.size = f.rows := by
    obtain ⟨label, mem⟩ := sortKey_mem found
    exact sized _ mem
  unfold sortOrder at run
  split at run
  · -- one key, sorted by itself
    rename_i key
    obtain ⟨c, found, run⟩ := bind_eq_ok.mp run
    have listed : [key].mapM (sortKey f) = .ok [c] :=
      mapM_eq_ok_iff.mpr (List.forall₂_cons.mpr ⟨found, .nil⟩)
    obtain ⟨perm, inOrder⟩ := sortByColumn_spec run
    rw [size found] at perm
    cases d with
    | flag b _ => exact ⟨[(c, b)], listed, rfl, perm, inOrder⟩
    | each flags =>
      obtain ⟨x, rfl⟩ := List.length_eq_one_iff.mp (counted flags rfl)
      exact ⟨[(c, x)], listed, rfl, perm, inOrder⟩
  · -- several keys, ranked
    obtain ⟨cs, found, run⟩ := bind_eq_ok.mp run
    -- the flags are the direction's, and the key columns may all be ranked
    obtain ⟨flags, flagged, sortable, rfl⟩ : ∃ flags, flags = d.flagsFor labels.length ∧
        cs.reverse.forM checkSortable = .ok () ∧ order = sortByColumns (cs.zip flags) f.rows := by
      cases d with
      | flag b integer =>
        cases integer
        · simp only [pure, Except.pure, bind_eq_ok, Except.ok.injEq] at run
          obtain ⟨_, rfl, ⟨⟩, sortable, rfl⟩ := run
          exact ⟨_, by rw [List.map_const', Direction.flagsFor], sortable, rfl⟩
        · cases run
      | each flags =>
        simp only [pure, Except.pure, bind_eq_ok, Except.ok.injEq] at run
        obtain ⟨_, rfl, ⟨⟩, sortable, rfl⟩ := run
        exact ⟨flags, rfl, sortable, rfl⟩
    have long : flags.length = labels.length := by
      cases d with
      | flag b _ => rw [flagged, Direction.flagsFor, List.length_replicate]
      | each flags' => rw [flagged]; exact counted flags' rfl
    have listed : cs.length = labels.length := (mapM_eq_ok_iff.mp found).length_eq.symm
    refine ⟨cs.zip flags, by rw [List.map_fst_zip (by omega)]; exact found, ?_,
      sortByColumns_spec fun k member => ?_⟩
    · rw [List.map_snd_zip (by omega), List.length_zip, listed, long, Nat.min_self, flagged]
    · have kept := List.of_mem_zip member
      obtain ⟨key, -, keyed⟩ := mem_of_mapM_ok found _ kept.1
      exact ⟨size keyed, forM_ok sortable _ (List.mem_reverse.mpr kept.1)⟩

/-- A sort of a frame whose columns all have its rows puts the rows in order under the keys it
is configured with. -/
theorem sortFrame_spec {f : Frame} {columns ascending : Json} {sorted : Frame}
    (sized : ∀ col ∈ f.columns, col.2.size = f.rows) (run : sortFrame f columns ascending = .ok sorted) :
    ∃ keys order, SortKeys f columns ascending keys ∧ order.toList.Perm (List.range f.rows) ∧
      order.toList.Pairwise (RowsInOrder keys) ∧ sorted = (f.takeRows order).resetIndex := by
  rw [sortFrame, bind_eq_ok] at run
  obtain ⟨d, dir, run⟩ := run
  -- flags given one for each key are as many as the keys
  have counted : ∀ flags, d = .each flags → flags.length = (sortLabels columns).length := by
    rintro flags rfl
    by_contra apart
    simp [apart, bind, Except.bind] at run
  have ordered : (sortOrder f (sortLabels columns) d >>= fun order =>
      pure (f.takeRows order).resetIndex) = .ok sorted := by
    cases d with
    | flag b i => exact run
    | each flags => simpa [counted flags rfl] using run
  obtain ⟨order, ordered, run⟩ := bind_eq_ok.mp ordered
  obtain ⟨keys, found, flagged, perm, inOrder⟩ := sortOrder_spec sized counted ordered
  exact ⟨keys, order, ⟨found, d, dir, flagged⟩, perm, inOrder, (Except.ok.inj run).symm⟩

/-- **A sort node that succeeds puts the rows of its frame in order**: given a frame whose columns
all have its rows and a non-empty choice of columns, its frame is the input's rows in an order
that holds each row once and stands in order under the configured keys, numbered anew. -/
theorem sortNode_orders_rows {config columns ascending : Json} {f : Frame} {rest : List Selection}
    {r : NodeResult} (sized : ∀ col ∈ f.columns, col.2.size = f.rows)
    (givenColumns : config.getOr "columns" (.arr []) = .ok columns)
    (givenAscending : config.getOr "ascending" (.bool true) = .ok ascending)
    (named : columns.truthy = true)
    (run : sortNode config (.frame f :: rest) = .ok r) (ok : r.success = true) :
    ∃ keys order, SortKeys f columns ascending keys ∧ order.toList.Perm (List.range f.rows) ∧
      order.toList.Pairwise (RowsInOrder keys) ∧
      r = .succeeded (.frame (f.takeRows order).resetIndex)
        [("sort_columns", columns), ("ascending", ascending)] := by
  have failure {msg : String} (h : pure (NodeResult.failed msg) = (Except.ok r : Outcome NodeResult)) :
      False := by
    simp only [pure, Except.pure, Except.ok.injEq] at h
    simp [← h, NodeResult.failed] at ok
  simp only [sortNode, givenColumns, givenAscending, bind_eq_ok] at run
  obtain ⟨_, ⟨⟩, _, ⟨⟩, run⟩ := run
  rw [if_neg (by simp [named])] at run
  obtain ⟨⟨g, missing⟩, read, run⟩ := bind_eq_ok.mp run
  obtain rfl : f = g := Except.ok.inj (missingLabels_frame read)
  split at run
  · obtain ⟨_, -, run⟩ := bind_eq_ok.mp run
    exact (failure run).elim
  split at run
  · rename_i sorted ran
    obtain ⟨keys, order, keyed, perm, inOrder, rfl⟩ := sortFrame_spec sized ran
    exact ⟨keys, order, keyed, perm, inOrder, (Except.ok.inj run).symm⟩
  · exact (failure run).elim

theorem sortNode_orders_two_rows :
    ∃ keys order, SortKeys ⟨[(.str "x", .int64 #[2, 1])], [.int64 #[0, 1]]⟩ (.arr [.str "x"])
        (.bool true) keys ∧ order.toList.Perm (List.range 2) ∧
      order.toList.Pairwise (RowsInOrder keys) ∧
      NodeResult.succeeded (.frame ⟨[(.str "x", .int64 #[1, 2])], [Column.range 2]⟩)
          [("sort_columns", .arr [.str "x"]), ("ascending", .bool true)] =
        .succeeded (.frame (Frame.takeRows ⟨[(.str "x", .int64 #[2, 1])], [.int64 #[0, 1]]⟩ order).resetIndex)
          [("sort_columns", .arr [.str "x"]), ("ascending", .bool true)] :=
  @sortNode_orders_rows (.obj [("columns", .arr [.str "x"])]) (.arr [.str "x"]) (.bool true)
    ⟨[(.str "x", .int64 #[2, 1])], [.int64 #[0, 1]]⟩ []
    (.succeeded (.frame ⟨[(.str "x", .int64 #[1, 2])], [Column.range 2]⟩)
      [("sort_columns", .arr [.str "x"]), ("ascending", .bool true)])
    (by decide) rfl rfl rfl (by cbv) rfl

end Dataflow
