import Dataflow.Node.Transform
import Dataflow.Proofs.Build
import Mathlib.Data.Finset.Card
/-!
# What a filter keeps

**A filter node keeps rows of its frame, or its expression chose by label.** Given a frame and a
non-empty expression text, a filter node always gives a result (`filterNode_keeps_rows`), which is
one of three things (`FilterKeeps`): a failure; the rows of the frame at strictly rising positions,
each kept at most once and in its order, with its labels, under the same columns of the same kinds
(`RowsAt`), together with the number of rows dropped; or else some evaluation of the expression
gave a value that is no mask of truth values (`Eval.SelectsByLabel`), and such a value chooses
rows, or columns, by their labels, which may repeat or reorder rows or give a single row.

The filter takes the value of its expression at the rows and selects by it twice over: the query
locates by row label, falling back to the columns, and after a failed query a second evaluation is
picked among the columns (`filterRowsIn_route`). Both selections read the value as a mask first,
and a mask of the right length keeps exactly the rows at its true positions (`selection_cases`),
which rise strictly (`positions_from`).
-/

namespace Dataflow

/-- The positions a mask picks, counted from `k`, rise strictly and lie below `k` plus its
length. -/
theorem positions_from (k : Nat) : ∀ mask : List Bool,
    let ps := (mask.zipIdx k).filterMap fun (b, i) => if b then some i else none
    ps.Pairwise (· < ·) ∧ ∀ p ∈ ps, k ≤ p ∧ p < k + mask.length
  | [] => by simp
  | b :: rest => by
    obtain ⟨rising, bounded⟩ := positions_from (k + 1) rest
    cases b with
    | false =>
      simp only [List.zipIdx_cons, List.filterMap_cons, Bool.false_eq_true, if_false,
        List.length_cons]
      exact ⟨rising, fun p member => ⟨by have := (bounded p member).1; omega,
        by have := (bounded p member).2; omega⟩⟩
    | true =>
      simp only [List.zipIdx_cons, List.filterMap_cons, if_true, List.pairwise_cons,
        List.mem_cons, List.length_cons]
      refine ⟨⟨fun p member => by have := (bounded p member).1; omega, rising⟩, ?_⟩
      rintro p (rfl | member)
      · omega
      · have := bounded p member
        omega

@[simp] theorem Column.size_take (c : Column) (ixs : Array Nat) : (c.take ixs).size = ixs.size := by
  cases c <;> simp [Column.take, Column.size]

@[simp] theorem Column.dtype_take (c : Column) (ixs : Array Nat) : (c.take ixs).dtype = c.dtype := by
  cases c <;> rfl

@[simp] theorem Frame.labels_takeRows (f : Frame) (ixs : Array Nat) :
    (f.takeRows ixs).labels = f.labels := by
  simp [Frame.takeRows, Frame.labels]

theorem Frame.kinds_takeRows (f : Frame) (ixs : Array Nat) :
    (f.takeRows ixs).columns.map (·.2.dtype) = f.columns.map (·.2.dtype) := by
  simp [Frame.takeRows]

/-- Taking rows at positions below the row count gives as many rows as positions. -/
theorem Frame.rows_takeRows {f : Frame} {ps : List Nat} (within : ∀ p ∈ ps, p < f.rows) :
    (f.takeRows ps.toArray).rows = ps.length := by
  cases index : f.index with
  | nil =>
    -- without row labels there are no rows, so no position
    have none : ps = [] := List.eq_nil_iff_forall_not_mem.mpr fun p member => by
      have := within p member
      simp [Frame.rows, index] at this
    simp [Frame.takeRows, Frame.rows, index, none]
  | cons level _ => simp [Frame.takeRows, Frame.rows, index]

/-- `kept` is made of rows of `f` at strictly rising positions `ps`: each row at most once, in its
order, with its labels, under the same column labels and kinds. -/
structure RowsAt (f kept : Frame) (ps : List Nat) : Prop where
  rising : ps.Pairwise (· < ·)
  within : ∀ p ∈ ps, p < f.rows
  taken : kept = f.takeRows ps.toArray
  labels : kept.labels = f.labels
  kinds : kept.columns.map (·.2.dtype) = f.columns.map (·.2.dtype)
  count : kept.rows = ps.length

/-- The rows a mask as long as the frame keeps are rows at rising positions. -/
theorem rowsAt_selectRows {f : Frame} {mask : Array Bool} (sized : mask.size = f.rows) :
    RowsAt f (f.selectRows mask) (Column.positions mask).toList := by
  obtain ⟨rising, bounded⟩ := positions_from 0 mask.toList
  have within : ∀ p ∈ (Column.positions mask).toList, p < f.rows := fun p member => by
    have := (bounded p member).2
    simpa [← sized] using this
  have taken : f.selectRows mask = f.takeRows (Column.positions mask).toList.toArray := by
    simp [Frame.selectRows]
  rw [taken]
  exact ⟨rising, within, rfl, Frame.labels_takeRows f _, Frame.kinds_takeRows f _,
    Frame.rows_takeRows within⟩

/-- Positions rising strictly and below `n` are at most `n` many. -/
theorem length_le_of_rising {ps : List Nat} {n : Nat} (rising : ps.Pairwise (· < ·))
    (within : ∀ p ∈ ps, p < n) : ps.length ≤ n := by
  have distinct : ps.Nodup := rising.imp Nat.ne_of_lt
  calc ps.length = ps.toFinset.card := (List.toFinset_card_of_nodup distinct).symm
    _ ≤ (Finset.range n).card := Finset.card_le_card fun p member =>
      Finset.mem_range.mpr (within p (List.mem_toFinset.mp member))
    _ = n := Finset.card_range n

end Dataflow

namespace Dataflow.Eval

/-! ### Selecting by a value -/

theorem locate_of_mask {f : Frame} {w : Obj} {mask : Array Bool} {s : Selection}
    (masked : maskOf f.rows w = .ok (some mask)) (located : locate f w = .ok s) :
    mask.size = f.rows ∧ s = .frame (f.selectRows mask) := by
  simp only [locate, masked, bind, Except.bind] at located
  split at located
  · cases located
  · next sized =>
    simp only [pure, Except.pure, Except.ok.injEq] at located
    exact ⟨by simpa using sized, located.symm⟩

theorem pick_of_mask {f : Frame} {w : Obj} {mask : Array Bool} {s : Selection}
    (masked : maskOf f.rows w = .ok (some mask)) (picked : pick f w = .ok s) :
    mask.size = f.rows ∧ s = .frame (f.selectRows mask) := by
  simp only [pick, masked, bind, Except.bind] at picked
  split at picked
  · cases picked
  · next sized =>
    simp only [pure, Except.pure, Except.ok.injEq] at picked
    exact ⟨by simpa using sized, picked.symm⟩

/-- A selection by a value first reads the value as a mask, so it fails when that reading fails. -/
theorem maskOf_of_locate {f : Frame} {w : Obj} {s : Selection} (located : locate f w = .ok s) :
    ∃ m, maskOf f.rows w = .ok m := by
  cases masked : maskOf f.rows w with
  | error e => simp [locate, masked, bind, Except.bind] at located
  | ok m => exact ⟨m, rfl⟩

theorem maskOf_of_pick {f : Frame} {w : Obj} {s : Selection} (picked : pick f w = .ok s) :
    ∃ m, maskOf f.rows w = .ok m := by
  cases masked : maskOf f.rows w with
  | error e => simp [pick, masked, bind, Except.bind] at picked
  | ok m => exact ⟨m, rfl⟩

/-- A selection by a value keeps the rows of a mask as long as the frame when the value is a
mask, and otherwise chooses by labels. -/
theorem selection_cases {f : Frame} {w : Obj} {s : Selection}
    (chosen : locate f w = .ok s ∨ pick f w = .ok s) :
    (∃ mask, mask.size = f.rows ∧ s = .frame (f.selectRows mask)) ∨ maskOf f.rows w = .ok none := by
  obtain ⟨m, masked⟩ : ∃ m, maskOf f.rows w = .ok m := by
    rcases chosen with located | picked
    · exact maskOf_of_locate located
    · exact maskOf_of_pick picked
  cases m with
  | none => exact Or.inr masked
  | some mask =>
    rcases chosen with located | picked
    · exact Or.inl ⟨mask, locate_of_mask masked located⟩
    · exact Or.inl ⟨mask, pick_of_mask masked picked⟩

/-! ### The two routes of a filter -/

/-- What a filter selects, it selected by the value of one of its evaluations, taken at the rows:
located by row label, or picked among the columns. -/
theorem filterRowsIn_route {files : List String} {f : Frame} {expression : String} {s : Selection}
    (selected : (filterRowsIn files f expression).1 = .ok s) :
    ∃ files' v w, (evaluateIn files' f (Expr.normalize expression)).1 = .ok v ∧
      selectorOf (f.index.headD (Column.range 0)) v = .ok w ∧
      (locate f w = .ok s ∨ pick f w = .ok s) := by
  unfold filterRowsIn at selected
  split at selected
  · cases selected
  · rcases first : evaluateIn files f (Expr.normalize expression) with ⟨value, files'⟩
    simp only [first] at selected
    split at selected
    · -- the query selected: its value, taken at the rows, was located, or picked after a
      -- value error
      next s' queried =>
      obtain rfl : s' = s := Except.ok.inj selected
      obtain ⟨w, valued, chosen⟩ := bind_eq_ok.mp queried
      obtain ⟨v, evaluated, taken⟩ := bind_eq_ok.mp valued
      refine ⟨files, v, w, by rw [first]; exact evaluated, taken, ?_⟩
      split at chosen
      · next located => exact Or.inl (located.trans chosen)
      · split at chosen
        · exact Or.inr chosen
        · cases chosen
    · -- the query failed: the second evaluation, from the files the first left, was picked
      split at selected
      · next picked =>
        cases selected
        obtain ⟨w, valued, chosen⟩ := bind_eq_ok.mp picked
        obtain ⟨v, evaluated, taken⟩ := bind_eq_ok.mp valued
        exact ⟨files', v, w, evaluated, taken, Or.inr chosen⟩
      · cases selected

/-- Some evaluation of a filter expression over a frame gives a value that, put at the rows, is
no mask of truth values; such a value chooses rows, or columns, by their labels. -/
def SelectsByLabel (f : Frame) (expression : String) : Prop :=
  ∃ files v w, (evaluateIn files f (Expr.normalize expression)).1 = .ok v ∧
    selectorOf (f.index.headD (Column.range 0)) v = .ok w ∧ maskOf f.rows w = .ok none

/-- What a filter expression selects from a frame is rows at rising positions, unless the
expression's value was no mask. -/
theorem filterRows_keeps {f : Frame} {expression : String} {s : Selection}
    (selected : filterRows f expression = .ok s) :
    (∃ kept ps, s = .frame kept ∧ RowsAt f kept ps) ∨ SelectsByLabel f expression := by
  obtain ⟨files, v, w, evaluated, taken, chosen⟩ := filterRowsIn_route selected
  rcases selection_cases chosen with ⟨mask, sized, rfl⟩ | unmasked
  · exact Or.inl ⟨_, _, rfl, rowsAt_selectRows sized⟩
  · exact Or.inr ⟨files, v, w, evaluated, taken, unmasked⟩

end Dataflow.Eval

namespace Dataflow

/-! ### The filter node -/

/-- A filter node given a frame and a non-empty expression text records what the filter selects,
with the expression and the number of rows dropped, or the failure of the filter. -/
theorem filterNode_frame (config : Json) (f : Frame) (rest : List Selection) {text : String}
    (expression : config.getOr "expression" (.str "") = .ok (.str text)) (nonempty : text ≠ "") :
    filterNode config (.frame f :: rest) = .ok (match Eval.filterRows f text with
      | .ok kept => .succeeded kept [("expression", .str text),
          ("filtered_rows", .int ((f.rows : Int) - kept.length))]
      | .error e => if e.kind == .expression then .failed e.message
          else .failed s!"Filter failed: {e.message}") := by
  have truthy : (Json.str text).truthy = true := by simpa [Json.truthy] using nonempty
  simp only [filterNode, expression, bind, Except.bind, truthy, Bool.not_true, Bool.false_eq_true,
    if_false]
  cases Eval.filterRows f text with
  | ok kept => rfl
  | error e => by_cases named : (e.kind == .expression) = true <;> simp [named, pure, Except.pure]

/-- What a filter node may give for a frame and an expression text: a failure; or rows of the
frame at rising positions, with the expression and the number of rows dropped as metadata; or
anything, when the expression's value was no mask and chose by label. -/
def FilterKeeps (f : Frame) (text : String) (r : NodeResult) : Prop :=
  r.success = false ∨
    (∃ kept ps, r.data = some (.frame kept) ∧ RowsAt f kept ps ∧ ps.length ≤ f.rows ∧
      r.metadata = [("expression", .str text), ("filtered_rows", .int (f.rows - ps.length))]) ∨
    Eval.SelectsByLabel f text

/-- **What a filter node keeps.** Given a frame and a non-empty expression text, a filter node
gives a result: a failure; or the rows of the frame at rising positions, each at most once and in
order, with their labels, under the same columns of the same kinds, with the number of rows it
dropped, which is not negative; or else the expression's value was no mask and chose by label. -/
theorem filterNode_keeps_rows (config : Json) (f : Frame) (rest : List Selection) {text : String}
    (expression : config.getOr "expression" (.str "") = .ok (.str text)) (nonempty : text ≠ "") :
    ∃ r, filterNode config (.frame f :: rest) = .ok r ∧ FilterKeeps f text r := by
  rw [filterNode_frame config f rest expression nonempty]
  refine ⟨_, rfl, ?_⟩
  cases selected : Eval.filterRows f text with
  | error e =>
    left
    by_cases named : (e.kind == .expression) = true <;> simp [named, NodeResult.failed]
  | ok s =>
    rcases Eval.filterRows_keeps selected with ⟨kept, ps, rfl, rows⟩ | byLabel
    · refine Or.inr (Or.inl ⟨kept, ps, rfl, rows, length_le_of_rising rows.rising rows.within, ?_⟩)
      simp [NodeResult.succeeded, Selection.length, rows.count]
    · exact Or.inr (Or.inr byLabel)

/-- A filter comparing a column of integers. -/
theorem filterNode_keeps_rows_compare :
    let config := Json.obj [("expression", .str "x > 1")]
    let f : Frame := ⟨[(.str "x", .int64 #[1, 2, 3])], [Column.range 3]⟩
    config.getOr "expression" (.str "") = .ok (.str "x > 1") ∧ "x > 1" ≠ "" ∧
      ∃ r, filterNode config [.frame f] = .ok r ∧ FilterKeeps f "x > 1" r :=
  ⟨rfl, by decide, filterNode_keeps_rows _ _ [] rfl (by decide)⟩

end Dataflow
