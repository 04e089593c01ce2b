import Dataflow.Proofs.DoubleValue
import Dataflow.Table.Cell
/-!
# Equality of values

**Two values are equal exactly when they have the same `sameKey`** (`same_iff`). A number is
keyed by its exact value (truth values as `0` and `1`, a complex number by its two parts), so
an integer, a float and a complex number with a zero imaginary part that have one value are
equal; a NaN, and a list or tuple holding one, has no key and is equal to nothing, not even
itself. The equality of values is therefore symmetric and transitive, and reflexive on the
values that have a key (`same_comm`, `same_trans`, `same_self`).

* `compareNumbers_scaled`: numbers that are not NaN compare as their exact values;
* `compareNumbers_eq_iff`: two numbers compare equal when neither is NaN and their values are;
* `same_complex_number`: a complex number equals a real one when its imaginary part is zero
  and its real part equals it.
-/

namespace Dataflow

open Decimal

/-- The value of a number scaled by `2 ^ 1074`, truth values counting as `0` and `1`; other
values at the bottom. -/
def Cell.scaled : Cell → Scaled
  | .bool b => Scaled.of ((if b then 1 else 0) * 2 ^ 1074)
  | .int i => Scaled.of (i * 2 ^ 1074)
  | .float x => scaledValue x
  | _ => ⊥

/-- **Numbers that are not NaN compare as their values.** -/
theorem compareNumbers_scaled {a b : Cell} (na : a.isNumber = true) (nb : b.isNumber = true)
    (pa : a.isNull = false) (pb : b.isNull = false) :
    Cell.compareNumbers a b = some (compare a.scaled b.scaled) := by
  have two : (0 : ℤ) < 2 ^ 1074 := by positivity
  cases a <;> cases b <;> simp only [Cell.isNumber, Bool.false_eq_true] at na nb <;>
    simp only [Cell.isNull] at pa pb <;>
    simp (disch := assumption) only [Cell.compareNumbers, Cell.asInt?, Cell.scaled,
      Option.bind_some, Option.map_some, compareIntFloat_eq, compare_of,
      compare_mul_pos _ _ _ two, ← Std.OrientedOrd.eq_swap, pa, pb, Bool.or_false, Bool.false_eq_true,
      if_false, float_compare_eq]

/-- What a value is equal to: numbers and complex numbers by the values of their two parts,
texts, byte strings and values of other classes by their texts, lists and tuples item by
item. -/
inductive SameKey where
  | number (re im : Scaled)
  | text (s : String)
  | nothing
  | bytes (s : String)
  | other (cls text : String)
  | seq (tuple : Bool) (items : List SameKey)

mutual

/-- What a value is equal to; nothing for a value that is equal to nothing, not even itself
(a NaN, or a list holding one). -/
def Cell.sameKey : Cell → Option SameKey
  | .none => some .nothing
  | .bool b => some (.number (Cell.bool b).scaled (Scaled.of 0))
  | .int i => some (.number (Cell.int i).scaled (Scaled.of 0))
  | .float x => if x.isNaN then Option.none else some (.number (scaledValue x) (Scaled.of 0))
  | .str s => some (.text s)
  | .complex re im =>
    if re.isNaN || im.isNaN then Option.none else some (.number (scaledValue re) (scaledValue im))
  | .bytes s => some (.bytes s)
  | .other c t _ => some (.other c t)
  | .seq t items => (Cell.sameKeys items).map (.seq t)

/-- What the items of a list are equal to, item by item. -/
def Cell.sameKeys : List Cell → Option (List SameKey)
  | [] => some []
  | x :: xs => match x.sameKey, Cell.sameKeys xs with
    | some k, some ks => some (k :: ks)
    | _, _ => Option.none

end

theorem sameKey_number {a : Cell} (na : a.isNumber = true) (pa : a.isNull = false) :
    a.sameKey = some (.number a.scaled (Scaled.of 0)) := by
  cases a <;> simp_all [Cell.isNumber, Cell.isNull, Cell.sameKey, Cell.scaled]

theorem sameKey_nan {a : Cell} (pa : a.isNull = true) (na : a.isNumber = true) : a.sameKey = none := by
  cases a <;> simp_all [Cell.isNumber, Cell.isNull, Cell.sameKey]

/-- A NaN is comparable with no number. -/
theorem compareNumbers_of_null {a b : Cell} (p : a.isNull = true ∨ b.isNull = true) :
    Cell.compareNumbers a b = none := by
  rcases p with p | p <;> cases a <;> cases b <;> simp_all [Cell.isNull, Cell.compareNumbers,
    Cell.asInt?, compareIntFloat]

/-- Two numbers are equal when neither is NaN and their values are. -/
theorem compareNumbers_eq_iff {a b : Cell} (na : a.isNumber = true) (nb : b.isNumber = true) :
    Cell.compareNumbers a b = some .eq ↔ a.isNull = false ∧ b.isNull = false ∧ a.scaled = b.scaled := by
  cases pa : a.isNull <;> cases pb : b.isNull
  · simp [compareNumbers_scaled na nb pa pb]
  all_goals simp [compareNumbers_of_null, pa, pb]

/-- A complex number equals a real number when its imaginary part is zero and its real part
equals the number. -/
theorem same_complex_number {re im : Float} {c : Cell} (nc : c.isNumber = true) :
    (im == 0 && Cell.compareNumbers (.float re) c == some .eq) = true ↔
      ∃ k, (Cell.complex re im).sameKey = some k ∧ c.sameKey = some k := by
  rw [Bool.and_eq_true, float_beq_zero, beq_iff_eq, compareNumbers_eq_iff rfl nc]
  cases pc : c.isNull
  · simp only [sameKey_number nc pc, Cell.sameKey, Cell.isNull, Cell.scaled]
    cases re.isNaN <;> cases im.isNaN <;> simp [eq_comm, and_comm]
  · simp [sameKey_nan pc nc]

theorem sameKeys_cons {x : Cell} {xs : List Cell} {l : List SameKey} :
    Cell.sameKeys (x :: xs) = some l ↔ ∃ k ks, x.sameKey = some k ∧ Cell.sameKeys xs = some ks ∧ l = k :: ks := by
  cases hx : x.sameKey <;> cases hs : Cell.sameKeys xs <;> simp [Cell.sameKeys, hx, hs, eq_comm]

mutual

theorem same_iff (a b : Cell) :
    Cell.same a b = true ↔ ∃ k, a.sameKey = some k ∧ b.sameKey = some k := by
  by_cases nums : a.isNumber = true ∧ b.isNumber = true
  · -- numbers are equal when neither is NaN and their values are
    obtain ⟨na, nb⟩ := nums
    have : Cell.same a b = (Cell.compareNumbers a b == some .eq) := by
      unfold Cell.same
      simp only [na, nb, Bool.and_self, if_true]
    rw [this, beq_iff_eq, compareNumbers_eq_iff na nb]
    cases pa : a.isNull <;> cases pb : b.isNull <;> simp [sameKey_number, sameKey_nan, *, eq_comm]
  · cases a <;> cases b
    all_goals first
      | exact absurd ⟨rfl, rfl⟩ nums
      | simp only [Cell.same, Cell.isNumber, Bool.and_false, Bool.false_and, Bool.and_true, Bool.true_and, Bool.false_eq_true, if_false]
    all_goals first
      | exact same_complex_number rfl
      | exact (same_complex_number rfl).trans (exists_congr fun _ => and_comm)
      | simp [-Float.isNaN_eq_decide_eq_nan, Cell.sameKey, float_beq_values]
    case str.str | bytes.bytes => exact eq_comm
    case other.other => exact and_congr eq_comm eq_comm
    case complex.complex => tauto
    case seq.seq t xs u ys =>
      rw [sameItems_iff xs ys]
      constructor
      · rintro ⟨rfl, ks, hx, hy⟩
        exact ⟨ks, hx, hy, rfl⟩
      · rintro ⟨ks, hx, hy, rfl⟩
        exact ⟨rfl, ks, hx, hy⟩

theorem sameItems_iff : (xs ys : List Cell) →
    (Cell.sameItems xs ys = true ↔ ∃ ks, Cell.sameKeys xs = some ks ∧ Cell.sameKeys ys = some ks)
  | [], [] => by simp [Cell.sameItems, Cell.sameKeys]
  | [], _ :: _ => by simp [Cell.sameItems, Cell.sameKeys.eq_1, sameKeys_cons]
  | _ :: _, [] => by simp [Cell.sameItems, Cell.sameKeys.eq_1, sameKeys_cons]
  | x :: xs, y :: ys => by
    rw [Cell.sameItems, Bool.and_eq_true, same_iff x y, sameItems_iff xs ys]
    simp only [sameKeys_cons]
    constructor
    · rintro ⟨⟨k, hx, hy⟩, ks, hxs, hys⟩
      exact ⟨k :: ks, ⟨k, ks, hx, hxs, rfl⟩, ⟨k, ks, hy, hys, rfl⟩⟩
    · rintro ⟨_, ⟨k, ks, hx, hxs, rfl⟩, ⟨l, ls, hy, hys, eq⟩⟩
      obtain ⟨rfl, rfl⟩ := List.cons.inj eq
      exact ⟨⟨k, hx, hy⟩, ks, hxs, hys⟩

end

theorem eq_str_of_same {x : Cell} {a : String} (same : Cell.same x (.str a) = true) :
    x = .str a := by
  cases x <;> simp_all [Cell.same, Cell.isNumber]

/-! ### Equality is a partial equivalence -/

section Equivalence

variable {a b c : Cell}

theorem same_comm (a b : Cell) : Cell.same a b = Cell.same b a := by
  rw [Bool.eq_iff_iff, same_iff, same_iff]
  exact exists_congr fun _ => and_comm

theorem same_trans (ab : Cell.same a b = true) (bc : Cell.same b c = true) :
    Cell.same a c = true := by
  obtain ⟨k, ka, kb⟩ := (same_iff a b).mp ab
  obtain ⟨l, lb, lc⟩ := (same_iff b c).mp bc
  have : k = l := Option.some.inj (kb.symm.trans lb)
  exact (same_iff a c).mpr ⟨k, ka, this ▸ lc⟩

/-- A value that equals some value equals itself. -/
theorem same_self (ab : Cell.same a b = true) : Cell.same a a = true :=
  same_trans ab ((same_comm a b) ▸ ab)

end Equivalence

end Dataflow
