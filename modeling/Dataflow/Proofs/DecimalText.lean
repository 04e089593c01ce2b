import Mathlib
import Dataflow.Csv.Infer
/-!
# Decimal texts of numbers

The digits a natural number is written with (`Nat.toDigits 10`) are ASCII digits, and adding
them up from the left as the table reader does gives the number back (`foldl_toDigits`). So
two numbers with the same text are equal (`toString_injective`), which makes the suffixes
`.1`, `.2`, ... of repeated column names distinct, and a column of integers written out reads
back as the same integers.
-/

namespace Dataflow.Csv

theorem toDigits_ten_split {n : Nat} (big : 10 ≤ n) :
    Nat.toDigits 10 n = Nat.toDigits 10 (n / 10) ++ [Nat.digitChar (n % 10)] := by
  have split := Nat.toDigits_append_toDigits (b := 10) (n := n / 10) (d := n % 10) (by decide)
    (by omega) (Nat.mod_lt n (by decide))
  rw [Nat.toDigits_of_lt_base (Nat.mod_lt n (by decide))] at split
  rw [split, Nat.div_add_mod]

theorem digit_digitChar {d : Nat} (small : d < 10) :
    (Nat.digitChar d).isDigit = true ∧ digitOf (Nat.digitChar d) = d := by
  have code := Nat.toNat_digitChar_of_lt_ten small
  have zero : ('0' : Char).toNat = 48 := rfl
  have nine : ('9' : Char).toNat = 57 := rfl
  refine ⟨?_, ?_⟩
  · simp only [Char.isDigit, Bool.and_eq_true, decide_eq_true_eq,
      UInt32.le_iff_toNat_le, Char.toNat_val, code, zero, nine]
    omega
  · simp only [digitOf, code, zero]
    omega

/-- **Adding up the digits of a number's decimal text gives the number.** -/
theorem foldl_toDigits (n : Nat) :
    (Nat.toDigits 10 n).foldl (fun acc c => acc * 10 + digitOf c) 0 = n := by
  induction n using Nat.strong_induction_on with
  | _ n ih =>
    by_cases big : 10 ≤ n
    · rw [toDigits_ten_split big, List.foldl_append, ih (n / 10) (by omega), List.foldl_cons,
        List.foldl_nil, (digit_digitChar (Nat.mod_lt n (by decide))).2]
      omega
    · rw [Nat.toDigits_of_lt_base (by omega), List.foldl_cons, List.foldl_nil,
        (digit_digitChar (by omega)).2]
      omega

/-- Numbers with the same decimal text are equal. -/
theorem toString_injective {m n : Nat} (same : toString m = toString n) : m = n := by
  have digits : Nat.toDigits 10 m = Nat.toDigits 10 n := by
    rw [← Nat.toList_repr, ← Nat.toList_repr]
    exact congrArg String.toList same
  rw [← foldl_toDigits m, ← foldl_toDigits n, digits]

end Dataflow.Csv
