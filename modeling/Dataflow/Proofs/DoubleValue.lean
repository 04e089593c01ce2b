import Dataflow.Number.Exact
import Mathlib
/-!
# The exact value of a double

**Doubles that are not NaN compare as their exact values** (`lt_iff_scaledValue`,
`beq_iff_scaledValue`), and so does an integer against a double (`compareIntFloat_eq`). Every
finite double is an integer multiple of `2 ^ -1074`, so its value scaled by `2 ^ 1074` is an
integer; with the infinities at the two ends the scaled values form the linear order `Scaled`,
and a double's place in it is `scaledValue`.

* `canonical_unpack`: the unpacked form of a double has a mantissa below `2 ^ 53`, an exponent
  of at least `-1074`, and the implicit bit set unless the exponent is the least;
* `compare_unpackedKey`: on canonical forms, the comparison of the float model (exponent first,
  then mantissa, signs apart) is the comparison of the scaled values;
* `scaledValue_parts`: the sign, mantissa and exponent that `parts` reads from the bits give the
  same value;
* `float_beq_values`: two doubles are equal when neither is NaN and their values are.
-/

namespace Dataflow.Decimal

open Float.Model

/-! ### Fields of the bits -/

theorem mantissa_toNat (b : UInt64) :
    (@UnpackedFloat.unpackMantissa Format.binary64 b.toBitVec).toNat = b.toNat % 2 ^ 52 := by
  simp [UnpackedFloat.unpackMantissa]

theorem exponent_toNat (b : UInt64) :
    (@UnpackedFloat.unpackExponent Format.binary64 b.toBitVec).toNat =
      b.toNat / 2 ^ 52 % 2 ^ 11 := by
  simp [UnpackedFloat.unpackExponent, Nat.shiftRight_eq_div_pow]

theorem sign_toNat (b : UInt64) :
    (@UnpackedFloat.unpackSign Format.binary64 b.toBitVec).toNat = b.toNat / 2 ^ 63 % 2 := by
  simp [UnpackedFloat.unpackSign, Nat.shiftRight_eq_div_pow]

theorem exponentBits_toNat (b : UInt64) : ((b >>> 52) &&& 0x7FF).toNat = b.toNat / 2 ^ 52 % 2 ^ 11 := by
  have e : (0x7FF : UInt64).toNat = 2 ^ 11 - 1 := rfl
  rw [UInt64.toNat_and, UInt64.toNat_shiftRight, e, Nat.and_two_pow_sub_one_eq_mod]
  simp [Nat.shiftRight_eq_div_pow]

theorem mantissaBits_toNat (b : UInt64) : (b &&& 0xFFFFFFFFFFFFF).toNat = b.toNat % 2 ^ 52 := by
  have f : (0xFFFFFFFFFFFFF : UInt64).toNat = 2 ^ 52 - 1 := rfl
  rw [UInt64.toNat_and, f, Nat.and_two_pow_sub_one_eq_mod]

theorem signBit_iff (x : Float) : signBit x = true ↔ x.toBits.toNat / 2 ^ 63 = 1 := by
  unfold signBit
  rw [beq_iff_eq, ← UInt64.toNat_inj, UInt64.toNat_shiftRight]
  simp [Nat.shiftRight_eq_div_pow]

/-- An unpacked double in the canonical form of the binary64 format. -/
def Canonical : UnpackedFloat → Prop
  | .finite _ m e _ => m < 2 ^ 53 ∧ -1074 ≤ e ∧ (e = -1074 ∨ 2 ^ 52 ≤ m)
  | _ => True

theorem append_toNat (v : BitVec 52) : (1#1 ++ v).toNat = 2 ^ 52 + v.toNat := by
  rw [BitVec.toNat_append, ← Nat.shiftLeft_add_eq_or_of_lt v.isLt]
  simp

theorem canonical_unpack (b : UInt64) :
    Canonical (UnpackedFloat.unpack Format.binary64 b.toBitVec) := by
  have bias : Format.binary64.exponentBias = 1023 := by decide
  unfold UnpackedFloat.unpack
  dsimp only
  split_ifs with inf nan zero sub
  · trivial
  · trivial
  · trivial
  · have m := (@UnpackedFloat.unpackMantissa Format.binary64 b.toBitVec).isLt
    have e0 : (@UnpackedFloat.unpackExponent Format.binary64 b.toBitVec).toNat = 0 := by
      simpa using congrArg BitVec.toNat zero
    simp only [Canonical, bias, e0]
    simp only [Format.binary64] at m
    omega
  · have m := (@UnpackedFloat.unpackMantissa Format.binary64 b.toBitVec).isLt
    have e0 : (@UnpackedFloat.unpackExponent Format.binary64 b.toBitVec).toNat ≠ 0 := by
      intro h
      exact zero (BitVec.eq_of_toNat_eq (by simpa using h))
    simp only [Canonical, bias, append_toNat]
    simp only [Format.binary64] at m
    omega

/-- Values of doubles scaled by `2 ^ 1074`, which makes every finite double an integer, with
the infinities at the ends. -/
abbrev Scaled := WithBot (WithTop ℤ)

/-- An integer as a scaled value. -/
def Scaled.of (z : ℤ) : Scaled := ((z : WithTop ℤ) : WithBot (WithTop ℤ))

section Compare

variable (a b z : ℤ)

@[simp] theorem compare_of : compare (Scaled.of a) (Scaled.of b) = compare a b := by
  rcases lt_trichotomy a b with h | rfl | h
  · rw [compare_lt_iff_lt.mpr h, compare_lt_iff_lt.mpr (by simpa [Scaled.of] using h)]
  · simp
  · rw [compare_gt_iff_gt.mpr h, compare_gt_iff_gt.mpr (by simpa [Scaled.of] using h)]

@[simp] theorem compare_bot_of : compare (⊥ : Scaled) (Scaled.of z) = .lt :=
  compare_lt_iff_lt.mpr (WithBot.bot_lt_coe _)
@[simp] theorem compare_of_bot : compare (Scaled.of z) (⊥ : Scaled) = .gt :=
  compare_gt_iff_gt.mpr (WithBot.bot_lt_coe _)
@[simp] theorem compare_of_top : compare (Scaled.of z) (⊤ : Scaled) = .lt :=
  compare_lt_iff_lt.mpr (WithBot.coe_lt_coe.mpr (WithTop.coe_lt_top _))
@[simp] theorem compare_top_of : compare (⊤ : Scaled) (Scaled.of z) = .gt :=
  compare_gt_iff_gt.mpr (WithBot.coe_lt_coe.mpr (WithTop.coe_lt_top _))
@[simp] theorem compare_bot_top : compare (⊥ : Scaled) ⊤ = .lt := compare_lt_iff_lt.mpr bot_lt_top
@[simp] theorem compare_top_bot : compare (⊤ : Scaled) ⊥ = .gt := compare_gt_iff_gt.mpr bot_lt_top

end Compare

open UnpackedFloat in
/-- The value of a finite double `± m × 2 ^ e` scaled by `2 ^ 1074`. -/
def finiteKey (s : Sign) (m : Nat) (e : Int) : ℤ := s.apply (m * 2 ^ (e + 1074).toNat : Nat)

/-- The value of an unpacked double scaled by `2 ^ 1074`; NaN, which has no value, at the
bottom. -/
def unpackedKey : UnpackedFloat → Scaled
  | .infinity .positive => ⊤
  | .infinity .negative => ⊥
  | .notANumber => ⊥
  | .zero _ => Scaled.of 0
  | .finite s m e _ => Scaled.of (finiteKey s m e)

/-- A canonical finite magnitude with the smaller exponent is the smaller value. -/
theorem scaled_lt_of_lt {m n : Nat} {e f : Int} (cm : m < 2 ^ 53 ∧ -1074 ≤ e)
    (cn : f = -1074 ∨ 2 ^ 52 ≤ n) (lt : e < f) :
    m * 2 ^ (e + 1074).toNat < n * 2 ^ (f + 1074).toNat := by
  have normal : 2 ^ 52 ≤ n := cn.resolve_left (by omega)
  calc m * 2 ^ (e + 1074).toNat < 2 ^ 53 * 2 ^ (e + 1074).toNat :=
        Nat.mul_lt_mul_of_pos_right cm.1 (Nat.two_pow_pos _)
    _ = 2 ^ 52 * 2 ^ ((e + 1074).toNat + 1) := by rw [Nat.pow_succ]; ring
    _ ≤ 2 ^ 52 * 2 ^ (f + 1074).toNat :=
        Nat.mul_le_mul_left _ (Nat.pow_le_pow_right (by norm_num) (by omega))
    _ ≤ n * 2 ^ (f + 1074).toNat := Nat.mul_le_mul_right _ normal

/-- Canonical finite magnitudes compare by exponent first, then by mantissa, as their values do. -/
theorem compare_scaled {m n : Nat} {e f : Int} (cm : m < 2 ^ 53 ∧ -1074 ≤ e ∧ (e = -1074 ∨ 2 ^ 52 ≤ m))
    (cn : n < 2 ^ 53 ∧ -1074 ≤ f ∧ (f = -1074 ∨ 2 ^ 52 ≤ n)) :
    (compare e f).then (compare m n) = compare (m * 2 ^ (e + 1074).toNat) (n * 2 ^ (f + 1074).toNat) := by
  rcases lt_trichotomy e f with lt | rfl | gt
  · rw [compare_lt_iff_lt.mpr lt, compare_lt_iff_lt.mpr (scaled_lt_of_lt ⟨cm.1, cm.2.1⟩ cn.2.2 lt)]
    rfl
  · rw [compare_eq_iff_eq.mpr rfl, Ordering.eq_then]
    rcases lt_trichotomy m n with h | rfl | h
    · rw [compare_lt_iff_lt.mpr h, compare_lt_iff_lt.mpr (Nat.mul_lt_mul_of_pos_right h (Nat.two_pow_pos _))]
    · simp
    · rw [compare_gt_iff_gt.mpr h, compare_gt_iff_gt.mpr (Nat.mul_lt_mul_of_pos_right h (Nat.two_pow_pos _))]
  · rw [compare_gt_iff_gt.mpr gt, compare_gt_iff_gt.mpr (scaled_lt_of_lt ⟨cn.1, cn.2.1⟩ cm.2.2 gt)]
    rfl

section Finite

open UnpackedFloat

variable {m n : Nat} {e f : Int}

theorem finiteKey_pos (hm : 0 < m) : 0 < finiteKey .positive m e := by
  have := Nat.mul_pos hm (Nat.two_pow_pos (e + 1074).toNat)
  simp only [finiteKey, Sign.apply]
  omega

theorem finiteKey_neg (hm : 0 < m) : finiteKey .negative m e < 0 := by
  have := Nat.mul_pos hm (Nat.two_pow_pos (e + 1074).toNat)
  simp only [finiteKey, Sign.apply]
  omega

theorem compare_natCast (x y : Nat) : compare (x : ℤ) y = compare x y := by
  rcases lt_trichotomy x y with h | rfl | h
  · rw [compare_lt_iff_lt.mpr h, compare_lt_iff_lt.mpr (by omega)]
  · simp
  · rw [compare_gt_iff_gt.mpr h, compare_gt_iff_gt.mpr (by omega)]

theorem compare_finiteKey_positive :
    compare (finiteKey .positive m e) (finiteKey .positive n f) =
      compare (m * 2 ^ (e + 1074).toNat) (n * 2 ^ (f + 1074).toNat) :=
  compare_natCast _ _

theorem compare_finiteKey_negative :
    compare (finiteKey .negative m e) (finiteKey .negative n f) =
      (compare (m * 2 ^ (e + 1074).toNat) (n * 2 ^ (f + 1074).toNat)).swap := by
  rw [← compare_natCast, ← Ordering.swap_inj, Ordering.swap_swap]
  simp only [finiteKey, Sign.apply]
  generalize ((m * 2 ^ (e + 1074).toNat : Nat) : ℤ) = a
  generalize ((n * 2 ^ (f + 1074).toNat : Nat) : ℤ) = b
  rcases lt_trichotomy a b with h | rfl | h
  · rw [compare_lt_iff_lt.mpr h, compare_gt_iff_gt.mpr (by omega)]
    rfl
  · simp
  · rw [compare_gt_iff_gt.mpr h, compare_lt_iff_lt.mpr (by omega)]
    rfl

end Finite

/-- **Doubles that are not NaN compare as their scaled values.** -/
theorem compare_unpackedKey {u v : UnpackedFloat} (cu : Canonical u) (cv : Canonical v)
    (nu : u.isNaN = false) (nv : v.isNaN = false) :
    u.compare v = some (compare (unpackedKey u) (unpackedKey v)) := by
  rcases u with ⟨_ | _⟩ | _ | ⟨_ | _⟩ | ⟨_ | _, m, e, hm⟩ <;>
  rcases v with ⟨_ | _⟩ | _ | ⟨_ | _⟩ | ⟨_ | _, n, f, hn⟩ <;>
  simp only [UnpackedFloat.isNaN, Bool.true_eq_false] at nu nv <;>
  simp only [UnpackedFloat.compare, unpackedKey, Option.some.injEq, compare_of, compare_bot_of,
    compare_of_bot, compare_top_of, compare_of_top, compare_bot_top, compare_top_bot, Std.ReflCmp.compare_self]
  -- what is left: the order of the signs of infinities, finite values against zero, and
  -- finite values against each other
  all_goals first
    | rfl
    | exact (compare_lt_iff_lt.mpr (finiteKey_pos hn)).symm
    | exact (compare_gt_iff_gt.mpr (finiteKey_neg hn)).symm
    | exact (compare_lt_iff_lt.mpr (finiteKey_neg hm)).symm
    | exact (compare_gt_iff_gt.mpr (finiteKey_pos hm)).symm
    | exact (compare_lt_iff_lt.mpr ((finiteKey_neg hm).trans (finiteKey_pos hn))).symm
    | exact (compare_gt_iff_gt.mpr ((finiteKey_neg hn).trans (finiteKey_pos hm))).symm
    | rw [compare_finiteKey_negative, compare_scaled cu cv]
    | rw [compare_finiteKey_positive, compare_scaled cu cv]

/-- The value of a double scaled by `2 ^ 1074`. -/
def scaledValue (x : Float) : Scaled := unpackedKey x.toModel.unpack

theorem unpack_canonical (x : Float) : Canonical x.toModel.unpack := canonical_unpack _

theorem float_lt_iff (x y : Float) :
    x < y ↔ x.toModel.unpack.compare y.toModel.unpack = some .lt := by
  show Float.lt x y = true ↔ _
  simp [Float.lt, LT.lt, Float.Model.lt, UnpackedFloat.lt]

theorem float_beq_iff (x y : Float) :
    (x == y) = true ↔ x.toModel.unpack.compare y.toModel.unpack = some .eq := by
  show (x.toModel.unpack.compare y.toModel.unpack == some .eq) = true ↔ _
  exact beq_iff_eq

/-- **Doubles that are not NaN compare as their values.** -/
theorem lt_iff_scaledValue {x y : Float} (nx : x.isNaN = false) (ny : y.isNaN = false) :
    x < y ↔ scaledValue x < scaledValue y := by
  rw [float_lt_iff, compare_unpackedKey (unpack_canonical x) (unpack_canonical y) nx ny,
    Option.some.injEq, compare_lt_iff_lt]
  rfl

/-- **Doubles that are not NaN are equal when their values are.** -/
theorem beq_iff_scaledValue {x y : Float} (nx : x.isNaN = false) (ny : y.isNaN = false) :
    (x == y) = true ↔ scaledValue x = scaledValue y := by
  rw [float_beq_iff, compare_unpackedKey (unpack_canonical x) (unpack_canonical y) nx ny,
    Option.some.injEq, compare_eq_iff_eq]
  rfl


/-- The value `± m × 2 ^ q` scaled by `2 ^ 1074`. -/
def signedScaled (s : Bool) (m : Nat) (q : Int) : ℤ :=
  (if s then -1 else 1) * ((m * 2 ^ (q + 1074).toNat : Nat) : ℤ)

theorem finiteKey_eq (s : UnpackedFloat.Sign) (m : Nat) (e : Int) :
    finiteKey s m e = signedScaled (s == .negative) m e := by
  cases s <;> simp [finiteKey, signedScaled, UnpackedFloat.Sign.apply]

theorem sign_of_bits (x : Float) :
    (UnpackedFloat.Sign.ofBitVec (@UnpackedFloat.unpackSign Format.binary64
      x.toModel.toBits.toBitVec) == .negative) = signBit x := by
  have lt := x.toModel.toBits.toNat_lt
  have bit := sign_toNat x.toModel.toBits
  rw [Bool.eq_iff_iff, signBit_iff]
  unfold UnpackedFloat.Sign.ofBitVec
  split
  · rename_i zero
    have : x.toModel.toBits.toNat / 2 ^ 63 % 2 = 0 := by simpa [zero] using bit.symm
    simp only [beq_iff_eq, reduceCtorEq, false_iff]
    show ¬ x.toModel.toBits.toNat / 2 ^ 63 = 1
    omega
  · rename_i one
    have : x.toModel.toBits.toNat / 2 ^ 63 % 2 ≠ 0 := by
      intro h
      exact one (BitVec.eq_of_toNat_eq (by rw [bit, h]; rfl))
    simp only [beq_self_eq_true, true_iff]
    show x.toModel.toBits.toNat / 2 ^ 63 = 1
    omega

/-- A double that is neither NaN nor infinite has the value `parts` reads from its bits. -/
theorem scaledValue_parts (x : Float) (nx : x.isNaN = false) (ix : x.isInf = false) :
    scaledValue x = Scaled.of (signedScaled (parts x).1 (parts x).2.1 (parts x).2.2) := by
  have nan : x.toModel.unpack.isNaN = false := nx
  have inf : x.toModel.unpack.isInf = false := ix
  have e := exponent_toNat x.toModel.toBits
  have m := mantissa_toNat x.toModel.toBits
  have sign := sign_of_bits x
  have bias : Format.binary64.exponentBias = 1023 := by decide
  have bits : x.toBits = x.toModel.toBits := rfl
  unfold scaledValue parts Binary.ofBits
  rw [bits, exponentBits_toNat, mantissaBits_toNat]
  unfold Float.Model.unpack UnpackedFloat.unpack at nan inf ⊢
  dsimp only at nan inf ⊢
  have zeroE : @UnpackedFloat.unpackExponent Format.binary64 x.toModel.toBits.toBitVec = 0#11 ↔
      x.toModel.toBits.toNat / 2 ^ 52 % 2 ^ 11 = 0 := by
    rw [← BitVec.toNat_inj, e]; rfl
  have topE : @UnpackedFloat.unpackExponent Format.binary64 x.toModel.toBits.toBitVec = -1#11 ↔
      x.toModel.toBits.toNat / 2 ^ 52 % 2 ^ 11 = 2047 := by
    rw [← BitVec.toNat_inj, e]; rfl
  have zeroM : @UnpackedFloat.unpackMantissa Format.binary64 x.toModel.toBits.toBitVec = 0#52 ↔
      x.toModel.toBits.toNat % 2 ^ 52 = 0 := by
    rw [← BitVec.toNat_inj, m]; rfl
  by_cases top : x.toModel.toBits.toNat / 2 ^ 52 % 2 ^ 11 = 2047
  · -- an infinity or NaN, which the hypotheses exclude
    rw [if_pos (topE.mpr top)] at nan inf
    by_cases zm : @UnpackedFloat.unpackMantissa Format.binary64 x.toModel.toBits.toBitVec = 0#52
    · rw [if_pos zm] at inf
      simp [UnpackedFloat.isInf] at inf
    · rw [if_neg zm] at nan
      simp [UnpackedFloat.isNaN] at nan
  rw [if_neg (fun h => top (topE.mp h))]
  by_cases z : x.toModel.toBits.toNat / 2 ^ 52 % 2 ^ 11 = 0
  · -- zero or subnormal: the least exponent
    rw [if_pos (zeroE.mpr z)]
    simp only [z, beq_self_eq_true, if_true]
    split
    · rename_i zm
      simp only [unpackedKey, zeroM.mp zm]
      simp [signedScaled]
    · simp only [unpackedKey, finiteKey_eq, sign, m, bias, e, z]
      rfl
  · -- normal: the implicit bit is set
    rw [if_neg (fun h => z (zeroE.mp h))]
    simp only [z, beq_iff_eq, if_false]
    simp only [unpackedKey, finiteKey_eq, sign, append_toNat, m, bias, e]
    rfl

theorem parts_exponent (x : Float) : -1074 ≤ (parts x).2.2 := by
  unfold parts Binary.ofBits
  dsimp only
  split <;> simp_all
  omega

theorem compare_mul_pos (a b k : ℤ) (hk : 0 < k) : compare (a * k) (b * k) = compare a b := by
  rcases lt_trichotomy a b with h | rfl | h
  · rw [compare_lt_iff_lt.mpr h, compare_lt_iff_lt.mpr (Int.mul_lt_mul_of_pos_right h hk)]
  · simp
  · rw [compare_gt_iff_gt.mpr h, compare_gt_iff_gt.mpr (Int.mul_lt_mul_of_pos_right h hk)]

theorem signedScaled_eq (s : Bool) (m : Nat) (q : Int) :
    signedScaled s m q = (if s then -(m : ℤ) else m) * 2 ^ (q + 1074).toNat := by
  cases s <;> simp [signedScaled]

/-- **An integer and a double compare as their values.** -/
theorem compareIntFloat_eq (i : Int) (x : Float) (nx : x.isNaN = false) :
    compareIntFloat i x = some (compare (Scaled.of (i * 2 ^ 1074)) (scaledValue x)) := by
  unfold compareIntFloat
  rw [nx]
  simp only [Bool.false_eq_true, if_false]
  split
  · -- an infinity is above or below every integer, as its sign says
    rename_i ix
    obtain ⟨sg, hs⟩ : ∃ sg, x.toModel.unpack = .infinity sg := by
      have : x.toModel.unpack.isInf = true := ix
      cases h : x.toModel.unpack <;> simp_all [UnpackedFloat.isInf]
    have zero : (0 : Float).toModel.unpack = .zero .positive := rfl
    have pos : x > 0 ↔ sg = .positive := by
      rw [gt_iff_lt, float_lt_iff, zero, hs]
      cases sg <;> simp [UnpackedFloat.compare]
    unfold scaledValue
    rw [hs]
    cases sg
    · simp only [pos, reduceCtorEq, if_false, unpackedKey, compare_of_bot]
    · simp only [pos, if_true, unpackedKey, compare_of_top]
  · rename_i ix
    have least := parts_exponent x
    rw [scaledValue_parts x nx (by simpa using ix), compare_of]
    generalize parts x = p at least ⊢
    obtain ⟨s, m, q⟩ := p
    simp only at least ⊢
    have pow (n : Nat) : Int.pow 2 n = 2 ^ n := rfl
    simp only [pow, signedScaled_eq]
    generalize (if s = true then -(m : ℤ) else m) = v
    split
    · -- `v × 2 ^ q` is an integer: scale both sides by `2 ^ 1074`
      rename_i nonneg
      rw [show (q + 1074).toNat = q.toNat + 1074 by omega, pow_add, ← mul_assoc,
        compare_mul_pos _ _ _ (by positivity)]
    · -- scale both sides of `i × 2 ^ -q` against `v` by `2 ^ (q + 1074)`
      rename_i neg
      rw [show (2 : ℤ) ^ 1074 = 2 ^ (-q).toNat * 2 ^ (q + 1074).toNat by
        rw [← pow_add]; congr 1; omega, ← mul_assoc, compare_mul_pos _ _ _ (by positivity)]


/-- The comparison of two doubles that are not NaN, as a three-way test, is that of their
values. -/
theorem float_compare_eq {x y : Float} (nx : x.isNaN = false) (ny : y.isNaN = false) :
    (if x < y then Ordering.lt else if x == y then .eq else .gt) =
      compare (scaledValue x) (scaledValue y) := by
  by_cases lt : x < y
  · rw [if_pos lt, compare_lt_iff_lt.mpr ((lt_iff_scaledValue nx ny).mp lt)]
  · rw [if_neg lt]
    by_cases eq : (x == y) = true
    · rw [if_pos eq, compare_eq_iff_eq.mpr ((beq_iff_scaledValue nx ny).mp eq)]
    · rw [if_neg eq, eq_comm, compare_gt_iff_gt]
      rcases lt_trichotomy (scaledValue x) (scaledValue y) with h | h | h
      · exact absurd ((lt_iff_scaledValue nx ny).mpr h) lt
      · exact absurd ((beq_iff_scaledValue nx ny).mpr h) eq
      · exact h

theorem zero_scaledValue : scaledValue 0 = Scaled.of 0 := rfl

theorem unpack_of_isNaN {x : Float} (nan : x.isNaN = true) : x.toModel.unpack = .notANumber := by
  have : x.toModel.unpack.isNaN = true := nan
  cases h : x.toModel.unpack <;> simp_all [UnpackedFloat.isNaN]

/-- Two doubles are equal when neither is NaN and their values are. -/
theorem float_beq_values {x y : Float} :
    (x == y) = true ↔ x.isNaN = false ∧ y.isNaN = false ∧ scaledValue x = scaledValue y := by
  cases nx : x.isNaN
  · cases ny : y.isNaN
    · simp [beq_iff_scaledValue nx ny]
    · rw [float_beq_iff, unpack_of_isNaN ny]
      cases x.toModel.unpack <;> simp [UnpackedFloat.compare]
  · rw [float_beq_iff, unpack_of_isNaN nx]
    simp [UnpackedFloat.compare]

theorem float_beq_zero {x : Float} :
    (x == 0) = true ↔ x.isNaN = false ∧ scaledValue x = Scaled.of 0 := by
  rw [float_beq_values, zero_scaledValue]
  exact ⟨fun ⟨nx, _, eq⟩ => ⟨nx, eq⟩, fun ⟨nx, eq⟩ => ⟨nx, rfl, eq⟩⟩

end Dataflow.Decimal
