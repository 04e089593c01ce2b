import Dataflow.Table.Sort
import Dataflow.Proofs.Build
/-!
# The quicksort of positions

**A quicksort of positions that succeeds puts them in order** (`quickArgsort_spec`): its result
holds each of the positions `0 .. n - 1` once, and none of them stands after one that is below it.
The comparison may fail; the sort needs only that `a` below `b` keeps `b` from being below `a`,
and that standing in order is transitive (`Comparison`).

Every step moves elements only among the places of its segment (`Rearranged`), and leaves some of
them in order:

* `shiftDown_spec`, `insertionSort_spec`: the element taken up is moved down past those above it,
  so the places up to it stay in order (`Hole`);
* `scanUp_spec`, `scanDown_spec`: a scan stops at the first element on the far side of the pivot,
  and the partition loop always leaves one for it to stop at (`Split`);
* `partition_spec`: the median of three puts the pivot between the first and the last element,
  and the pivot ends at its place with no element before it above it and none after it below it;
* `sortRange_spec`: every segment ends in order, by induction on the fuel.
-/

namespace Dataflow.Sorting

variable {ε : Type} (lt : Nat → Nat → Except ε Bool)

/-- `a` may stand before `b`: `b` is not below `a`. -/
def InOrder (a b : Nat) : Prop := lt b a = .ok false

/-- What the sort needs of its comparison. -/
structure Comparison : Prop where
  asymm : ∀ {a b}, lt a b = .ok true → InOrder lt a b
  trans : ∀ {a b c}, InOrder lt a b → InOrder lt b c → InOrder lt a c

/-- The places `a` to `b` of an array in order. -/
def Sorted (idx : Array Nat) (a b : Nat) : Prop :=
  ∀ p q, a ≤ p → p < q → q ≤ b → InOrder lt (idx.getD p 0) (idx.getD q 0)

/-- `idx'` holds the elements of `idx`, moved only among the places `a` to `b`. -/
structure Rearranged (a b : Nat) (idx idx' : Array Nat) : Prop where
  size : idx'.size = idx.size
  perm : idx'.toList.Perm idx.toList
  outside : ∀ p, p < a ∨ b < p → idx'.getD p 0 = idx.getD p 0
  inside : ∀ p, a ≤ p → p ≤ b → ∃ q, a ≤ q ∧ q ≤ b ∧ idx'.getD p 0 = idx.getD q 0

variable {lt}

theorem Comparison.irrefl (cmp : Comparison lt) (a : Nat) : lt a a ≠ .ok true := fun below => by
  have := cmp.asymm below
  simp_all [InOrder]

/-! ### Exchanges -/

theorem getD_setIfInBounds {idx : Array Nat} {i v : Nat} (hi : i < idx.size) (k : Nat) :
    (idx.setIfInBounds i v).getD k 0 = if k = i then v else idx.getD k 0 := by
  simp only [Array.getD_eq_getD_getElem?, Array.getElem?_setIfInBounds]
  by_cases ki : k = i
  · simp [ki, hi]
  · simp [ki, Ne.symm ki]

theorem getD_swapAt {idx : Array Nat} {i j : Nat} (hi : i < idx.size) (hj : j < idx.size)
    (k : Nat) : (swapAt idx i j).getD k 0 =
      if k = j then idx.getD i 0 else if k = i then idx.getD j 0 else idx.getD k 0 := by
  rw [swapAt, getD_setIfInBounds (by simpa using hj), getD_setIfInBounds hi]

theorem ext_getD {idx idx' : Array Nat} (size : idx.size = idx'.size)
    (all : ∀ k, idx.getD k 0 = idx'.getD k 0) : idx = idx' :=
  Array.ext size fun k h₁ h₂ => by simpa [Array.getD_eq_getD_getElem?, h₁, h₂] using all k

@[simp] theorem size_swapAt (idx : Array Nat) (i j : Nat) : (swapAt idx i j).size = idx.size := by
  simp [swapAt]

theorem swapAt_eq_swap {idx : Array Nat} {i j : Nat} (hi : i < idx.size) (hj : j < idx.size) :
    swapAt idx i j = idx.swap i j hi hj := by
  simp [swapAt, Array.swap_def, Array.setIfInBounds, hi, hj, Array.getD_eq_getD_getElem?]

/-- Writing the moved element into the hole after the element before the hole has been copied
up is exchanging the two in the array with the element written into the hole. -/
theorem setIfInBounds_hole {idx : Array Nat} {h vi : Nat} (size : h + 1 < idx.size) :
    (idx.setIfInBounds (h + 1) (idx.getD h 0)).setIfInBounds h vi =
      swapAt (idx.setIfInBounds (h + 1) vi) h (h + 1) := by
  refine ext_getD (by simp) fun k => ?_
  rw [getD_setIfInBounds (by simp; omega), getD_setIfInBounds size,
    getD_swapAt (by simp; omega) (by simpa using size), getD_setIfInBounds size,
    getD_setIfInBounds size, getD_setIfInBounds size]
  by_cases hk : k = h
  · simp [hk]
  · by_cases hk' : k = h + 1 <;> simp [hk, hk']

/-! ### Rearrangements -/

namespace Rearranged

variable {a b : Nat} {idx idx' idx'' : Array Nat}

theorem refl (idx : Array Nat) : Rearranged a b idx idx :=
  ⟨rfl, .refl _, fun _ _ => rfl, fun p h₁ h₂ => ⟨p, h₁, h₂, rfl⟩⟩

theorem trans (first : Rearranged a b idx idx') (second : Rearranged a b idx' idx'') :
    Rearranged a b idx idx'' where
  size := second.size.trans first.size
  perm := second.perm.trans first.perm
  outside p out := (second.outside p out).trans (first.outside p out)
  inside p h₁ h₂ := by
    obtain ⟨q, hq₁, hq₂, moved⟩ := second.inside p h₁ h₂
    obtain ⟨s, hs₁, hs₂, moved'⟩ := first.inside q hq₁ hq₂
    exact ⟨s, hs₁, hs₂, moved.trans moved'⟩

theorem widen {a' b' : Nat} (moved : Rearranged a b idx idx') (ha : a' ≤ a) (hb : b ≤ b') :
    Rearranged a' b' idx idx' where
  size := moved.size
  perm := moved.perm
  outside p out := moved.outside p (by omega)
  inside p h₁ h₂ := by
    by_cases within : a ≤ p ∧ p ≤ b
    · obtain ⟨q, hq₁, hq₂, eq⟩ := moved.inside p within.1 within.2
      exact ⟨q, by omega, by omega, eq⟩
    · exact ⟨p, h₁, h₂, moved.outside p (by omega)⟩

/-- What holds of the elements in the places `c` to `d` still does after they are rearranged
among themselves, or after a rearrangement apart from them. -/
theorem keeps (moved : Rearranged a b idx idx') {P : Nat → Prop} {c d : Nat}
    (all : ∀ p, c ≤ p → p ≤ d → P (idx.getD p 0)) (cover : c = a ∧ d = b ∨ b < c ∨ d < a) :
    ∀ p, c ≤ p → p ≤ d → P (idx'.getD p 0) := by
  intro p h₁ h₂
  rcases cover with ⟨rfl, rfl⟩ | apart
  · obtain ⟨q, hq₁, hq₂, eq⟩ := moved.inside p h₁ h₂
    exact eq ▸ all q hq₁ hq₂
  · rw [moved.outside p (by omega)]
    exact all p h₁ h₂

/-- Places in order apart from a rearrangement stay in order. -/
theorem sorted_apart (moved : Rearranged a b idx idx') {c d : Nat} (sorted : Sorted lt idx c d)
    (apart : b < c ∨ d < a) : Sorted lt idx' c d := by
  intro p q hp hpq hq
  rw [moved.outside p (by omega), moved.outside q (by omega)]
  exact sorted p q hp hpq hq

/-- An exchange of two places of a segment rearranges the segment. -/
theorem swapAt {i j : Nat} (hi : a ≤ i ∧ i ≤ b) (hj : a ≤ j ∧ j ≤ b) (hb : b < idx.size) :
    Rearranged a b idx (swapAt idx i j) where
  size := size_swapAt idx i j
  perm := by
    rw [swapAt_eq_swap (by omega) (by omega)]
    exact Array.perm_iff_toList_perm.mp (Array.swap_perm _ _)
  outside p out := by
    rw [getD_swapAt (by omega) (by omega)]
    simp only [show p ≠ j by omega, show p ≠ i by omega, if_false]
  inside p h₁ h₂ := by
    rw [getD_swapAt (by omega) (by omega)]
    split_ifs
    · exact ⟨i, hi.1, hi.2, rfl⟩
    · exact ⟨j, hj.1, hj.2, rfl⟩
    · exact ⟨p, h₁, h₂, rfl⟩

end Rearranged

/-! ### Insertion sort -/

section Insertion

/-- The places `pl` to `top` are in order but for the hole `h`, whose element is not above any
later one: the state of `shiftDown` with the element it moves written into the hole. -/
structure Hole (lt : Nat → Nat → Except ε Bool) (idx : Array Nat) (pl h top : Nat) : Prop where
  others : ∀ p q, pl ≤ p → p < q → q ≤ top → p ≠ h → q ≠ h →
    InOrder lt (idx.getD p 0) (idx.getD q 0)
  later : ∀ q, h < q → q ≤ top → InOrder lt (idx.getD h 0) (idx.getD q 0)

variable (cmp : Comparison lt)
include cmp

/-- The hole closes when the element before it is in order with it. -/
theorem Hole.sorted {idx : Array Nat} {pl h top : Nat} (hole : Hole lt idx pl h top)
    (closed : h = pl ∨ InOrder lt (idx.getD (h - 1) 0) (idx.getD h 0)) (hpl : pl ≤ h) :
    Sorted lt idx pl top := by
  intro p q hp hpq hq
  by_cases hqh : q = h
  · subst hqh
    rcases closed with rfl | step
    · omega
    by_cases last : p = q - 1
    · exact last ▸ step
    · exact cmp.trans (hole.others p (q - 1) hp (by omega) (by omega) (by omega) (by omega)) step
  by_cases hph : p = h
  · exact hph ▸ hole.later q (by omega) hq
  · exact hole.others p q hp hpq hq hph hqh

/-- Exchanging the hole with the element before it, when the moved element is below that one,
moves the hole down. -/
theorem Hole.swap {idx : Array Nat} {pl h top : Nat} (hole : Hole lt idx pl h top)
    (below : lt (idx.getD h 0) (idx.getD (h - 1) 0) = .ok true) (hpl : pl < h) (htop : h ≤ top)
    (size : top < idx.size) : Hole lt (swapAt idx (h - 1) h) pl (h - 1) top where
  others p q hp hpq hq hp' hq' := by
    simp only [getD_swapAt (show h - 1 < idx.size by omega) (show h < idx.size by omega), hp', hq',
      if_false]
    by_cases hqh : q = h
    · simp only [hqh, if_true, show p ≠ h by omega, if_false]
      exact hole.others p (h - 1) hp (by omega) (by omega) (by omega) (by omega)
    by_cases hph : p = h
    · simp only [hph, hqh, if_true, if_false]
      exact hole.others (h - 1) q (by omega) (by omega) hq (by omega) hqh
    · simp only [hph, hqh, if_false]
      exact hole.others p q hp hpq hq hph hqh
  later q hq hq' := by
    simp only [getD_swapAt (show h - 1 < idx.size by omega) (show h < idx.size by omega),
      show h - 1 ≠ h by omega, if_false, if_true]
    by_cases hqh : q = h
    · simp only [hqh, if_true]
      exact cmp.asymm below
    · simp only [hqh, show q ≠ h - 1 by omega, if_false]
      exact hole.later q (by omega) hq'

/-- `shiftDown` moves the element `vi` down from the hole `h` past the elements above it, which
leaves the places `pl` to `top` in order. -/
theorem shiftDown_spec {pl vi top : Nat} : ∀ (h : Nat) (idx r : Array Nat),
    shiftDown lt pl vi h idx = .ok r → pl ≤ h → h ≤ top → top < idx.size →
    Hole lt (idx.setIfInBounds h vi) pl h top →
    Rearranged pl h (idx.setIfInBounds h vi) r ∧ Sorted lt r pl top
  | 0, idx, r, run, hpl, _, _, hole => by
    simp only [shiftDown, pure, Except.pure, Except.ok.injEq] at run
    subst run
    exact ⟨.refl _, hole.sorted cmp (.inl (by omega)) hpl⟩
  | h + 1, idx, r, run, hpl, htop, size, hole => by
    have before : (idx.setIfInBounds (h + 1) vi).getD h 0 = idx.getD h 0 := by
      simp [getD_setIfInBounds (show h + 1 < idx.size by omega)]
    have hole_vi : (idx.setIfInBounds (h + 1) vi).getD (h + 1) 0 = vi := by
      simp [getD_setIfInBounds (show h + 1 < idx.size by omega)]
    rw [shiftDown] at run
    split at run
    · obtain ⟨below, compared, run⟩ := bind_eq_ok.mp run
      cases below
      · -- `vi` is not below the element before the hole, and stays in the hole
        simp only [Bool.false_eq_true, if_false, pure, Except.pure, Except.ok.injEq] at run
        subst run
        refine ⟨.refl _, hole.sorted cmp (.inr ?_) hpl⟩
        rw [Nat.add_sub_cancel, before, hole_vi]
        exact compared
      · -- the element before the hole moves up into it
        simp only [if_true] at run
        have swapped := hole.swap cmp (by rw [Nat.add_sub_cancel, before, hole_vi]; exact compared)
          (by omega) htop (by simpa using size)
        rw [Nat.add_sub_cancel, ← setIfInBounds_hole (by omega)] at swapped
        obtain ⟨moved, sorted⟩ := shiftDown_spec h _ r run (by omega) (by omega)
          (by simpa using size) swapped
        rw [setIfInBounds_hole (by omega)] at moved
        exact ⟨(Rearranged.swapAt (by omega) (by omega) (by simp; omega)).trans
          (moved.widen le_rfl (by omega)), sorted⟩
    · -- the hole is at `pl`
      simp only [pure, Except.pure, Except.ok.injEq] at run
      subst run
      exact ⟨.refl _, hole.sorted cmp (.inl (by omega)) hpl⟩

/-- Inserting the elements at the places `s` to `s + n - 1` in turn, the places from `pl` before
them being in order, leaves the places `pl` to `s + n - 1` in order. -/
theorem insertAll_spec {pl : Nat} : ∀ (n s : Nat) (idx r : Array Nat),
    (List.range' s n).foldlM (fun idx pi => shiftDown lt pl (idx.getD pi 0) pi idx) idx = .ok r →
    pl < s → s + n ≤ idx.size → Sorted lt idx pl (s - 1) →
    Rearranged pl (s + n - 1) idx r ∧ Sorted lt r pl (s + n - 1)
  | 0, s, idx, r, run, _, _, sorted => by
    simp only [List.range'_zero, List.foldlM_nil, pure, Except.pure, Except.ok.injEq] at run
    subst run
    exact ⟨.refl _, by simpa using sorted⟩
  | n + 1, s, idx, r, run, hs, size, sorted => by
    rw [List.range'_succ, List.foldlM_cons, bind_eq_ok] at run
    obtain ⟨mid, step, rest⟩ := run
    -- the element taken up is already in its hole
    have unchanged : idx.setIfInBounds s (idx.getD s 0) = idx := ext_getD (by simp) fun k => by
      rw [getD_setIfInBounds (by omega)]
      split <;> simp_all
    have hole : Hole lt (idx.setIfInBounds s (idx.getD s 0)) pl s s := by
      rw [unchanged]
      exact ⟨fun p q hp hpq hq _ _ => sorted p q hp hpq (by omega), fun q hq hq' => by omega⟩
    obtain ⟨moved, inserted⟩ := shiftDown_spec cmp s idx mid step (by omega) le_rfl (by omega) hole
    rw [unchanged] at moved
    obtain ⟨moved', sorted'⟩ := insertAll_spec n (s + 1) mid r rest (by omega)
      (by rw [moved.size]; omega) (by simpa using inserted)
    rw [show s + 1 + n - 1 = s + (n + 1) - 1 by omega] at moved' sorted'
    exact ⟨(moved.widen le_rfl (by omega)).trans moved', sorted'⟩

theorem insertionSort_spec {pl pr : Nat} {idx r : Array Nat}
    (run : insertionSort lt pl pr idx = .ok r) (size : pr < idx.size) :
    Rearranged pl pr idx r ∧ Sorted lt r pl pr := by
  by_cases short : pr ≤ pl
  · simp only [insertionSort, show pr - pl = 0 by omega, List.range'_zero, List.foldlM_nil, pure,
      Except.pure, Except.ok.injEq] at run
    subst run
    exact ⟨.refl _, fun p q hp hpq hq => by omega⟩
  · have inserted := insertAll_spec cmp (pr - pl) (pl + 1) idx r run (by omega) (by omega)
      (fun p q hp hpq hq => by omega)
    rwa [show pl + 1 + (pr - pl) - 1 = pr by omega] at inserted

end Insertion

/-! ### Partition -/

section Partition

/-- The state of the partition loop around the pivot `vp`, which is kept at `pr - 1`: no element
up to `pi` is above the pivot, and none from `pj` to `pr - 2` below it. -/
structure Split (lt : Nat → Nat → Except ε Bool) (vp pl pr : Nat) (idx : Array Nat) (pi pj : Nat) :
    Prop where
  bounds : pl ≤ pi ∧ pi < pj ∧ pj ≤ pr - 1
  pivot : idx.getD (pr - 1) 0 = vp
  left : ∀ k, pl ≤ k → k ≤ pi → InOrder lt (idx.getD k 0) vp
  right : ∀ k, pj ≤ k → k ≤ pr - 2 → InOrder lt vp (idx.getD k 0)

theorem InOrder.ne_true {a b : Nat} (inOrder : InOrder lt a b) : lt b a ≠ .ok true := by
  rw [InOrder] at inOrder
  simp [inOrder]

/-- `scanUp` passes the elements below the pivot and stops at the first that is not, no later
than a place `s` whose element is not below the pivot. -/
theorem scanUp_spec {vp : Nat} {idx : Array Nat} : ∀ {fuel pi r s : Nat},
    scanUp lt vp idx fuel pi = .ok r → pi < s → s ≤ pi + fuel → lt (idx.getD s 0) vp ≠ .ok true →
    pi < r ∧ r ≤ s ∧ lt (idx.getD r 0) vp = .ok false ∧
      ∀ k, pi < k → k < r → lt (idx.getD k 0) vp = .ok true
  | 0, _, _, _, _, h₁, h₂, _ => by omega
  | fuel + 1, pi, r, s, run, h₁, h₂, stop => by
    rw [scanUp, bind_eq_ok] at run
    obtain ⟨below, compared, run⟩ := run
    cases below
    · simp only [Bool.false_eq_true, if_false, pure, Except.pure, Except.ok.injEq] at run
      subst run
      exact ⟨by omega, by omega, compared, fun k h₁ h₂ => by omega⟩
    · simp only [if_true] at run
      have later : pi + 1 < s := by
        by_contra
        exact stop (by rwa [show s = pi + 1 by omega])
      obtain ⟨h₃, h₄, stopped, passed⟩ := scanUp_spec run later (by omega) stop
      refine ⟨by omega, h₄, stopped, fun k hk hk' => ?_⟩
      by_cases first : k = pi + 1
      · rwa [first]
      · exact passed k (by omega) hk'

/-- `scanDown` passes the elements above the pivot and stops at the first that is not, no earlier
than a place `s` whose element is not above the pivot. -/
theorem scanDown_spec {vp : Nat} {idx : Array Nat} : ∀ {fuel pj r s : Nat},
    scanDown lt vp idx fuel pj = .ok r → s < pj → pj ≤ s + fuel → lt vp (idx.getD s 0) ≠ .ok true →
    s ≤ r ∧ r < pj ∧ lt vp (idx.getD r 0) = .ok false ∧
      ∀ k, r < k → k < pj → lt vp (idx.getD k 0) = .ok true
  | 0, _, _, _, _, h₁, h₂, _ => by omega
  | fuel + 1, pj, r, s, run, h₁, h₂, stop => by
    rw [scanDown, bind_eq_ok] at run
    obtain ⟨above, compared, run⟩ := run
    cases above
    · simp only [Bool.false_eq_true, if_false, pure, Except.pure, Except.ok.injEq] at run
      subst run
      exact ⟨by omega, by omega, compared, fun k h₁ h₂ => by omega⟩
    · simp only [if_true] at run
      have earlier : s < pj - 1 := by
        by_contra
        exact stop (by rwa [show s = pj - 1 by omega])
      obtain ⟨h₃, h₄, stopped, passed⟩ := scanDown_spec run earlier (by omega) stop
      refine ⟨h₃, by omega, stopped, fun k hk hk' => ?_⟩
      by_cases first : k = pj - 1
      · rwa [first]
      · exact passed k hk (by omega)

variable (cmp : Comparison lt)
include cmp

/-- The partition loop ends at the pivot's place `pi`: no element before it is above the pivot,
none after it up to `pr - 2` is below it, nor is the one at `pi`. -/
theorem partitionLoop_spec {vp pl pr width : Nat} (wide : pr - pl ≤ width) :
    ∀ (fuel : Nat) (idx : Array Nat) (pi pj : Nat) (out : Array Nat × Nat),
    partitionLoop lt vp width fuel idx pi pj = .ok out → Split lt vp pl pr idx pi pj →
    pj - pi ≤ fuel → pr - 1 < idx.size →
    Rearranged pl (pr - 2) idx out.1 ∧ pl < out.2 ∧ out.2 ≤ pr - 1 ∧ out.1.getD (pr - 1) 0 = vp ∧
      (∀ k, pl ≤ k → k < out.2 → InOrder lt (out.1.getD k 0) vp) ∧
      (∀ k, out.2 < k → k ≤ pr - 2 → InOrder lt vp (out.1.getD k 0)) ∧
      InOrder lt vp (out.1.getD out.2 0)
  | 0, _, _, _, _, _, split, enough, _ => by have := split.bounds; omega
  | fuel + 1, idx, pi, pj, out, run, split, enough, size => by
    obtain ⟨hpl, hpi, hpj⟩ := split.bounds
    rw [partitionLoop, bind_eq_ok] at run
    obtain ⟨r₁, up, run⟩ := run
    rw [bind_eq_ok] at run
    obtain ⟨r₂, down, run⟩ := run
    -- the scan up stops at `pj` at the latest, the scan down at `pi` at the earliest
    have upStop : lt (idx.getD pj 0) vp ≠ .ok true := by
      by_cases last : pj = pr - 1
      · rw [last, split.pivot]
        exact cmp.irrefl vp
      · exact InOrder.ne_true (split.right pj le_rfl (by omega))
    obtain ⟨hr₁, hr₁', stop₁, passed₁⟩ := scanUp_spec up hpi (by omega) upStop
    obtain ⟨hr₂, hr₂', stop₂, passed₂⟩ :=
      scanDown_spec down hpi (by omega) (InOrder.ne_true (split.left pi hpl le_rfl))
    split at run
    · -- the scans met
      simp only [pure, Except.pure, Except.ok.injEq] at run
      subst run
      refine ⟨.refl _, by omega, by omega, split.pivot, fun k hk hk' => ?_, fun k hk hk' => ?_,
        stop₁⟩
      · by_cases old : k ≤ pi
        · exact split.left k hk old
        · exact cmp.asymm (passed₁ k (by omega) hk')
      · by_cases old : pj ≤ k
        · exact split.right k old hk'
        · exact cmp.asymm (passed₂ k (by omega) (by omega))
    · -- the two elements that stopped the scans change sides
      have at₁ : r₁ < idx.size := by omega
      have at₂ : r₂ < idx.size := by omega
      have split' : Split lt vp pl pr (swapAt idx r₁ r₂) r₁ r₂ := by
        refine ⟨by omega, ?_, fun k hk hk' => ?_, fun k hk hk' => ?_⟩
        · rw [getD_swapAt at₁ at₂, if_neg (by omega), if_neg (by omega), split.pivot]
        · rw [getD_swapAt at₁ at₂, if_neg (by omega)]
          by_cases moved : k = r₁
          · rw [if_pos moved]
            exact stop₂
          · rw [if_neg moved]
            by_cases old : k ≤ pi
            · exact split.left k hk old
            · exact cmp.asymm (passed₁ k (by omega) (by omega))
        · rw [getD_swapAt at₁ at₂]
          by_cases moved : k = r₂
          · rw [if_pos moved]
            exact stop₁
          · rw [if_neg moved, if_neg (by omega)]
            by_cases old : pj ≤ k
            · exact split.right k old hk'
            · exact cmp.asymm (passed₂ k (by omega) (by omega))
      obtain ⟨moved, rest⟩ :=
        partitionLoop_spec wide fuel _ r₁ r₂ out run split' (by omega) (by simpa using size)
      exact ⟨(Rearranged.swapAt (by omega) (by omega) (by omega)).trans moved, rest⟩

/-- `orderPair` leaves the element at `j` in order before the one at `i`, by exchanging them or
not. -/
theorem orderPair_spec {idx idx' : Array Nat} {a b i j : Nat} (run : orderPair lt idx i j = .ok idx')
    (hi : a ≤ i ∧ i ≤ b) (hj : a ≤ j ∧ j ≤ b) (size : b < idx.size) :
    Rearranged a b idx idx' ∧ (idx' = idx ∨ idx' = swapAt idx i j) ∧
      InOrder lt (idx'.getD j 0) (idx'.getD i 0) := by
  rw [orderPair, bind_eq_ok] at run
  obtain ⟨below, compared, run⟩ := run
  cases below
  · simp only [Bool.false_eq_true, if_false, pure, Except.pure, Except.ok.injEq] at run
    subst run
    exact ⟨.refl _, .inl rfl, compared⟩
  · simp only [if_true, pure, Except.pure, Except.ok.injEq] at run
    subst run
    refine ⟨.swapAt hi hj size, .inr rfl, ?_⟩
    have apart : i ≠ j := fun same => cmp.irrefl _ (same ▸ compared)
    rw [getD_swapAt (by omega) (by omega), getD_swapAt (by omega) (by omega), if_pos rfl,
      if_neg apart, if_pos rfl]
    exact cmp.asymm compared

/-- The median of three leaves the element at `pm` between those at `pl` and `pr`. -/
theorem median_spec {idx idx₁ idx₂ idx₃ : Array Nat} {pl pm pr : Nat}
    (first : orderPair lt idx pm pl = .ok idx₁) (second : orderPair lt idx₁ pr pm = .ok idx₂)
    (third : orderPair lt idx₂ pm pl = .ok idx₃) (hlm : pl < pm) (hmr : pm < pr)
    (size : pr < idx.size) :
    Rearranged pl pr idx idx₃ ∧ InOrder lt (idx₃.getD pl 0) (idx₃.getD pm 0) ∧
      InOrder lt (idx₃.getD pm 0) (idx₃.getD pr 0) := by
  obtain ⟨moved₁, -, o₁⟩ := orderPair_spec cmp first ⟨hlm.le, hmr.le⟩ ⟨le_rfl, by omega⟩ size
  have size₁ : pr < idx₁.size := moved₁.size ▸ size
  obtain ⟨moved₂, swap₂, o₂⟩ := orderPair_spec cmp second ⟨by omega, le_rfl⟩ ⟨hlm.le, hmr.le⟩ size₁
  have size₂ : pr < idx₂.size := moved₂.size ▸ size₁
  -- the first element is in order with the last, whether the second step exchanged or not
  have o₂' : InOrder lt (idx₂.getD pl 0) (idx₂.getD pr 0) := by
    rcases swap₂ with rfl | rfl
    · exact cmp.trans o₁ o₂
    · rw [getD_swapAt (by omega) (by omega), getD_swapAt (by omega) (by omega),
        if_neg (by omega), if_neg (by omega), if_neg (by omega), if_pos rfl]
      exact o₁
  obtain ⟨moved₃, swap₃, o₃⟩ := orderPair_spec cmp third ⟨hlm.le, hmr.le⟩ ⟨le_rfl, by omega⟩ size₂
  refine ⟨(moved₁.trans moved₂).trans moved₃, o₃, ?_⟩
  rcases swap₃ with rfl | rfl
  · exact o₂
  · rw [getD_swapAt (by omega) (by omega), getD_swapAt (by omega) (by omega), if_neg (by omega),
      if_pos rfl, if_neg (by omega), if_neg (by omega)]
    exact o₂'

/-- The partition of the places `pl` to `pr` puts the pivot at its place `pi`, with no element
before it above it and none after it below it. -/
theorem partition_spec {pl pr : Nat} {idx : Array Nat} {out : Array Nat × Nat}
    (run : partition lt pl pr idx = .ok out) (long : pl + 16 < pr) (size : pr < idx.size) :
    Rearranged pl pr idx out.1 ∧ pl < out.2 ∧ out.2 < pr ∧
      (∀ k, pl ≤ k → k < out.2 → InOrder lt (out.1.getD k 0) (out.1.getD out.2 0)) ∧
      (∀ k, out.2 < k → k ≤ pr → InOrder lt (out.1.getD out.2 0) (out.1.getD k 0)) := by
  simp only [partition, bind_eq_ok] at run
  obtain ⟨idx₁, first, idx₂, second, idx₃, third, ⟨idx₄, pi⟩, loop, run⟩ := run
  simp only [pure, Except.pure, Except.ok.injEq] at run
  subst run
  set pm := pl + (pr - pl) / 2
  obtain ⟨moved, lower, upper⟩ := median_spec cmp first second third (by omega) (by omega) size
  have size₃ : pr < idx₃.size := moved.size ▸ size
  have at₁ : pm < idx₃.size := by omega
  have at₂ : pr - 1 < idx₃.size := by omega
  -- the pivot waits at `pr - 1` while the loop runs
  have start : Split lt (idx₃.getD pm 0) pl pr (swapAt idx₃ pm (pr - 1)) pl (pr - 1) := by
    refine ⟨by omega, ?_, fun k hk hk' => ?_, fun k hk hk' => by omega⟩
    · rw [getD_swapAt at₁ at₂, if_pos rfl]
    · rw [show k = pl by omega, getD_swapAt at₁ at₂, if_neg (by omega), if_neg (by omega)]
      exact lower
  obtain ⟨looped, hpi, hpi', pivot, before, after, atPi⟩ := partitionLoop_spec cmp (by omega) _ _ _ _
    (idx₄, pi) loop start (by omega) (by simpa using at₂)
  dsimp only at looped hpi hpi' pivot before after atPi ⊢
  have size₄ : pr < idx₄.size := by simpa [looped.size] using size₃
  have last : InOrder lt (idx₃.getD pm 0) (idx₄.getD pr 0) := by
    rw [looped.outside pr (by omega), getD_swapAt at₁ at₂, if_neg (by omega), if_neg (by omega)]
    exact upper
  have placed : (swapAt idx₄ pi (pr - 1)).getD pi 0 = idx₃.getD pm 0 := by
    rw [getD_swapAt (by omega) (by omega)]
    by_cases top : pi = pr - 1
    · rw [if_pos top, top, pivot]
    · rw [if_neg top, if_pos rfl, pivot]
  refine ⟨?_, hpi, by omega, fun k hk hk' => ?_, fun k hk hk' => ?_⟩
  · exact ((moved.trans (.swapAt ⟨by omega, by omega⟩ ⟨by omega, by omega⟩ size₃)).trans
      (looped.widen le_rfl (by omega))).trans (.swapAt ⟨hpi.le, by omega⟩ ⟨by omega, by omega⟩ size₄)
  · rw [placed, getD_swapAt (by omega) (by omega), if_neg (by omega), if_neg (by omega)]
    exact before k hk hk'
  · rw [placed, getD_swapAt (by omega) (by omega)]
    by_cases top : k = pr - 1
    · rw [if_pos top]
      exact atPi
    · rw [if_neg top, if_neg (by omega)]
      by_cases end_ : k = pr
      · exact end_ ▸ last
      · exact after k hk (by omega)

end Partition

/-! ### Quicksort -/

section Quicksort

variable (cmp : Comparison lt)
include cmp

/-- Two sides of a pivot at `m`, each in order, the first not above the pivot and the second not
below it, make the places `a` to `b` in order. -/
theorem sorted_around {idx : Array Nat} {a m b : Nat} (left : Sorted lt idx a (m - 1))
    (right : Sorted lt idx (m + 1) b)
    (below : ∀ k, a ≤ k → k ≤ m - 1 → InOrder lt (idx.getD k 0) (idx.getD m 0))
    (above : ∀ k, m + 1 ≤ k → k ≤ b → InOrder lt (idx.getD m 0) (idx.getD k 0)) (hm : a < m) :
    Sorted lt idx a b := by
  intro p q hp hpq hq
  by_cases hqm : q < m
  · exact left p q hp hpq (by omega)
  by_cases hpm : m < p
  · exact right p q (by omega) hpq hq
  by_cases hp' : p = m
  · exact hp' ▸ above q (by omega) hq
  by_cases hq' : q = m
  · exact hq' ▸ below p hp (by omega)
  exact cmp.trans (below p hp (by omega)) (above q (by omega) hq)

/-- Sorting the two sides of a partition one after the other, in either order, sorts the whole
segment. -/
theorem sorted_sides {idx₁ idx₂ r : Array Nat} {pl pi pr a₁ b₁ a₂ b₂ : Nat}
    (hpi : pl < pi) (hpi' : pi < pr)
    (below : ∀ k, pl ≤ k → k < pi → InOrder lt (idx₁.getD k 0) (idx₁.getD pi 0))
    (above : ∀ k, pi < k → k ≤ pr → InOrder lt (idx₁.getD pi 0) (idx₁.getD k 0))
    (moved₁ : Rearranged a₁ b₁ idx₁ idx₂) (sorted₁ : Sorted lt idx₂ a₁ b₁)
    (moved₂ : Rearranged a₂ b₂ idx₂ r) (sorted₂ : Sorted lt r a₂ b₂)
    (sides : a₁ = pl ∧ b₁ = pi - 1 ∧ a₂ = pi + 1 ∧ b₂ = pr ∨
      a₁ = pi + 1 ∧ b₁ = pr ∧ a₂ = pl ∧ b₂ = pi - 1) :
    Rearranged pl pr idx₁ r ∧ Sorted lt r pl pr := by
  have pivot : r.getD pi 0 = idx₁.getD pi 0 := by
    rw [moved₂.outside pi (by omega), moved₁.outside pi (by omega)]
  -- each side ends in order: sorted first and then left alone, or sorted last
  have side : ∀ c d, c = a₁ ∧ d = b₁ ∧ (b₂ < c ∨ d < a₂) ∨ c = a₂ ∧ d = b₂ → Sorted lt r c d := by
    rintro c d (⟨rfl, rfl, apart⟩ | ⟨rfl, rfl⟩)
    · exact moved₂.sorted_apart sorted₁ apart
    · exact sorted₂
  refine ⟨(moved₁.widen (by omega) (by omega)).trans (moved₂.widen (by omega) (by omega)),
    sorted_around cmp (side _ _ (by omega)) (side _ _ (by omega)) ?_ ?_ hpi⟩
  · let P := fun x => InOrder lt x (idx₁.getD pi 0)
    rw [pivot]
    exact moved₂.keeps (P := P) (moved₁.keeps (P := P) (fun k hk hk' => below k hk (by omega))
      (by omega)) (by omega)
  · let P := InOrder lt (idx₁.getD pi 0)
    rw [pivot]
    exact moved₂.keeps (P := P) (moved₁.keeps (P := P) (fun k hk hk' => above k (by omega) hk')
      (by omega)) (by omega)

/-- Every run of `sortRange` that succeeds puts its segment in order, by induction on the fuel. -/
theorem sortRange_spec : ∀ (fuel pl pr : Nat) (depth : Int) (fresh : Bool) (idx r : Array Nat),
    sortRange lt fuel pl pr depth fresh idx = .ok r → pr < idx.size →
    Rearranged pl pr idx r ∧ Sorted lt r pl pr
  | 0, _, _, _, _, _, _, run, size => insertionSort_spec cmp run size
  | fuel + 1, pl, pr, depth, fresh, idx, r, run, size => by
    rw [sortRange] at run
    split at run
    · exact insertionSort_spec cmp run size
    split at run
    · rw [bind_eq_ok] at run
      obtain ⟨⟨idx₁, pi⟩, parted, run⟩ := run
      obtain ⟨moved, hpi, hpi', below, above⟩ := partition_spec cmp parted (by omega) size
      dsimp only at moved hpi hpi' below above run
      have size₁ : pr < idx₁.size := moved.size ▸ size
      -- the smaller side is sorted first
      split at run <;> rw [bind_eq_ok] at run <;> obtain ⟨idx₂, first, second⟩ := run
      all_goals
        obtain ⟨moved₁, sorted₁⟩ := sortRange_spec fuel _ _ _ _ _ _ first (by omega)
        obtain ⟨moved₂, sorted₂⟩ := sortRange_spec fuel _ _ _ _ _ _ second (by rw [moved₁.size]; omega)
        obtain ⟨moved', sorted⟩ := sorted_sides cmp hpi hpi' below above moved₁ sorted₁ moved₂ sorted₂
          (by omega)
        exact ⟨moved.trans moved', sorted⟩
    · exact insertionSort_spec cmp run size

/-- **A quicksort of positions that succeeds puts them in order**: each position once, none after
one below it. -/
theorem quickArgsort_spec {n : Nat} {order : Array Nat} (run : quickArgsort lt n = .ok order) :
    order.toList.Perm (List.range n) ∧ order.toList.Pairwise (InOrder lt) := by
  have sorted : order.toList.Perm (List.range n) ∧ Sorted lt order 0 (n - 1) := by
    rw [quickArgsort] at run
    split at run
    · simp only [pure, Except.pure, Except.ok.injEq] at run
      subst run
      exact ⟨by simp, fun p q hp hpq hq => by omega⟩
    · obtain ⟨moved, sorted⟩ := sortRange_spec cmp _ _ _ _ _ _ _ run (by simp; omega)
      exact ⟨by simpa using moved.perm, sorted⟩
  obtain ⟨perm, sorted⟩ := sorted
  refine ⟨perm, List.pairwise_iff_getElem.mpr fun p q hp hq hpq => ?_⟩
  have size : order.size = n := by simpa using perm.length_eq
  have hp' : p < order.size := by simpa using hp
  have hq' : q < order.size := by simpa using hq
  simpa [Array.getD_eq_getD_getElem?, Array.getElem?_eq_getElem hp', Array.getElem?_eq_getElem hq']
    using sorted p q (Nat.zero_le p) hpq (by omega)

end Quicksort

end Dataflow.Sorting
