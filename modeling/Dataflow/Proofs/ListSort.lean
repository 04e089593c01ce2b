import Dataflow.Flow.Order
import Mathlib.Data.List.Sort
import Mathlib.Data.List.Chain
/-!
# The list sort is a stable sort

**`listSort` sorts as a merge sort does.** When the comparison answers `key a < key b` for the
items of a list and never fails, `listSort` gives the items stably sorted by `key`, which is
`List.mergeSort` with `key a ≤ key b`.

A stable sort is pinned down by three facts (`eq_of_keyClass_eq`): it permutes the items, it is
sorted, and each class of items with equal keys keeps its order. The sort is checked against
them piece by piece:

* `leadingRun_spec`: the leading run is ascending or strictly descending, so the run, reversed
  when descending, is sorted with its classes in order;
* `insertionPlace_spec`: the binary search stops after every item whose key is not above the
  pivot's and before every item whose key is;
* `insertSorted_spec`: an insertion there keeps the items sorted and puts the new item last in
  its class;
* `listSort_eq_mergeSort`: the whole sort.
-/

namespace Dataflow

open List

variable {α β ε : Type} [LinearOrder β] (key : α → β)

/-! ### Stable sorts -/

/-- Items in the order of their keys. -/
def SortedBy (l : List α) : Prop := l.Pairwise fun a b => key a ≤ key b

/-- The items of a list whose key is `k`, in the list's order. -/
def keyClass (k : β) (l : List α) : List α := l.filter fun a => key a = k

/-- The comparison answers `key a < key b` for every pair of items of `xs`. -/
def ComparesBy (lt : α → α → Except ε Bool) (xs : List α) : Prop :=
  ∀ a ∈ xs, ∀ b ∈ xs, lt a b = .ok (decide (key a < key b))

/-- The binary search's bounds around a pivot `x`: the items before `lo` are not above it and
the items from `hi` on are above it. -/
def Brackets (l : List α) (x : α) (lo hi : Nat) : Prop :=
  lo ≤ hi ∧ hi ≤ l.length ∧ (∀ y ∈ l.take lo, key y ≤ key x) ∧ ∀ y ∈ l.drop hi, key x < key y

/-- Whether `b` carries a run on from `a`: below it in a descending run, not below it in an
ascending one. -/
def Continues (descending : Bool) (a b : α) : Prop := decide (key b < key a) = descending

variable {key}

theorem keyClass_append (k : β) (l₁ l₂ : List α) :
    keyClass key k (l₁ ++ l₂) = keyClass key k l₁ ++ keyClass key k l₂ :=
  filter_append l₁ l₂

/-- **A sorted list is pinned down by its classes of equal keys.** -/
theorem eq_of_keyClass_eq {l₁ l₂ : List α} (sorted₁ : SortedBy key l₁)
    (sorted₂ : SortedBy key l₂) (perm : l₁ ~ l₂)
    (classes : ∀ k, keyClass key k l₁ = keyClass key k l₂) : l₁ = l₂ := by
  induction l₁ generalizing l₂ with
  | nil => exact (perm_nil.mp perm.symm).symm
  | cons a t₁ ih =>
    obtain _ | ⟨b, t₂⟩ := l₂
    · exact absurd perm.length_eq (by simp)
    have first : key a ≤ key b := by
      rcases mem_cons.mp (perm.mem_iff.mpr mem_cons_self) with same | later
      · rw [same]
      · exact rel_of_pairwise_cons sorted₁ later
    have second : key b ≤ key a := by
      rcases mem_cons.mp (perm.mem_iff.mp mem_cons_self) with same | later
      · rw [same]
      · exact rel_of_pairwise_cons sorted₂ later
    have heads : a = b := by
      have own := classes (key a)
      simp only [keyClass, filter_cons, le_antisymm second first, decide_true, if_true,
        cons.injEq] at own
      exact own.1
    subst heads
    congr 1
    refine ih (pairwise_cons.mp sorted₁).2 (pairwise_cons.mp sorted₂).2 perm.cons_inv fun k => ?_
    have own := classes k
    by_cases same : key a = k <;> simpa [keyClass, filter_cons, same] using own

theorem keyLe_trans (a b c : α) : decide (key a ≤ key b) = true →
    decide (key b ≤ key c) = true → decide (key a ≤ key c) = true := by
  simp only [decide_eq_true_eq]
  exact le_trans

theorem keyLe_total (a b : α) : (decide (key a ≤ key b) || decide (key b ≤ key a)) = true := by
  simpa using le_total (key a) (key b)

/-- A merge sort keeps every class of equal keys in its order. -/
theorem keyClass_mergeSort (k : β) (l : List α) :
    keyClass key k (l.mergeSort fun a b => decide (key a ≤ key b)) = keyClass key k l := by
  have level : (keyClass key k l).Pairwise fun a b => decide (key a ≤ key b) = true := by
    refine pairwise_of_forall_mem_list fun a ina b inb => ?_
    simp only [keyClass, mem_filter, decide_eq_true_eq] at ina inb
    simp [ina.2, inb.2]
  have kept := (sublist_mergeSort keyLe_trans keyLe_total level filter_sublist).filter
    (fun a => decide (key a = k))
  rw [show (keyClass key k l).filter (fun a => decide (key a = k)) = keyClass key k l by
    simp [keyClass, filter_filter]] at kept
  exact (kept.eq_of_length ((mergeSort_perm l _).filter _).length_eq.symm).symm

theorem sortedBy_mergeSort (l : List α) :
    SortedBy key (l.mergeSort fun a b => decide (key a ≤ key b)) := by
  have sorted : (l.mergeSort fun a b => decide (key a ≤ key b)).Pairwise
      (fun a b => decide (key a ≤ key b) = true) :=
    pairwise_mergeSort keyLe_trans keyLe_total l
  simpa [SortedBy] using sorted

/-- A list that is a sorted permutation of `l` with the classes of `l` is its merge sort. -/
theorem eq_mergeSort {l out : List α} (sorted : SortedBy key out) (perm : out ~ l)
    (classes : ∀ k, keyClass key k out = keyClass key k l) :
    out = l.mergeSort fun a b => decide (key a ≤ key b) :=
  eq_of_keyClass_eq sorted (sortedBy_mergeSort l) (perm.trans (mergeSort_perm l _).symm)
    fun k => (classes k).trans (keyClass_mergeSort k l).symm

/-- Two keys that order the items of a list alike sort it alike. -/
theorem mergeSort_congr_key {γ : Type} [LinearOrder γ] {key₁ : α → β} {key₂ : α → γ} {l : List α}
    (alike : ∀ a ∈ l, ∀ b ∈ l, key₁ a ≤ key₁ b ↔ key₂ a ≤ key₂ b) :
    (l.mergeSort fun a b => decide (key₁ a ≤ key₁ b)) =
      l.mergeSort fun a b => decide (key₂ a ≤ key₂ b) := by
  have perm := mergeSort_perm l fun a b => decide (key₁ a ≤ key₁ b)
  -- equal keys for one are equal keys for the other
  have same : ∀ a ∈ l, ∀ b ∈ l, key₁ a = key₁ b ↔ key₂ a = key₂ b := fun a ina b inb => by
    rw [le_antisymm_iff, le_antisymm_iff, alike a ina b inb, alike b inb a ina]
  refine eq_mergeSort ?_ perm fun k => ?_
  · have sorted : SortedBy key₁ (l.mergeSort fun a b => decide (key₁ a ≤ key₁ b)) :=
      sortedBy_mergeSort l
    exact sorted.imp_of_mem fun ina inb below =>
      (alike _ (perm.subset ina) _ (perm.subset inb)).mp below
  · by_cases hit : ∃ a ∈ l, key₂ a = k
    · obtain ⟨a, ina, rfl⟩ := hit
      have classes : ∀ m : List α, (∀ b ∈ m, b ∈ l) →
          keyClass key₂ (key₂ a) m = keyClass key₁ (key₁ a) m := fun m inside =>
        filter_congr fun b inm => by
          simp [same b (inside b inm) a ina]
      rw [classes _ perm.subset, classes l fun _ member => member, keyClass_mergeSort]
    · have empty : ∀ m : List α, (∀ b ∈ m, b ∈ l) → keyClass key₂ k m = [] := fun m inside =>
        filter_eq_nil_iff.mpr fun b inm => by
          simpa using fun hits => hit ⟨b, inside b inm, hits⟩
      rw [empty _ perm.subset, empty l fun _ member => member]

/-! ### One insertion -/

/-- In a sorted list, the first `p` items are not above the rest. -/
theorem SortedBy.take_le_drop {l : List α} (sorted : SortedBy key l) (p : Nat) :
    ∀ a ∈ l.take p, ∀ b ∈ l.drop p, key a ≤ key b := by
  unfold SortedBy at sorted
  rw [← take_append_drop p l] at sorted
  exact (pairwise_append.mp sorted).2.2

/-- A probe at a sorted item not above the pivot moves the lower bound past it. -/
theorem Brackets.raise {l : List α} {x : α} {lo hi p : Nat} (sorted : SortedBy key l)
    (bracket : Brackets key l x lo hi) (between : lo ≤ p ∧ p < hi) (inside : p < l.length)
    (probe : key l[p] ≤ key x) : Brackets key l x (p + 1) hi := by
  obtain ⟨_, bounded, below, above⟩ := bracket
  refine ⟨by omega, bounded, fun y member => ?_, above⟩
  rw [take_succ_eq_append_getElem inside, mem_append, mem_singleton] at member
  rcases member with earlier | rfl
  · have next : l[p] ∈ l.drop p := by
      rw [drop_eq_getElem_cons inside]
      exact mem_cons_self
    exact le_trans (sorted.take_le_drop p y earlier l[p] next) probe
  · exact probe

/-- A probe at a sorted item above the pivot moves the upper bound down to it. -/
theorem Brackets.lower {l : List α} {x : α} {lo hi p : Nat} (sorted : SortedBy key l)
    (bracket : Brackets key l x lo hi) (between : lo ≤ p ∧ p < hi) (inside : p < l.length)
    (probe : key x < key l[p]) : Brackets key l x lo p := by
  obtain ⟨_, _, below, _⟩ := bracket
  refine ⟨between.1, by omega, below, fun y member => ?_⟩
  rw [drop_eq_getElem_cons inside, mem_cons] at member
  rcases member with rfl | later
  · exact probe
  · have first : l[p] ∈ l.take (p + 1) := by
      rw [take_succ_eq_append_getElem inside]
      exact mem_append_right _ mem_cons_self
    exact lt_of_lt_of_le probe (sorted.take_le_drop (p + 1) _ first y later)

variable {lt : α → α → Except ε Bool} {xs : List α}

/-- **The binary search** stops where the items not above the pivot end, given more fuel than
the width of the bounds. -/
theorem insertionPlace_spec (compares : ComparesBy key lt xs) {acc : Array α}
    (within : ∀ y ∈ acc.toList, y ∈ xs) (sorted : SortedBy key acc.toList) {x : α}
    (member : x ∈ xs) (fuel : Nat) :
    ∀ lo hi, Brackets key acc.toList x lo hi → hi - lo < fuel →
      ∃ place, insertionPlace lt acc x fuel lo hi = .ok place ∧
        Brackets key acc.toList x place place := by
  induction fuel with
  | zero => intro lo hi _ enough; omega
  | succ fuel ih =>
    intro lo hi bracket enough
    by_cases wide : lo < hi
    · have inside : lo + (hi - lo) / 2 < acc.toList.length := by
        have := bracket.2.1
        omega
      have between : lo ≤ lo + (hi - lo) / 2 ∧ lo + (hi - lo) / 2 < hi := by omega
      have answer := compares x member _ (within _ (getElem_mem inside))
      rw [Array.getElem_toList] at answer
      rw [insertionPlace, if_pos wide]
      dsimp only
      rw [Array.getElem?_eq_getElem (by simpa using inside)]
      simp only [answer, bind, Except.bind]
      rw [← Array.getElem_toList inside]
      by_cases probe : key x < key acc.toList[lo + (hi - lo) / 2]
      · rw [decide_eq_true probe, if_pos rfl]
        exact ih _ _ (bracket.lower sorted between inside probe) (by omega)
      · rw [decide_eq_false probe, if_neg Bool.false_ne_true]
        exact ih _ _ (bracket.raise sorted between inside (le_of_not_gt probe)) (by omega)
    · have same : lo = hi := by have := bracket.1; omega
      subst same
      exact ⟨lo, by rw [insertionPlace, if_neg wide]; rfl, bracket⟩


/-- Inserting `x` after the items not above it keeps a sorted list sorted. -/
theorem sortedBy_insert {l : List α} {x : α} {p : Nat} (sorted : SortedBy key l)
    (below : ∀ y ∈ l.take p, key y ≤ key x) (above : ∀ y ∈ l.drop p, key x < key y) :
    SortedBy key (l.take p ++ x :: l.drop p) := by
  unfold SortedBy
  rw [pairwise_append, pairwise_cons]
  refine ⟨sorted.sublist (take_sublist p l), ⟨fun y later => le_of_lt (above y later),
    sorted.sublist (drop_sublist p l)⟩, fun a earlier b member => ?_⟩
  rcases mem_cons.mp member with rfl | later
  · exact below a earlier
  · exact sorted.take_le_drop p a earlier b later

/-- Inserting `x` before every item above it puts it last in its class. -/
theorem keyClass_insert {l : List α} {x : α} {p : Nat} (above : ∀ y ∈ l.drop p, key x < key y)
    (k : β) : keyClass key k (l.take p ++ x :: l.drop p) = keyClass key k (l ++ [x]) := by
  have whole : keyClass key k l = keyClass key k (l.take p) ++ keyClass key k (l.drop p) := by
    rw [← keyClass_append, take_append_drop]
  rw [keyClass_append, keyClass_append, whole, ← singleton_append, keyClass_append, append_assoc]
  by_cases own : key x = k
  · have higher : keyClass key k (l.drop p) = [] := by
      refine filter_eq_nil_iff.mpr fun y later => ?_
      simpa [← own] using (above y later).ne'
    simp only [higher, append_nil, nil_append]
  · have apart : keyClass key k [x] = [] := by simp [keyClass, own]
    simp only [apart, append_nil, nil_append]

/-- **One insertion** keeps the items sorted, adds the item, and puts it last in its class. -/
theorem insertSorted_spec (compares : ComparesBy key lt xs) {acc : Array α}
    (within : ∀ y ∈ acc.toList, y ∈ xs) (sorted : SortedBy key acc.toList) {x : α}
    (member : x ∈ xs) :
    ∃ out, insertSorted lt acc x = .ok out ∧ SortedBy key out.toList ∧
      out.toList ~ acc.toList ++ [x] ∧
      ∀ k, keyClass key k out.toList = keyClass key k (acc.toList ++ [x]) := by
  have start : Brackets key acc.toList x 0 acc.size := by
    refine ⟨Nat.zero_le _, by simp, by simp, fun y later => ?_⟩
    rw [← Array.length_toList, drop_length] at later
    exact absurd later (not_mem_nil)
  obtain ⟨place, search, ⟨_, bounded, below, above⟩⟩ :=
    insertionPlace_spec compares within sorted member (acc.size + 1) 0 acc.size start (by omega)
  have inserted : ((acc.extract 0 place).push x ++ acc.extract place acc.size).toList =
      acc.toList.take place ++ x :: acc.toList.drop place := by
    have tail : (acc.toList.drop place).take (acc.size - place) = acc.toList.drop place :=
      take_of_length_le (by simp)
    simp [tail]
  refine ⟨_, by rw [insertSorted, search]; rfl, ?_, ?_, fun k => ?_⟩
  · rw [inserted]
    exact sortedBy_insert sorted below above
  · rw [inserted]
    calc acc.toList.take place ++ x :: acc.toList.drop place
        ~ x :: (acc.toList.take place ++ acc.toList.drop place) := perm_middle
      _ = x :: acc.toList := by rw [take_append_drop]
      _ ~ acc.toList ++ [x] := (perm_append_singleton x acc.toList).symm
  · rw [inserted]
    exact keyClass_insert above k

/-- The insertions of a list of items, one after another. -/
theorem foldlM_insertSorted_spec (compares : ComparesBy key lt xs) :
    ∀ (ys : List α) (acc : Array α), (∀ y ∈ acc.toList, y ∈ xs) → (∀ y ∈ ys, y ∈ xs) →
      SortedBy key acc.toList →
      ∃ out, ys.foldlM (insertSorted lt) acc = .ok out ∧ SortedBy key out.toList ∧
        out.toList ~ acc.toList ++ ys ∧
        ∀ k, keyClass key k out.toList = keyClass key k (acc.toList ++ ys) := by
  intro ys
  induction ys with
  | nil => exact fun acc _ _ sorted => ⟨acc, rfl, sorted, by simp, by simp⟩
  | cons y ys ih =>
    intro acc within members sorted
    obtain ⟨mid, step, midSorted, midPerm, midClasses⟩ :=
      insertSorted_spec compares within sorted (members y mem_cons_self)
    have midWithin : ∀ z ∈ mid.toList, z ∈ xs := by
      intro z inMid
      rcases mem_append.mp (midPerm.mem_iff.mp inMid) with old | new
      · exact within z old
      · exact (mem_singleton.mp new) ▸ members y mem_cons_self
    obtain ⟨out, rest, outSorted, outPerm, outClasses⟩ :=
      ih mid midWithin (fun z later => members z (mem_cons_of_mem y later)) midSorted
    refine ⟨out, by rw [foldlM_cons, step]; exact rest, outSorted, ?_, fun k => ?_⟩
    · calc out.toList ~ mid.toList ++ ys := outPerm
        _ ~ acc.toList ++ [y] ++ ys := midPerm.append_right ys
        _ = acc.toList ++ y :: ys := by simp
    · rw [outClasses, keyClass_append, midClasses, keyClass_append, append_assoc,
        ← keyClass_append, singleton_append, ← keyClass_append]

/-! ### The leading run -/

theorem extend_spec (compares : ComparesBy key lt xs) (descending : Bool) :
    ∀ (zs : List α) (prev : α) (n : Nat), prev ∈ xs → (∀ z ∈ zs, z ∈ xs) →
      ∃ k ≤ zs.length, leadingRun.extend lt descending prev n zs = .ok (n + k) ∧
        (prev :: zs.take k).IsChain (Continues key descending) := by
  intro zs
  induction zs with
  | nil => exact fun prev n _ _ => ⟨0, le_refl _, rfl, .singleton prev⟩
  | cons z zs ih =>
    intro prev n previous members
    have answer := compares z (members z mem_cons_self) prev previous
    by_cases goes : decide (key z < key prev) = descending
    · obtain ⟨k, bound, run, chain⟩ := ih z (n + 1) (members z mem_cons_self)
        (fun y later => members y (mem_cons_of_mem z later))
      refine ⟨k + 1, by simp [bound], ?_, ?_⟩
      swap
      · rw [take_succ_cons]
        exact IsChain.cons_cons goes chain
      rw [leadingRun.extend, answer]
      simp only [bind, Except.bind, goes, beq_self_eq_true, if_true, run]
      rw [Nat.add_assoc, Nat.add_comm 1 k]
    · refine ⟨0, Nat.zero_le _, ?_, .singleton prev⟩
      rw [leadingRun.extend, answer]
      simp [bind, Except.bind, goes]
      rfl

/-- **The leading run** is a chain of items, each carrying the run on from the one before. -/
theorem leadingRun_spec (compares : ComparesBy key lt xs) :
    ∃ n descending, leadingRun lt xs = .ok (n, descending) ∧ n ≤ xs.length ∧
      (xs.take n).IsChain (Continues key descending) := by
  rcases xs with _ | ⟨x, _ | ⟨y, rest⟩⟩
  · exact ⟨0, false, rfl, le_refl _, .nil⟩
  · exact ⟨1, false, rfl, le_refl _, .singleton x⟩
  · have answer := compares y (by simp) x (by simp)
    obtain ⟨k, bound, run, chain⟩ := extend_spec compares (decide (key y < key x)) rest y 2
      (by simp) (fun z later => by simp [later])
    refine ⟨2 + k, decide (key y < key x), ?_, by simp; omega, ?_⟩
    · rw [leadingRun, answer]
      simp [bind, Except.bind, run]
      rfl
    · rw [show 2 + k = k + 1 + 1 by omega, take_succ_cons, take_succ_cons]
      exact chain.cons_cons rfl

/-- The leading run, reversed when it descends, is sorted and keeps each class in order: a
descending run is strict, so no two of its items share a key. -/
theorem start_spec {run : List α} {descending : Bool}
    (chain : run.IsChain (Continues key descending)) :
    SortedBy key (if descending then run.reverse else run) ∧
      ∀ k, keyClass key k (if descending then run.reverse else run) = keyClass key k run := by
  cases descending with
  | false =>
    have ascending : (run.map key).IsChain (· ≤ ·) := by
      rw [isChain_map]
      exact chain.imp fun a b step => by simpa [Continues] using step
    exact ⟨pairwise_map.mp ascending.pairwise, fun k => rfl⟩
  | true =>
    have falling : (run.map key).IsChain (· > ·) := by
      rw [isChain_map]
      exact chain.imp fun a b step => by simpa [Continues] using step
    have strict : run.Pairwise fun a b => key b < key a := pairwise_map.mp falling.pairwise
    refine ⟨?_, fun k => ?_⟩
    · unfold SortedBy
      rw [if_pos rfl, pairwise_reverse]
      exact strict.imp le_of_lt
    · have single := strict.filter (fun a => decide (key a = k))
      simp only [keyClass, ↓reduceIte, filter_reverse]
      rcases hc : run.filter (fun a => decide (key a = k)) with _ | ⟨a, _ | ⟨b, rest⟩⟩
      · rfl
      · rfl
      · have both : a ∈ run.filter (fun a => decide (key a = k)) ∧
            b ∈ run.filter (fun a => decide (key a = k)) := by
          rw [hc]
          simp
        have first : key a = k := by simpa using (mem_filter.mp both.1).2
        have second : key b = k := by simpa using (mem_filter.mp both.2).2
        rw [hc] at single
        exact absurd (rel_of_pairwise_cons single mem_cons_self)
          (by rw [first, second]; exact lt_irrefl k)

/-! ### The whole sort -/

/-- **The list sort is the merge sort** when its comparison answers `key a < key b` for the
items and never fails. -/
theorem listSort_eq_mergeSort (compares : ComparesBy key lt xs) :
    listSort lt xs = .ok (xs.mergeSort fun a b => decide (key a ≤ key b)) := by
  obtain ⟨n, descending, run, _, chain⟩ := leadingRun_spec compares
  obtain ⟨startSorted, startClasses⟩ := start_spec chain
  set start := if descending then (xs.take n).reverse else xs.take n with startDef
  have startPerm : start ~ xs.take n := by
    cases descending
    · rfl
    · exact reverse_perm _
  have startWithin : ∀ y ∈ start.toArray.toList, y ∈ xs := fun y member =>
    mem_of_mem_take ((startPerm.mem_iff).mp (by simpa using member))
  obtain ⟨out, folded, sorted, perm, classes⟩ :=
    foldlM_insertSorted_spec compares (xs.drop n) start.toArray startWithin
      (fun y member => mem_of_mem_drop member) (by simpa using startSorted)
  have result : listSort lt xs = .ok out.toList := by
    rw [listSort, run]
    simp only [bind, Except.bind, ← startDef, folded]
    rfl
  rw [result]
  congr 1
  refine eq_mergeSort sorted ?_ fun k => ?_
  · calc out.toList ~ start ++ xs.drop n := by simpa using perm
      _ ~ xs.take n ++ xs.drop n := startPerm.append_right _
      _ = xs := take_append_drop n xs
  · rw [classes k, toList_toArray, keyClass_append, startClasses, ← keyClass_append,
      take_append_drop]

end Dataflow
