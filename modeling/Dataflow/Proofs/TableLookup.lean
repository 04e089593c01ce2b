import Dataflow.Text.Classes
/-!
# Table lookups read from a prefix

**What the Unicode tables say of ASCII.** The tables are decoded from packed text into sorted
arrays and searched by halving (`Dataflow.Unicode.countAtMost`). A whole table is more than a
proof can evaluate, so this module shows how little of it a lookup reads:

* `countAtMostIn_eq`: the search finds `k` when the entries before `k` are at most the key and
  the later ones above it;
* `readPacked_append`: packed text decodes piece by piece when the first piece ends a number;
* `RunMap.ofPacked_sorted`, `RangeSet.ofNumbers_sorted`: the decoders give sorted starts;
* `RunMap.get_ofPacked_append`, `RangeSet.contains_ofPacked_append`: a lookup whose search
  stops within the first piece of a table's text reads nothing after it.

The first pieces of the category and numeric tables cover ASCII. From them, `isWordChar_ascii`:
the ASCII word characters are the letters, the digits and the underscore.
-/

namespace Dataflow.Unicode

/-! ### Searching by halving -/

section Search

variable {xs : Array Nat} {key k : Nat}

/-- The search between `lo` and `hi` finds `k`, when `lo ≤ k ≤ hi` and the entries before `k`
are at most the key and the later ones above it. -/
theorem countAtMostIn_eq (below : ∀ i < k, xs.getD i 0 ≤ key)
    (above : ∀ i, k ≤ i → i < xs.size → key < xs.getD i 0) (lo hi : Nat) :
    lo ≤ k → k ≤ hi → hi ≤ xs.size → countAtMostIn xs key lo hi = k := by
  fun_induction countAtMostIn xs key lo hi with
  | case1 lo hi lt mid atMost ih =>
    -- the entry at `mid` is at most the key, so `k` lies past it
    intro _ upper within
    have past : mid < k := Nat.lt_of_not_le fun le => by
      have := above mid le (by omega)
      omega
    exact ih past upper within
  | case2 lo hi lt mid above' ih =>
    intro lower _ within
    have before : k ≤ mid := Nat.le_of_not_lt fun lt' => above' (below mid lt')
    exact ih lower before (by omega)
  | case3 lo hi done => intro; omega

/-- In a sorted array a later entry is at least an earlier one. -/
theorem getD_le_of_sorted (sorted : xs.toList.Pairwise (· ≤ ·)) {i j : Nat} (le : i ≤ j)
    (inside : j < xs.size) : xs.getD i 0 ≤ xs.getD j 0 := by
  rcases Nat.lt_or_eq_of_le le with lt | rfl
  · have := List.pairwise_iff_getElem.mp sorted i j (by simp; omega) (by simpa using inside) lt
    simpa [Array.getD_eq_getD_getElem?, inside, show i < xs.size by omega] using this
  · exact Nat.le_refl _

/-- In a sorted array the search stops at the first entry above the key. -/
theorem countAtMost_eq (sorted : xs.toList.Pairwise (· ≤ ·)) (inside : k < xs.size)
    (below : ∀ i < k, xs.getD i 0 ≤ key) (next : key < xs.getD k 0) : countAtMost xs key = k :=
  countAtMostIn_eq below (fun _ le lt => Nat.lt_of_lt_of_le next (getD_le_of_sorted sorted le lt))
    0 xs.size (Nat.zero_le k) (Nat.le_of_lt inside) (Nat.le_refl _)

/-- The search for `key` stops at an entry of `xs` above the key, and the entries before that
entry are at most the key. -/
def stopsWithin (xs : Array Nat) (key : Nat) : Bool :=
  countAtMost xs key < xs.size &&
    (List.range (countAtMost xs key)).all (fun i => xs.getD i 0 ≤ key) &&
    key < xs.getD (countAtMost xs key) 0

/-- An entry of an array is the entry of any array it begins. -/
theorem getD_of_lead {α : Type} {xs ys : Array α} {i : Nat} {d : α}
    (lead : ys.toList <+: xs.toList) (inside : i < ys.size) : xs.getD i d = ys.getD i d := by
  obtain ⟨rest, eq⟩ := lead
  rw [Array.getD_eq_getD_getElem?, Array.getD_eq_getD_getElem?, ← Array.getElem?_toList,
    ← Array.getElem?_toList, ← eq, List.getElem?_append_left (by simpa using inside)]

/-- A search in a sorted array that stops within the array's first entries finds what the same
search in those entries finds. -/
theorem countAtMost_of_lead {ys : Array Nat} (sorted : xs.toList.Pairwise (· ≤ ·))
    (lead : ys.toList <+: xs.toList) (stops : stopsWithin ys key) :
    countAtMost xs key = countAtMost ys key := by
  simp only [stopsWithin, Bool.and_eq_true, decide_eq_true_eq, List.all_eq_true,
    List.mem_range] at stops
  obtain ⟨⟨inside, below⟩, next⟩ := stops
  have within : ys.size ≤ xs.size := by simpa using lead.length_le
  refine countAtMost_eq sorted (by omega) (fun i lt => ?_) ?_
  · rw [getD_of_lead lead (by omega)]
    exact below i lt
  · rw [getD_of_lead lead inside]
    exact next

end Search

/-! ### Decoding piece by piece -/

/-- One symbol of packed numbers read into the numbers so far and the carried quotient. -/
def packedStep (acc : Array Nat × Nat) (c : Char) : Array Nat × Nat :=
  if packedValue c < 70 then (acc.1.push (acc.2 * 70 + packedValue c), 0)
  else (acc.1, acc.2 * 18 + (packedValue c - 70) + 1)

theorem readPacked_eq (s : String) : readPacked s = (s.toList.foldl packedStep (#[], 0)).1 := rfl

/-- Reading packed symbols after some numbers appends to them. -/
theorem foldl_packedStep (l : List Char) (acc : Array Nat) (carry : Nat) :
    l.foldl packedStep (acc, carry) =
      (acc ++ (l.foldl packedStep (#[], carry)).1, (l.foldl packedStep (#[], carry)).2) := by
  induction l generalizing acc carry with
  | nil => simp
  | cons c l ih =>
    simp only [List.foldl_cons, packedStep]
    split
    · rw [ih, ih (#[].push _)]
      simp
    · rw [ih, ih #[]]

/-- **Packed text decodes piece by piece**, when the first piece ends a number. -/
theorem readPacked_append (s t : String)
    (ends : s.toList.getLast?.all (packedValue · < 70) = true) :
    readPacked (s ++ t) = readPacked s ++ readPacked t := by
  have carry : (s.toList.foldl packedStep (#[], 0)).2 = 0 := by
    rcases List.eq_nil_or_concat s.toList with empty | ⟨front, last, eq⟩
    · simp [empty]
    · have terminal : packedValue last < 70 := by simpa [eq] using ends
      simp [eq, packedStep, terminal]
  rw [readPacked_eq, String.toList_append, List.foldl_append,
    ← Prod.eta (s.toList.foldl packedStep (#[], 0)), carry, foldl_packedStep]
  rfl

section Push

variable {β : Type} (g : Array Nat → β → Nat)

/-- A fold that pushes one entry a step keeps the entries it starts from. -/
theorem lead_foldl_push (l : List β) (init : Array Nat) :
    init.toList <+: (l.foldl (fun acc b => acc.push (g acc b)) init).toList := by
  induction l generalizing init with
  | nil => exact List.prefix_refl _
  | cons b l ih =>
    refine List.IsPrefix.trans ?_ (ih (init.push (g init b)))
    simp

theorem size_foldl_push (l : List β) (init : Array Nat) :
    (l.foldl (fun acc b => acc.push (g acc b)) init).size = init.size + l.length := by
  induction l generalizing init with
  | nil => simp
  | cons b l ih =>
    simp only [List.foldl_cons, ih, Array.size_push, List.length_cons]
    omega

end Push

/-- Every entry of a sorted list is at most its last. -/
theorem le_getLast?_of_sorted {l : List Nat} (sorted : l.Pairwise (· ≤ ·)) {a : Nat}
    (mem : a ∈ l) : a ≤ l.getLast?.getD 0 := by
  rcases List.eq_nil_or_concat l with rfl | ⟨front, last, rfl⟩
  · simp at mem
  · simp only [List.concat_eq_append, List.pairwise_append, List.mem_singleton] at sorted
    simp only [List.concat_eq_append, List.mem_append, List.mem_singleton] at mem
    rcases mem with mem | rfl
    · simpa using sorted.2.2 a mem last rfl
    · simp

/-! ### Runs of values -/

namespace RunMap

variable {α : Type} (width : Nat) (value : Nat → α)

/-- The starts of the runs never decrease: each is the one before plus a distance. -/
theorem ofPacked_sorted (text : String) :
    (ofPacked width value text).starts.toList.Pairwise (· ≤ ·) := by
  suffices step : ∀ (l : List Nat) (init : Array Nat), init.toList.Pairwise (· ≤ ·) →
      (l.foldl (fun (acc : Array Nat) n => acc.push (acc.back?.getD 0 + n / width))
        init).toList.Pairwise (· ≤ ·) from step _ #[] List.Pairwise.nil
  intro l
  induction l with
  | nil => exact fun _ sorted => sorted
  | cons n l ih =>
    intro init sorted
    refine ih _ ?_
    simp only [Array.toList_push, List.pairwise_append, List.pairwise_singleton,
      List.mem_singleton, true_and]
    refine ⟨sorted, fun a mem b last => ?_⟩
    have atMost := le_getLast?_of_sorted sorted mem
    rw [← Array.getLast?_toList] at last
    subst last
    exact Nat.le_trans atMost (Nat.le_add_right _ _)

theorem ofPacked_size (text : String) :
    (ofPacked width value text).starts.size = (ofPacked width value text).values.size := by
  simp only [ofPacked]
  rw [size_foldl_push]
  simp

/-- The runs read from a text that ends a number begin the runs read from it and more text. -/
theorem ofPacked_append {s t : String}
    (ends : s.toList.getLast?.all (packedValue · < 70) = true) :
    (ofPacked width value s).starts.toList <+: (ofPacked width value (s ++ t)).starts.toList ∧
      (ofPacked width value s).values.toList <+: (ofPacked width value (s ++ t)).values.toList := by
  simp only [ofPacked, readPacked_append s t ends, Array.toList_append, List.foldl_append,
    List.map_append, List.toList_toArray]
  exact ⟨lead_foldl_push _ _ _, List.prefix_append _ _⟩

/-- **A lookup that stops within the runs of the first piece of text reads no later run.** -/
theorem get_ofPacked_append [Inhabited α] {s t : String} {key : Nat}
    (ends : s.toList.getLast?.all (packedValue · < 70) = true)
    (stops : stopsWithin (ofPacked width value s).starts key) :
    (ofPacked width value (s ++ t)).get key = (ofPacked width value s).get key := by
  obtain ⟨startsLead, valuesLead⟩ := ofPacked_append width value (t := t) ends
  have found := countAtMost_of_lead (ofPacked_sorted width value _) startsLead stops
  have inside : countAtMost (ofPacked width value s).starts key <
      (ofPacked width value s).values.size := by
    simp only [stopsWithin, Bool.and_eq_true, decide_eq_true_eq] at stops
    rw [← ofPacked_size]
    exact stops.1.1
  simp only [get, found]
  split
  · rfl
  · rename_i i eq
    exact getD_of_lead valuesLead (by omega)

end RunMap

/-! ### Sets of ranges -/

namespace RangeSet

/-- Reading more ranges keeps the ranges read before. -/
theorem ofNumbers_lead (ns : List Nat) (next : Nat) (lows highs : Array Nat) :
    lows.toList <+: (ofNumbers ns next lows highs).lows.toList ∧
      highs.toList <+: (ofNumbers ns next lows highs).highs.toList := by
  fun_induction ofNumbers ns next lows highs with
  | case1 gap size rest next lows highs ih =>
    exact ⟨List.IsPrefix.trans (by simp) ih.1, List.IsPrefix.trans (by simp) ih.2⟩
  | case2 => exact ⟨List.prefix_refl _, List.prefix_refl _⟩

/-- The ranges read from whole pairs of numbers begin the ranges read from them and more. -/
theorem ofNumbers_append (front back : List Nat) (even : front.length % 2 = 0) (next : Nat)
    (lows highs : Array Nat) :
    (ofNumbers front next lows highs).lows.toList <+:
        (ofNumbers (front ++ back) next lows highs).lows.toList ∧
      (ofNumbers front next lows highs).highs.toList <+:
        (ofNumbers (front ++ back) next lows highs).highs.toList := by
  fun_induction ofNumbers front next lows highs with
  | case1 gap size rest next lows highs ih =>
    simp only [List.length_cons] at even
    simpa only [List.cons_append, ofNumbers] using ih (by omega)
  | case2 ns next lows highs notPair =>
    -- a whole number of pairs that is not a first pair is no pair at all
    have empty : ns = [] := by
      match ns, even with
      | [], _ => rfl
      | gap :: size :: rest, _ => exact absurd rfl (notPair gap size rest)
    subst empty
    simpa only [ofNumbers, List.nil_append] using ofNumbers_lead back next lows highs

/-- The ranges are read in increasing order: every first code point so far is at most the code
point after the last range. -/
theorem ofNumbers_sorted (ns : List Nat) (next : Nat) (lows highs : Array Nat)
    (sorted : lows.toList.Pairwise (· ≤ ·)) (bounded : ∀ a ∈ lows.toList, a ≤ next) :
    (ofNumbers ns next lows highs).lows.toList.Pairwise (· ≤ ·) := by
  fun_induction ofNumbers ns next lows highs with
  | case1 gap size rest next lows highs ih =>
    refine ih ?_ fun a mem => ?_
    · simp only [Array.toList_push, List.pairwise_append, List.pairwise_singleton,
        List.mem_singleton, true_and]
      refine ⟨sorted, fun a mem b eq => ?_⟩
      exact eq ▸ Nat.le_trans (bounded a mem) (Nat.le_add_right _ _)
    · simp only [Array.toList_push, List.mem_append, List.mem_singleton] at mem
      rcases mem with mem | rfl
      · have := bounded a mem
        omega
      · omega
  | case2 => exact sorted

theorem ofNumbers_size (ns : List Nat) (next : Nat) (lows highs : Array Nat)
    (same : lows.size = highs.size) :
    (ofNumbers ns next lows highs).lows.size = (ofNumbers ns next lows highs).highs.size := by
  fun_induction ofNumbers ns next lows highs with
  | case1 gap size rest next lows highs ih => exact ih (by simp [same])
  | case2 => exact same

/-- **A lookup that stops within the ranges of the first piece of text reads no later range.**
The first piece must end a number and hold whole ranges. -/
theorem contains_ofPacked_append {s t : String} {key : Nat}
    (ends : s.toList.getLast?.all (packedValue · < 70) = true) (even : (readPacked s).size % 2 = 0)
    (stops : stopsWithin (ofPacked s).lows key) :
    (ofPacked (s ++ t)).contains key = (ofPacked s).contains key := by
  simp only [ofPacked, readPacked_append s t ends, Array.toList_append] at stops ⊢
  obtain ⟨lowsLead, highsLead⟩ :=
    ofNumbers_append (readPacked s).toList (readPacked t).toList (by simpa using even) 0 #[] #[]
  have found := countAtMost_of_lead
    (ofNumbers_sorted _ 0 #[] #[] List.Pairwise.nil (by simp)) lowsLead stops
  have inside := stops
  simp only [stopsWithin, Bool.and_eq_true, decide_eq_true_eq] at inside
  rw [ofNumbers_size _ 0 #[] #[] rfl] at inside
  simp only [contains, found]
  split
  · rfl
  · rw [getD_of_lead highsLead (by omega)]

end RangeSet

/-! ### The classes of ASCII -/

/-- The ASCII letters are the letters of ASCII: the first piece of the category table holds
every run that starts in ASCII, and the run after them. -/
theorem isLetter_ascii {c : Char} (ascii : c.toNat < 128) : isLetter c = c.isAlpha := by
  have split : categoryText = _ ++ _ := String.join_cons
  simp only [isLetter, category, categoryRuns]
  rw [split, RunMap.get_ofPacked_append]
  · rw [show c.isAlpha = (Char.ofNat c.toNat).isAlpha by rw [Char.ofNat_toNat]]
    generalize c.toNat = n at ascii ⊢
    revert n
    decide +kernel
  · decide +kernel
  · generalize c.toNat = n at ascii ⊢
    revert n
    decide +kernel

/-- The characters of ASCII with a numeric value are the digits. -/
theorem isNumeric_ascii {c : Char} (ascii : c.toNat < 128) : isNumeric c = c.isDigit := by
  have split : numericText = _ ++ _ := String.join_cons
  simp only [isNumeric, numericSet]
  rw [split, RangeSet.contains_ofPacked_append]
  · rw [show c.isDigit = (Char.ofNat c.toNat).isDigit by rw [Char.ofNat_toNat]]
    generalize c.toNat = n at ascii ⊢
    revert n
    decide +kernel
  · decide +kernel
  · decide +kernel
  · generalize c.toNat = n at ascii ⊢
    revert n
    decide +kernel

end Dataflow.Unicode

namespace Dataflow.Text

/-- **The ASCII word characters are the letters, the digits and the underscore.** -/
theorem isWordChar_ascii {c : Char} (ascii : c.toNat < 128) :
    isWordChar c = (c.isAlphanum || c == '_') := by
  simp only [isWordChar, Unicode.isAlnum, Unicode.isLetter_ascii ascii,
    Unicode.isNumeric_ascii ascii, Char.isAlphanum]

end Dataflow.Text
