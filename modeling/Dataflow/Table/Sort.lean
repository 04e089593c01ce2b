import Dataflow.Table.Column
import Dataflow.Failure
/-!
# Sorting rows

Two orders of rows, as the table library computes them.

* By one column (`sortByColumn`): the missing values go last in their order; the others are
  sorted by an introspective quicksort on positions (median of three, partitions larger than
  seventeen, insertion sort below that). Descending order sorts the reversed values and
  reverses the result, so equal values keep their order either way. Values are compared with
  the language's `<`; the first comparison that has no answer (a text against a number) is
  the error.
* By several columns (`sortByColumns`): each column is replaced by the rank of its value
  among its distinct values (numbers, then byte strings, then texts, missing values after all;
  `sortedCategories`), reversed for a descending column, and the rows are sorted stably by
  these ranks, first column first. A column of mixed values whose distinct values have no order
  is refused (`checkSortable`).
-/

namespace Dataflow

namespace Sorting

/-- Exchanges two places of an array. -/
def swapAt (a : Array Nat) (i j : Nat) : Array Nat :=
  let x := a.getD i 0
  let y := a.getD j 0
  (a.setIfInBounds i y).setIfInBounds j x

variable {ε : Type}

/-- Moves the element `vi` down from place `pj` past the greater elements before it, not below
place `pl`. -/
def shiftDown (lt : Nat → Nat → Except ε Bool) (pl vi : Nat) : Nat → Array Nat → Except ε (Array Nat)
  | 0, idx => pure (idx.setIfInBounds 0 vi)
  | pj + 1, idx =>
    if pj + 1 > pl then do
      let before := idx.getD pj 0
      if ← lt vi before then shiftDown lt pl vi pj (idx.setIfInBounds (pj + 1) before)
      else pure (idx.setIfInBounds (pj + 1) vi)
    else pure (idx.setIfInBounds (pj + 1) vi)

/-- Insertion sort of the places `pl` to `pr`. -/
def insertionSort (lt : Nat → Nat → Except ε Bool) (pl pr : Nat) (idx : Array Nat) :
    Except ε (Array Nat) :=
  (List.range' (pl + 1) (pr - pl)).foldlM (fun idx pi => shiftDown lt pl (idx.getD pi 0) pi idx) idx

/-- Moves `pi` up while the element there is below the pivot `vp`. -/
def scanUp (lt : Nat → Nat → Except ε Bool) (vp : Nat) (idx : Array Nat) : Nat → Nat → Except ε Nat
  | 0, pi => pure pi
  | fuel + 1, pi => do
    if ← lt (idx.getD (pi + 1) 0) vp then scanUp lt vp idx fuel (pi + 1) else pure (pi + 1)

/-- Moves `pj` down while the pivot `vp` is below the element there. -/
def scanDown (lt : Nat → Nat → Except ε Bool) (vp : Nat) (idx : Array Nat) : Nat → Nat → Except ε Nat
  | 0, pj => pure pj
  | fuel + 1, pj => do
    if ← lt vp (idx.getD (pj - 1) 0) then scanDown lt vp idx fuel (pj - 1) else pure (pj - 1)

/-- The partition loop: exchanges out-of-place pairs until the scans meet; returns the array
and the place where the pivot belongs. -/
def partitionLoop (lt : Nat → Nat → Except ε Bool) (vp : Nat) (width : Nat) :
    Nat → Array Nat → Nat → Nat → Except ε (Array Nat × Nat)
  | 0, idx, pi, _ => pure (idx, pi)
  | fuel + 1, idx, pi, pj => do
    let pi ← scanUp lt vp idx width pi
    let pj ← scanDown lt vp idx width pj
    if pi ≥ pj then pure (idx, pi)
    else partitionLoop lt vp width fuel (swapAt idx pi pj) pi pj

/-- Exchanges places `i` and `j` when the element at `i` is below the one at `j`. -/
def orderPair (lt : Nat → Nat → Except ε Bool) (idx : Array Nat) (i j : Nat) :
    Except ε (Array Nat) := do
  if ← lt (idx.getD i 0) (idx.getD j 0) then pure (swapAt idx i j) else pure idx

/-- Partitions the places `pl` to `pr` around the median of their first, middle and last
elements, which is kept at `pr - 1` during the loop; returns the array and the pivot's place. -/
def partition (lt : Nat → Nat → Except ε Bool) (pl pr : Nat) (idx : Array Nat) :
    Except ε (Array Nat × Nat) := do
  let pm := pl + (pr - pl) / 2
  let idx ← orderPair lt idx pm pl
  let idx ← orderPair lt idx pr pm
  let idx ← orderPair lt idx pm pl
  let vp := idx.getD pm 0
  let (idx, pi) ← partitionLoop lt vp (pr - pl + 2) (pr - pl + 2) (swapAt idx pm (pr - 1)) pl (pr - 1)
  pure (swapAt idx pi (pr - 1), pi)

/-- Sorts the places `pl` to `pr`. Segments longer than seventeen are partitioned (`partition`);
the smaller part is sorted first. The depth allowance is checked only for a segment taken up
anew. -/
def sortRange (lt : Nat → Nat → Except ε Bool) :
    Nat → Nat → Nat → Int → Bool → Array Nat → Except ε (Array Nat)
  | 0, pl, pr, _, _, idx => insertionSort lt pl pr idx
  | fuel + 1, pl, pr, depth, fresh, idx =>
    if fresh && depth < 0 then insertionSort lt pl pr idx
    else if pr > pl + 16 then do
      let (idx, pi) ← partition lt pl pr idx
      if pi - pl < pr - pi then do
        let idx ← sortRange lt fuel pl (pi - 1) (depth - 1) false idx
        sortRange lt fuel (pi + 1) pr (depth - 1) true idx
      else do
        let idx ← sortRange lt fuel (pi + 1) pr (depth - 1) false idx
        sortRange lt fuel pl (pi - 1) (depth - 1) true idx
    else insertionSort lt pl pr idx

/-- The places `0 .. n - 1` in the order of the quicksort under `lt`. -/
def quickArgsort (lt : Nat → Nat → Except ε Bool) (n : Nat) : Except ε (Array Nat) :=
  if n < 2 then pure (Array.range n)
  else sortRange lt (n + 1) 0 (n - 1) (2 * (Nat.log2 n : Int)) true (Array.range n)

end Sorting

open Sorting

/-- The language's `a < b` on values: a type error when the kinds have no order. -/
def cellLess (a b : Cell) : Outcome Bool :=
  match a.order b with
  | .ok o => .ok (o == some .lt)
  | .error (x, y) => .error ⟨.type, s!"'<' not supported between instances of '{x}' and '{y}'"⟩

/-- The order of the rows by one column: present values sorted (ascending, or descending with
equal values in their order), missing values last in their order. -/
def sortByColumn (c : Column) (ascending : Bool) : Outcome (Array Nat) := do
  let cells := c.cells
  let nulls := c.nulls
  let positions := List.range cells.size
  let valid := positions.filter fun i => !nulls.getD i false
  let missing := positions.filter fun i => nulls.getD i false
  let valid := (if ascending then valid else valid.reverse).toArray
  let values := valid.map fun i => cells.getD i .none
  let order ← quickArgsort (fun i j => cellLess (values.getD i .none) (values.getD j .none)) values.size
  let indexer := order.map fun k => valid.getD k 0
  let indexer := if ascending then indexer else indexer.reverse
  pure (indexer ++ missing.toArray)

/-- Where a value that is no number goes among the sorted distinct values: byte strings first,
then texts, then the values of other kinds, which have no order. -/
def Cell.textRank : Cell → Nat
  | .bytes _ => 0
  | .str _ => 1
  | _ => 2

/-- The characters a byte string or a text is ordered by. -/
def Cell.sortText : Cell → String
  | .bytes s | .str s => s
  | _ => ""

/-- The distinct present values of a column in their sorted order: numbers (truth values
among them) by value, then byte strings and texts, each by their characters. -/
def sortedCategories (c : Column) : List Cell :=
  let present := c.cells.toList.filter fun x => !x.isNull
  let distinct := present.foldl (fun acc x => if acc.any (· == x) then acc else acc ++ [x]) []
  let numbers := distinct.filter Cell.isNumber
  let texts := distinct.filter fun x => !x.isNumber
  numbers.mergeSort (fun a b => Cell.compareNumbers a b != some .gt) ++
    texts.mergeSort (fun a b => a.textRank < b.textRank ||
      (a.textRank == b.textRank && Cell.compareText a.sortText b.sortText != .gt))

/-- The rank of a value among the sorted distinct values `cats`, reversed when descending;
missing values, and values equal to none of them, rank after all. -/
def rankOf (cats : List Cell) (ascending : Bool) (x : Cell) : Nat :=
  if x.isNull then cats.length
  else match cats.findIdx? (· == x) with
    | some code => if ascending then code else cats.length - code - 1
    | none => cats.length

/-- The sort key of every row for one column: the rank of its value. -/
def rankKeys (c : Column) (ascending : Bool) : Array Nat :=
  c.cells.map (rankOf (sortedCategories c) ascending)

/-- Refuses a key column of mixed values whose distinct values cannot be ranked: one holding a
list, which has no hash, or one with two distinct values other than texts that are not all
numbers or all byte strings, which have no order among them. -/
def checkSortable : Column → Outcome Unit
  | .object cells => do
    if cells.any (· matches .seq false _) then .error ⟨.type, "unhashable type: 'list'"⟩
    let others := (sortedCategories (.object cells)).filter (·.textRank != 1)
    if others.length > 1 && !(others.all Cell.isNumber || others.all (·.textRank == 0)) then
      .error ⟨.type, "'values' is not ordered, please explicitly specify the categories order by passing in a categories argument."⟩
  | _ => pure ()

/-- Lexicographic order of rank lists. -/
def ranksLe : List Nat → List Nat → Bool
  | [], _ => true
  | _ :: _, [] => false
  | a :: as, b :: bs => if a < b then true else if b < a then false else ranksLe as bs

/-- The order of the rows by several columns, each ascending or not: a stable sort by the
ranks, first column first. -/
def sortByColumns (keys : List (Column × Bool)) (rows : Nat) : Array Nat :=
  let ranks := keys.map fun (c, asc) => rankKeys c asc
  let keyOf (i : Nat) : List Nat := ranks.map (·.getD i 0)
  ((List.range rows).mergeSort fun i j => ranksLe (keyOf i) (keyOf j)).toArray

end Dataflow
