import Dataflow.Node.Value
/-!
# Ordering values as a list sort orders them

Node identifiers and slot names are sorted with the language's list sort, which compares
values with `<`: numbers (truth values among them) by value, texts by code point, lists item
by item (the first unequal pair decides, then the lengths). Values of other kinds have no
order, and the first comparison between them is the failure.

For short lists (all the lists sorted here) the sort first takes the leading run, ascending
or strictly descending (then reversed), and inserts every following item by binary search
after the items that are not greater. It is stable, and it makes the comparisons the
language makes, so the failing comparison is the same one.
-/

namespace Dataflow

namespace Json

mutual

/-- Equality of values as the language decides it: numbers by value, texts, lists item by
item, dictionaries member by member. -/
def same : Json → Json → Bool
  | .null, .null => true
  | .str a, .str b => a == b
  | .arr xs, .arr ys => sameItems xs ys
  | .obj xs, .obj ys => sameFields xs ys
  | a, b => match a.key, b.key with
    | .ok x, .ok y => x.isNumber && y.isNumber && x == y
    | _, _ => false

/-- Equality of lists, item by item. -/
def sameItems : List Json → List Json → Bool
  | [], [] => true
  | x :: xs, y :: ys => same x y && sameItems xs ys
  | _, _ => false

/-- Equality of dictionaries, member by member. -/
def sameFields : List (String × Json) → List (String × Json) → Bool
  | [], [] => true
  | (k, x) :: xs, (l, y) :: ys => k == l && same x y && sameFields xs ys
  | _, _ => false

end

mutual

/-- The language's `a < b`: the type names of a pair without order when there is none. -/
def less : Json → Json → Except (String × String) Bool
  | .str a, .str b => .ok (Cell.compareText a b == .lt)
  | .arr xs, .arr ys => lessItems xs ys
  | a, b => match a.key, b.key with
    | .ok x, .ok y =>
      if x.isNumber && y.isNumber then .ok (Cell.compareNumbers x y == some .lt)
      else .error (a.typeName, b.typeName)
    | _, _ => .error (a.typeName, b.typeName)

/-- The order of lists: the first unequal pair of items decides, then the lengths. -/
def lessItems : List Json → List Json → Except (String × String) Bool
  | [], [] => .ok false
  | [], _ :: _ => .ok true
  | _ :: _, [] => .ok false
  | x :: xs, y :: ys => if same x y then lessItems xs ys else less x y

end

/-- The language's `a < b` as an outcome: a type error for values without order. -/
def lessThan (a b : Json) : Outcome Bool :=
  match a.less b with
  | .ok r => .ok r
  | .error (x, y) => .error ⟨.type, s!"'<' not supported between instances of '{x}' and '{y}'"⟩

end Json

variable {α ε : Type}

/-- The length of the leading run of a list: items in order (none below the one before), or
strictly descending; `true` for a descending run. -/
def leadingRun (lt : α → α → Except ε Bool) : List α → Except ε (Nat × Bool)
  | [] => pure (0, false)
  | [_] => pure (1, false)
  | x :: y :: rest => do
    let descending ← lt y x
    let rec extend (prev : α) (n : Nat) : List α → Except ε Nat
      | [] => pure n
      | z :: zs => do
        let down ← lt z prev
        if down == descending then extend z (n + 1) zs else pure n
    pure (← extend y 2 rest, descending)

/-- The place where `pivot` goes among the sorted items `lo .. hi - 1`: after every item it is
not below, found by halving. -/
def insertionPlace (lt : α → α → Except ε Bool) (sorted : Array α) (pivot : α) :
    Nat → Nat → Nat → Except ε Nat
  | 0, lo, _ => pure lo
  | fuel + 1, lo, hi =>
    if lo < hi then do
      let p := lo + (hi - lo) / 2
      match sorted[p]? with
      | none => pure lo
      | some item =>
        if ← lt pivot item then insertionPlace lt sorted pivot fuel lo p
        else insertionPlace lt sorted pivot fuel (p + 1) hi
    else pure lo

/-- Inserts an item among sorted items, after every item it is not below. -/
def insertSorted (lt : α → α → Except ε Bool) (acc : Array α) (x : α) : Except ε (Array α) := do
  let place ← insertionPlace lt acc x (acc.size + 1) 0 acc.size
  pure ((acc.extract 0 place).push x ++ acc.extract place acc.size)

/-- Sorts a list as the language's list sort sorts a short list. -/
def listSort (lt : α → α → Except ε Bool) (xs : List α) : Except ε (List α) := do
  let (n, descending) ← leadingRun lt xs
  let run := xs.take n
  let start := (if descending then run.reverse else run).toArray
  let sorted ← (xs.drop n).foldlM (insertSorted lt) start
  pure sorted.toList

end Dataflow
