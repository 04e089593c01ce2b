/-!
# Shortest decimal digits of a binary64 value

A finite double stands for the interval of reals that round to it. The digits printed for it are
the fewest decimal digits of a number inside that interval and, of two such numbers with equally
few digits, the one nearer to the double (an exact tie goes to the even last digit).

Everything here is exact arithmetic on `Nat` and `Int`:

* `Binary.ofBits` decodes a bit pattern into `m * 2 ^ q`;
* `Binary.readsBack` is the specification: a decimal lies in the rounding interval;
* `Binary.shortest` searches the grids `10 ^ (k - n)` for `n = 1, 2, ...` and returns the first
  neighbour that reads back.
-/

namespace Dataflow.Decimal

/-- A finite non-negative binary64 value `m * 2 ^ q`. -/
structure Binary where
  m : Nat
  q : Int
  /-- the gap to the value below is half the gap to the value above -/
  narrowBelow : Bool
deriving Repr

/-- The magnitude of a finite bit pattern; the sign bit is ignored. -/
def Binary.ofBits (bits : UInt64) : Binary :=
  let e := ((bits >>> 52) &&& 0x7FF).toNat
  let f := (bits &&& 0xFFFFFFFFFFFFF).toNat
  if e == 0 then ⟨f, -1074, false⟩ else ⟨Nat.pow 2 52 + f, (e : Int) - 1075, f == 0 && e > 1⟩

/-- A decimal `digits * 10 ^ exp`. -/
structure Dec where
  digits : Nat
  exp : Int
deriving Repr, DecidableEq

/-- Compares `a * 10 ^ i` with `n * 2 ^ j` exactly. -/
def cmpScaled (a : Nat) (i : Int) (n : Nat) (j : Int) : Ordering :=
  compare (a * Nat.pow 10 i.toNat * Nat.pow 2 (-j).toNat) (n * Nat.pow 2 j.toNat * Nat.pow 10 (-i).toNat)

/-- A decimal lies among the reals that round to the value (to nearest, ties to even). -/
def Binary.readsBack (x : Binary) (d : Dec) : Bool :=
  let lo := if x.narrowBelow then 4 * x.m - 1 else 4 * x.m - 2
  let hi := 4 * x.m + 2
  let incl := x.m % 2 == 0
  let cl := cmpScaled d.digits d.exp lo (x.q - 2)
  let ch := cmpScaled d.digits d.exp hi (x.q - 2)
  (cl == .gt || (incl && cl == .eq)) && (ch == .lt || (incl && ch == .eq))

/-- The value as a fraction `num / den` of naturals scaled by `10 ^ -g`, that is
`m * 2 ^ q / 10 ^ g`. -/
def Binary.scaled (x : Binary) (g : Int) : Nat × Nat :=
  (x.m * Nat.pow 2 x.q.toNat * Nat.pow 10 (-g).toNat, Nat.pow 2 (-x.q).toNat * Nat.pow 10 g.toNat)

/-- The value is below `10 ^ k`. -/
def Binary.below (x : Binary) (k : Int) : Bool :=
  cmpScaled 1 k x.m x.q == .gt

/-- Moves a first guess of the decimal scale until `10 ^ (k - 1) ≤ value < 10 ^ k`. -/
def Binary.fixScale (x : Binary) : Nat → Int → Int
  | 0, k => k
  | fuel + 1, k =>
    if !x.below k then x.fixScale fuel (k + 1)
    else if x.below (k - 1) then x.fixScale fuel (k - 1)
    else k

/-- The least `k` with `value < 10 ^ k`, for a non-zero value. -/
def Binary.scale (x : Binary) : Int :=
  let bits : Int := (Nat.log2 x.m : Int) + x.q
  x.fixScale 8 (bits * 30103 / 100000)

/-- The neighbour of the value on the grid `10 ^ g` that reads back, the nearer of two,
the even one on an exact tie. -/
def Binary.onGrid (x : Binary) (g : Int) : Option Dec :=
  let (num, den) := x.scaled g
  let down := num / den
  let up := down + 1
  let okDown := down != 0 && x.readsBack ⟨down, g⟩
  let okUp := x.readsBack ⟨up, g⟩
  if okDown && okUp then
    let twice := 2 * num
    let mid := (down + up) * den
    if twice < mid then some ⟨down, g⟩
    else if twice > mid then some ⟨up, g⟩
    else if down % 2 == 0 then some ⟨down, g⟩ else some ⟨up, g⟩
  else if okDown then some ⟨down, g⟩
  else if okUp then some ⟨up, g⟩
  else none

/-- Moves trailing zeros of the digits into the exponent. -/
def Dec.strip : Nat → Dec → Dec
  | 0, d => d
  | fuel + 1, d =>
    if d.digits != 0 && d.digits % 10 == 0 then Dec.strip fuel ⟨d.digits / 10, d.exp + 1⟩ else d

/-- The exact decimal value of `m * 2 ^ q`. -/
def Binary.exact (x : Binary) : Dec :=
  if x.q ≥ 0 then ⟨x.m * Nat.pow 2 x.q.toNat, 0⟩
  else ⟨x.m * Nat.pow 5 (-x.q).toNat, x.q⟩

/-- The shortest decimal that reads back as the value, for a non-zero value. -/
def Binary.shortest (x : Binary) : Dec :=
  let k := x.scale
  let found := (List.range 17).findSome? fun n => x.onGrid (k - (n + 1 : Nat))
  match found with
  | some d => d.strip 400
  | none => x.exact.strip 1200

end Dataflow.Decimal
