/-!
# Sums of floats

Floats are summed in the pairwise order that keeps rounding errors small: blocks of up to 128
values are added in eight interleaved running sums, longer runs are split in two halves whose
lengths are multiples of eight. Fewer than eight values are added one after another.
Half-precision values are summed the same way in single precision.
-/

namespace Dataflow

/-- The sum of `n` values of `a` from position `s`, pairwise. -/
def pairwiseSum (a : Array Float) : Nat → Nat → Nat → Float
  | 0, _, _ => 0.0
  | fuel + 1, s, n =>
    let get (i : Nat) : Float := a.getD (s + i) 0.0
    if n < 8 then (List.range n).foldl (fun acc i => acc + get i) 0.0
    else if n ≤ 128 then
      let full := n - n % 8
      let r := (List.range ((full - 8) / 8)).foldl (fun (r : Array Float) blk =>
        (Array.range 8).map fun j => r.getD j 0.0 + get (8 + 8 * blk + j))
        ((Array.range 8).map get)
      let g (j : Nat) := r.getD j 0.0
      let res := ((g 0 + g 1) + (g 2 + g 3)) + ((g 4 + g 5) + (g 6 + g 7))
      (List.range (n - full)).foldl (fun acc i => acc + get (full + i)) res
    else
      let n2 := n / 2
      let n2 := n2 - n2 % 8
      pairwiseSum a fuel s n2 + pairwiseSum a fuel (s + n2) (n - n2)

/-- The sum of floats as the numeric library computes it. -/
def floatSum (a : Array Float) : Float := 0.0 + pairwiseSum a 64 0 a.size

/-- The sum of `n` single-precision values of `a` from position `s`, pairwise, in single
precision. -/
def pairwiseSum32 (a : Array Float32) : Nat → Nat → Nat → Float32
  | 0, _, _ => 0.0
  | fuel + 1, s, n =>
    let get (i : Nat) : Float32 := a.getD (s + i) 0.0
    if n < 8 then (List.range n).foldl (fun acc i => acc + get i) 0.0
    else if n ≤ 128 then
      let full := n - n % 8
      let r := (List.range ((full - 8) / 8)).foldl (fun (r : Array Float32) blk =>
        (Array.range 8).map fun j => r.getD j 0.0 + get (8 + 8 * blk + j))
        ((Array.range 8).map get)
      let g (j : Nat) := r.getD j 0.0
      let res := ((g 0 + g 1) + (g 2 + g 3)) + ((g 4 + g 5) + (g 6 + g 7))
      (List.range (n - full)).foldl (fun acc i => acc + get (full + i)) res
    else
      let n2 := n / 2
      let n2 := n2 - n2 % 8
      pairwiseSum32 a fuel s n2 + pairwiseSum32 a fuel (s + n2) (n - n2)

/-- The sum of single-precision floats as the numeric library computes it for half-precision
values: pairwise, in single precision. -/
def floatSum32 (a : Array Float32) : Float32 := 0.0 + pairwiseSum32 a 64 0 a.size

end Dataflow
