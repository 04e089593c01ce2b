/-!
# The Mersenne twister and the draws made from it

The generator the numeric library's legacy random state uses, seeded by one 32-bit integer:

* `Twister.seeded` fills the 624 words of state from the seed, each word from the one before it
  (`1812433253 × (w xor (w >> 30)) + i`, kept to 32 bits);
* `Twister.next` regenerates the whole state every 624 draws (`regenerate`: each word mixed
  with the next and with the word 397 places on) and tempers the word it takes;
* `Twister.interval` draws an integer in `[0, max]` by rejection: a 32-bit draw is masked to
  the smallest all-ones mask covering `max` and drawn again while it exceeds `max`;
* `Twister.permutation` shuffles `0, …, n - 1` from the last place down, each place swapped
  with a place drawn among those up to it.

Draws with rejection loop at most a fixed number of times; a loop that would need more gives
the last candidate clipped to `max`, which a 32-bit mask makes a chance below `2^-64`.
-/

namespace Dataflow

/-- The state of the generator: 624 words and the place of the next word to take. -/
structure Twister where
  words : Array UInt32
  place : Nat

namespace Twister

/-- The number of words of state. -/
def size : Nat := 624

/-- The distance to the word a word is mixed with. -/
def shift : Nat := 397

/-- The state a seed gives. -/
def seeded (seed : UInt32) : Twister :=
  let words := (List.range (size - 1)).foldl (fun (acc : Array UInt32 × UInt32) i =>
    let (ws, w) := acc
    let next := (1812433253 : UInt32) * (w ^^^ (w >>> 30)) + (i + 1).toUInt32
    (ws.push next, next)) (#[seed], seed)
  ⟨words.1, size⟩

/-- One word mixed from the top bit of `a` and the lower bits of `b`, with the word `c`. -/
def mix (a b c : UInt32) : UInt32 :=
  let y := (a &&& 0x80000000) ||| (b &&& 0x7fffffff)
  c ^^^ (y >>> 1) ^^^ (if y &&& 1 == 1 then 0x9908b0df else 0)

/-- The next 624 words, each mixed in place from the current ones. -/
def regenerate (ws : Array UInt32) : Array UInt32 :=
  (List.range size).foldl (fun (cur : Array UInt32) i =>
    let a := cur.getD i 0
    let b := cur.getD ((i + 1) % size) 0
    let c := cur.getD ((i + shift) % size) 0
    cur.set! i (mix a b c)) ws

/-- A word tempered for output. -/
def temper (y : UInt32) : UInt32 :=
  let y := y ^^^ (y >>> 11)
  let y := y ^^^ ((y <<< 7) &&& 0x9d2c5680)
  let y := y ^^^ ((y <<< 15) &&& 0xefc60000)
  y ^^^ (y >>> 18)

/-- The next 32-bit draw and the state after it. -/
def next (t : Twister) : UInt32 × Twister :=
  let (ws, p) := if t.place ≥ size then (regenerate t.words, 0) else (t.words, t.place)
  (temper (ws.getD p 0), ⟨ws, p + 1⟩)

/-- The smallest mask of all ones covering `max`. -/
def maskOf (max : Nat) : Nat := Nat.pow 2 (Nat.log2 max + 1) - 1

/-- An integer in `[0, max]` (`max < 2^32`), by masked draws redrawn while they exceed
`max`. -/
def interval (t : Twister) (max : Nat) : Nat × Twister :=
  if max == 0 then (0, t)
  else
    let mask := maskOf max
    let rec draw : Nat → Twister → Nat × Twister
      | 0, t => (max, t)
      | fuel + 1, t =>
        let (w, t) := t.next
        let v := w.toNat &&& mask
        if v > max then draw fuel t else (v, t)
    draw 4096 t

/-- `0, …, n - 1` shuffled: from the last place down to the second, each place swapped with a
place drawn among those up to it. -/
def permutation (t : Twister) (n : Nat) : Array Nat × Twister :=
  (List.range n).reverse.foldl (fun (acc : Array Nat × Twister) i =>
    if i == 0 then acc
    else
      let (xs, t) := acc
      let (j, t) := t.interval i
      let xi := xs.getD i 0
      let xj := xs.getD j 0
      ((xs.set! i xj).set! j xi, t)) (Array.range n, t)

/-- `count` integers in `[0, n)`, drawn with repetition (`n ≥ 1`). -/
def draws (t : Twister) (n count : Nat) : Array Nat × Twister :=
  (List.range count).foldl (fun (acc : Array Nat × Twister) _ =>
    let (xs, t) := acc
    let (v, t) := t.interval (n - 1)
    (xs.push v, t)) (#[], t)

end Twister

end Dataflow
