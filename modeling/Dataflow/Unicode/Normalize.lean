import Dataflow.Unicode.Table
import Dataflow.Unicode.Tables.Decomposition
/-!
# Normalization

The normalization forms of Unicode 14.0. NFKC makes identifiers that look alike equal (`ﬁ`
becomes `fi`, `ｘ` becomes `x`, `ℌ` becomes `H`). A form runs in up to three steps:

1. every character is replaced by its full decomposition, canonical (NFD, NFC) or with
   compatibility decompositions too (NFKD, NFKC), the Hangul syllables by their jamo;
2. each run of combining marks is put in order of combining class, marks of one class keeping
   their order;
3. for the composed forms (NFC, NFKC), each mark or jamo is joined with the last starter
   before it when the pair is a primary composite and no character between them blocks it: a
   character blocks when it is a starter or its class is not below the mark's.
-/

namespace Dataflow.Unicode

/-- A decomposition: whether it is a compatibility one, and its code points. -/
structure Decomposition where
  compatibility : Bool
  parts : List Nat
deriving Inhabited

/-- The decompositions written in packed numbers after the entry of the code point `cp`, whose
decomposition was `prev`, added to the code points and decompositions read so far. -/
def readDecompositions : List Nat → Nat → List Nat → Array Nat × Array Decomposition →
    Array Nat × Array Decomposition
  | [], _, _, acc => acc
  | head :: rest, cp, prev, acc =>
    let cp := cp + head / 64
    let n := head / 2 % 32
    let parts := (rest.take n).zipIdx.foldl (fun (parts : List Nat) (o, i) =>
      let base := prev.getD i (parts.getLastD cp)
      parts ++ [if o % 2 == 0 then base + o / 2 else base - (o / 2 + 1)]) []
    readDecompositions (rest.drop n) cp parts (acc.1.push cp, acc.2.push ⟨head % 2 == 1, parts⟩)
termination_by ns => ns.length
decreasing_by
  simp only [List.length_drop, List.length_cons]
  omega

/-- The code points with decompositions, in order, and their decompositions. -/
def decompositionTable : Array Nat × Array Decomposition :=
  readDecompositions (readPacked decompositionText).toList 0 [] (#[], #[])

/-- The decomposition of a code point, if it has one. -/
def decomposition? (cp : Nat) : Option Decomposition :=
  match countAtMost decompositionTable.1 cp with
  | 0 => none
  | i + 1 => if decompositionTable.1.getD i 0 == cp then decompositionTable.2[i]? else none

/-- The canonical combining classes. -/
def combiningClassRuns : RunMap Nat :=
  RunMap.ofPacked 256 id combiningClassText

/-- The canonical combining class of a code point; zero for a starter. -/
def combiningClass (cp : Nat) : Nat := combiningClassRuns.get cp

/-! ### Hangul syllables -/

/-- The first Hangul syllable. -/
def syllableBase : Nat := 0xAC00

/-- The first leading consonant jamo. -/
def leadBase : Nat := 0x1100

/-- The first vowel jamo. -/
def vowelBase : Nat := 0x1161

/-- The code point before the first trailing consonant jamo. -/
def trailBase : Nat := 0x11A7

/-- The number of leading consonants. -/
def leadCount : Nat := 19
/-- The number of vowels. -/
def vowelCount : Nat := 21
/-- The number of trailing consonants, the absent one included. -/
def trailCount : Nat := 28

/-- The number of Hangul syllables. -/
def syllableCount : Nat := leadCount * vowelCount * trailCount

/-- Whether a code point is a Hangul syllable. -/
def isSyllable (cp : Nat) : Bool := syllableBase ≤ cp && cp < syllableBase + syllableCount

/-- The jamo of a Hangul syllable. -/
def syllableJamo (cp : Nat) : List Nat :=
  let s := cp - syllableBase
  let l := leadBase + s / (vowelCount * trailCount)
  let v := vowelBase + s % (vowelCount * trailCount) / trailCount
  let t := s % trailCount
  if t == 0 then [l, v] else [l, v, trailBase + t]

/-! ### The three steps -/

/-- The full decomposition of a code point, the Hangul syllables into their jamo: canonical
decompositions only, or compatibility ones too when `compat`. `fuel` bounds the depth of the
decompositions followed, which is far above the deepest in the tables. -/
def decomposeBy (compat : Bool) : Nat → Nat → List Nat
  | 0, cp => [cp]
  | fuel + 1, cp =>
    if isSyllable cp then syllableJamo cp
    else match decomposition? cp with
      | some d =>
        if d.compatibility && !compat then [cp] else d.parts.flatMap (decomposeBy compat fuel)
      | none => [cp]

/-- Puts a run of combining marks in order of class; the sort is stable. -/
def sortMarks (marks : List Nat) : List Nat :=
  marks.mergeSort fun a b => combiningClass a ≤ combiningClass b

/-- Puts every run of combining marks in order of class. `marks` holds the marks of the
current run, last first. -/
def reorderMarks : List Nat → List Nat → List Nat
  | marks, [] => sortMarks marks.reverse
  | marks, cp :: rest =>
    if combiningClass cp == 0 then sortMarks marks.reverse ++ cp :: reorderMarks [] rest
    else reorderMarks (cp :: marks) rest

/-- The primary composites, keyed by their pair: `first * 0x110000 + second`. -/
def compositeTable : Array Nat × Array Nat :=
  let composites := ((readPacked compositeText).toList.foldl
    (fun (acc : List Nat) d => (acc.headD 0 + d) :: acc) []).reverse
  let pairs := composites.filterMap fun cp =>
    match decomposition? cp with
    | some ⟨false, [a, b]⟩ => some (a * 0x110000 + b, cp)
    | _ => none
  let sorted := pairs.mergeSort fun p q => p.1 ≤ q.1
  ((sorted.map (·.1)).toArray, (sorted.map (·.2)).toArray)

/-- The primary composite of a pair, Hangul syllables included. -/
def composePair? (a b : Nat) : Option Nat :=
  if leadBase ≤ a && a < leadBase + leadCount && vowelBase ≤ b && b < vowelBase + vowelCount then
    some (syllableBase + ((a - leadBase) * vowelCount + (b - vowelBase)) * trailCount)
  else if isSyllable a && (a - syllableBase) % trailCount == 0 && trailBase < b &&
      b < trailBase + trailCount then
    some (a + (b - trailBase))
  else
    let key := a * 0x110000 + b
    match countAtMost compositeTable.1 key with
    | 0 => none
    | i + 1 => if compositeTable.1.getD i 0 == key then compositeTable.2[i]? else none

/-- The state of composition: the output so far (last first), the place of the last starter
in it counted from the end, and the class of the last mark put out after that starter
(`none` when the starter is the last character put out). -/
structure Composing where
  out : List Nat
  starter : Option Nat
  lastClass : Option Nat

/-- Replaces the element `k` places from the head of a list. -/
def replaceAt : List Nat → Nat → Nat → List Nat
  | [], _, _ => []
  | _ :: rest, 0, v => v :: rest
  | x :: rest, k + 1, v => x :: replaceAt rest k v

/-- One step of composition: joins the code point with the last starter when it is not
blocked and the pair composes, and puts it out otherwise. -/
def Composing.step (st : Composing) (cp : Nat) : Composing :=
  let cls := combiningClass cp
  let reachable := match st.lastClass with
    | none => true
    | some last => last < cls
  let joined := match st.starter with
    | some k => if reachable then (st.out[k]?).bind (composePair? · cp) |>.map (k, ·) else none
    | none => none
  match joined with
  | some (k, c) => { st with out := replaceAt st.out k c }
  | none =>
    if cls == 0 then ⟨cp :: st.out, some 0, none⟩
    else ⟨cp :: st.out, st.starter.map (· + 1), some cls⟩

/-- Canonical composition of decomposed, reordered code points. -/
def compose (cps : List Nat) : List Nat :=
  (cps.foldl Composing.step ⟨[], none, none⟩).out.reverse

/-- A normal form of a text: fully decomposed (canonically, or with compatibility
decompositions when `compat`), its marks put in order, and composed again when `composed`.
The four forms NFD, NFC, NFKD and NFKC are the four choices. -/
def normalForm (composed compat : Bool) (s : String) : String :=
  let decomposed := s.toList.flatMap fun c => decomposeBy compat 20 c.toNat
  let ordered := reorderMarks [] decomposed
  String.ofList ((if composed then compose ordered else ordered).map Char.ofNat)

/-- The NFKC form of a text. -/
def nfkc (s : String) : String := normalForm true true s

end Dataflow.Unicode
