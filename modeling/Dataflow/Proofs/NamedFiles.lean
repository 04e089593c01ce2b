import Mathlib
import Dataflow.Proofs.Identifier
/-!
# The files a name reaches

**A text the identifier check accepts holds neither a slash nor a NUL character, so joined with
`.csv` to a directory it names a file of that directory** (`locateIn_acceptedName`). The routes
that take an identifier (the description, deletion and download of a file) and the two writers
that issue one (an upload, an output) therefore touch only the files directly in their
directories. The table reader takes its upload id from the node's configuration without that
check: its name reaches a file of the upload directory when it is plain, and otherwise wherever
its parts lead.

The proof follows a stray character through the check (`isIdentifier_rejects`): removing
`urn:` and `uuid:`, braces at the ends and dashes keeps every other character
(`mem_removeAll`, `mem_dropWhile_of_false`), and reading a number in base sixteen fails on a
character that is no digit, blank, sign, prefix or underscore (`readInteger_stray`).
-/

namespace Dataflow

/-! ### What the steps of the check keep -/

/-- A character outside a piece survives the removal of every occurrence of that piece. -/
theorem mem_dropPieces {piece : List Char} {c : Char} (outside : c ∉ piece) :
    ∀ cs : List Char, c ∈ cs → c ∈ Http.dropPieces piece cs := by
  intro cs
  induction cs using Http.dropPieces.induct piece with
  | case1 => exact fun member => absurd member List.not_mem_nil
  | case2 x rest matched ih =>
    -- the matched prefix is the piece itself, so `c` lies in what follows it
    intro member
    rw [Http.dropPieces, dif_pos matched]
    have first : piece = (x :: rest).take piece.length :=
      List.prefix_iff_eq_take.mp (List.isPrefixOf_iff_prefix.mp matched.2)
    rw [← List.take_append_drop piece.length (x :: rest), List.mem_append, ← first] at member
    exact ih (member.resolve_left outside)
  | case3 x rest unmatched ih =>
    intro member
    rw [Http.dropPieces, dif_neg unmatched]
    rcases List.mem_cons.mp member with rfl | later
    · exact List.mem_cons_self
    · exact List.mem_cons_of_mem x (ih later)

theorem mem_removeAll {s piece : String} {c : Char} (member : c ∈ s.toList)
    (outside : c ∉ piece.toList) : c ∈ (Http.removeAll s piece).toList := by
  rw [Http.removeAll, String.toList_ofList]
  exact mem_dropPieces outside _ member

/-- Dropping a prefix of what `p` holds of keeps every character `p` fails on. -/
theorem mem_dropWhile_of_false {α : Type} {p : α → Bool} {l : List α} {c : α} (member : c ∈ l)
    (kept : p c = false) : c ∈ l.dropWhile p := by
  rw [← List.takeWhile_append_dropWhile (p := p) (l := l), List.mem_append] at member
  rcases member with dropped | rest
  · exact absurd (List.mem_takeWhile_imp dropped) (by simp [kept])
  · exact rest

/-- Trimming from both ends keeps every character the trimmed predicate fails on. -/
theorem mem_trim_of_false {α : Type} {p : α → Bool} {l : List α} {c : α} (member : c ∈ l)
    (kept : p c = false) : c ∈ ((l.dropWhile p).reverse.dropWhile p).reverse :=
  List.mem_reverse.mpr (mem_dropWhile_of_false (List.mem_reverse.mpr
    (mem_dropWhile_of_false member kept)) kept)

/-! ### Reading a number past a stray character -/

/-- A character that reading a number in base sixteen never skips or accepts: an ASCII
character that is no digit, blank, sign, base mark or underscore. -/
structure Stray (c : Char) : Prop where
  ascii : c.toNat < 127
  unblank : Number.isAsciiBlank c = false
  undigit : Number.digitValue? 16 c = none
  unmarked : c ∉ ['+', '-', 'x', 'X', '_']

theorem Stray.of_slash : Stray '/' := ⟨by decide, by decide, by decide, by decide⟩

theorem Stray.of_nul : Stray (Char.ofNat 0) := ⟨by decide, by decide, by decide, by decide⟩

/-- A character that a partial map fixes is in every image of a list holding it. -/
theorem mem_of_mapM {f : Char → Option Char} {c : Char} (fixed : f c = some c) :
    ∀ {l cs : List Char}, l.mapM f = some cs → c ∈ l → c ∈ cs
  | [], _, _, member => absurd member List.not_mem_nil
  | x :: rest, _, mapped, member => by
    simp only [List.mapM_cons, bind, Option.bind_eq_some_iff, pure, Option.some.injEq] at mapped
    obtain ⟨y, image, ys, tail, rfl⟩ := mapped
    rcases List.mem_cons.mp member with rfl | later
    · obtain rfl : c = y := Option.some.inj (fixed ▸ image)
      exact List.mem_cons_self
    · exact List.mem_cons_of_mem y (mem_of_mapM fixed tail later)

theorem mem_asciiForm {s : String} {cs : List Char} {c : Char} (ascii : c.toNat < 127)
    (read : Number.asciiForm s = some cs) (member : c ∈ s.toList) : c ∈ cs :=
  mem_of_mapM (by simp [ascii]) read member

/-- Folding digits fails once a character has no digit value. -/
theorem foldlM_digits_none {c : Char} (undigit : Number.digitValue? 16 c = none) :
    ∀ {l : List Char} (acc : Nat), c ∈ l →
      l.foldlM (fun acc c => (Number.digitValue? 16 c).map (acc * 16 + ·)) acc = none
  | [], _, member => absurd member List.not_mem_nil
  | x :: rest, acc, member => by
    rw [List.foldlM_cons]
    rcases List.mem_cons.mp member with rfl | later
    · simp [undigit]
    · cases digit : Number.digitValue? 16 x with
      | none => simp
      | some d => simpa [digit] using foldlM_digits_none undigit (acc * 16 + d) later

theorem readDigits_stray {c : Char} (stray : Stray c) {cs : List Char} (member : c ∈ cs) :
    Number.readDigits 16 cs = none := by
  have kept : c ∈ cs.filter (· != '_') :=
    List.mem_filter.mpr ⟨member, by simpa using fun same => stray.unmarked (by simp [same])⟩
  unfold Number.readDigits
  split
  · rfl
  · split
    · rfl
    · exact foldlM_digits_none stray.undigit 0 kept

theorem mem_splitSign {c : Char} (stray : Stray c) {cs : List Char} (member : c ∈ cs) :
    c ∈ (Number.splitSign cs).2 := by
  unfold Number.splitSign
  split
  · exact (List.mem_cons.mp member).resolve_left fun same => stray.unmarked (by simp [same])
  · exact (List.mem_cons.mp member).resolve_left fun same => stray.unmarked (by simp [same])
  · exact member

/-- What follows a base prefix keeps a stray character. -/
theorem mem_afterBasePrefix {c : Char} (stray : Stray c) {cs : List Char} (member : c ∈ cs) :
    c ∈ (Number.afterBasePrefix 16 cs).getD cs := by
  unfold Number.afterBasePrefix
  split
  · rename_i x rest
    split
    · -- a prefix `0x`: `c` is neither its zero nor its mark, nor the underscore after it
      rename_i marked
      have mark : x = 'x' ∨ x = 'X' := by simpa using marked
      have zero : c ≠ '0' := fun same => by simp [same] at stray; exact absurd stray.undigit (by decide)
      have tail : c ∈ rest := by
        rcases List.mem_cons.mp member with first | member
        · exact absurd first zero
        rcases List.mem_cons.mp member with second | later
        · exact absurd second fun same => stray.unmarked (by rcases mark with rfl | rfl <;> simp [same])
        · exact later
      split
      · rename_i more
        exact (List.mem_cons.mp tail).resolve_left fun same => stray.unmarked (by simp [same])
      · exact tail
    · exact member
  · exact member

/-- Reading a number in base sixteen fails on a text holding a stray character. -/
theorem readInteger_stray {c : Char} (stray : Stray c) {s : String} (member : c ∈ s.toList) :
    Number.readInteger? 16 s = none := by
  cases read : Number.asciiForm s with
  | none => simp [Number.readInteger?, read]
  | some cs =>
    -- the character survives the trimming, the sign and the prefix into the digits
    have trimmed := mem_trim_of_false (mem_asciiForm stray.ascii read member) stray.unblank
    have digits := mem_afterBasePrefix stray (mem_splitSign stray trimmed)
    simp only [Number.readInteger?, read, Option.bind_eq_bind, Option.bind_some]
    split
    · rfl
    · rw [readDigits_stray stray digits]
      rfl

/-! ### The identifier check -/

/-- **The identifier check rejects every text holding a stray character** that neither the
removal of `urn:` and `uuid:` nor the trimming of braces takes away. -/
theorem isIdentifier_rejects {c : Char} (stray : Stray c)
    (unremoved : c ∉ ['u', 'r', 'n', 'i', 'd', ':', '{', '}']) {s : String} (member : c ∈ s.toList) :
    Http.isIdentifier s = false := by
  have within : ∀ d ∈ "urn:".toList ++ "uuid:".toList, d ∈ ['u', 'r', 'n', 'i', 'd', ':', '{', '}'] :=
    forall_of_all (by decide)
  have urn := mem_removeAll member fun m => unremoved (within c (List.mem_append_left _ m))
  have uuid := mem_removeAll urn fun m => unremoved (within c (List.mem_append_right _ m))
  have unbraced : (c == '{' || c == '}') = false := Bool.eq_false_iff.mpr fun braced =>
    unremoved (by rcases (by simpa using braced : c = '{' ∨ c = '}') with rfl | rfl <;> simp)
  have undashed : (c != '-') = true := by
    simpa using fun same => stray.unmarked (by simp [same])
  have braces := mem_trim_of_false (p := fun c => c == '{' || c == '}') uuid unbraced
  have unread := readInteger_stray stray (s := String.ofList _) (by
    rw [String.toList_ofList]
    exact (List.mem_filter (p := fun x => x != '-')).mpr ⟨braces, undashed⟩)
  simp only [Http.isIdentifier, unread, Bool.and_false]

/-- An accepted identifier holds neither a slash nor a NUL character. -/
theorem plain_of_isIdentifier {u : String} (accepted : Http.isIdentifier u = true) :
    '/' ∉ u.toList ∧ Char.ofNat 0 ∉ u.toList := by
  constructor
  · intro member
    simp [isIdentifier_rejects Stray.of_slash (by decide) member] at accepted
  · intro member
    simp [isIdentifier_rejects Stray.of_nul (by decide) member] at accepted

/-! ### The files named by identifiers and plain names -/

/-- **An identifier or a plain name reaches only a file of its directory.** Joined with `.csv`
to a directory, a text that the identifier check accepts, or any text without a slash or a NUL
character, is refused as too long or names the stored file of that text in the directory (or
nothing). -/
theorem locateIn_acceptedName (ids : List String) (dir u : String)
    (named : Http.isIdentifier u = true ∨ '/' ∉ u.toList ∧ Char.ofNat 0 ∉ u.toList) :
    locateIn ids dir (u ++ ".csv") =
      if pathMax ≤ (dir ++ "/" ++ (u ++ ".csv")).utf8ByteSize ∨
          nameMax < (u ++ ".csv").utf8ByteSize then .tooLong
      else if u ∈ ids then .stored u else .missing := by
  obtain ⟨noSlash, noNul⟩ := named.elim plain_of_isIdentifier id
  exact locateIn_plainName ids dir u noSlash noNul

theorem locateIn_acceptedName_upload :
    ('/' ∉ "a".toList ∧ Char.ofNat 0 ∉ "a".toList) ∧
      locateIn ["a"] "uploads" ("a" ++ ".csv") = .stored "a" := by
  have plain : '/' ∉ "a".toList ∧ Char.ofNat 0 ∉ "a".toList := by decide
  refine ⟨plain, ?_⟩
  rw [locateIn_acceptedName ["a"] "uploads" "a" (.inr plain)]
  decide

end Dataflow
