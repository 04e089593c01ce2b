import Mathlib
import Dataflow.Http.Routes
/-!
# Issued identifiers and the files they name

**Every identifier the service issues passes its identifier check, and names its own file.** An
issued identifier is `8-4-4-4-12` lower-case hexadecimal digits (`identifierText`). The routes
check an identifier by reading it as a 128-bit number in base sixteen after removing `urn:`,
`uuid:`, braces at the ends and dashes; an issued one passes (`isIdentifier_identifierText`).
Joined with `.csv` to a directory, it is a path of one part, which names the stored file of
that identifier when there is one and the whole path is not too long
(`locateIn_identifierText`).

* `removeAll_eq_self`: removing a piece whose first character the text lacks leaves the text;
* `readDigits_hex`, `readInteger_hex`: hexadecimal digits read as a number below `16 ^ n`;
* `pathParts_plain`: a name without slashes is a relative path of one part;
* `locateIn_plainName`: joined with `.csv` to a directory, such a name names the stored file of
  that name there.
-/

namespace Dataflow

/-- The lower-case hexadecimal digits. -/
def hexChars : List Char :=
  ['0', '1', '2', '3', '4', '5', '6', '7', '8', '9', 'a', 'b', 'c', 'd', 'e', 'f']

/-- A property of every character of a list, checked character by character. -/
theorem forall_of_all {l : List Char} {P : Char → Prop} [DecidablePred P]
    (checked : (l.all fun d => decide (P d)) = true) : ∀ d ∈ l, P d :=
  fun d member => of_decide_eq_true (List.all_eq_true.mp checked d member)

/-- An integer power as the model writes it is the power. -/
@[simp] theorem int_pow_eq (m : Int) (n : Nat) : Int.pow m n = m ^ n := rfl

/-! ### The digits of an identifier -/

theorem length_hexDigits (width n : Nat) : (hexDigits width n).toList.length = width := by
  simp [hexDigits]

theorem hexDigits_hex (width n : Nat) : ∀ c ∈ (hexDigits width n).toList, c ∈ hexChars := by
  simp only [hexDigits, String.toList_ofList, List.mem_map]
  rintro c ⟨k, -, rfl⟩
  -- a digit below sixteen is one of the sixteen characters
  have digit : ∀ d < 16,
      (if d < 10 then Char.ofNat (48 + d) else Char.ofNat (87 + d)) ∈ hexChars := by decide
  exact digit _ (Nat.mod_lt _ (by decide))

/-- Five pieces of lengths 8, 4, 4, 4 and 12 make up a list of 32. -/
theorem take_pieces {α : Type} {l : List α} (length : l.length = 32) :
    l.take 8 ++ (l.drop 8).take 4 ++ (l.drop 12).take 4 ++ (l.drop 16).take 4 ++
      (l.drop 20).take 12 = l := by
  rw [← List.take_add, ← List.take_add, ← List.take_add, ← List.take_add,
    List.take_of_length_le (by omega)]

/-- The characters of an identifier: its 32 digits, in five groups joined by dashes. -/
theorem identifierText_toList (n : Nat) :
    (identifierText n).toList =
      let h := (hexDigits 32 n).toList
      h.take 8 ++ '-' :: (h.drop 8).take 4 ++ '-' :: (h.drop 12).take 4 ++ '-' ::
        (h.drop 16).take 4 ++ '-' :: (h.drop 20).take 12 := by
  simp [identifierText, String.toList_append, toString]

theorem identifierText_chars (n : Nat) : ∀ c ∈ (identifierText n).toList, c ∈ '-' :: hexChars := by
  have piece : ∀ a b, ∀ c ∈ ((hexDigits 32 n).toList.drop a).take b, c ∈ '-' :: hexChars :=
    fun a b c member => List.mem_cons_of_mem _
      (hexDigits_hex 32 n c (List.mem_of_mem_drop (List.mem_of_mem_take member)))
  have first : ∀ c ∈ (hexDigits 32 n).toList.take 8, c ∈ '-' :: hexChars := piece 0 8
  simp only [identifierText_toList, List.forall_mem_append, List.forall_mem_cons]
  exact ⟨⟨⟨⟨first, List.mem_cons_self, piece 8 4⟩, List.mem_cons_self, piece 12 4⟩,
    List.mem_cons_self, piece 16 4⟩, List.mem_cons_self, piece 20 12⟩

/-- Without its dashes, an identifier is its 32 digits. -/
theorem identifierText_digits (n : Nat) :
    (identifierText n).toList.filter (· != '-') = (hexDigits 32 n).toList := by
  have plain : ∀ l : List Char, (∀ c ∈ l, c ∈ hexChars) → l.filter (· != '-') = l :=
    fun l digits => List.filter_eq_self.mpr fun c member => by
      have undashed : ∀ d ∈ hexChars, (d != '-') = true :=
      forall_of_all (by decide)
      exact undashed c (digits c member)
  have piece : ∀ a b, ((hexDigits 32 n).toList.drop a).take b =
      (((hexDigits 32 n).toList.drop a).take b).filter (· != '-') := fun a b =>
    (plain _ fun c member =>
      hexDigits_hex 32 n c (List.mem_of_mem_drop (List.mem_of_mem_take member))).symm
  have first : (hexDigits 32 n).toList.take 8 =
      ((hexDigits 32 n).toList.take 8).filter (· != '-') := piece 0 8
  rw [identifierText_toList]
  simp only [List.filter_append, List.filter_cons, bne_self_eq_false, Bool.false_eq_true, if_false]
  rw [← first, ← piece 8 4, ← piece 12 4, ← piece 16 4, ← piece 20 12]
  exact take_pieces (length_hexDigits 32 n)

theorem length_identifierText (n : Nat) : (identifierText n).toList.length = 36 := by
  simp [identifierText_toList, length_hexDigits]

/-! ### Reading hexadecimal digits -/

theorem hexChars_value : ∀ c ∈ hexChars, ∃ d < 16, Number.digitValue? 16 c = some d :=
  forall_of_all (by decide)

/-- Folding hexadecimal digits onto `acc` gives a number below `acc + 1` times `16 ^ n`. -/
theorem foldlM_hex : ∀ (cs : List Char) (acc : Nat), (∀ c ∈ cs, c ∈ hexChars) →
    ∃ v, cs.foldlM (fun acc c => (Number.digitValue? 16 c).map (acc * 16 + ·)) acc = some v ∧
      v < (acc + 1) * 16 ^ cs.length
  | [], acc, _ => ⟨acc, rfl, by simp⟩
  | c :: rest, acc, digits => by
    obtain ⟨d, small, value⟩ := hexChars_value c (digits c List.mem_cons_self)
    obtain ⟨v, fold, bound⟩ :=
      foldlM_hex rest (acc * 16 + d) fun x later => digits x (List.mem_cons_of_mem c later)
    refine ⟨v, ?_, ?_⟩
    · rw [List.foldlM_cons, value]
      exact fold
    · calc v < (acc * 16 + d + 1) * 16 ^ rest.length := bound
        _ ≤ (acc + 1) * 16 * 16 ^ rest.length := Nat.mul_le_mul_right _ (by omega)
        _ = (acc + 1) * 16 ^ (c :: rest).length := by
          rw [List.length_cons, Nat.pow_succ, Nat.mul_comm (16 ^ rest.length) 16, Nat.mul_assoc]

/-- Characters none of which is an underscore have no two underscores in a row. -/
theorem any_doubled_eq_false {cs : List Char} (plain : ∀ c ∈ cs, c ≠ '_') :
    (cs.zip (cs.drop 1)).any (fun (a, b) => a == '_' && b == '_') = false := by
  refine List.any_eq_false.mpr fun p member both => ?_
  obtain ⟨a, b⟩ := p
  simp only [Bool.and_eq_true, beq_iff_eq] at both
  exact plain a (List.of_mem_zip member).1 both.1

/-- A nonempty run of hexadecimal digits reads as a number below `16 ^ n`. -/
theorem readDigits_hex {cs : List Char} (digits : ∀ c ∈ cs, c ∈ hexChars) (nonempty : cs ≠ []) :
    ∃ v, Number.readDigits 16 cs = some v ∧ v < 16 ^ cs.length := by
  obtain ⟨v, fold, bound⟩ := foldlM_hex cs 0 digits
  have plain : ∀ c ∈ cs, c ≠ '_' := fun c member => by
    have notUnderscore : ∀ d ∈ hexChars, d ≠ '_' :=
      forall_of_all (by decide)
    exact notUnderscore c (digits c member)
  -- no underscore anywhere: not first, not last, not doubled, and none to remove
  have last : cs.getLast? ≠ some '_' := fun found => plain _ (List.mem_of_getLast? found) rfl
  have kept : cs.filter (· != '_') = cs :=
    List.filter_eq_self.mpr fun c member => by simpa using plain c member
  obtain ⟨c, rest, rfl⟩ := List.exists_cons_of_ne_nil nonempty
  refine ⟨v, ?_, by simpa using bound⟩
  simp only [Number.readDigits, List.isEmpty_cons, List.head?_cons, any_doubled_eq_false plain,
    kept, fold]
  simp [plain c List.mem_cons_self, last]

theorem asciiForm_hex {cs : List Char} (digits : ∀ c ∈ cs, c ∈ hexChars) :
    Number.asciiForm (String.ofList cs) = some cs := by
  have ascii : ∀ d ∈ hexChars, d.toNat < 127 :=
      forall_of_all (by decide)
  rw [Number.asciiForm, String.toList_ofList]
  induction cs with
  | nil => rfl
  | cons c rest ih =>
    rw [List.mapM_cons, if_pos (ascii c (digits c List.mem_cons_self)),
      ih fun x later => digits x (List.mem_cons_of_mem c later)]
    rfl

/-- Dropping from both ends what a predicate holds of leaves a list it holds of nowhere. -/
theorem dropWhile_ends {α : Type} {p : α → Bool} {l : List α} (nowhere : ∀ c ∈ l, p c = false) :
    ((l.dropWhile p).reverse.dropWhile p).reverse = l := by
  have keep : ∀ l : List α, (∀ c ∈ l, p c = false) → l.dropWhile p = l := fun l none => by
    cases l with
    | nil => rfl
    | cons c rest => simp [none c List.mem_cons_self]
  rw [keep l nowhere, keep l.reverse fun c member => nowhere c (List.mem_reverse.mp member),
    List.reverse_reverse]

theorem splitSign_hex {c : Char} (hex : c ∈ hexChars) (rest : List Char) :
    Number.splitSign (c :: rest) = (false, c :: rest) := by
  have unsigned : ∀ d ∈ hexChars, d ≠ '-' ∧ d ≠ '+' :=
      forall_of_all (by decide)
  obtain ⟨minus, plus⟩ := unsigned c hex
  unfold Number.splitSign
  split
  · rename_i r same
    exact absurd (List.cons.inj same).1 minus
  · rename_i r same
    exact absurd (List.cons.inj same).1 plus
  · rfl

theorem afterBasePrefix_hex {cs : List Char} (digits : ∀ c ∈ cs, c ∈ hexChars) :
    Number.afterBasePrefix 16 cs = none := by
  unfold Number.afterBasePrefix
  split
  · rename_i x rest
    -- the second character is a digit, not the `x` of a prefix
    have unmarked : ∀ d ∈ hexChars, (d == 'x' || d == 'X') = false :=
      forall_of_all (by decide)
    simp [unmarked x (digits x (by simp))]
  · rfl

/-- A nonempty text of hexadecimal digits reads in base sixteen as a number below `16 ^ n`. -/
theorem readInteger_hex {cs : List Char} (digits : ∀ c ∈ cs, c ∈ hexChars) (nonempty : cs ≠ []) :
    ∃ v : Nat, Number.readInteger? 16 (String.ofList cs) = some (v : Int) ∧ v < 16 ^ cs.length := by
  obtain ⟨v, read, bound⟩ := readDigits_hex digits nonempty
  have blanks : ((cs.dropWhile Number.isAsciiBlank).reverse.dropWhile Number.isAsciiBlank).reverse
      = cs := by
    have unblank : ∀ d ∈ hexChars, Number.isAsciiBlank d = false :=
      forall_of_all (by decide)
    exact dropWhile_ends fun c member => unblank c (digits c member)
  refine ⟨v, ?_, bound⟩
  obtain ⟨c, rest, rfl⟩ := List.exists_cons_of_ne_nil nonempty
  simp only [Number.readInteger?, asciiForm_hex digits, Option.bind_eq_bind, Option.bind_some,
    blanks, splitSign_hex (digits c List.mem_cons_self), afterBasePrefix_hex digits]
  simp [read]

/-! ### The identifier check -/

/-- Dropping a piece whose first character a text lacks leaves the text. -/
theorem dropPieces_of_not_mem {c : Char} {rest : List Char} :
    ∀ {cs : List Char}, c ∉ cs → Http.dropPieces (c :: rest) cs = cs
  | [], _ => by rw [Http.dropPieces]
  | x :: xs, absent => by
    have unmatched : ¬ (c :: rest ≠ [] ∧ (c :: rest).isPrefixOf (x :: xs) = true) := by
      rintro ⟨-, prefixed⟩
      simp only [List.isPrefixOf, Bool.and_eq_true, beq_iff_eq] at prefixed
      exact absent (prefixed.1 ▸ List.mem_cons_self)
    rw [Http.dropPieces, dif_neg unmatched,
      dropPieces_of_not_mem fun later => absent (List.mem_cons_of_mem x later)]

theorem removeAll_eq_self {s piece : String} {c : Char} {rest : List Char}
    (first : piece.toList = c :: rest) (absent : c ∉ s.toList) : Http.removeAll s piece = s := by
  rw [Http.removeAll, first, dropPieces_of_not_mem absent, String.ofList_toList]

/-- **An issued identifier passes the identifier check.** Nothing is removed from it but its
dashes, which leave its 32 digits. -/
theorem isIdentifier_identifierText (n : Nat) : Http.isIdentifier (identifierText n) = true := by
  have chars := identifierText_chars n
  have unmarked : ∀ d ∈ '-' :: hexChars, d ≠ 'u' ∧ (d == '{' || d == '}') = false :=
      forall_of_all (by decide)
  have noU : 'u' ∉ (identifierText n).toList := fun member => (unmarked 'u' (chars 'u' member)).1 rfl
  have urn : Http.removeAll (identifierText n) "urn:" = identifierText n :=
    removeAll_eq_self (show "urn:".toList = ['u', 'r', 'n', ':'] by decide) noU
  have uuid : Http.removeAll (identifierText n) "uuid:" = identifierText n :=
    removeAll_eq_self (show "uuid:".toList = ['u', 'u', 'i', 'd', ':'] by decide) noU
  have braces := dropWhile_ends fun c member => (unmarked c (chars c member)).2
  have nonempty : (hexDigits 32 n).toList ≠ [] := by
    rw [← List.length_pos_iff, length_hexDigits]
    decide
  obtain ⟨v, read, bound⟩ := readInteger_hex (hexDigits_hex 32 n) nonempty
  rw [String.ofList_toList] at read
  rw [length_hexDigits] at bound
  have small : v < 2 ^ 128 := by simpa using bound
  simp only [Http.isIdentifier, urn, uuid, braces, identifierText_digits, length_hexDigits,
    String.ofList_toList, read, int_pow_eq]
  simp only [beq_self_eq_true, Bool.true_and, Bool.and_eq_true, decide_eq_true_eq]
  omega

/-! ### The file of an identifier -/

theorem utf8ByteSize_ofList : ∀ l : List Char,
    (String.ofList l).utf8ByteSize = (l.map Char.utf8Size).sum
  | [] => rfl
  | c :: rest => by
    rw [String.ofList_cons, String.utf8ByteSize_append, String.utf8ByteSize_singleton,
      utf8ByteSize_ofList rest, List.map_cons, List.sum_cons]

theorem sum_utf8Size_of_narrow : ∀ l : List Char, (∀ c ∈ l, c.utf8Size = 1) →
    (l.map Char.utf8Size).sum = l.length
  | [], _ => rfl
  | c :: rest, narrow => by
    rw [List.map_cons, List.sum_cons, narrow c List.mem_cons_self,
      sum_utf8Size_of_narrow rest fun x later => narrow x (List.mem_cons_of_mem c later),
      List.length_cons, Nat.add_comm]

/-- A text of one-byte characters has as many bytes as characters. -/
theorem utf8ByteSize_eq_length {s : String} (narrow : ∀ c ∈ s.toList, c.utf8Size = 1) :
    s.utf8ByteSize = s.toList.length :=
  calc s.utf8ByteSize = (String.ofList s.toList).utf8ByteSize := by rw [String.ofList_toList]
    _ = s.toList.length := by rw [utf8ByteSize_ofList, sum_utf8Size_of_narrow s.toList narrow]

/-- The characters of the file name of an identifier. -/
theorem identifierFile_chars (n : Nat) :
    ∀ c ∈ (identifierText n ++ ".csv").toList, c ∈ '-' :: hexChars ++ ['.', 'c', 's', 'v'] := by
  intro c member
  rw [String.toList_append, List.mem_append] at member
  rcases member with inName | inSuffix
  · exact List.mem_append_left _ (identifierText_chars n c inName)
  · exact List.mem_append_right _ inSuffix

theorem length_identifierFile (n : Nat) : (identifierText n ++ ".csv").toList.length = 40 := by
  rw [String.toList_append, List.length_append, length_identifierText]
  rfl

/-- The file name of an identifier is 40 bytes long. -/
theorem utf8ByteSize_identifierFile (n : Nat) : (identifierText n ++ ".csv").utf8ByteSize = 40 := by
  have narrow : ∀ c ∈ '-' :: hexChars ++ ['.', 'c', 's', 'v'], c.utf8Size = 1 :=
      forall_of_all (by decide)
  rw [utf8ByteSize_eq_length fun c member => narrow c (identifierFile_chars n c member),
    length_identifierFile]

/-- A name that is not empty, not `.` and holds no slash is a relative path of one part. -/
theorem pathParts_plain {name : String} (nonempty : name.toList ≠ []) (noSlash : '/' ∉ name.toList)
    (notDot : name ≠ ".") : PathParts.ofText name = ⟨"", [name]⟩ := by
  obtain ⟨c, rest, chars⟩ := List.exists_cons_of_ne_nil nonempty
  have first : (c == '/') = false := by
    simpa using fun same : c = '/' => noSlash (chars ▸ same ▸ List.mem_cons_self)
  have named : name ≠ "" := fun empty => nonempty (by rw [empty]; rfl)
  simp only [PathParts.ofText]
  rw [List.splitOn_eq_singleton noSlash]
  simp only [List.map_cons, List.map_nil, String.ofList_toList]
  simp only [chars, List.takeWhile_cons, first]
  simp [named, notDot]

/-- The first identifier whose file is named `u.csv` is `u`. -/
theorem find?_file (u : String) : ∀ ids : List String,
    ids.find? (· ++ ".csv" == u ++ ".csv") = if u ∈ ids then some u else none
  | [] => rfl
  | x :: rest => by
    by_cases same : x = u
    · subst same
      simp
    · have differ : (x ++ ".csv" == u ++ ".csv") = false := by
        simpa [← String.toList_inj, String.toList_append] using same
      rw [List.find?_cons, differ, find?_file u rest]
      simp [Ne.symm same]

/-- **The file of a plain name.** Joined with `.csv` to a directory, a name without a slash or a
NUL character is a path of one part: refused as too long when the whole path or the part is,
and otherwise the stored file of that name when there is one. -/
theorem locateIn_plainName (ids : List String) (dir u : String) (noSlash : '/' ∉ u.toList)
    (noNul : Char.ofNat 0 ∉ u.toList) :
    locateIn ids dir (u ++ ".csv") =
      if pathMax ≤ (dir ++ "/" ++ (u ++ ".csv")).utf8ByteSize ∨
          nameMax < (u ++ ".csv").utf8ByteSize then .tooLong
      else if u ∈ ids then .stored u else .missing := by
  have avoids : ∀ x ∈ (u ++ ".csv").toList, x ≠ '/' ∧ x ≠ Char.ofNat 0 := by
    intro x member
    rw [String.toList_append, List.mem_append] at member
    rcases member with inName | inSuffix
    · exact ⟨fun same => noSlash (same ▸ inName), fun same => noNul (same ▸ inName)⟩
    · have suffix : ∀ y ∈ ".csv".toList, y ≠ '/' ∧ y ≠ Char.ofNat 0 := forall_of_all (by decide)
      exact suffix x inSuffix
  -- the name ends in `.csv`, so it is neither empty, nor `.`, nor `..`
  have long : 4 ≤ (u ++ ".csv").toList.length := by
    rw [String.toList_append, List.length_append, show ".csv".toList.length = 4 by decide]
    omega
  have unlike : ∀ t : String, t.toList.length < 4 → u ++ ".csv" ≠ t :=
    fun t shorter same => by
      rw [same] at long
      omega
  have nonempty : (u ++ ".csv").toList ≠ [] := List.ne_nil_of_length_pos (by omega)
  have parts : PathParts.ofText (u ++ ".csv") = ⟨"", [u ++ ".csv"]⟩ :=
    pathParts_plain nonempty (fun member => (avoids _ member).1 rfl) (unlike "." (by decide))
  have unNul : (u ++ ".csv").contains (Char.ofNat 0) = false := by
    rw [String.contains_char_eq, decide_eq_false_iff_not]
    exact fun member => (avoids _ member).2 rfl
  have notUp : (u ++ ".csv" == "..") = false := by
    simpa using unlike ".." (by decide)
  simp only [locateIn, unNul, parts, PathParts.text, String.intercalate_singleton,
    Bool.false_eq_true, if_false, beq_self_eq_true, if_true, ge_iff_le]
  by_cases tooLong : pathMax ≤ (dir ++ "/" ++ (u ++ ".csv")).utf8ByteSize
  · rw [if_pos tooLong, if_pos (Or.inl tooLong)]
  · -- one part, looked up among the stored files when it is short enough
    rw [if_neg tooLong]
    simp only [walkFrom, notUp, Bool.false_eq_true, if_false, beq_self_eq_true,
      List.isEmpty_nil, if_true, find?_file, gt_iff_lt, false_or, tooLong]
    by_cases partLong : nameMax < (u ++ ".csv").utf8ByteSize
    · rw [if_pos partLong, if_pos partLong]
    · rw [if_neg partLong, if_neg partLong]
      by_cases member : u ∈ ids
      · rw [if_pos member, if_pos member]
      · rw [if_neg member, if_neg member]

/-- **The file of an issued identifier.** Joined to a directory, `u.csv` is refused as too long
when the whole path is, and otherwise names the stored file of `u` when there is one. -/
theorem locateIn_identifierText (ids : List String) (dir : String) (n : Nat) :
    locateIn ids dir (identifierText n ++ ".csv") =
      if pathMax ≤ (dir ++ "/" ++ (identifierText n ++ ".csv")).utf8ByteSize then .tooLong
      else if identifierText n ∈ ids then .stored (identifierText n) else .missing := by
  have chars := identifierText_chars n
  have avoids : ∀ x ∈ '-' :: hexChars, x ≠ '/' ∧ x ≠ Char.ofNat 0 :=
    forall_of_all (by decide)
  -- its 40 bytes are well within the length of a part
  have short : ¬ nameMax < (identifierText n ++ ".csv").utf8ByteSize := by
    rw [utf8ByteSize_identifierFile]
    decide
  rw [locateIn_plainName ids dir _ (fun member => (avoids _ (chars _ member)).1 rfl)
    (fun member => (avoids _ (chars _ member)).2 rfl)]
  simp only [short, or_false]

end Dataflow
