import Mathlib
import Dataflow.Expr.Check
import Dataflow.Proofs.TableLookup
/-!
# The words the column check reads

**The column check reads words of the text, not names of the expression.**
`validateColumns_accepted_iff`: an expression passes the column check exactly when every column
word of its text is a reserved word or a known column. A column word (`IsColumnWord`) is an
ASCII identifier that starts and ends at word boundaries and is not followed, after blanks, by
an opening bracket. Where it stands does not matter: the words inside a quoted text and the
names after a dot are column words too, so comparing a column with a quoted text is refused
(`validateColumns_quoted_text`).

The scan `columnWordsFrom` jumps over each word it finds, and misses none
(`mem_columnWordsFrom`): no word starts inside another, because the ASCII letters, digits and
underscore are all word characters (`Text.isWordChar_ascii`), so there is no boundary between
two of them.
-/

namespace Dataflow.Expr

open Dataflow.Text

/-- `word` is a column word between the character `before` (none at the start of the text) and
the text `after`: an ASCII identifier that starts at a word boundary, runs to one, and is not
followed, after blanks, by an opening bracket. -/
structure IsColumnWord (before : Option Char) (word after : List Char) : Prop where
  starts : ∃ c rest, word = c :: rest ∧ isWordHead c = true
  runs : ∀ c ∈ word, isWordTail c = true
  opens : boundary before word.head? = true
  closes : boundary word.getLast? after.head? = true
  uncalled : (after.dropWhile isBlank).head? ≠ some '('

/-! ### Characters of column words -/

theorem isWordTail_of_isWordHead {c : Char} (head : isWordHead c = true) : isWordTail c = true := by
  simp only [isWordHead, isWordTail, Char.isAlphanum, Bool.or_eq_true] at head ⊢
  rcases head with alpha | underscore
  · exact .inl (.inl alpha)
  · exact .inr underscore

/-- A character that may continue a column word is a word character. -/
theorem isWordChar_of_isWordTail {c : Char} (tail : isWordTail c = true) :
    isWordChar c = true := by
  have ascii : c.toNat < 128 := by
    simp only [isWordTail, Char.isAlphanum, Char.isAlpha, Char.isUpper, Char.isLower,
      Char.isDigit, Bool.or_eq_true, Bool.and_eq_true, decide_eq_true_eq, beq_iff_eq,
      UInt32.le_iff_toNat_le, ge_iff_le] at tail
    rcases tail with tail | rfl
    · have : c.toNat = c.val.toNat := rfl
      have : 'z'.val.toNat = 122 := rfl
      have : 'Z'.val.toNat = 90 := rfl
      have : '9'.val.toNat = 57 := rfl
      omega
    · decide
  rw [isWordChar_ascii ascii]
  exact tail

/-- There is no word boundary between two characters of column words. -/
theorem boundary_tails {a b : Char} (ta : isWordTail a = true) (tb : isWordTail b = true) :
    boundary (some a) (some b) = false := by
  simp [boundary, isWordChar_of_isWordTail ta, isWordChar_of_isWordTail tb]

/-- No column word starts right after a character of a column word. -/
theorem IsColumnWord.not_after_tail {a : Char} {word after : List Char}
    (w : IsColumnWord (some a) word after) : isWordTail a = false := by
  obtain ⟨c, rest, rfl, head⟩ := w.starts
  cases tail : isWordTail a
  · rfl
  · have opens := w.opens
    rw [List.head?_cons, boundary_tails tail (isWordTail_of_isWordHead head)] at opens
    contradiction

/-- A column word runs to the end of the identifier characters it starts. -/
theorem IsColumnWord.takeWhile {before : Option Char} {word after : List Char}
    (w : IsColumnWord before word after) : (word ++ after).takeWhile isWordTail = word := by
  rw [List.takeWhile_append_of_pos w.runs]
  cases after with
  | nil => simp
  | cons a rest =>
    obtain ⟨c, cs, wordEq, _⟩ := w.starts
    have last := w.runs _ (List.getLast_mem (l := word) (by simp [wordEq]))
    cases tail : isWordTail a
    · simp [tail]
    · have closes := w.closes
      rw [List.getLast?_eq_some_getLast (l := word) (by simp [wordEq]), List.head?_cons,
        boundary_tails last tail] at closes
      contradiction

/-! ### The scan -/

/-- The scan's test at a character: it finds a word there exactly when the run of identifier
characters from there is a column word. -/
theorem found_iff {before : Option Char} {c : Char} {cs run after : List Char}
    (isRun : run = (c :: cs).takeWhile isWordTail) :
    (boundary before (some c) && isWordHead c && boundary run.getLast? after.head? &&
        (after.dropWhile isBlank).head? != some '(') = true ↔ IsColumnWord before run after := by
  constructor
  · intro found
    simp only [Bool.and_eq_true, bne_iff_ne, ne_eq] at found
    obtain ⟨⟨⟨opens, head⟩, closes⟩, uncalled⟩ := found
    have runEq : run = c :: cs.takeWhile isWordTail := by
      rw [isRun, List.takeWhile_cons_of_pos (isWordTail_of_isWordHead head)]
    refine ⟨⟨c, _, runEq, head⟩, fun x mem => ?_, by rwa [runEq], closes, uncalled⟩
    rw [isRun] at mem
    exact List.all_eq_true.mp List.all_takeWhile x mem
  · intro w
    obtain ⟨c', rest, runEq, head⟩ := w.starts
    -- the run is not empty, so it starts with `c`
    have same : c' = c := by
      rw [isRun] at runEq
      by_cases tail : isWordTail c = true
      · rw [List.takeWhile_cons_of_pos tail] at runEq
        exact (List.cons.inj runEq).1.symm
      · rw [List.takeWhile_cons_of_neg tail] at runEq
        contradiction
    subst same
    have opens := w.opens
    rw [runEq, List.head?_cons] at opens
    simp [opens, head, w.closes, w.uncalled]

/-- The text read before a list of characters and then before more: the last character of the
whole, else of the first part, else the character before both. -/
theorem getLast?_append_or (front back : List Char) (before : Option Char) :
    (front ++ back).getLast?.or before = back.getLast?.or (front.getLast?.or before) := by
  simp [List.getLast?_append, Option.or_assoc]

/-- **The scan finds exactly the column words of the text**, whatever character precedes it. -/
theorem mem_columnWordsFrom {before : Option Char} {cs word : List Char} :
    String.ofList word ∈ columnWordsFrom before cs ↔
      ∃ pre post, cs = pre ++ word ++ post ∧
        IsColumnWord (pre.getLast?.or before) word post := by
  fun_induction columnWordsFrom before cs with
  | case1 before =>
    simp only [List.not_mem_nil, false_iff, not_exists, not_and]
    intro pre post eq w
    obtain ⟨c, rest, rfl, _⟩ := w.starts
    simp at eq
  | case2 before c cs run after found isFound ih =>
    have w : IsColumnWord before run after := (found_iff rfl).mp isFound
    obtain ⟨c', rest, runEq, _⟩ := w.starts
    have split : c :: cs = run ++ after :=
      (List.prefix_iff_eq_append.mp (List.takeWhile_prefix _)).symm
    have rest' : cs.drop (run.length - 1) = after := by
      show cs.drop (run.length - 1) = (c :: cs).drop run.length
      rw [runEq]
      rfl
    have lastRun : ∃ l, run.getLast? = some l ∧ isWordTail l = true :=
      ⟨_, List.getLast?_eq_some_getLast (by simp [runEq]), w.runs _ (List.getLast_mem _)⟩
    obtain ⟨l, lastEq, _⟩ := lastRun
    rw [rest'] at ih ⊢
    rw [List.mem_cons, ih, String.ofList_inj]
    constructor
    · rintro (rfl | ⟨pre, post, eq, later⟩)
      · exact ⟨[], after, by simpa using split, by simpa using w⟩
      · refine ⟨run ++ pre, post, by rw [split, eq]; simp, ?_⟩
        rwa [getLast?_append_or, lastEq, Option.some_or, ← lastEq]
    · rintro ⟨pre, post, eq, atWord⟩
      rw [split, List.append_assoc, List.append_eq_append_iff] at eq
      rcases eq with ⟨mid, preEq, afterEq⟩ | ⟨mid, runSplit, wordEq⟩
      · -- the word starts past the run: the rest of the scan finds it
        refine .inr ⟨mid, post, by rw [afterEq, List.append_assoc], ?_⟩
        rwa [preEq, getLast?_append_or, lastEq, Option.some_or, ← lastEq] at atWord
      · -- the word starts within the run: only at its start, where it is the run
        rcases List.eq_nil_or_concat pre with rfl | ⟨front, a, rfl⟩
        · left
          rw [List.nil_append] at runSplit
          subst runSplit
          rw [← atWord.takeWhile, wordEq, ← split]
        · exfalso
          have inRun : isWordTail a = true := by
            refine w.runs a ?_
            rw [runSplit]
            simp
          rw [List.concat_eq_append, getLast?_append_or] at atWord
          simp only [List.getLast?_singleton, Option.some_or] at atWord
          rw [atWord.not_after_tail] at inRun
          contradiction
  | case3 before c cs run after found notFound ih =>
    rw [ih]
    constructor
    · rintro ⟨pre, post, eq, w⟩
      refine ⟨c :: pre, post, by simp [eq], ?_⟩
      rwa [← List.singleton_append, getLast?_append_or, List.getLast?_singleton, Option.some_or]
    · rintro ⟨pre, post, eq, w⟩
      rcases pre with _ | ⟨c', pre⟩
      · -- a word at the scan's position would have been found there
        exfalso
        rw [List.nil_append] at eq
        have runEq : run = word := by
          show (c :: cs).takeWhile isWordTail = word
          rw [eq]
          exact w.takeWhile
        have afterEq : after = post := by
          show (c :: cs).drop run.length = post
          rw [runEq, eq, List.drop_left]
        have atRun : IsColumnWord before run after := by
          rw [runEq, afterEq]
          simpa using w
        exact notFound ((found_iff rfl).mpr atRun)
      · simp only [List.cons_append, List.cons.injEq] at eq
        obtain ⟨rfl, eq⟩ := eq
        refine ⟨pre, post, eq, ?_⟩
        rwa [← List.singleton_append, getLast?_append_or, List.getLast?_singleton,
          Option.some_or] at w

/-- The column words of an expression text are the column words that stand in it. -/
theorem mem_columnWords {s : String} {word : List Char} :
    String.ofList word ∈ columnWords s ↔
      ∃ pre post, s.toList = pre ++ word ++ post ∧ IsColumnWord pre.getLast? word post := by
  simp only [columnWords, mem_columnWordsFrom, Option.or_none]

/-! ### The column check -/

/-- **The column check accepts exactly the texts whose column words are all reserved words or
known columns.** -/
theorem validateColumns_accepted_iff (s : String) (columns : List String) :
    validateColumns s columns = .accepted ↔
      ∀ pre word post, s.toList = pre ++ word ++ post → IsColumnWord pre.getLast? word post →
        String.ofList word ∈ reservedWords ∨ String.ofList word ∈ columns := by
  have accepted : validateColumns s columns = .accepted ↔ unknownColumn s columns = none := by
    unfold validateColumns
    split <;> simp_all
  rw [accepted, unknownColumn, List.find?_eq_none]
  constructor
  · intro known pre word post eq w
    have named := known _ (mem_columnWords.mpr ⟨pre, post, eq, w⟩)
    simpa [Decidable.or_iff_not_imp_left] using named
  · intro known w mem
    rw [← String.ofList_toList (s := w)] at mem ⊢
    obtain ⟨pre, post, eq, col⟩ := mem_columnWords.mp mem
    have named := known pre w.toList post eq col
    simpa [Decidable.or_iff_not_imp_left] using named

/-- **A quoted text is read for column words.** Comparing the column `status` with the text
`'active'` is refused, as if `active` named a column. -/
theorem validateColumns_quoted_text :
    validateColumns "status == 'active'" ["status"] =
      .refused "Unknown column reference: 'active'" := by
  have spaceBlank : isBlank ' ' = true := by decide +kernel
  have equalsBlank : isBlank '=' = false := by decide +kernel
  have quoteBlank : isBlank '\'' = false := by decide +kernel
  have words : columnWords "status == 'active'" = ["status", "active"] := by
    simp (disch := decide) [columnWords, columnWordsFrom, boundary, isWordChar_ascii, isWordHead,
      List.dropWhile_cons, spaceBlank, equalsBlank, quoteBlank]
  have unknown : unknownColumn "status == 'active'" ["status"] = some "active" := by
    simp [unknownColumn, words, reservedWords, functionWords]
  rw [validateColumns, unknown]
  show Verdict.refused ("Unknown column reference: '" ++ "active" ++ "'") = _
  simp

end Dataflow.Expr
