import Mathlib
import Dataflow.Expr.Normal
/-!
# The normal form of an expression text

**The normal form of an expression text has no two blanks in a row and no blank at either
end** (`normalize_squeezed`), whatever the text. The squeezing of blanks is textual: it reaches
inside quoted strings, so a string literal holding a run of blanks is changed by it, and the
expression evaluated is not the one written.

Squeezing leaves a single space for each run of blanks and goes on after the run, at a
character that is not a blank (`isChain_squeezeBlanks`); trimming keeps a stretch of the text
(`isChain_trimBlank`) that starts and ends with a character that is not a blank
(`trimBlank_ends`).

**Bringing a text to normal form twice gives what bringing it once gives**
(`normalize_normalize`). Text is in normal form (`IsNormal`) when, besides its blanks being
single spaces inside it, it holds no doubled `&` or `|` and each of its `!` starts `!=`. Every
normal form is in normal form (`isNormal_normalize`), and each step of `normalize` leaves such
text as it is (`normalize_of_isNormal`). Each replacement leaves its mark (`isChain_replacePair`,
`isChain_negationWords_bang`), and the later steps keep the marks of the earlier ones: the words
they put in start and end with a space, and a space may stand where a blank stood
(`isChain_squeezeBlanks_of`).
-/

namespace Dataflow.Expr

open Dataflow.Text

theorem head?_dropWhile {p : Char → Bool} (l : List Char) :
    ∀ c ∈ (l.dropWhile p).head?, p c = false := by
  intro c first
  cases rest : l.dropWhile p with
  | nil => simp [rest] at first
  | cons d more =>
    have unblank := List.head_dropWhile_not p (l := l) (by simp [rest])
    simp only [rest, List.head?_cons, Option.mem_def, Option.some.injEq] at first
    simpa [rest, first] using unblank

/-- The first character of squeezed text: a blank there becomes a space. -/
theorem head?_squeezeBlanks (cs : List Char) :
    (squeezeBlanks cs).head? = cs.head?.map fun c => if isBlank c then ' ' else c := by
  cases cs with
  | nil => rw [squeezeBlanks]; rfl
  | cons c rest =>
    rw [squeezeBlanks]
    split <;> simp [*]

/-- **Squeezed text has no two blanks in a row.** -/
theorem isChain_squeezeBlanks (cs : List Char) :
    (squeezeBlanks cs).IsChain fun a b => ¬(isBlank a = true ∧ isBlank b = true) := by
  fun_induction squeezeBlanks cs with
  | case1 => exact List.IsChain.nil
  | case2 c rest blank ih =>
    -- after the space of a run of blanks comes the first character past the run
    refine ih.cons fun d head => ?_
    rw [head?_squeezeBlanks] at head
    obtain ⟨e, first, rfl⟩ := Option.map_eq_some_iff.mp head
    simp [head?_dropWhile rest e first]
  | case3 c rest unblank ih =>
    exact ih.cons fun d _ => by simp [unblank]

/-- Trimming keeps a stretch of the text. -/
theorem isChain_trimBlank {R : Char → Char → Prop} {s : String} (chain : s.toList.IsChain R) :
    (trimBlank s).toList.IsChain R := by
  rw [trimBlank, String.toList_ofList]
  have front := (List.dropWhile_suffix isBlank (l := (s.toList.dropWhile isBlank).reverse)).reverse
  rw [List.reverse_reverse] at front
  exact chain.infix (front.isInfix.trans (List.dropWhile_suffix isBlank).isInfix)

/-- Trimmed text starts and ends with a character that is not a blank. -/
theorem trimBlank_ends (s : String) :
    (∀ c ∈ (trimBlank s).toList.head?, isBlank c = false) ∧
      ∀ c ∈ (trimBlank s).toList.getLast?, isBlank c = false := by
  rw [trimBlank, String.toList_ofList]
  set kept := s.toList.dropWhile isBlank
  set back := kept.reverse.dropWhile isBlank
  refine ⟨fun c first => ?_, fun c last => ?_⟩
  · -- the trimmed text is a prefix of the text past its leading blanks
    obtain ⟨rest, front⟩ := (List.dropWhile_suffix isBlank (l := kept.reverse)).reverse
    rw [List.reverse_reverse] at front
    have start : kept.head? = some c := by
      rw [← front, List.head?_append, first, Option.some_or]
    exact head?_dropWhile s.toList c start
  · rw [List.getLast?_reverse] at last
    exact head?_dropWhile kept.reverse c last

/-- **The normal form of an expression text has no two blanks in a row and no blank at either
end**, also inside quoted strings. -/
theorem normalize_squeezed (s : String) :
    (normalize s).toList.IsChain (fun a b => ¬(isBlank a = true ∧ isBlank b = true)) ∧
      (∀ c ∈ (normalize s).toList.head?, isBlank c = false) ∧
      ∀ c ∈ (normalize s).toList.getLast?, isBlank c = false := by
  have squeezed := isChain_squeezeBlanks
    (negationWords (replacePair '|' " or ".toList (replacePair '&' " and ".toList (trimBlank s).toList)))
  rw [← String.toList_ofList (l := squeezeBlanks _)] at squeezed
  exact ⟨isChain_trimBlank squeezed, trimBlank_ends _⟩

/-- Blanks inside a quoted text are squeezed too: the two spaces of `'a  b'` become one, so the
expression compares with another text than the one written. -/
theorem normalize_squeezes_quoted : normalize "x == 'a  b'" = "x == 'a b'" := by decide +kernel

/-! ### Text in normal form -/

/-- Text in normal form: single spaces between the words, none at either end, no doubled `&`
or `|`, and every `!` the start of `!=`. -/
structure IsNormal (cs : List Char) : Prop where
  squeezed : cs.IsChain fun a b => ¬(isBlank a = true ∧ isBlank b = true)
  spaces : ∀ c ∈ cs, isBlank c = true → c = ' '
  headUnblank : ∀ c ∈ cs.head?, isBlank c = false
  lastUnblank : ∀ c ∈ cs.getLast?, isBlank c = false
  noAmpPair : cs.IsChain fun a b => ¬(a = '&' ∧ b = '&')
  noBarPair : cs.IsChain fun a b => ¬(a = '|' ∧ b = '|')
  bangs : cs.IsChain fun a b => a = '!' → b = '='
  lastBang : ∀ c ∈ cs.getLast?, c ≠ '!'

/-- The equals sign is no blank. -/
theorem isBlank_equals : isBlank '=' = false := by decide +kernel

/-! ### Each step leaves text in normal form as it is -/

/-- Text without a doubled `c` has nothing to replace. -/
theorem replacePair_of_isChain {c : Char} {word cs : List Char}
    (chain : cs.IsChain fun a b => ¬(a = c ∧ b = c)) : replacePair c word cs = cs := by
  fun_induction replacePair c word cs with
  | case1 a b rest pair ih =>
    simp only [Bool.and_eq_true, beq_iff_eq] at pair
    exact absurd pair (List.isChain_cons_cons.mp chain).1
  | case2 a b rest _ ih => rw [ih (List.isChain_cons_cons.mp chain).2]
  | case3 rest _ => rfl

/-- Text whose every `!` stands before `=` has no lone `!` to replace. -/
theorem negationWords_of_isChain {cs : List Char} (chain : cs.IsChain fun a b => a = '!' → b = '=')
    (last : ∀ c ∈ cs.getLast?, c ≠ '!') : negationWords cs = cs := by
  fun_induction negationWords cs with
  | case1 => rfl
  | case2 rest equals ih =>
    have longer : rest ≠ [] := by rintro rfl; simp at equals
    rw [ih chain.tail fun c hc => last c (by simp_all [List.getLast?_cons])]
  | case3 rest unequal =>
    -- a lone `!` would be the last character or stand before something other than `=`
    cases rest with
    | nil => exact absurd rfl (last '!' rfl)
    | cons d more =>
      have : d = '=' := (List.isChain_cons_cons.mp chain).1 rfl
      simp [this] at unequal
  | case4 c rest other ih =>
    rw [ih chain.tail fun x hx => last x (by simp_all [List.getLast?_cons])]

/-- Nothing is dropped from text that starts with a character the test refuses. -/
theorem dropWhile_of_head {p : Char → Bool} {l : List Char} (head : ∀ c ∈ l.head?, p c = false) :
    l.dropWhile p = l := by
  cases l with
  | nil => rfl
  | cons c rest => simp [head c rfl]

/-- Text whose blanks are single spaces is already squeezed. -/
theorem squeezeBlanks_of_isNormal {cs : List Char} (spaces : ∀ c ∈ cs, isBlank c = true → c = ' ')
    (squeezed : cs.IsChain fun a b => ¬(isBlank a = true ∧ isBlank b = true)) :
    squeezeBlanks cs = cs := by
  fun_induction squeezeBlanks cs with
  | case1 => rfl
  | case2 c rest blank ih =>
    have space : c = ' ' := spaces c List.mem_cons_self blank
    have kept : rest.dropWhile isBlank = rest := dropWhile_of_head fun d first => by
      cases rest with
      | nil => simp at first
      | cons e more =>
        simp only [List.head?_cons, Option.mem_def, Option.some.injEq] at first
        subst first
        simpa [blank] using (List.isChain_cons_cons.mp squeezed).1
    rw [kept] at ih ⊢
    rw [ih (fun d hd => spaces d (List.mem_cons_of_mem c hd)) squeezed.tail, space]
  | case3 c rest unblank ih =>
    rw [ih (fun d hd => spaces d (List.mem_cons_of_mem c hd)) squeezed.tail]

/-- Text with no blank at either end is already trimmed. -/
theorem trimBlank_of_ends {s : String} (head : ∀ c ∈ s.toList.head?, isBlank c = false)
    (last : ∀ c ∈ s.toList.getLast?, isBlank c = false) : trimBlank s = s := by
  rw [trimBlank, dropWhile_of_head head, dropWhile_of_head (by simpa using last),
    List.reverse_reverse, String.ofList_toList]

/-! ### What each step leaves -/

/-- Text without `c` has no doubled `c`. -/
theorem isChain_of_not_mem {c : Char} {l : List Char} (absent : c ∉ l) :
    l.IsChain fun a b => ¬(a = c ∧ b = c) := by
  refine List.Pairwise.isChain (List.pairwise_of_forall_mem_list fun a mem b _ pair => ?_)
  exact absent (pair.1 ▸ mem)

/-- A replacement starts as the text does, or as the word. -/
theorem head?_replacePair {c : Char} {word cs : List Char} (nonempty : word ≠ []) :
    ∀ x ∈ (replacePair c word cs).head?, x ∈ cs.head? ∨ x ∈ word.head? := by
  fun_induction replacePair c word cs with
  | case1 a b rest _ _ =>
    intro x first
    obtain ⟨w, ws, rfl⟩ := List.exists_cons_of_ne_nil nonempty
    exact .inr (by simpa using first)
  | case2 a b rest _ _ => exact fun x first => .inl (by simpa using first)
  | case3 rest _ => exact fun x first => .inl first

/-- Replacing doubled `d` by a word without `c` leaves no doubled `c`: none when `c` is `d`,
and none that was not there before otherwise. -/
theorem isChain_replacePair {c d : Char} {word cs : List Char} (absent : c ∉ word)
    (nonempty : word ≠ []) (before : c = d ∨ cs.IsChain fun a b => ¬(a = c ∧ b = c)) :
    (replacePair d word cs).IsChain fun a b => ¬(a = c ∧ b = c) := by
  have inWord := isChain_of_not_mem absent
  fun_induction replacePair d word cs with
  | case1 a b rest _ ih =>
    refine List.isChain_append.mpr ⟨inWord, ih (before.imp_right fun h => ?_), fun x last y _ pair => ?_⟩
    · exact (List.isChain_cons_cons.mp h).2.tail
    · exact absent (pair.1 ▸ List.mem_of_getLast? last)
  | case2 a b rest unpaired ih =>
    refine (ih (before.imp_right List.IsChain.tail)).cons fun x first pair => ?_
    rcases head?_replacePair nonempty x first with fromText | fromWord
    · simp only [List.head?_cons, Option.mem_def, Option.some.injEq] at fromText
      subst fromText
      rcases before with rfl | h
      · simp_all
      · exact (List.isChain_cons_cons.mp h).1 pair
    · exact absent (pair.2 ▸ List.mem_of_mem_head? fromWord)
  | case3 rest short =>
    -- fewer than two characters
    cases rest with
    | nil => exact .nil
    | cons x more =>
      cases more with
      | nil => exact .singleton x
      | cons y _ => exact absurd rfl (short x y _)

/-- Negation words start as the text does, or with a space. -/
theorem head?_negationWords {cs : List Char} :
    ∀ x ∈ (negationWords cs).head?, x ∈ cs.head? ∨ x = ' ' := by
  fun_cases negationWords cs with
  | case1 => simp
  | case2 rest _ => simp
  | case3 rest _ => simp
  | case4 c rest _ => simp

/-- Negation words add no doubled character other than `!` and the letters of `not`. -/
theorem isChain_negationWords_pair {c : Char} {cs : List Char} (bang : c ≠ '!')
    (absent : c ∉ " not ".toList) (before : cs.IsChain fun a b => ¬(a = c ∧ b = c)) :
    (negationWords cs).IsChain fun a b => ¬(a = c ∧ b = c) := by
  have space : c ≠ ' ' := fun h => absent (by simp [h])
  fun_induction negationWords cs with
  | case1 => exact .nil
  | case2 rest _ ih => exact (ih before.tail).cons fun _ _ pair => bang pair.1.symm
  | case3 rest _ ih =>
    refine List.isChain_append.mpr ⟨isChain_of_not_mem absent, ih before.tail, ?_⟩
    simp [space.symm]
  | case4 d rest _ ih =>
    refine (ih before.tail).cons fun x first pair => ?_
    rcases head?_negationWords x first with fromText | rfl
    · exact before.rel_head? fromText pair
    · exact space pair.2.symm

/-- A character other than `!` is kept as it is. -/
theorem negationWords_cons_of_ne {c : Char} {rest : List Char} (other : c ≠ '!') :
    negationWords (c :: rest) = c :: negationWords rest := by
  rw [negationWords]
  simp [other]

/-- After negation words every `!` stands before `=`. -/
theorem isChain_negationWords_bang (cs : List Char) :
    (negationWords cs).IsChain fun a b => a = '!' → b = '=' := by
  fun_induction negationWords cs with
  | case1 => exact .nil
  | case2 rest equals ih =>
    -- the kept `!` stands before the `=` that follows it
    obtain ⟨more, rfl⟩ : ∃ more, rest = '=' :: more := by
      cases rest <;> simp_all
    refine ih.cons fun x first _ => ?_
    simpa [negationWords_cons_of_ne (show '=' ≠ '!' by decide)] using first.symm
  | case3 rest _ ih =>
    have notBang (x : Char) (l : List Char) (other : x ≠ '!')
        (chain : l.IsChain fun a b => a = '!' → b = '=') :
        (x :: l).IsChain fun a b => a = '!' → b = '=' := chain.cons fun _ _ h => absurd h other
    exact notBang _ _ (by decide) <| notBang _ _ (by decide) <| notBang _ _ (by decide) <|
      notBang _ _ (by decide) <| notBang _ _ (by decide) ih
  | case4 c rest other ih => exact ih.cons fun _ _ h => absurd h other

/-- Negation words never end with `!`. -/
theorem getLast?_negationWords (cs : List Char) : ∀ x ∈ (negationWords cs).getLast?, x ≠ '!' := by
  fun_induction negationWords cs with
  | case1 => simp
  | case2 rest equals ih =>
    obtain ⟨more, rfl⟩ : ∃ more, rest = '=' :: more := by
      cases rest <;> simp_all
    rw [negationWords_cons_of_ne (show '=' ≠ '!' by decide)] at ih ⊢
    intro x last
    exact ih x (by simpa [List.getLast?_cons] using last)
  | case3 rest _ ih =>
    intro x last
    cases h : (negationWords rest).getLast? with
    | none =>
      simp only [h, List.getLast?_cons, Option.getD_none, Option.mem_def,
        Option.some.injEq] at last
      rw [← last]
      decide
    | some y => simp_all [List.getLast?_cons]
  | case4 c rest other ih =>
    intro x last
    rw [List.getLast?_cons] at last
    cases h : (negationWords rest).getLast? with
    | none => simp_all
    | some y => simp_all

/-- A run of blanks is preceded by its last blank. -/
theorem blank_before {R : Char → Char → Prop} {c : Char} {rest : List Char}
    (chain : (c :: rest).IsChain R) (blank : isBlank c = true) :
    ∀ e ∈ (rest.dropWhile isBlank).head?, ∃ b, isBlank b = true ∧ R b e := by
  induction rest generalizing c with
  | nil => simp
  | cons d more ih =>
    intro e first
    by_cases blankNext : isBlank d = true
    · rw [List.dropWhile_cons_of_pos blankNext] at first
      exact ih chain.tail blankNext e first
    · rw [List.dropWhile_cons_of_neg blankNext] at first
      simp only [List.head?_cons, Option.mem_def, Option.some.injEq] at first
      exact ⟨c, blank, first ▸ (List.isChain_cons_cons.mp chain).1⟩

/-- Squeezing keeps every relation between neighbours in which a space may stand for a
blank. -/
theorem isChain_squeezeBlanks_of {R : Char → Char → Prop}
    (right : ∀ a b, R a b → isBlank b = true → R a ' ')
    (left : ∀ a b, R a b → isBlank a = true → R ' ' b)
    {cs : List Char} (chain : cs.IsChain R) : (squeezeBlanks cs).IsChain R := by
  fun_induction squeezeBlanks cs with
  | case1 => exact .nil
  | case2 c rest blank ih =>
    -- the space stands for the last blank of the run, before the first character past it
    have past : (rest.dropWhile isBlank).IsChain R :=
      chain.tail.infix (List.dropWhile_suffix isBlank).isInfix
    refine (ih past).cons fun d first => ?_
    rw [head?_squeezeBlanks] at first
    obtain ⟨e, firstPast, rfl⟩ := Option.map_eq_some_iff.mp first
    obtain ⟨b, blankB, related⟩ := blank_before chain blank e firstPast
    simpa [head?_dropWhile rest e firstPast] using left b e related blankB
  | case3 c rest unblank ih =>
    refine (ih chain.tail).cons fun d first => ?_
    rw [head?_squeezeBlanks] at first
    obtain ⟨e, firstNext, rfl⟩ := Option.map_eq_some_iff.mp first
    have related := chain.rel_head? firstNext
    split
    · exact right c e related ‹_›
    · exact related

/-- The blanks of squeezed text are spaces. -/
theorem spaces_squeezeBlanks (cs : List Char) :
    ∀ c ∈ squeezeBlanks cs, isBlank c = true → c = ' ' := by
  fun_induction squeezeBlanks cs with
  | case1 => simp
  | case2 c rest blank ih =>
    intro d mem blankD
    rcases List.mem_cons.mp mem with rfl | later
    · rfl
    · exact ih d later blankD
  | case3 c rest unblank ih =>
    intro d mem blankD
    rcases List.mem_cons.mp mem with rfl | later
    · simp [unblank] at blankD
    · exact ih d later blankD

/-- The last character of a suffix is the last of the text. -/
theorem mem_getLast?_of_suffix {l₁ l₂ : List Char} (suffix : l₁ <:+ l₂) :
    ∀ x ∈ l₁.getLast?, x ∈ l₂.getLast? := by
  obtain ⟨t, rfl⟩ := suffix
  intro x last
  simp [List.getLast?_append, Option.mem_def.mp last]

/-- Squeezed text ends with a space or with the last character of the text. -/
theorem getLast?_squeezeBlanks (cs : List Char) :
    ∀ x ∈ (squeezeBlanks cs).getLast?, x = ' ' ∨ x ∈ cs.getLast? := by
  fun_induction squeezeBlanks cs with
  | case1 => simp
  | case2 c rest blank ih =>
    intro x last
    rw [List.getLast?_cons] at last
    cases h : (squeezeBlanks (rest.dropWhile isBlank)).getLast? with
    | none =>
      simp only [h, Option.getD_none, Option.mem_def, Option.some.injEq] at last
      exact .inl last.symm
    | some y =>
      simp only [h, Option.getD_some, Option.mem_def, Option.some.injEq] at last
      subst last
      refine (ih y h).imp_right fun past => ?_
      exact mem_getLast?_of_suffix ((List.dropWhile_suffix isBlank).trans (List.suffix_cons c rest)) y past
  | case3 c rest unblank ih =>
    intro x last
    rw [List.getLast?_cons] at last
    cases h : (squeezeBlanks rest).getLast? with
    | none =>
      -- nothing follows `c`
      have empty : rest = [] := by
        have := head?_squeezeBlanks rest
        rw [List.getLast?_eq_none_iff.mp h] at this
        simpa using this.symm
      simp_all
    | some y =>
      simp only [h, Option.getD_some, Option.mem_def, Option.some.injEq] at last
      subst last
      exact (ih y h).imp_right fun past => mem_getLast?_of_suffix (List.suffix_cons c rest) y past

/-- Squeezing adds no doubled character other than the space. -/
theorem isChain_squeezeBlanks_pair {c : Char} (notSpace : c ≠ ' ') {cs : List Char}
    (chain : cs.IsChain fun a b => ¬(a = c ∧ b = c)) :
    (squeezeBlanks cs).IsChain fun a b => ¬(a = c ∧ b = c) :=
  isChain_squeezeBlanks_of (fun _ _ _ _ pair => notSpace pair.2.symm)
    (fun _ _ _ _ pair => notSpace pair.1.symm) chain

/-- Squeezing keeps every `!` before `=`. -/
theorem isChain_squeezeBlanks_bang {cs : List Char}
    (chain : cs.IsChain fun a b => a = '!' → b = '=') :
    (squeezeBlanks cs).IsChain fun a b => a = '!' → b = '=' := by
  refine isChain_squeezeBlanks_of (fun a b related blank bang => ?_)
    (fun _ _ _ _ bang => absurd bang (by decide)) chain
  rw [related bang, isBlank_equals] at blank
  contradiction

/-- Trimming keeps characters of the text. -/
theorem mem_of_mem_trimBlank {s : String} : ∀ c ∈ (trimBlank s).toList, c ∈ s.toList := by
  rw [trimBlank, String.toList_ofList]
  have front := (List.dropWhile_suffix isBlank (l := (s.toList.dropWhile isBlank).reverse)).reverse
  rw [List.reverse_reverse] at front
  exact fun c mem => (front.isInfix.trans (List.dropWhile_suffix isBlank).isInfix).subset mem

/-- Dropping blanks from the front of reversed text does not bare a `!`: a `!` is followed by
`=`, which is no blank. -/
theorem head?_dropWhile_isBlank {M : List Char} (chain : M.IsChain fun a b => b = '!' → a = '=')
    (first : ∀ x ∈ M.head?, x ≠ '!') : ∀ x ∈ (M.dropWhile isBlank).head?, x ≠ '!' := by
  induction M with
  | nil => simp
  | cons m more ih =>
    by_cases blank : isBlank m = true
    · rw [List.dropWhile_cons_of_pos blank]
      refine ih chain.tail fun x next bang => ?_
      have equals : m = '=' := chain.rel_head? next bang
      simp [equals, isBlank_equals] at blank
    · rw [List.dropWhile_cons_of_neg blank]
      exact first

/-- Trimmed text does not end with `!` when the text does not and every `!` in it is followed
by `=`. -/
theorem getLast?_trimBlank {v : List Char} (chain : v.IsChain fun a b => a = '!' → b = '=')
    (last : ∀ x ∈ v.getLast?, x ≠ '!') :
    ∀ x ∈ (trimBlank (String.ofList v)).toList.getLast?, x ≠ '!' := by
  rw [trimBlank, String.toList_ofList, String.toList_ofList, List.getLast?_reverse]
  have suffix := List.dropWhile_suffix isBlank (l := v)
  refine head?_dropWhile_isBlank ?_ fun x first => ?_
  · refine List.isChain_reverse.mpr ?_
    exact chain.infix suffix.isInfix
  · rw [List.head?_reverse] at first
    exact last x (mem_getLast?_of_suffix suffix x first)

/-! ### The normal form is a fixed point -/

/-- **The normal form of every text is in normal form.** -/
theorem isNormal_normalize (s : String) : IsNormal (normalize s).toList := by
  -- the text after the textual replacements, before its blanks are squeezed
  set u := negationWords (replacePair '|' " or ".toList
    (replacePair '&' " and ".toList (trimBlank s).toList)) with hu
  have squeezedTrimmed : normalize s = trimBlank (String.ofList (squeezeBlanks u)) := rfl
  have trimmed {R : Char → Char → Prop} (chain : (squeezeBlanks u).IsChain R) :
      (normalize s).toList.IsChain R := by
    rw [squeezedTrimmed]
    exact isChain_trimBlank (by rwa [String.toList_ofList])
  have ampPairs : u.IsChain fun a b => ¬(a = '&' ∧ b = '&') :=
    isChain_negationWords_pair (by decide) (by decide) <|
      isChain_replacePair (by decide) (by decide) <| .inr <|
        isChain_replacePair (by decide) (by decide) (.inl rfl)
  have barPairs : u.IsChain fun a b => ¬(a = '|' ∧ b = '|') :=
    isChain_negationWords_pair (by decide) (by decide) <|
      isChain_replacePair (by decide) (by decide) (.inl rfl)
  refine ⟨trimmed (isChain_squeezeBlanks u), fun c mem => spaces_squeezeBlanks u c ?_,
    (trimBlank_ends _).1, (trimBlank_ends _).2,
    trimmed (isChain_squeezeBlanks_pair (by decide) ampPairs),
    trimmed (isChain_squeezeBlanks_pair (by decide) barPairs),
    trimmed (isChain_squeezeBlanks_bang (isChain_negationWords_bang _)), ?_⟩
  · rw [squeezedTrimmed] at mem
    have kept := mem_of_mem_trimBlank c mem
    rwa [String.toList_ofList] at kept
  · rw [squeezedTrimmed]
    refine getLast?_trimBlank (isChain_squeezeBlanks_bang (isChain_negationWords_bang _)) ?_
    intro x last bang
    rcases getLast?_squeezeBlanks u x last with space | fromText
    · exact absurd (space ▸ bang) (by decide)
    · exact getLast?_negationWords _ x fromText bang

/-- Text in normal form is its own normal form. -/
theorem normalize_of_isNormal {s : String} (normal : IsNormal s.toList) : normalize s = s := by
  have trimmed : trimBlank s = s := trimBlank_of_ends normal.headUnblank normal.lastUnblank
  rw [normalize, trimmed, replacePair_of_isChain normal.noAmpPair,
    replacePair_of_isChain normal.noBarPair, negationWords_of_isChain normal.bangs normal.lastBang,
    squeezeBlanks_of_isNormal normal.spaces normal.squeezed, String.ofList_toList, trimmed]

/-- **Bringing a text to normal form twice gives what bringing it once gives.** -/
theorem normalize_normalize (s : String) : normalize (normalize s) = normalize s :=
  normalize_of_isNormal (isNormal_normalize s)

end Dataflow.Expr
