import Dataflow.Text.Classes
/-!
# Quoted text

Texts written as literals the way the expression language shows them: in single quotes unless
the text holds a single quote and no double quote, with backslashes, the quote, tabs, line ends
and characters that are not shown as themselves written as escapes.
-/

namespace Dataflow.Text

/-- The hexadecimal digits of `n`, lower case, `width` wide. -/
def hexWide (width n : Nat) : String :=
  let ds := Nat.toDigits 16 n
  String.ofList (List.replicate (width - ds.length) '0' ++ ds)

/-- A text as a quoted literal: single quotes unless the text holds a single quote and no
double quote; backslashes, the quote, tabs, line ends and unprintable characters escaped. -/
def quoteText (s : String) : String :=
  let q := if s.toList.contains '\'' && !s.toList.contains '"' then '"' else '\''
  let body := s.toList.foldl (fun acc c =>
    if c == '\\' then acc ++ "\\\\"
    else if c == q then acc.push '\\' |>.push c
    else if c == '\t' then acc ++ "\\t"
    else if c == '\n' then acc ++ "\\n"
    else if c == '\r' then acc ++ "\\r"
    else if isPrintable c then acc.push c
    else if c.toNat < 0x100 then acc ++ "\\x" ++ hexWide 2 c.toNat
    else if c.toNat < 0x10000 then acc ++ "\\u" ++ hexWide 4 c.toNat
    else acc ++ "\\U" ++ hexWide 8 c.toNat) ""
  (String.singleton q ++ body).push q

end Dataflow.Text
