import Dataflow.Regex.Syntax
import Dataflow.Unicode.Name
import Dataflow.Unicode.Property
import Dataflow.Text.Quote
import Dataflow.Number.Integer
/-!
# Regular expressions: parsing

Reads the text of a pattern into items (`Dataflow.Regex.Syntax`). The pattern is read token
by token, a token being one character or a backslash with the character after it.

A malformed pattern is refused with a message and the place of the fault: the message ends in
`at position n`, and, when the pattern has line ends, in the line and column of that place.
The faults are those of the pattern language: an escape that means nothing, an unterminated
set, group or name, a repetition of nothing or of a repetition, a bad range, a reference to a
group that does not exist or is still open, flags in the wrong place or at odds with each
other.
-/

namespace Dataflow.Regex

/-- A pattern refused: the message and the place of the fault (if it has one). -/
structure PatternError where
  message : String
  position : Option Nat
  /-- whether the fault is a count too large to hold, rather than a malformed pattern -/
  overflow : Bool
deriving Inhabited

/-- The message with the place of the fault, as it is shown: with the line and column of the
place when the pattern has line ends. -/
def PatternError.text (e : PatternError) (pattern : String) : String :=
  match e.position with
  | none => e.message
  | some pos =>
    let before := pattern.toList.take pos
    let line := before.count '\n' + 1
    let column := match before.reverse.findIdx? (· == '\n') with
      | some k => k + 1
      | none => pos + 1
    let base := s!"{e.message} at position {pos}"
    if pattern.toList.contains '\n' then s!"{base} (line {line}, column {column})" else base

/-- A token of a pattern: a character, or a backslash and the character after it. -/
structure Token where
  char : Char
  escaped : Bool
deriving DecidableEq, Inhabited

/-- The number of characters of a token. -/
def Token.length (t : Token) : Nat := if t.escaped then 2 else 1

/-- The text of a token. -/
def Token.text (t : Token) : String :=
  if t.escaped then "\\" ++ String.singleton t.char else String.singleton t.char

/-- Whether a token is the plain character `c`. -/
def Token.is (t : Token) (c : Char) : Bool := !t.escaped && t.char == c

/-- Where the reading of a pattern stands, and what it has learnt. -/
structure Reader where
  chars : Array Char
  /-- the place after the current token -/
  index : Nat
  /-- the current token, `none` at the end -/
  next : Option Token
  /-- the flags set for the whole pattern -/
  flags : Nat
  /-- group names with their numbers -/
  names : List (String × Nat)
  /-- the widths of the groups by number, `none` while a group is open; group 0 first -/
  widths : Array (Option (Nat × Nat))
  /-- the first group number inside the look-behind being read -/
  lookbehindFrom : Option Nat
  /-- the places of the group numbers that conditionals name -/
  conditionRefs : List (Nat × Nat)

/-- The reading of a pattern. -/
abbrev ReadM := StateT Reader (Except PatternError)

/-- The token at a place: `none` at the end. A backslash at the very end is refused. -/
def tokenAt (chars : Array Char) (i : Nat) : Except PatternError (Option Token × Nat) :=
  match chars[i]? with
  | none => .ok (none, i)
  | some '\\' =>
    match chars[i + 1]? with
    | some c => .ok (some ⟨c, true⟩, i + 2)
    | none => .error ⟨"bad escape (end of pattern)", some (chars.size - 1), false⟩
  | some c => .ok (some ⟨c, false⟩, i + 1)

/-- Moves to the token at a place. -/
def seek (i : Nat) : ReadM Unit := do
  let r ← get
  let (t, j) ← liftM (tokenAt r.chars i)
  set { r with next := t, index := j }

/-- The current token. -/
def peekToken : ReadM (Option Token) := do return (← get).next

/-- Takes the current token and moves past it. -/
def takeToken : ReadM (Option Token) := do
  let r ← get
  seek r.index
  return r.next

/-- Takes the current token if it is the plain character `c`. -/
def takeIf (c : Char) : ReadM Bool := do
  match (← get).next with
  | some t => if t.is c then do let _ ← takeToken; return true else return false
  | none => return false

/-- The place of the current token. -/
def tell : ReadM Nat := do
  let r ← get
  return r.index - (r.next.map Token.length).getD 0

/-- Refuses the pattern with a message placed `offset` characters before the current token. -/
def refuse (message : String) (offset : Nat) : ReadM α := do
  let here ← tell
  throw ⟨message, some (here - offset), false⟩

/-- Refuses the pattern with a message placed at the current token. -/
def refuseHere (message : String) : ReadM α := refuse message 0

/-- Refuses a count too large to hold. -/
def overflowed : ReadM α :=
  throw ⟨"the repetition number is too large", none, true⟩

/-- Takes up to `n` tokens that are plain characters of a class. -/
def takeWhileUpTo (ok : Char → Bool) : Nat → List Char → ReadM (List Char)
  | 0, acc => return acc.reverse
  | n + 1, acc => do
    match (← peekToken) with
    | some t =>
      if !t.escaped && ok t.char then
        let _ ← takeToken
        takeWhileUpTo ok n (t.char :: acc)
      else return acc.reverse
    | none => return acc.reverse

/-- Takes tokens up to a terminator, which is consumed: the text before it. A missing
terminator or an empty text is refused. `fuel` bounds the tokens read. -/
def takeUntil (terminator : Char) (what : String) : Nat → String → ReadM String
  | 0, acc => return acc
  | fuel + 1, acc => do
    let t ← takeToken
    match t with
    | none =>
      if acc.isEmpty then refuseHere s!"missing {what}"
      else refuse s!"missing {terminator}, unterminated name" acc.length
    | some t =>
      if t.is terminator then
        if acc.isEmpty then refuse s!"missing {what}" 1 else return acc
      else takeUntil terminator what fuel (acc ++ t.text)

/-- The number of tokens left at most, to bound loops. -/
def tokensLeft : ReadM Nat := do
  let r ← get
  return r.chars.size + 2 - r.index + 1

/-- Whether a character is a decimal digit in ASCII. -/
def isAsciiDigit (c : Char) : Bool := '0' ≤ c && c ≤ '9'

/-- Whether a character is an octal digit. -/
def isOctDigit (c : Char) : Bool := '0' ≤ c && c ≤ '7'

/-- Whether a character is a hexadecimal digit in ASCII. -/
def isHexDigit (c : Char) : Bool :=
  isAsciiDigit c || ('a' ≤ c && c ≤ 'f') || ('A' ≤ c && c ≤ 'F')

/-- Whether a character is an ASCII letter. -/
def isAsciiLetter (c : Char) : Bool := ('a' ≤ c && c ≤ 'z') || ('A' ≤ c && c ≤ 'Z')

/-- The value of digits in a base. -/
def digitsIn (base : Nat) (ds : List Char) : Nat :=
  ds.foldl (fun acc c => acc * base + (Unicode.hexDigit? c).getD 0) 0

/-- The number of groups opened so far, group 0 included. -/
def groupCount : ReadM Nat := do return (← get).widths.size

/-- Whether a group is closed. -/
def groupClosed (gid : Nat) : ReadM Bool := do
  match (← get).widths[gid]? with
  | some (some _) => return true
  | _ => return false

/-- Refuses a reference, from inside a look-behind, to a group that is open or was opened
inside that look-behind. -/
def checkLookbehindRef (gid : Nat) : ReadM Unit := do
  match (← get).lookbehindFrom with
  | none => return ()
  | some first =>
    if !(← groupClosed gid) then refuseHere "cannot refer to an open group"
    if gid ≥ first then refuseHere "cannot refer to group defined in the same lookbehind subpattern"

/-- Refuses a group name that is no identifier. -/
def checkGroupName (name : String) (offset : Nat) : ReadM Unit := do
  if !Unicode.isIdentifier name then
    refuse s!"bad character in group name {Text.quoteText name}" (name.length + offset)

/-- The character named by a `\N{...}` escape, after the `N`. -/
def namedEscape : ReadM Nat := do
  if !(← takeIf '{') then refuseHere "missing \x7b"
  let name ← takeUntil '}' "character name" (← tokensLeft) ""
  match Unicode.charOfName? name with
  | some c => return c.toNat
  | none => refuse s!"undefined character name {Text.quoteText name}" (name.length + 4)

/-- Reads the digits of a `\x`, `\u` or `\U` escape: exactly `count` hexadecimal digits. -/
def hexEscape (letter : Char) (count : Nat) : ReadM Nat := do
  let ds ← takeWhileUpTo isHexDigit count []
  let text := "\\" ++ String.singleton letter ++ String.ofList ds
  if ds.length != count then refuse s!"incomplete escape {text}" text.length
  let v := digitsIn 16 ds
  if v > 0x10FFFF then refuse s!"bad escape {text}" text.length
  return v

/-- Takes the current token if it is a plain character of a class. -/
def takeCharIf (ok : Char → Bool) : ReadM (Option Char) := do
  match (← peekToken) with
  | some t =>
    if !t.escaped && ok t.char then
      let _ ← takeToken
      return some t.char
    else return none
  | none => return none

/-- The simple escapes that stand for one character. -/
def simpleEscape (c : Char) : Option Nat :=
  match c with
  | 'a' => some 7 | 'f' => some 12 | 'n' => some 10 | 'r' => some 13 | 't' => some 9
  | 'v' => some 11 | '\\' => some 92
  | _ => none

/-- The class an escape letter names. -/
def classEscape (c : Char) : Option ClassKind :=
  match c with
  | 'd' => some .digit | 'D' => some .notDigit | 's' => some .space | 'S' => some .notSpace
  | 'w' => some .word | 'W' => some .notWord
  | _ => none

/-- What an escape inside a character set stands for: a character or a class. -/
def setEscape (c : Char) : ReadM SetItem := do
  if c == 'b' then return .literal 8
  match simpleEscape c with
  | some v => return .literal v
  | none =>
  match classEscape c with
  | some k => return .category k
  | none =>
  if c == 'x' then return .literal (← hexEscape 'x' 2)
  else if c == 'u' then return .literal (← hexEscape 'u' 4)
  else if c == 'U' then return .literal (← hexEscape 'U' 8)
  else if c == 'N' then return .literal (← namedEscape)
  else if isOctDigit c then
    let ds ← takeWhileUpTo isOctDigit 2 []
    let v := digitsIn 8 (c :: ds)
    if v > 0o377 then
      let text := "\\" ++ String.ofList (c :: ds)
      refuse s!"octal escape value {text} outside of range 0-0o377" text.length
    return .literal v
  else if isAsciiDigit c || isAsciiLetter c then
    refuse s!"bad escape \\{c}" 2
  else return .literal c.toNat

/-- What an escape outside a character set stands for. -/
def escapeItem (c : Char) : ReadM Item := do
  match c with
  | 'A' => return .anchor .beginningString
  | 'b' => return .anchor .boundary
  | 'B' => return .anchor .nonBoundary
  | 'Z' => return .anchor .endingString
  | _ =>
  match classEscape c with
  | some k => return .set false [.category k]
  | none =>
  match simpleEscape c with
  | some v => return .literal v
  | none =>
  if c == 'x' then return .literal (← hexEscape 'x' 2)
  else if c == 'u' then return .literal (← hexEscape 'u' 4)
  else if c == 'U' then return .literal (← hexEscape 'U' 8)
  else if c == 'N' then return .literal (← namedEscape)
  else if c == '0' then
    let ds ← takeWhileUpTo isOctDigit 2 []
    return .literal (digitsIn 8 ds)
  else if isAsciiDigit c then
    -- an octal escape of three digits, or a group reference
    let second ← takeCharIf isAsciiDigit
    let third ← match second with
      | some d => if isOctDigit c && isOctDigit d then takeCharIf isOctDigit else pure none
      | none => pure none
    match second, third with
    | some d, some e =>
      let v := digitsIn 8 [c, d, e]
      if v > 0o377 then
        refuse s!"octal escape value \\{c}{d}{e} outside of range 0-0o377" 4
      return .literal v
    | _, _ =>
      let ds := c :: second.toList
      let group := digitsIn 10 ds
      if group < (← groupCount) then
        if !(← groupClosed group) then
          refuse "cannot refer to an open group" (ds.length + 1)
        checkLookbehindRef group
        return .backref group
      refuse s!"invalid group reference {group}" ds.length
  else if isAsciiLetter c then refuse s!"bad escape \\{c}" 2
  else return .literal c.toNat

/-- The members of a character set, after `[` and `^`: the set is closed by `]` unless it
comes first. `here` is the place of the `[`. -/
def setMembers (here : Nat) : Nat → List SetItem → ReadM (List SetItem)
  | 0, acc => return acc.reverse
  | fuel + 1, acc => do
    let this ← takeToken
    let unterminated : ReadM (List SetItem) := do
      let t ← tell
      refuse "unterminated character set" (t - here)
    match this with
    | none => unterminated
    | some this =>
      if this.is ']' && !acc.isEmpty then return acc.reverse
      let first ← if this.escaped then setEscape this.char else pure (.literal this.char.toNat)
      if (← takeIf '-') then
        match (← takeToken) with
        | none => unterminated
        | some that =>
          if that.is ']' then
            return (.literal 45 :: first :: acc).reverse
          let second ← if that.escaped then setEscape that.char else pure (.literal that.char.toNat)
          let bad := s!"bad character range {this.text}-{that.text}"
          match first, second with
          | .literal lo, .literal hi =>
            if hi < lo then refuse bad (this.length + 1 + that.length)
            setMembers here fuel (.range lo hi :: acc)
          | _, _ => refuse bad (this.length + 1 + that.length)
      else setMembers here fuel (first :: acc)

/-- Removes repeated members, keeping the first of each. -/
def uniqueMembers (members : List SetItem) : List SetItem :=
  members.foldl (fun acc x => if acc.contains x then acc else acc ++ [x]) []

/-- The flags of a group `(?flags)` or `(?flags-flags:...)`, from the first flag letter:
`none` for flags of the whole pattern, else the flags added and removed. -/
def flagOf (c : Char) : Option Nat :=
  match c with
  | 'i' => some flagIgnoreCase | 'L' => some flagLocale | 'm' => some flagMultiline
  | 's' => some flagDotAll | 'x' => some flagVerbose | 'a' => some flagAscii
  | 't' => some flagTemplate | 'u' => some flagUnicode
  | _ => none

/-- Whether a token is a letter of any script. -/
def Token.isLetter (t : Token) : Bool := !t.escaped && Unicode.isLetter t.char

/-- Whether a token is a flag letter. -/
def Token.isFlag (t : Token) : Bool := !t.escaped && (flagOf t.char).isSome

/-- Reads flags to add, from the first letter, up to `)`, `-` or `:`: the flags and the token
that ended them. -/
def addedFlags (first : Char) : Nat → Nat → ReadM (Nat × Token)
  | 0, add => return (add, ⟨':', false⟩)
  | fuel + 1, add => do
    if first == 'L' then refuseHere "bad inline flags: cannot use 'L' flag with a str pattern"
    let flag := (flagOf first).getD 0
    let add := add ||| flag
    if hasFlag flag typeFlags && (add &&& typeFlags) != flag then
      refuseHere "bad inline flags: flags 'a', 'u' and 'L' are incompatible"
    match (← takeToken) with
    | none => refuseHere "missing -, : or )"
    | some t =>
      if t.is ')' || t.is '-' || t.is ':' then return (add, t)
      else if t.isFlag then addedFlags t.char fuel add
      else refuse (if t.isLetter then "unknown flag" else "missing -, : or )") t.length

/-- Reads flags to remove, from the first letter, up to `:`. -/
def removedFlags (first : Char) : Nat → Nat → ReadM Nat
  | 0, del => return del
  | fuel + 1, del => do
    let flag := (flagOf first).getD 0
    if hasFlag flag typeFlags then refuseHere "bad inline flags: cannot turn off flags 'a', 'u' and 'L'"
    let del := del ||| flag
    match (← takeToken) with
    | none => refuseHere "missing :"
    | some t =>
      if t.is ':' then return del
      else if t.isFlag then removedFlags t.char fuel del
      else refuse (if t.isLetter then "unknown flag" else "missing :") t.length

/-- Reads the flags of a group after `(?`, from the token read: `none` for flags of the whole
pattern (which are then set), else the flags added and removed inside the group. -/
def groupFlags (first : Token) : ReadM (Option (Nat × Nat)) := do
  let fuel ← tokensLeft
  let (add, ending) ← if first.is '-' then pure (0, first) else addedFlags first.char fuel 0
  if ending.is ')' then
    modify fun r => { r with flags := r.flags ||| add }
    return none
  if hasFlag add globalFlags then refuse "bad inline flags: cannot turn on global flag" 1
  let del ← if ending.is '-' then do
      match (← takeToken) with
      | none => refuseHere "missing flag"
      | some d =>
        if !d.isFlag then refuse (if d.isLetter then "unknown flag" else "missing flag") d.length
        removedFlags d.char fuel 0
    else pure 0
  if hasFlag del globalFlags then refuse "bad inline flags: cannot turn off global flag" 1
  if add &&& del != 0 then refuse "bad inline flags: flag turned on and off" 1
  return some (add, del)

/-- Opens a capturing group, with its name if it has one; returns its number. -/
def openGroup (name : Option String) : ReadM Nat := do
  let r ← get
  let gid := r.widths.size
  if gid + 1 > 1073741823 then refuseHere "too many groups"
  match name with
  | some n =>
    match r.names.lookup n with
    | some old =>
      refuse s!"redefinition of group name {Text.quoteText n} as group {gid}; was group {old}"
        (n.length + 1)
    | none => set { r with widths := r.widths.push none, names := r.names ++ [(n, gid)] }
  | none => set { r with widths := r.widths.push none }
  return gid

/-- The widths of the groups, for back references. -/
def groupWidths : ReadM (Nat → Nat × Nat) := do
  let ws := (← get).widths
  return fun n => ((ws[n]?).bind id).getD (0, 0)

/-- Closes a group, recording its width. -/
def closeGroup (gid : Nat) (body : List Item) : ReadM Unit := do
  let widths ← groupWidths
  modify fun r => { r with widths := r.widths.set! gid (some (Item.widthList widths body)) }

/-- Whether a character is skipped in verbose mode. -/
def isVerboseBlank (c : Char) : Bool :=
  c == ' ' || c == '\t' || c == '\n' || c == '\r' || c == '\x0b' || c == '\x0c'

/-- The characters with a meaning of their own outside sets. -/
def specialChars : List Char := ['.', '\\', '[', '\x7b', '(', ')', '*', '+', '?', '^', '$', '|']

/-- Whether an item is a repetition. -/
def Item.isRepetition : Item → Bool
  | .repetition .. => true
  | _ => false

/-- Whether an item is an anchor. -/
def Item.isAnchor : Item → Bool
  | .anchor _ => true
  | _ => false

/-- Skips a comment up to the end of the line (verbose mode). -/
def skipLineComment : Nat → ReadM Unit
  | 0 => return ()
  | k + 1 => do
    match (← takeToken) with
    | none => return ()
    | some t => if t.is '\n' then return () else skipLineComment k

/-- Skips a comment group up to its `)`; `start` is the place of its `(`. -/
def skipGroupComment (start : Nat) : Nat → ReadM Unit
  | 0 => return ()
  | k + 1 => do
    if (← peekToken).isNone then
      let t ← tell
      refuse "missing ), unterminated comment" (t - start)
    match (← takeToken) with
    | some t => if t.is ')' then return () else skipGroupComment start k
    | none => return ()

/-- Requires the `)` that closes a group opened at `start`. -/
def closeParen (start : Nat) : ReadM Unit := do
  if !(← takeIf ')') then
    let t ← tell
    refuse "missing ), unterminated subpattern" (t - start)

/-- Reads the count of a repetition after `{`: `none` when no well-formed count follows (the
brace then stands for itself and the reading goes back to after it). -/
def readCount (here : Nat) : ReadM (Option (Nat × Option Nat)) := do
  if (← peekToken).map (·.is '}') == some true then return none
  let lo ← takeWhileUpTo isAsciiDigit (← tokensLeft) []
  let comma ← takeIf ','
  let hi ← if comma then takeWhileUpTo isAsciiDigit (← tokensLeft) [] else pure lo
  if !(← takeIf '}') then
    seek here
    return none
  let min := if lo.isEmpty then 0 else digitsIn 10 lo
  if !lo.isEmpty && min ≥ maxRepeat then overflowed
  if hi.isEmpty then return some (min, none)
  let m := digitsIn 10 hi
  if m ≥ maxRepeat then overflowed
  if m < min then refuse "min repeat greater than max repeat" ((← tell) - here)
  return some (min, some m)

/-- The number a conditional names when its name is no identifier: an integer as integer
reading gives it, which must be positive and below the greatest group number. -/
def conditionNumber (name : String) : ReadM Nat := do
  match Number.readInteger? 10 name with
  | some g =>
    if g < 0 then refuse s!"bad character in group name {Text.quoteText name}" (name.length + 1)
    let g := g.toNat
    if g == 0 then refuse "bad group number" (name.length + 1)
    if g ≥ 1073741823 then refuse s!"invalid group reference {g}" (name.length + 1)
    return g
  | none => refuse s!"bad character in group name {Text.quoteText name}" (name.length + 1)

mutual

/-- Reads alternatives separated by `|`, up to `)` or the end: one list of items, or a branch.
`nested` is the depth of groups. -/
def readAlternatives (verbose : Bool) (nested : Nat) : Nat → ReadM (List Item)
  | 0 => return []
  | fuel + 1 => do
    match ← readBranches verbose nested true [] fuel with
    | [single] => return single
    | alts => return [.branch alts]
termination_by structural n => n

/-- Reads the alternatives one after another; at the top level the flags of the whole
pattern, set by the first alternative, decide whether the later ones are verbose. -/
def readBranches (verbose : Bool) (nested : Nat) (first : Bool) (acc : List (List Item)) :
    Nat → ReadM (List (List Item))
  | 0 => return acc.reverse
  | fuel + 1 => do
    let alt ← readSequence verbose (nested + 1) (nested == 0 && first) [] fuel
    if (← takeIf '|') then
      let flags := (← get).flags
      let verbose := if nested == 0 then hasFlag flags flagVerbose else verbose
      readBranches verbose nested false (alt :: acc) fuel
    else return (alt :: acc).reverse
termination_by structural n => n

/-- Reads a group after `(`; `start` is the place of the `(`. Returns the item it makes, if
any (a comment or flags of the whole pattern make none), and the verbose mode after it. -/
def readGroup (verbose : Bool) (nested : Nat) (first : Bool) (start : Nat) (empty : Bool) :
    Nat → ReadM (Option Item × Bool)
  | 0 => return (none, verbose)
  | fuel + 1 => do
    if !(← takeIf '?') then
      let gid ← openGroup none
      let body ← readAlternatives verbose (nested + 1) fuel
      closeParen start
      closeGroup gid body
      return (some (.group (some gid) 0 0 body), verbose)
    match (← takeToken) with
    | none => refuseHere "unexpected end of pattern"
    | some char =>
    if char.is 'P' then
      if (← takeIf '<') then
        let name ← takeUntil '>' "group name" (← tokensLeft) ""
        checkGroupName name 1
        let gid ← openGroup (some name)
        let body ← readAlternatives verbose (nested + 1) fuel
        closeParen start
        closeGroup gid body
        return (some (.group (some gid) 0 0 body), verbose)
      else if (← takeIf '=') then
        let name ← takeUntil ')' "group name" (← tokensLeft) ""
        checkGroupName name 1
        match (← get).names.lookup name with
        | none => refuse s!"unknown group name {Text.quoteText name}" (name.length + 1)
        | some gid =>
          if !(← groupClosed gid) then refuse "cannot refer to an open group" (name.length + 1)
          checkLookbehindRef gid
          return (some (.backref gid), verbose)
      else
        match (← takeToken) with
        | none => refuseHere "unexpected end of pattern"
        | some c => refuse s!"unknown extension ?P{c.text}" (c.length + 2)
    else if char.is ':' then
      let body ← readAlternatives verbose (nested + 1) fuel
      closeParen start
      return (some (.group none 0 0 body), verbose)
    else if char.is '#' then
      skipGroupComment start (← tokensLeft)
      return (none, verbose)
    else if char.is '=' || char.is '!' || char.is '<' then
      let (behind, kind) ← if char.is '<' then do
          match (← takeToken) with
          | none => refuseHere "unexpected end of pattern"
          | some c =>
            if !(c.is '=' || c.is '!') then refuse s!"unknown extension ?<{c.text}" (c.length + 2)
            pure (true, c)
        else pure (false, char)
      let outer := (← get).lookbehindFrom
      if behind && outer.isNone then
        let n ← groupCount
        modify fun r => { r with lookbehindFrom := some n }
      let body ← readAlternatives verbose (nested + 1) fuel
      if behind && outer.isNone then
        modify fun r => { r with lookbehindFrom := none }
      closeParen start
      return (some (.assertion behind (kind.is '!') body), verbose)
    else if char.is '(' then
      let name ← takeUntil ')' "group name" (← tokensLeft) ""
      let gid ← if Unicode.isIdentifier name then do
          checkGroupName name 1
          match (← get).names.lookup name with
          | none => refuse s!"unknown group name {Text.quoteText name}" (name.length + 1)
          | some g => pure g
        else do
          let g ← conditionNumber name
          let r ← get
          if (r.conditionRefs.lookup g).isNone then
            let t ← tell
            set { r with conditionRefs := r.conditionRefs ++ [(g, t - name.length - 1)] }
          pure g
      checkLookbehindRef gid
      let yes ← readSequence verbose (nested + 1) false [] fuel
      let no ← if (← takeIf '|') then do
          let n ← readSequence verbose (nested + 1) false [] fuel
          if (← peekToken).map (·.is '|') == some true then
            refuseHere "conditional backref with more than two branches"
          pure (some n)
        else pure none
      closeParen start
      return (some (.conditional gid yes no), verbose)
    else if char.is '>' then
      let body ← readAlternatives verbose (nested + 1) fuel
      closeParen start
      return (some (.atomic body), verbose)
    else if char.isFlag || char.is '-' then
      match ← groupFlags char with
      | none =>
        if !first || !empty then
          let t ← tell
          refuse "global flags not at the start of the expression" (t - start)
        return (none, hasFlag (← get).flags flagVerbose)
      | some (add, del) =>
        let inner := (verbose || hasFlag add flagVerbose) && !hasFlag del flagVerbose
        let body ← readAlternatives inner (nested + 1) fuel
        closeParen start
        return (some (.group none add del body), verbose)
    else refuse s!"unknown extension ?{char.text}" (char.length + 1)
termination_by structural n => n

/-- Reads items up to `|`, `)` or the end. `first` tells whether flags of the whole pattern
may still come; `acc` holds the items read, last first. -/
def readSequence (verbose : Bool) (nested : Nat) (first : Bool) (acc : List Item) :
    Nat → ReadM (List Item)
  | 0 => return acc.reverse
  | fuel + 1 => do
    match (← peekToken) with
    | none => return acc.reverse
    | some this =>
    if this.is '|' || this.is ')' then return acc.reverse
    let _ ← takeToken
    if verbose && !this.escaped && isVerboseBlank this.char then
      readSequence verbose nested first acc fuel
    else if verbose && this.is '#' then
      skipLineComment (← tokensLeft)
      readSequence verbose nested first acc fuel
    else if this.escaped then
      let item ← escapeItem this.char
      readSequence verbose nested first (item :: acc) fuel
    else if !specialChars.contains this.char then
      readSequence verbose nested first (.literal this.char.toNat :: acc) fuel
    else if this.char == '[' then
      let here := (← tell) - 1
      let negate ← takeIf '^'
      let members := uniqueMembers (← setMembers here (← tokensLeft) [])
      let item := match members, negate with
        | [.literal c], false => Item.literal c
        | [.literal c], true => Item.notLiteral c
        | ms, n => Item.set n ms
      readSequence verbose nested first (item :: acc) fuel
    else if this.char == '*' || this.char == '+' || this.char == '?' || this.char == '\x7b' then
      let here ← tell
      let bounds ← if this.char == '?' then pure (some (0, some 1))
        else if this.char == '*' then pure (some (0, none))
        else if this.char == '+' then pure (some (1, none))
        else readCount here
      match bounds with
      | none => readSequence verbose nested first (.literal '\x7b'.toNat :: acc) fuel
      | some (min, max) =>
        let offset := (← tell) - here + 1
        match acc with
        | [] => refuse "nothing to repeat" offset
        | prev :: rest =>
          if prev.isAnchor then refuse "nothing to repeat" offset
          if prev.isRepetition then refuse "multiple repeat" offset
          let body := match prev with
            | .group none 0 0 inner => inner
            | other => [other]
          let lazy ← takeIf '?'
          let possessive ← if lazy then pure false else takeIf '+'
          let kind := if lazy then RepeatKind.lazy
            else if possessive then RepeatKind.possessive else RepeatKind.greedy
          readSequence verbose nested first (.repetition kind min max body :: rest) fuel
    else if this.char == '.' then
      readSequence verbose nested first (.any :: acc) fuel
    else if this.char == '(' then
      let start := (← tell) - 1
      let (item, verbose) ← readGroup verbose nested first start acc.isEmpty fuel
      readSequence verbose nested first (item.toList ++ acc) fuel
    else if this.char == '^' then
      readSequence verbose nested first (.anchor .beginning :: acc) fuel
    else
      readSequence verbose nested first (.anchor .ending :: acc) fuel
termination_by structural n => n

end

/-- A parsed pattern: its items, the flags in force for the whole of it, the number of
capturing groups, the group names and the widths of the groups by number (group 0 first). -/
structure Parsed where
  items : List Item
  flags : Nat
  groups : Nat
  names : List (String × Nat)
  widths : Array (Nat × Nat)

/-- Parses a pattern with the flags given. -/
def parse (pattern : String) (flags : Nat) : Except PatternError Parsed := do
  let chars := pattern.toList.toArray
  let (next, index) ← tokenAt chars 0
  let start : Reader := ⟨chars, index, next, flags, [], #[none], none, []⟩
  let fuel := 8 * chars.size + 16
  let (items, r) ← (readAlternatives (hasFlag flags flagVerbose) 0 fuel).run start
  let flags := r.flags
  if hasFlag flags flagLocale then
    throw ⟨"cannot use LOCALE flag with a str pattern", none, false⟩
  let flags ← if !hasFlag flags flagAscii then pure (flags ||| flagUnicode)
    else if hasFlag flags flagUnicode then
      throw ⟨"ASCII and UNICODE flags are incompatible", none, false⟩
    else pure flags
  if r.next.isSome then
    throw ⟨"unbalanced parenthesis", some (r.index - (r.next.map Token.length).getD 0), false⟩
  for (g, pos) in r.conditionRefs do
    if g ≥ r.widths.size then throw ⟨s!"invalid group reference {g}", some pos, false⟩
  return ⟨items, flags, r.widths.size - 1, r.names, r.widths.map (·.getD (0, 0))⟩

end Dataflow.Regex
