import LintLedger.Pattern.Expr
import LintLedger.Pattern.Fault
import LintLedger.Text.Blank
import LintLedger.Text.Digits
import LintLedger.Unicode.Alphanumeric

/-!
# Reading patterns

The reader goes through the text of a pattern once, from left to right, and gives its expression or
the first fault. Nothing is tried twice: what a character means is decided by the characters before
it, except inside brackets, where `[:` starts a named class only if a name and `:]` follow.

In a *verbose* pattern blanks, and comments from `#` to the line end, may stand between any two parts;
`verbose` in the definitions below says that the place being read is in such a stretch.

The two loops (over the items of a group and over the items of a class) take a character in every
round, so the length of the text bounds the number of rounds.

A fault marks the stretch of the text that it is about, so readers that can fail behind a start of
their own know what was left of the text there (`opened`, `start`).
-/

namespace LintLedger.Pattern

open LintLedger.Text (isBlank dropBlanks)
open LintLedger.Unicode (hexDigit? hexNumber? isLetter isLetterOrNumber)

namespace Reader

/-- Fails with a cause and the stretch from one rest of the text to another. -/
def fail {α : Type} (cause : Cause) (start stop : List Char) : Except Fault α :=
  throw (.unreadable cause [.between start stop])

/-- Fails with a cause at the place before a rest of the text. -/
def failAt {α : Type} (cause : Cause) (rest : List Char) : Except Fault α := fail cause rest rest

/-- Fails with a cause at the first character of a rest of the text. -/
def failOn {α : Type} (cause : Cause) (rest : List Char) : Except Fault α :=
  throw (.unreadable cause [.first rest])

/-! ### Blanks and comments -/

/-- Drops blanks and comments; `inComment` says that the text starts inside a comment. -/
def dropComments (inComment : Bool) : List Char → List Char
  | [] => []
  | c :: cs =>
    if inComment then dropComments (c ≠ '\n') cs
    else if isBlank c then dropComments false cs
    else if c = '#' then dropComments true cs
    else c :: cs

/-- Drops what does not count before the next part of the pattern. -/
def skip (verbose : Bool) (cs : List Char) : List Char :=
  if verbose then dropComments false cs else cs

/-- Takes characters as long as `p` holds of them, leaving out what does not count between them. -/
def takeSpaced (verbose : Bool) (p : Char → Bool) (inComment : Bool) :
    List Char → List Char × List Char
  | [] => ([], [])
  | c :: cs =>
    if inComment then takeSpaced verbose p (c ≠ '\n') cs
    else if verbose && isBlank c then takeSpaced verbose p false cs
    else if verbose && c = '#' then takeSpaced verbose p true cs
    else if p c then
      let (taken, rest) := takeSpaced verbose p false cs
      (c :: taken, rest)
    else ([], c :: cs)

/-! ### Counts -/

/-- A count as it is written: absent, too large, or a number. -/
inductive Count where
  /-- No digit stands there. -/
  | absent (at_ : List Char)
  /-- The digits between two places make a number of more than 32 bits. -/
  | tooLarge (start stop : List Char)
  /-- A number. -/
  | number (n : Nat)

/-- Reads a count with blanks around it. -/
def readCount (verbose : Bool) (cs : List Char) : Count × List Char :=
  let start := dropBlanks cs
  let (digits, rest) := takeSpaced verbose Text.isDigit false start
  let n := Text.digitsValue digits
  let count := if digits.isEmpty then .absent start
    else if n < 0x100000000 then .number n else .tooLarge start rest
  (count, dropBlanks rest)

/-- The number of a count, which has to be there. -/
def Count.value : Count → Except Fault Nat
  | .absent rest => failAt .countMissing rest
  | .tooLarge start stop => fail .countTooLarge start stop
  | .number n => pure n

/-- Reads the counts of a repetition and the `?` that may follow, after the opening brace, at which
the text `start` begins. -/
def readCounts (verbose : Bool) (start cs : List Char) :
    Except Fault ((Nat × Option Nat) × List Char) := do
  let unclosed {α : Type} (rest : List Char) : Except Fault α := fail .countsUnclosed start rest
  if (skip verbose cs).isEmpty then unclosed []
  let (count, cs) := readCount verbose (skip verbose cs)
  let (range, cs) ← match cs with
    | [] => unclosed []
    | ',' :: cs =>
      match skip verbose cs with
      | [] => unclosed []
      | '\x7d' :: rest => do
        let least ← count.value
        pure ((least, none), '\x7d' :: rest)
      | cs => do
        let least ← count.value
        let (bound, cs) := readCount verbose cs
        let most ← bound.value
        pure ((least, some most), cs)
    | cs => do
      let least ← count.value
      pure ((least, some least), cs)
  let '\x7d' :: cs := cs | unclosed cs
  let rest := match skip verbose cs with
    | '?' :: rest => rest
    | cs => cs
  if range.2.any (· < range.1) then fail .countsDescend start rest
  pure (range, rest)

/-! ### Escapes -/

/-- The characters with a meaning of their own somewhere in a pattern. -/
def isSpecial (c : Char) : Bool := "\\.+*?()|[]\x7b\x7d^$#&-~".toList.contains c

/-- The ASCII characters that a backslash makes literal: all but letters, digits and angle brackets. -/
def isEscapable (c : Char) : Bool :=
  isSpecial c || (c.toNat < 0x80 && !c.isAlphanum && c != '<' && c != '>')

/-- Is the character a hexadecimal digit? -/
def isHexDigit (c : Char) : Bool := (hexDigit? c).isSome

/-- The character of a code point written in hexadecimal between two places. -/
def charOfHex (digits start stop : List Char) : Except Fault Char :=
  match hexNumber? digits with
  | some n =>
    if h : n.isValidChar then pure (Char.ofNatAux n h) else fail .codePointInvalid start stop
  | none => fail .codePointInvalid start stop

/-- Reads a fixed number of hexadecimal digits. -/
def readHexDigits (verbose : Bool) : Nat → List Char → Except Fault (List Char × List Char)
  | 0, cs => pure ([], cs)
  | n + 1, cs =>
    match skip verbose cs with
    | c :: cs =>
      if isHexDigit c then do
        let (digits, rest) ← readHexDigits verbose n cs
        pure (c :: digits, rest)
      else failOn .codePointDigit (c :: cs)
    | [] => failAt .escapeUnfinished []

/-- Reads a code point after `\x`, `\u` or `\U`, which take `width` digits or any number in braces. -/
def readCodePoint (verbose : Bool) (width : Nat) (cs : List Char) :
    Except Fault (Literal × List Char) :=
  match skip verbose cs with
  | '\x7b' :: inner =>
    let (digits, stop) := takeSpaced verbose isHexDigit false inner
    match stop with
    | '\x7d' :: rest =>
      if digits.isEmpty then fail .codePointEmpty ('\x7b' :: inner) (skip verbose rest)
      else do
        let c ← charOfHex digits inner stop
        pure (⟨c, false⟩, skip verbose rest)
    | [] => fail .escapeUnfinished ('\x7b' :: inner) []
    | _ => failOn .codePointDigit stop
  | start => do
    let (digits, rest) ← readHexDigits verbose width start
    let c ← charOfHex digits start (skip verbose rest)
    pure (⟨c, width = 2⟩, skip verbose rest)

/-- Cuts a text at the first place where `mark` stands. -/
def cutAt? (mark : List Char) : List Char → Option (List Char × List Char)
  | [] => none
  | c :: cs =>
    if mark.isPrefixOf (c :: cs) then some ([], (c :: cs).drop mark.length)
    else (cutAt? mark cs).map fun (before, after) => (c :: before, after)

/-- The query between the braces of `\p`, and whether it is turned round by `!=`. -/
def propertyQuery (text : List Char) : PropertyQuery × Bool :=
  let valued (parts : List Char × List Char) : PropertyQuery :=
    .value (String.ofList parts.1) (String.ofList parts.2)
  match cutAt? ['!', '='] text, cutAt? [':'] text, cutAt? ['='] text with
  | some parts, _, _ => (valued parts, true)
  | none, some parts, _ => (valued parts, false)
  | none, none, some parts => (valued parts, false)
  | none, none, none => (.name (String.ofList text), false)

/-- Reads a property after `\p` or `\P`. -/
def readProperty (verbose negated : Bool) (cs : List Char) : Except Fault (Expr × List Char) :=
  match skip verbose cs with
  | '\x7b' :: cs =>
    let (text, rest) := takeSpaced verbose (· ≠ '\x7d') false cs
    match rest with
    | '\x7d' :: rest =>
      let (query, turned) := propertyQuery text
      pure (.property query (negated != turned), rest)
    | _ => failAt .escapeUnfinished []
  | '\\' :: cs => failOn .propertyName ('\\' :: cs)
  | c :: cs => pure (.property (.name (String.ofList [c])) negated, skip verbose cs)
  | [] => failAt .escapeUnfinished []

/-- The special word edges, by the name in the braces after `\b`. -/
def wordAnchor? (name : String) : Option Anchor :=
  match name with
  | "start" => some .wordStart
  | "end" => some .wordEnd
  | "start-half" => some .wordStartHalf
  | "end-half" => some .wordEndHalf
  | _ => none

/-- Reads what follows `\b`, with whose backslash the text `start` begins: a name in braces, or
anything else, which is left for the reader of repetitions. -/
def readWordEdge (verbose : Bool) (start cs : List Char) : Except Fault (Expr × List Char) :=
  let nameChar (c : Char) : Bool := c.isAlpha || c = '-'
  match cs with
  | '\x7b' :: inner =>
    match skip verbose inner with
    | [] => fail .wordEdgeOrCounts start []
    | c :: more =>
      if nameChar c then
        let (name, stop) := takeSpaced verbose nameChar false (c :: more)
        match stop, wordAnchor? (String.ofList name) with
        | '\x7d' :: rest, some a => pure (.anchor a, rest)
        | '\x7d' :: _, none => fail .wordEdgeUnknown (c :: more) stop
        | _, _ => fail .wordEdgeUnclosed cs stop
      else pure (.anchor .wordEdge, cs)
  | _ => pure (.anchor .wordEdge, cs)

/-- Reads an escape after its backslash. -/
def readEscape (verbose : Bool) : List Char → Except Fault (Expr × List Char)
  | [] => fail .escapeUnfinished ['\\'] []
  | c :: cs =>
    let literal (c : Char) : Except Fault (Expr × List Char) := pure (.literal ⟨c, false⟩, cs)
    let codePoint (width : Nat) : Except Fault (Expr × List Char) := do
      let (l, rest) ← readCodePoint verbose width cs
      pure (.literal l, rest)
    match c with
    | 'x' => codePoint 2
    | 'u' => codePoint 4
    | 'U' => codePoint 8
    | 'p' => readProperty verbose false cs
    | 'P' => readProperty verbose true cs
    | 'd' => pure (.shorthand .digit false, cs)
    | 'D' => pure (.shorthand .digit true, cs)
    | 's' => pure (.shorthand .space false, cs)
    | 'S' => pure (.shorthand .space true, cs)
    | 'w' => pure (.shorthand .word false, cs)
    | 'W' => pure (.shorthand .word true, cs)
    | 'a' => literal '\x07'
    | 'f' => literal '\x0C'
    | 't' => literal '\t'
    | 'n' => literal '\n'
    | 'r' => literal '\r'
    | 'v' => literal '\x0B'
    | 'A' => pure (.anchor .textStart, cs)
    | 'z' => pure (.anchor .textEnd, cs)
    | 'b' => readWordEdge verbose ('\\' :: c :: cs) cs
    | 'B' => pure (.anchor .notWordEdge, cs)
    | '<' => pure (.anchor .wordStart, cs)
    | '>' => pure (.anchor .wordEnd, cs)
    | c =>
      if isEscapable c then literal c
      else fail (if Text.isDigit c then .backReference else .escapeUnknown) ('\\' :: c :: cs) cs

/-! ### Classes -/

/-- The named class of ASCII characters, by its name. -/
def asciiClass? (name : String) : Option AsciiClass :=
  match name with
  | "alnum" => some .alnum
  | "alpha" => some .alpha
  | "ascii" => some .ascii
  | "blank" => some .blank
  | "cntrl" => some .cntrl
  | "digit" => some .digit
  | "graph" => some .graph
  | "lower" => some .lower
  | "print" => some .print
  | "punct" => some .punct
  | "space" => some .space
  | "upper" => some .upper
  | "word" => some .word
  | "xdigit" => some .xdigit
  | _ => none

/-- Reads a named class after its opening bracket, if one stands there. -/
def readAsciiClass? (cs : List Char) : Option (ClassExpr × List Char) :=
  let named (negated : Bool) (cs : List Char) : Option (ClassExpr × List Char) :=
    match asciiClass? (String.ofList (cs.takeWhile (· ≠ ':'))), cs.dropWhile (· ≠ ':') with
    | some kind, ':' :: ']' :: rest => some (.ascii kind negated, rest)
    | _, _ => none
  match cs with
  | ':' :: '^' :: cs => named true cs
  | ':' :: cs => named false cs
  | _ => none

/-- Reads one item of a class: an escape or a character that stands for itself. -/
def readItem (verbose : Bool) : List Char → Except Fault (Expr × List Char)
  | '\\' :: cs => readEscape verbose cs
  | c :: cs => pure (.literal ⟨c, false⟩, cs)
  | [] => failAt .classUnclosed []

/-- The item between two places as a set; a condition on places is none. -/
def itemSet (start stop : List Char) : Expr → Except Fault ClassExpr
  | .literal l => pure (.literal l)
  | .shorthand kind negated => pure (.shorthand kind negated)
  | .property query negated => pure (.property query negated)
  | _ => fail .classItem start stop

/-- The item between two places as an end of a range. -/
def itemLiteral (start stop : List Char) : Expr → Except Fault Literal
  | .literal l => pure l
  | _ => fail .rangeEnd start stop

/-- The character that the reader sees behind a dash before it decides whether the dash makes a range.
In a verbose pattern it looks past blanks and past one `#`, but if nothing else follows it sees the
very next character. -/
def peekBehindDash (verbose : Bool) (cs : List Char) : Option Char :=
  if verbose then
    let visible := match dropBlanks cs with
      | '#' :: rest => (dropBlanks rest).head?
      | rest => rest.head?
    visible.orElse fun _ => cs.head?
  else cs.head?

/-- Reads one item or one range of the class whose start is the stretch `opened`. -/
def readRange (verbose : Bool) (opened : Stretch) (start : List Char) :
    Except Fault (ClassExpr × List Char) := do
  let unclosed {α : Type} : Except Fault α := throw (.unreadable .classUnclosed [opened])
  let (first, stop) ← readItem verbose start
  match skip verbose stop with
  | [] => unclosed
  | '-' :: behind =>
    let next := peekBehindDash verbose behind
    if next = some ']' ∨ next = some '-' then
      let set ← itemSet start stop first
      pure (set, '-' :: behind)
    else match skip verbose behind with
      | [] => unclosed
      | start' => do
        let (last, rest) ← readItem verbose start'
        let lo ← itemLiteral start stop first
        let hi ← itemLiteral start' rest last
        if hi.char < lo.char then fail .rangeDescends start rest
        pure (.range lo hi, rest)
  | cs => do
    let set ← itemSet start stop first
    pure (set, cs)

/-- What the start of a class says. -/
structure ClassStart where
  /-- The class holds what its items do not. -/
  negated : Bool
  /-- The items that can only stand at the start, last one first. -/
  items : List ClassExpr
  /-- Where it stands. -/
  stretch : Stretch

/-- Reads the start of a class, with whose bracket the text begins: the `^`, and the dashes or the
closing bracket that stand for themselves there. -/
def readClassStart (verbose : Bool) (start : List Char) :
    Except Fault (ClassStart × List Char) := do
  let (negated, cs) := match skip verbose start.tail with
    | '^' :: cs => (true, skip verbose cs)
    | cs => (false, cs)
  let (dashes, cs) := takeSpaced verbose (· = '-') false cs
  let items := dashes.map fun c => ClassExpr.literal ⟨c, false⟩
  match cs with
  | [] => if items.isEmpty then fail .classUnclosed start [] else failAt .classUnclosed start
  | ']' :: rest =>
    if items.isEmpty then
      match skip verbose rest with
      | [] => fail .classUnclosed start []
      | rest => pure (⟨negated, [.literal ⟨']', false⟩], .between start rest⟩, rest)
    else pure (⟨negated, items, .between start cs⟩, cs)
  | cs => pure (⟨negated, items, .between start cs⟩, cs)

/-- The items read so far, under the operator that waits for its right side. -/
def closeOperand (waiting : Option (SetOperator × ClassExpr)) (items : List ClassExpr) : ClassExpr :=
  let set := ClassExpr.ofItems items.reverse
  match waiting with
  | some (op, left) => .operation op left set
  | none => set

/-- Reads the items of the class whose start is the stretch `opened`, up to its closing bracket;
operators group to the left. -/
def readClass (verbose : Bool) :
    Nat → Stretch → Option (SetOperator × ClassExpr) → List ClassExpr → List Char →
      Except Fault (ClassExpr × List Char)
  | 0, opened, _, _, _ => throw (.unreadable .classUnclosed [opened])
  | rounds + 1, opened, waiting, items, cs =>
    match skip verbose cs with
    | [] => throw (.unreadable .classUnclosed [opened])
    | ']' :: rest => pure (closeOperand waiting items, rest)
    | '&' :: '&' :: rest =>
      readClass verbose rounds opened (some (.intersection, closeOperand waiting items)) [] rest
    | '-' :: '-' :: rest =>
      readClass verbose rounds opened (some (.difference, closeOperand waiting items)) [] rest
    | '~' :: '~' :: rest =>
      readClass verbose rounds opened (some (.symmetricDifference, closeOperand waiting items)) [] rest
    | '[' :: inner =>
      match readAsciiClass? inner with
      | some (set, rest) => readClass verbose rounds opened waiting (set :: items) rest
      | none => do
        let (start, rest) ← readClassStart verbose ('[' :: inner)
        let (set, rest) ← readClass verbose rounds start.stretch none start.items rest
        readClass verbose rounds opened waiting (.nested set start.negated :: items) rest
    | cs => do
      let (set, rest) ← readRange verbose opened cs
      readClass verbose rounds opened waiting (set :: items) rest

/-- Reads a class, with whose opening bracket the text begins. -/
def readBrackets (verbose : Bool) (cs : List Char) : Except Fault (Expr × List Char) := do
  let (start, rest) ← readClassStart verbose cs
  let (set, rest) ← readClass verbose (cs.length + 1) start.stretch none start.items rest
  pure (.brackets set start.negated, rest)

/-! ### Groups -/

/-- May the character stand at the start of a group name? -/
def isNameStart (c : Char) : Bool := c = '_' || isLetter c

/-- May the character stand in a group name behind its start? -/
def isNameChar (c : Char) : Bool :=
  c = '_' || isLetterOrNumber c || c = '.' || c = '[' || c = ']'

/-- A group name with the stretch where it stands. -/
abbrev Name := List Char × Stretch

/-- Reads the rest of a group name, of which the characters `seen` have been read, last one first. -/
def readNameRest (taken : List Name) (start : List Char) (seen : List Char) :
    List Char → Except Fault (Name × List Char)
  | [] => failAt .nameUnfinished []
  | '>' :: rest =>
    if seen.isEmpty then failAt .nameEmpty start
    else
      let stretch : Stretch := .between start ('>' :: rest)
      match taken.lookup seen.reverse with
      | some earlier => throw (.unreadable .nameTaken [stretch, earlier])
      | none => pure ((seen.reverse, stretch), rest)
  | c :: cs =>
    if (if seen.isEmpty then isNameStart c else isNameChar c) then
      readNameRest taken start (c :: seen) cs
    else failOn .nameCharacter (c :: cs)

/-- Reads a group name up to its closing angle bracket. -/
def readName (taken : List Name) (cs : List Char) : Except Fault (Name × List Char) :=
  readNameRest taken cs [] cs

/-- The flags read so far, last one first, and where each letter stands. -/
abbrev FlagsRead := List ((Flag × Bool) × Stretch)

/-- Where a flag has been read. -/
def FlagsRead.place? (seen : FlagsRead) (f : Flag) : Option Stretch :=
  (seen.find? (·.1.1 = f)).map (·.2)

/-- Reads flag letters up to the colon or parenthesis that ends them, which stays. A dash, allowed
once and not at the end, turns the letters after it off; `dash` is where it stands, and `dangling`
says that no letter has followed yet. -/
def readFlags (seen : FlagsRead) (dash : Option Stretch) (dangling : Bool) :
    List Char → Except Fault (FlagSettings × List Char)
  | [] => failAt .flagsUnfinished []
  | c :: cs =>
    let here : Stretch := .first (c :: cs)
    if c = ':' ∨ c = ')' then
      match dangling, dash with
      | true, some place => throw (.unreadable .dashDangling [place])
      | _, _ => pure ((seen.map (·.1)).reverse, c :: cs)
    else if c = '-' then
      match dash with
      | some place => throw (.unreadable .dashRepeated [here, place])
      | none => readFlags seen (some here) true cs
    else match Flag.ofLetter? c with
      | none => throw (.unreadable .flagUnknown [here])
      | some f =>
        match seen.place? f with
        | some place => throw (.unreadable .flagRepeated [here, place])
        | none => readFlags (((f, dash.isNone), here) :: seen) dash false cs

/-- What an opening parenthesis starts. -/
inductive Opening where
  /-- Flags for the rest of the group around, and no group. -/
  | settings (fs : FlagSettings)
  /-- A group with flags of its own; does it remember what it covers? -/
  | group (captures : Bool) (fs : FlagSettings)
  /-- A group with a name. -/
  | named (name : Name)

/-- Reads an opening parenthesis, with which the text begins, up to the contents of the group. -/
def readOpening (verbose : Bool) (taken : List Name) (start : List Char) :
    Except Fault (Opening × List Char) :=
  match skip verbose start.tail with
  | '?' :: '=' :: rest | '?' :: '!' :: rest | '?' :: '<' :: '=' :: rest
  | '?' :: '<' :: '!' :: rest => fail .lookAround start rest
  | '?' :: 'P' :: '<' :: cs | '?' :: '<' :: cs => do
    let (name, rest) ← readName taken cs
    pure (.named name, rest)
  | '?' :: [] => failOn .groupUnclosed start
  | '?' :: cs => do
    let (fs, rest) ← readFlags [] none false cs
    match rest with
    | ')' :: rest =>
      if fs.isEmpty then failAt .nothingToRepeat ('?' :: cs) else pure (.settings fs, rest)
    | _ :: rest => pure (.group false fs, rest)
    | [] => failAt .flagsUnfinished []
  | cs => pure (.group true [], cs)

/-- Repeats the last item of a branch by an operator, with which the text `here` begins; an empty
branch and bare flags cannot be repeated. -/
def repeatLast (here : List Char) (least : Nat) (most : Option Nat) :
    List Expr → Except Fault (List Expr)
  | [] | .empty :: _ | .setFlags _ :: _ => failAt .nothingToRepeat here
  | e :: es => pure (.repetition e least most :: es)

/-- The `?` behind a repetition, which only says what to prefer. -/
def dropPreference : List Char → List Char
  | '?' :: cs => cs
  | cs => cs

/-- The branches of a group, from the items of the last branch and the branches before it, both last
one first. -/
def closeBranches (branches : List Expr) (items : List Expr) : Expr :=
  Expr.ofBranches (Expr.ofItems items.reverse :: branches).reverse

/-- Reads the contents of the group whose parenthesis is the stretch `opened` (of the whole pattern,
if there is none) up to its end. `taken` are the group names so far. -/
def readGroup : Nat → Option Stretch → Bool → List Name → List Expr → List Expr → List Char →
    Except Fault (Expr × List Name × List Char)
  | 0, _, _, _, _, _, cs => failAt .groupUnclosed cs
  | rounds + 1, opened, verbose, taken, branches, items, cs =>
    let rest := skip verbose cs
    match rest with
    | [] =>
      match opened with
      | some place => throw (.unreadable .groupUnclosed [place])
      | none => pure (closeBranches branches items, taken, [])
    | '(' :: _ => do
      let inside : Option Stretch := some (.first rest)
      let (opening, rest) ← readOpening verbose taken rest
      match opening with
      | .settings fs =>
        let verbose := (fs.value? .verbose).getD verbose
        readGroup rounds opened verbose taken branches (.setFlags fs :: items) rest
      | .group captures fs =>
        let (e, taken, rest) ←
          readGroup rounds inside ((fs.value? .verbose).getD verbose) taken [] [] rest
        readGroup rounds opened verbose taken branches (.group e captures fs :: items) rest
      | .named name =>
        let (e, taken, rest) ← readGroup rounds inside verbose (name :: taken) [] [] rest
        readGroup rounds opened verbose taken branches (.group e true [] :: items) rest
    | ')' :: cs =>
      if opened.isSome then pure (closeBranches branches items, taken, cs)
      else failOn .groupUnopened rest
    | '|' :: cs =>
      readGroup rounds opened verbose taken (Expr.ofItems items.reverse :: branches) [] cs
    | '[' :: _ => do
      let (e, cs) ← readBrackets verbose rest
      readGroup rounds opened verbose taken branches (e :: items) cs
    | '?' :: cs => do
      let items ← repeatLast rest 0 (some 1) items
      readGroup rounds opened verbose taken branches items (dropPreference cs)
    | '*' :: cs => do
      let items ← repeatLast rest 0 none items
      readGroup rounds opened verbose taken branches items (dropPreference cs)
    | '+' :: cs => do
      let items ← repeatLast rest 1 none items
      readGroup rounds opened verbose taken branches items (dropPreference cs)
    | '\x7b' :: cs => do
      let _ ← repeatLast rest 0 none items
      let ((least, most), cs) ← readCounts verbose rest cs
      let items ← repeatLast rest least most items
      readGroup rounds opened verbose taken branches items cs
    | '\\' :: cs => do
      let (e, cs) ← readEscape verbose cs
      readGroup rounds opened verbose taken branches (e :: items) cs
    | '.' :: cs => readGroup rounds opened verbose taken branches (.dot :: items) cs
    | '^' :: cs => readGroup rounds opened verbose taken branches (.anchor .lineStart :: items) cs
    | '$' :: cs => readGroup rounds opened verbose taken branches (.anchor .lineEnd :: items) cs
    | c :: cs =>
      readGroup rounds opened verbose taken branches (.literal ⟨c, false⟩ :: items) cs

end Reader

/-- Reads a whole pattern. -/
def Expr.read (pattern : List Char) : Except Fault Expr := do
  let (e, _, _) ← Reader.readGroup (pattern.length + 1) none false [] [] [] pattern
  if e.depth ≤ nestingLimit then pure e else Reader.fail .nesting pattern []

end LintLedger.Pattern
