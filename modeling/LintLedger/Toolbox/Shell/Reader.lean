import LintLedger.Toolbox.Printed
import LintLedger.Toolbox.Shell.Script

/-!
# Reading scripts

A script is read one line at a time, a line being all that belongs to the commands that start on it, so
what stands before a fault can still be run (`readLine`). What a word or a command may hold inside it is
read by the readers of one level below (`Inner`); there are as many levels as the script has characters.
-/

namespace LintLedger.Toolbox.Shell

/-! ### Tokens -/

/-- A word that means something at the place of a command. -/
inductive Keyword where
  | negation | case | do | done | elif | else | esac | fi | for | if | in | then | until | while
  | opening | closing
deriving DecidableEq, Repr

/-- The keywords as they are written. -/
def Keyword.written : List (String × Keyword) :=
  [("!", .negation), ("case", .case), ("do", .do), ("done", .done), ("elif", .elif), ("else", .else),
    ("esac", .esac), ("fi", .fi), ("for", .for), ("if", .if), ("in", .in), ("then", .then),
    ("until", .until), ("while", .while), ("\x7b", .opening), ("\x7d", .closing)]

/-- A keyword as it is written. -/
def Keyword.text (k : Keyword) : String := ((Keyword.written.find? (·.2 = k)).map (·.1)).getD ""

/-- A redirection before its word. -/
inductive Arrow where
  | read | write | clobber | append | update | duplicate
  /-- A text of the script; `strip` takes the tabs at the start of its lines away. -/
  | document (strip : Bool)
deriving DecidableEq, Repr

/-- A token of a script. -/
inductive Token where
  /-- The end of the script. -/
  | finish
  /-- The end of a line. -/
  | lineEnd
  /-- An operator between commands. -/
  | operator (s : String)
  /-- A redirection of a stream. -/
  | redirect (stream : Nat) (arrow : Arrow)
  /-- A keyword. -/
  | keyword (k : Keyword)
  /-- Any other word. -/
  | word (w : Word)

/-- Is the token the operator? -/
def Token.isOperator (t : Token) (s : String) : Bool :=
  match t with
  | .operator s' => s' = s
  | _ => false

/-- Is the token the keyword? -/
def Token.isKeyword (t : Token) (k : Keyword) : Bool :=
  match t with
  | .keyword k' => k' = k
  | _ => false

/-- The token as it is named in a complaint. -/
def Token.shown : Token → String
  | .finish => "end of file"
  | .lineEnd => "newline"
  | .operator s => "\"" ++ s ++ "\""
  | .redirect .. => "redirection"
  | .keyword k => "\"" ++ k.text ++ "\""
  | .word _ => "word"

/-- Does the token end a list of commands? -/
def Token.closes : Token → Bool
  | .finish => true
  | .operator s => s = ")" || s = ";;"
  | .keyword k => [.do, .done, .elif, .else, .esac, .fi, .then, .closing].contains k
  | _ => false

/-! ### The state of reading -/

/-- A text of the script that has been announced and comes behind the end of the line. -/
structure Pending where
  /-- The number under which the script knows it. -/
  number : Nat
  /-- The line that ends it. -/
  delimiter : List Char
  /-- Take the tabs at the start of its lines away? -/
  strip : Bool
  /-- Stand its characters all for themselves? -/
  quoted : Bool

/-- How far reading has come. -/
structure Reading where
  /-- What is left of the script. -/
  rest : List Char
  /-- The line. -/
  line : Nat := 1
  /-- A token that was read and not used. -/
  held : Option Token := none
  /-- The texts that are announced. -/
  pending : List Pending := []
  /-- How many texts have been announced. -/
  announced : Nat := 0
  /-- The texts of the script so far, by their numbers. -/
  documents : List (Nat × Word) := []
  /-- The texts that stand in for words at the place of a command. -/
  aliases : List (String × String) := []
  /-- The words whose texts are being read, each with the length of what is behind its text. -/
  replaced : List (String × Nat) := []

/-- Where and why a script cannot be read. -/
structure Fault where
  /-- The line. -/
  line : Nat
  /-- What is wrong. -/
  reason : String

/-- A reader. -/
abbrev Read := StateT Reading (Except Fault)

/-- Stops at a fault. -/
def wrong {α : Type} (reason : String) : Read α := do
  throw ⟨(← get).line, reason⟩

/-- Stops at a token that does not belong here. -/
def unexpected {α : Type} (t : Token) (wanted : Option Token := none) : Read α :=
  let wish := match wanted with
    | some t => s!" (expecting {t.shown})"
    | none => ""
  wrong s!"{t.shown} unexpected{wish}"

/-- The text without joined line ends at its start, and how many there were. -/
def joined : List Char → Nat × List Char
  | '\\' :: '\n' :: cs =>
    let (n, cs) := joined cs
    (n + 1, cs)
  | cs => (0, cs)

/-- The next character, which is not taken; line ends behind a backslash are dropped before it. -/
def peek? : Read (Option Char) := do
  let r ← get
  let (n, cs) := joined r.rest
  set { r with rest := cs, line := r.line + n }
  pure cs.head?

/-- Takes a character away. -/
def skip : Read Unit := modify fun r => { r with rest := r.rest.drop 1 }

/-- Takes the next character if it is the given one. -/
def takes (c : Char) : Read Bool := do
  if (← peek?) = some c then
    skip
    pure true
  else pure false

/-- The characters at the start of what is left, and takes them away. -/
def takeWhile (p : Char → Bool) : Read (List Char) := do
  let r ← get
  let rec go : Nat → List Char → Nat → List Char × List Char × Nat
    | 0, cs, n => ([], cs, n)
    | rounds + 1, cs, n =>
      let (m, cs) := joined cs
      match cs with
      | c :: cs' =>
        if p c then
          let (taken, rest, n) := go rounds cs' (n + m)
          (c :: taken, rest, n)
        else ([], cs, n + m)
      | [] => ([], [], n + m)
  let (taken, rest, n) := go (r.rest.length + 1) r.rest 0
  set { r with rest := rest, line := r.line + n }
  pure taken

/-! ### Words -/

/-- Where the characters of a word stand. -/
inductive Context where
  /-- In the word itself. -/
  | bare
  /-- Between double quotation marks. -/
  | double
  /-- Between braces, themselves within quotation marks or not. -/
  | brace (quoted : Bool)
  /-- In a text of the script. -/
  | document
  /-- Between the parentheses of an arithmetic expression. -/
  | sum
deriving DecidableEq, Repr

/-- Do characters stand for themselves in this place? -/
def Context.quoted : Context → Bool
  | .bare => false
  | .brace quoted => quoted
  | _ => true

/-- The readers of one level below. -/
structure Inner where
  /-- Reads a script up to a token that closes it. -/
  script : Read Script
  /-- Reads the parts of a word in a place, and the mark that ends them. -/
  parts : Context → Read Word

/-- Adds characters to a word. -/
def addChars (w : Word) (cs : List Char) (quoted : Bool) : Word :=
  match w.getLast? with
  | some (.literal before q) =>
    if q = quoted then w.dropLast ++ [.literal (before ++ cs) q] else w ++ [.literal cs quoted]
  | _ => w ++ [.literal cs quoted]

/-- Adds a character to a word. -/
def addChar (w : Word) (c : Char) (quoted : Bool) : Word := addChars w [c] quoted

/-- Does the character end a word? -/
def endsWord (c : Char) : Bool := " \t\n;&|<>()".toList.contains c

/-- Is the character one that means nothing in any place? -/
def isOrdinary (c : Char) : Bool := !endsWord c && !"\\$`'\"\x7b\x7d".toList.contains c

/-- The parameters whose names are one sign. -/
def isSpecial (c : Char) : Bool := "*@!-$?#0123456789".toList.contains c

/-- Reads what is left of a script between back quotes, with the escapes that hide back quotes. -/
def readBackQuoted (quoted : Bool) : Nat → Read (List Char)
  | 0 => wrong "EOF in backquote substitution"
  | rounds + 1 => do
    match (← get).rest with
    | [] => wrong "EOF in backquote substitution"
    | '`' :: _ =>
      skip
      pure []
    | '\\' :: '\n' :: _ =>
      discard peek?
      readBackQuoted quoted rounds
    | '\\' :: c :: rest =>
      modify fun r => { r with rest := rest }
      let more ← readBackQuoted quoted rounds
      let hidden := "$`\\".toList.contains c || (quoted && c = '"')
      pure (if hidden then c :: more else '\\' :: c :: more)
    | c :: rest =>
      modify fun r => { r with rest := rest, line := if c = '\n' then r.line + 1 else r.line }
      pure (c :: (← readBackQuoted quoted rounds))

/-- Reads a script in a text of its own. -/
def Inner.scriptOf (i : Inner) (text : List Char) : Read Script := do
  let r ← get
  set { r with rest := text, line := 1, held := none, pending := [] }
  let s ← i.script
  modify fun r' => { r' with rest := r.rest, line := r.line, held := none, pending := r.pending }
  pure s

/-- Reads what stands between the braces of a parameter. -/
def readBraced (i : Inner) (quoted : Bool) : Read Part := do
  let readName : Read String := do
    match ← peek? with
    | some c =>
      if c.isDigit then pure (String.ofList (← takeWhile Char.isDigit))
      else pure (String.ofList (← takeWhile isNameChar))
    | none => pure ""
  let finish (name : String) (use : Word → Use) (inside : Bool) : Read Part := do
    let w ← i.parts (.brace inside)
    pure (.parameter name (use w) quoted)
  let operation (name : String) : Read Part := do
    let orEmpty ← takes ':'
    match ← peek? with
    | some '\x7d' =>
      skip
      pure (.parameter name .value quoted)
    | some '-' =>
      skip
      finish name (.orElse · orEmpty) quoted
    | some '+' =>
      skip
      finish name (.instead · orEmpty) quoted
    | some '?' =>
      skip
      finish name (.orFail · orEmpty) quoted
    | some '=' =>
      skip
      finish name (.orAssign · orEmpty) quoted
    | some '%' =>
      if orEmpty then finish name (fun _ => .bad) quoted
      else
        skip
        let longest ← takes '%'
        finish name (.withoutEnd · longest) false
    | some '#' =>
      if orEmpty then finish name (fun _ => .bad) quoted
      else
        skip
        let longest ← takes '#'
        finish name (.withoutStart · longest) false
    | _ => finish name (fun _ => .bad) quoted
  match ← peek? with
  | some '#' =>
    skip
    match ← peek? with
    | some c =>
      if isNameChar c then
        let name ← readName
        finish name (fun _ => .length) quoted
      else if c ≠ '\x7d' && isSpecial c && ((← get).rest.drop 1).head? = some '\x7d' then
        skip
        finish (String.singleton c) (fun _ => .length) quoted
      else operation "#"
    | none => operation "#"
  | some c =>
    if isNameChar c then operation (← readName)
    else if isSpecial c then
      skip
      operation (String.singleton c)
    else finish "" (fun _ => .bad) quoted
  | none => finish "" (fun _ => .bad) quoted

/-- Reads what follows a dollar sign; nothing, if the sign stands for itself. -/
def readDollar (i : Inner) (quoted : Bool) : Read (Option Part) := do
  match ← peek? with
  | some '(' =>
    skip
    if ← takes '(' then
      let w ← i.parts .sum
      pure (some (.sum w quoted))
    else
      let r ← get
      set { r with held := none, pending := [] }
      let s ← i.script
      match (← get).held with
      | some (.operator ")") =>
        modify fun r' => { r' with held := none, pending := r.pending }
        pure (some (.output s quoted))
      | t => unexpected (t.getD .finish) (some (.operator ")"))
  | some '\x7b' =>
    skip
    some <$> readBraced i quoted
  | some c =>
    if isNameStart c then
      let name ← takeWhile isNameChar
      pure (some (.parameter (String.ofList name) .value quoted))
    else if isSpecial c then
      skip
      pure (some (.parameter (String.singleton c) .value quoted))
    else pure none
  | none => pure none

/-- Reads up to the next single quotation mark. -/
def readSingle : Nat → Read (List Char)
  | 0 => wrong "Unterminated quoted string"
  | rounds + 1 => do
    match (← get).rest with
    | [] => wrong "Unterminated quoted string"
    | c :: rest =>
      modify fun r => { r with rest := rest, line := if c = '\n' then r.line + 1 else r.line }
      if c = '\'' then pure [] else pure (c :: (← readSingle rounds))

/-- Reads the parts of a word in a place. `depth` counts the parentheses that are open in an arithmetic
expression, `inner` says whether a quotation mark is open within quoted braces. -/
def readParts (i : Inner) (place : Context) : Nat → Nat → Bool → Word → Read Word
  | 0, _, _, w => pure w
  | rounds + 1, depth, inner, w => do
    let quoted := place.quoted
    let go (w : Word) : Read Word := readParts i place rounds depth inner w
    let keep (c : Char) : Read Word := do
      skip
      if c = '\n' then modify fun r => { r with line := r.line + 1 }
      go (addChar w c quoted)
    match ← peek? with
    | none =>
      match place with
      | .bare | .document => pure w
      | .double | .brace true => wrong "Unterminated quoted string"
      | .brace false => wrong "Missing '\x7d'"
      | .sum => wrong "Missing '))'"
    | some '\\' =>
      skip
      match (← get).rest with
      | [] => go (addChar w '\\' true)
      | d :: _ =>
        skip
        let special := "\\`$".toList.contains d || (d = '"' && place ≠ .document) ||
          (d = '\x7d' && place = .brace true)
        if quoted && !special then go (addChar (addChar w '\\' true) d true)
        else go (addChar w d true)
    | some '$' =>
      skip
      match ← readDollar i quoted with
      | some part => go (w ++ [part])
      | none => go (addChar w '$' quoted)
    | some '`' =>
      skip
      let text ← readBackQuoted quoted ((← get).rest.length + 1)
      let s ← i.scriptOf text
      go (w ++ [.output s quoted])
    | some '\'' =>
      if quoted then keep '\''
      else
        skip
        let cs ← readSingle ((← get).rest.length + 1)
        go (w ++ [.literal cs true])
    | some '"' =>
      match place with
      | .bare | .brace false =>
        skip
        let inside ← i.parts .double
        go (w ++ .literal [] true :: inside)
      | .double =>
        skip
        pure w
      | .brace true =>
        skip
        readParts i place rounds depth (!inner) w
      | .document | .sum => keep '"'
    | some '\x7d' =>
      match place with
      | .brace _ =>
        if inner then keep '\x7d'
        else
          skip
          pure w
      | _ => keep '\x7d'
    | some '(' =>
      match place with
      | .bare => pure w
      | .sum =>
        skip
        readParts i place rounds (depth + 1) inner (addChar w '(' true)
      | _ => keep '('
    | some ')' =>
      match place with
      | .bare => pure w
      | .sum =>
        skip
        if 0 < depth then readParts i place rounds (depth - 1) inner (addChar w ')' true)
        else if ← takes ')' then pure w
        else go (addChar w ')' true)
      | _ => keep ')'
    | some c =>
      if place = .bare && endsWord c then pure w
      else if isOrdinary c then go (addChars w (← takeWhile isOrdinary) quoted)
      else keep c

/-! ### Tokens and texts -/

/-- The lines of a text of the script, up to the line that ends it, and how many there are. -/
def documentLines (d : Pending) : Nat → List Char → List (List Char) × List Char
  | 0, cs => ([], cs)
  | _ + 1, [] => ([], [])
  | rounds + 1, cs =>
    let line := cs.takeWhile (· ≠ '\n')
    let rest := cs.drop line.length
    let ended := !rest.isEmpty
    let line := if d.strip then line.dropWhile (· = '\t') else line
    if line = d.delimiter then ([], rest.drop 1)
    else
      let (more, rest) := documentLines d rounds (rest.drop 1)
      ((if ended then line ++ ['\n'] else line) :: more, rest)

/-- Reads the texts that are announced. -/
def readDocuments (i : Inner) : Read Unit := do
  let pending := (← get).pending
  modify fun r => { r with pending := [] }
  for d in pending do
    let r ← get
    let (lines, rest) := documentLines d (r.rest.length + 1) r.rest
    let text := lines.flatten
    let w ← if d.quoted then pure [.literal text true] else do
      set { r with rest := text }
      i.parts .document
    let read := r.rest.take (r.rest.length - rest.length)
    let line := r.line + read.count '\n'
    modify fun r' => { r' with rest := rest, line := line, documents := r'.documents ++ [(d.number, w)] }

/-- Takes blanks, joined line ends and a comment away. -/
def skipBlanks : Nat → Read Unit
  | 0 => pure ()
  | rounds + 1 => do
    match ← peek? with
    | some ' ' | some '\t' =>
      skip
      skipBlanks rounds
    | some '#' =>
      modify fun r => { r with rest := r.rest.dropWhile (· ≠ '\n') }
      skipBlanks rounds
    | _ => pure ()

/-- Reads an arrow behind its first sign. -/
def readArrow (stream : Option Nat) : Read Token := do
  match (← get).rest with
  | '>' :: _ =>
    skip
    let arrow : Arrow ←
      if ← takes '>' then pure .append
      else if ← takes '|' then pure .clobber
      else if ← takes '&' then pure .duplicate
      else pure .write
    pure (.redirect (stream.getD 1) arrow)
  | _ =>
    skip
    let arrow : Arrow ←
      if ← takes '<' then pure (.document (← takes '-'))
      else if ← takes '&' then pure .duplicate
      else if ← takes '>' then pure .update
      else pure .read
    pure (.redirect (stream.getD 0) arrow)

/-- Reads the next token as it stands. -/
def rawToken (i : Inner) : Read Token := do
  skipBlanks ((← get).rest.length + 1)
  let doubled (c : Char) : Read Token := do
    skip
    if ← takes c then pure (.operator (String.ofList [c, c])) else pure (.operator (String.singleton c))
  match ← peek? with
  | none =>
    readDocuments i
    pure .finish
  | some '\n' =>
    skip
    modify fun r => { r with line := r.line + 1 }
    readDocuments i
    pure .lineEnd
  | some '&' => doubled '&'
  | some '|' => doubled '|'
  | some ';' => doubled ';'
  | some '(' =>
    skip
    pure (.operator "(")
  | some ')' =>
    skip
    pure (.operator ")")
  | some c =>
    if c = '<' || c = '>' then readArrow none
    else
      let next := ((← get).rest.drop 1).head?
      if c.isDigit && (next = some '<' || next = some '>') then
        skip
        readArrow (some (c.toNat - 0x30))
      else
        let w ← readParts i .bare ((← get).rest.length + 1) 0 false []
        pure (.word w)

/-- Takes line ends away. -/
def dropLineEnds (i : Inner) : Nat → Token → Read Token
  | 0, t => pure t
  | rounds + 1, .lineEnd => do dropLineEnds i rounds (← rawToken i)
  | _, t => pure t

/-- The text that stands in for a word, unless it is being read. -/
def Reading.alias? (r : Reading) (word : String) : Option String :=
  if r.replaced.any fun (w, behind) => w = word && behind < r.rest.length then none
  else r.aliases.lookup word

/-- The keyword that a word is. -/
def keyword? (w : Word) : Option Keyword := (plain? w).bind fun s => Keyword.written.lookup s

/-- Reads the token behind those that other texts stand in for. -/
def replaceWords (i : Inner) (keywords passing : Bool) : Nat → Token → Read Token
  | 0, t => pure t
  | rounds + 1, t => do
    let r ← get
    let found := match t with
      | .word w =>
        if keywords && (keyword? w).isSome then none
        else (plain? w).bind fun s => (r.alias? s).map fun text => (s, text)
      | _ => none
    match found with
    | none => pure t
    | some (s, text) =>
      set { r with rest := text.toList ++ r.rest, replaced := (s, r.rest.length) :: r.replaced }
      let t ← rawToken i
      let t ← if passing then dropLineEnds i (r.rest.length + text.length + 1) t else pure t
      replaceWords i keywords passing rounds t

/-- Reads the next token. `keywords` takes words for keywords, `passing` passes line ends, and `aliases`
puts other texts in place of words. -/
def token (i : Inner) (keywords passing : Bool) (aliases : Bool := keywords) : Read Token := do
  let r ← get
  let t ← match r.held with
    | some t =>
      set { r with held := none }
      if passing then dropLineEnds i (r.rest.length + 1) t else pure t
    | none =>
      let t ← rawToken i
      let t ← if passing then dropLineEnds i (r.rest.length + 1) t else pure t
      if aliases && !r.aliases.isEmpty then replaceWords i keywords passing (r.aliases.length + 1) t
      else pure t
  match t with
  | .word w =>
    match (if keywords then keyword? w else none) with
    | some k => pure (.keyword k)
    | none => pure t
  | t => pure t

/-- Keeps a token for the next reader. -/
def hold (t : Token) : Read Unit := modify fun r => { r with held := some t }

/-! ### Commands -/

/-- Reads the word of a redirection. -/
def readGoal (i : Inner) (stream : Nat) (arrow : Arrow) : Read Redirect := do
  match ← token i false false with
  | .word w =>
    match arrow with
    | .read => pure (Redirect.mk stream (.read w))
    | .write => pure (Redirect.mk stream (.write w false))
    | .clobber => pure (Redirect.mk stream (.write w true))
    | .append => pure (Redirect.mk stream (.append w))
    | .update => pure (Redirect.mk stream (.update w))
    | .duplicate => pure (Redirect.mk stream (.duplicate w))
    | .document strip =>
      let r ← get
      let number := r.announced
      let text := w.flatMap fun p => match p with
        | .literal cs _ => cs
        | .parameter name .value _ => '$' :: name.toList
        | _ => []
      let quoted := w.any fun p => match p with
        | .literal _ q => q
        | _ => false
      let announced : Pending := { number := number, delimiter := text, strip := strip, quoted := quoted }
      set { r with pending := r.pending ++ [announced], announced := number + 1 }
      pure (Redirect.mk stream (.document number))
  | t => unexpected t

/-- Reads the redirections behind a command. -/
def readRedirects (i : Inner) : Nat → Read (List Redirect)
  | 0 => pure []
  | rounds + 1 => do
    match ← token i true false with
    | .redirect stream arrow =>
      let r ← readGoal i stream arrow
      pure (r :: (← readRedirects i rounds))
    | t =>
      hold t
      pure []

/-- Reads words, and gives the token behind them. -/
def readWords (i : Inner) : Nat → Read (List Word × Token)
  | 0 => pure ([], .finish)
  | rounds + 1 => do
    match ← token i false false with
    | .word w =>
      let (ws, t) ← readWords i rounds
      pure (w :: ws, t)
    | t => pure ([], t)

/-- The commands that no script can redefine. -/
def specialNames : List String :=
  [".", ":", "break", "continue", "eval", "exec", "exit", "export", "local", "readonly", "return", "set",
    "shift", "times", "trap", "unset"]

/-- A command of words as it is read. -/
structure Simple where
  /-- The values it gives to parameters. -/
  assignments : List (String × Word) := []
  /-- The words. -/
  words : List Word := []
  /-- The redirections. -/
  redirects : List Redirect := []

/-- Reads a command of words, or a definition; `body` reads the body of one. -/
def readSimple (i : Inner) (body : Read Script) (line : Nat) : Nat → Simple → Read Script
  | 0, c => pure (.simple line c.assignments c.words c.redirects)
  | rounds + 1, c => do
    match ← token i false false c.words.isEmpty with
    | .word w =>
      match (if c.words.isEmpty then assignment? w else none) with
      | some a => readSimple i body line rounds { c with assignments := c.assignments ++ [a] }
      | none => readSimple i body line rounds { c with words := c.words ++ [w] }
    | .redirect stream arrow =>
      let r ← readGoal i stream arrow
      readSimple i body line rounds { c with redirects := c.redirects ++ [r] }
    | .operator "(" =>
      match c.assignments, c.words, c.redirects with
      | [], [w], [] =>
        let t ← token i false false
        if !t.isOperator ")" then unexpected t (some (.operator ")"))
        else match plain? w with
          | some name =>
            if isName name.toList && !specialNames.contains name then
              pure (.define name (← body))
            else wrong "Bad function name"
          | none => wrong "Bad function name"
      | _, _, _ =>
        hold (.operator "(")
        pure (.simple line c.assignments c.words c.redirects)
    | t =>
      hold t
      pure (.simple line c.assignments c.words c.redirects)

/-- Reads a keyword that has to come next. -/
def expect (i : Inner) (k : Keyword) : Read Unit := do
  let t ← token i true false
  if t.isKeyword k then pure () else unexpected t (some (.keyword k))

/-- Reads the branches behind the word `if` or `elif`. -/
def readBranches (i : Inner) (list : Read Script) : Nat → Read Script
  | 0 => list
  | rounds + 1 => do
    let condition ← list
    expect i .then
    let yes ← list
    match ← token i true false with
    | .keyword .elif => pure (.choose condition yes (← readBranches i list rounds))
    | .keyword .else => pure (.choose condition yes (← list))
    | t =>
      hold t
      pure (.choose condition yes .empty)

/-- Reads the patterns of a branch behind the first word. -/
def readPatterns (i : Inner) : Nat → Token → Read (List Word)
  | 0, _ => pure []
  | rounds + 1, t => do
    let w : Word := match t with
      | .word w => w
      | _ => []
    match ← token i false false with
    | .operator "|" => pure (w :: (← readPatterns i rounds (← token i false false)))
    | .operator ")" => pure [w]
    | t => unexpected t (some (.operator ")"))

/-- Reads the branches of a selection up to its end. -/
def readSelection (i : Inner) (openList : Read Script) : Nat → Read (List (List Word × Script))
  | 0 => pure []
  | rounds + 1 => do
    let t ← token i true true false
    if t.isKeyword .esac then pure []
    else
      let t ← if t.isOperator "(" then token i false false else pure t
      -- a keyword is a pattern like any other word here
      let t := match t with
        | .keyword k => .word [.literal k.text.toList false]
        | t => t
      let patterns ← readPatterns i rounds t
      let body ← openList
      let t ← token i true true
      if t.isKeyword .esac then pure [(patterns, body)]
      else if t.isOperator ";;" then pure ((patterns, body) :: (← readSelection i openList rounds))
      else unexpected t (some (.operator ";;"))

/-- The readers of lists of commands: one that has to hold a command, and one that may be empty. -/
structure Lists where
  /-- Reads a list that is not empty. -/
  filled : Read Script
  /-- Reads a list that may be empty. -/
  any : Read Script

/-- Reads the body of a loop. -/
def readBody (i : Inner) (ls : Lists) : Read Script := do
  let t ← token i true true
  if !t.isKeyword .do then unexpected t (some (.keyword .do))
  else
    let body ← ls.filled
    expect i .done
    pure body

/-- Reads a command; `again` reads one inside it. -/
def readCommand (i : Inner) (ls : Lists) (again : Read Script) (passing : Bool) : Read Script := do
  let line := (← get).line
  let size := (← get).rest.length + 1
  let compound (s : Script) : Read Script := do
    let redirects ← readRedirects i size
    pure (if redirects.isEmpty then s else .redirected line s redirects)
  match ← token i true passing with
  | .keyword .if =>
    let s ← readBranches i ls.filled size
    expect i .fi
    compound s
  | .keyword .while =>
    let condition ← ls.filled
    compound (.loop condition (← readBody i ls) true)
  | .keyword .until =>
    let condition ← ls.filled
    compound (.loop condition (← readBody i ls) false)
  | .keyword .for =>
    let name := match ← token i false false with
      | .word w => (plain? w).getD ""
      | _ => ""
    if !isName name.toList then wrong "Bad for loop variable"
    else
      let t ← token i true true
      if t.isKeyword .in then
        let (words, t) ← readWords i size
        match t with
        | .lineEnd | .operator ";" => compound (.each line name (some words) (← readBody i ls))
        | t => unexpected t
      else
        if !t.isOperator ";" then hold t
        compound (.each line name none (← readBody i ls))
  | .keyword .case =>
    match ← token i false false with
    | .word w =>
      let t ← token i true true
      if !t.isKeyword .in then unexpected t (some (.keyword .in))
      else compound (.select line w (← readSelection i ls.any size))
    | t => unexpected t (some (.word []))
  | .operator "(" =>
    let s ← ls.filled
    let t ← token i true false
    if !t.isOperator ")" then unexpected t (some (.operator ")"))
    else pure (.apart line s (← readRedirects i size))
  | .keyword .opening =>
    let s ← ls.filled
    expect i .closing
    compound s
  | .word w =>
    hold (.word w)
    readSimple i again (← get).line size {}
  | .redirect stream arrow =>
    hold (.redirect stream arrow)
    readSimple i again (← get).line size {}
  | t => unexpected t

/-- Reads the commands of a pipe behind the first. -/
def readPipe (i : Inner) (command : Bool → Read Script) : Nat → Read (List Script)
  | 0 => pure []
  | rounds + 1 => do
    let t ← token i false false
    if t.isOperator "|" then
      let s ← command true
      pure (s :: (← readPipe i command rounds))
    else
      hold t
      pure []

/-- Reads a pipe. -/
def readPipeline (i : Inner) (command : Bool → Read Script) (passing : Bool) : Read Script := do
  let t ← token i true passing
  let negated := t.isKeyword .negation
  if !negated then hold t
  let first ← command false
  let more ← readPipe i command ((← get).rest.length + 1)
  let s := if more.isEmpty then first else .pipe (first :: more)
  pure (if negated then .negate s else s)

/-- Reads pipes that depend on the ones before. -/
def readChain (i : Inner) (command : Bool → Read Script) : Nat → Script → Read Script
  | 0, s => pure s
  | rounds + 1, s => do
    let t ← token i false false
    if t.isOperator "&&" then
      readChain i command rounds (.both s (← readPipeline i command true))
    else if t.isOperator "||" then
      readChain i command rounds (.either s (← readPipeline i command true))
    else
      hold t
      pure s

/-- How a list of commands is read. -/
inductive ListKind where
  /-- Up to the end of the line. -/
  | line
  /-- Up to a token that closes it; there is a command in it. -/
  | filled
  /-- Up to a token that closes it. -/
  | any
deriving DecidableEq, Repr

/-- Reads a list of commands; `before` is what was read of it. The result is none at the end of a script
in which there was no command. -/
def readList (i : Inner) (command : Bool → Read Script) (kind : ListKind) :
    Nat → Option Script → Read (Option Script)
  | 0, before => pure before
  | rounds + 1, before => do
    let within := kind ≠ .line
    let t ← token i true within
    hold t
    match t with
    | .lineEnd =>
      modify fun r => { r with held := none }
      pure (some (before.getD .empty))
    | .finish => pure (if within then some (before.getD .empty) else before)
    | _ =>
      let mayEnd := kind = .any || (within && before.isSome)
      if mayEnd && t.closes then pure (some (before.getD .empty))
      else
        let line := (← get).line
        let first ← readPipeline i command false
        let s ← readChain i command ((← get).rest.length + 1) first
        let t ← token i false false
        let s := if t.isOperator "&" then .background line s else s
        let s := match before with
          | some b => .follow b s
          | none => s
        match t with
        | .operator "&" | .operator ";" => readList i command kind rounds (some s)
        | .lineEnd | .finish =>
          hold t
          readList i command kind rounds (some s)
        | t =>
          if within then
            hold t
            pure (some s)
          else unexpected t

/-- The readers inside of which there are so many levels more. -/
def inner : Nat → Inner
  | 0 => ⟨wrong "Script too deep", fun _ => wrong "Script too deep"⟩
  | levels + 1 =>
    let i := inner levels
    { script := do
        let size := (← get).rest.length + 2
        (·.getD .empty) <$> readList i (commandOf i levels) .any size none
      parts := fun place => do readParts i place ((← get).rest.length + 2) 0 false [] }
where
  /-- Reads a command inside of which there are so many levels more. -/
  commandOf (i : Inner) : Nat → Bool → Read Script
    | 0, _ => wrong "Script too deep"
    | levels + 1, passing =>
      let list (kind : ListKind) : Read Script := do
        let size := (← get).rest.length + 2
        (·.getD .empty) <$> readList i (commandOf i levels) kind size none
      readCommand i ⟨list .filled, list .any⟩ (commandOf i levels true) passing

/-- Reads the commands that start on the next line; none, if the script has ended. -/
def readLine (r : Reading) : Except Fault (Option Script × Reading) :=
  let levels := r.rest.length + 2
  let i := inner levels
  (readList i (inner.commandOf i levels) .line (r.rest.length + 2) none).run { r with held := none }

/-- Reads a text as if it stood between quotation marks. -/
def readText (text : List Char) : Except Fault Word := do
  let i := inner (text.length + 2)
  let (w, _) ← (i.parts .document).run { rest := text }
  pure w

end LintLedger.Toolbox.Shell
