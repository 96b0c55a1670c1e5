import LintLedger.Toolbox.Shell.State

/-!
# Conditions

What the arguments of `test` ask: about a text, about two texts or numbers, about a file, or about such
conditions joined by words. An argument that looks like an operator is one where an operator can stand, and
an operand elsewhere, so the same words can be read in more than one way; how many there are decides first
(`Condition.holds`).
-/

namespace LintLedger.Toolbox.Shell.Condition

/-- What kind of operator a word is. -/
inductive Kind where
  /-- One that asks about the word behind it. -/
  | unary
  /-- One that asks about the words before and behind it. -/
  | binary
  /-- One between or before conditions, or a parenthesis. -/
  | joining
deriving DecidableEq, Repr

/-- The kind of an operator. -/
def kind? (word : String) : Option Kind :=
  if ["-r", "-w", "-x", "-e", "-f", "-d", "-c", "-b", "-p", "-u", "-g", "-k", "-s", "-t", "-z", "-n", "-h",
      "-O", "-G", "-L", "-S"].contains word then some .unary
  else if ["=", "!=", "<", ">", "-eq", "-ne", "-ge", "-gt", "-le", "-lt", "-nt", "-ot", "-ef"].contains word
    then some .binary
  else if ["!", "-a", "-o", "(", ")"].contains word then some .joining
  else none

/-- A word as it is read where it stands. -/
inductive Reading where
  /-- There is none. -/
  | finish
  /-- It is an operand. -/
  | operand
  /-- It is an operator. -/
  | operator (word : String) (kind : Kind)
deriving DecidableEq, Repr

/-- Reads the first of the words. -/
def read : List String → Reading
  | [] => .finish
  | word :: rest =>
    match kind? word with
    | some kind =>
      let isOperand : Bool := match kind, rest with
        | .unary, [] => true
        | .unary, [_] => false
        | .unary, next :: _ => kind? next = some .binary
        | .joining, [] => word = "("
        | _, _ => false
      if isOperand then .operand else .operator word kind
    | none => .operand

/-- Is the operator read there? -/
def Reading.isWord (r : Reading) (word : String) : Bool :=
  match r with
  | .operator w _ => w = word
  | _ => false

/-- A whole number of an operand. -/
def numberOf (word : String) : Except String Int :=
  let (negative, body) := readSign word.toList
  let digits := body.takeWhile Text.isDigit
  let rest := (body.dropWhile Text.isDigit).dropWhile isSpace
  let n := Text.digitsValue digits
  let most := if negative then signedEnd else signedEnd - 1
  if digits.isEmpty || !rest.isEmpty || most < n then .error s!"Illegal number: {word}"
  else .ok (if negative then -n else n)

/-- Devices that are there on every system. -/
def isDevice (path : String) : Bool := ["/dev/null", "/dev/zero", "/dev/full", "/dev/random"].contains path

/-- Is there a link at the path? -/
def isLink (f : Files) (path : String) : Bool :=
  let names := Path.names path
  let name := Path.nameOfBytes (Text.Raw.bytesOf (names.getLast?.getD ""))
  let above := "/".intercalate names.dropLast
  let folder := if names.length = 1 then "." else if above.isEmpty then "/" else above
  match resolve f folder with
  | .ok (place, .folder) =>
    match f.entry? (place ++ [name]) with
    | some (.link _) => true
    | _ => false
  | _ => false

/-- Asks about a word. -/
def ask (f : Files) (operator word : String) : Except String Bool :=
  let found := resolve f word
  match operator with
  | "-z" => .ok word.isEmpty
  | "-n" => .ok !word.isEmpty
  | "-t" => do
    discard (numberOf word)
    pure false
  | "-h" | "-L" => .ok (isLink f word)
  | "-e" | "-w" | "-O" | "-G" => .ok (match found with | .ok _ => true | .error _ => isDevice word)
  | "-r" =>
    .ok (match found with | .ok (place, _) => f.fault? place ≠ some .notPermitted | .error _ => isDevice word)
  | "-c" => .ok (isDevice word)
  | "-d" | "-x" => .ok (match found with | .ok (_, .folder) => true | _ => false)
  | "-f" => .ok (match found with | .ok (_, .file _) => true | _ => false)
  | "-s" =>
    .ok (match found with | .ok (_, .file content) => !content.isEmpty | .ok _ => true | .error _ => false)
  | _ => .ok false

/-- Asks about two words. -/
def compare (f : Files) (operator first second : String) : Except String Bool := do
  let numbers (p : Int → Int → Bool) : Except String Bool := do
    let a ← numberOf first
    let b ← numberOf second
    pure (p a b)
  match operator with
  | "=" => pure (first = second)
  | "!=" => pure (first ≠ second)
  | "<" => pure (first < second)
  | ">" => pure (second < first)
  | "-eq" => numbers (· = ·)
  | "-ne" => numbers (· ≠ ·)
  | "-ge" => numbers (· ≥ ·)
  | "-gt" => numbers (· > ·)
  | "-le" => numbers (· ≤ ·)
  | "-lt" => numbers (· < ·)
  | "-ef" =>
    match resolve f first, resolve f second with
    | .ok (a, _), .ok (b, _) => pure (a = b)
    | _, _ => pure false
  | _ => pure false

/-- What asking gave: the answer, the last word that was read, and the words behind it. -/
structure Answer where
  /-- Does the condition hold? -/
  holds : Bool
  /-- The last word that was read, if there was one. -/
  last : Option String
  /-- The words behind it. -/
  rest : List String

/-- Reads conditions that are joined by an operator, and joins their answers. -/
def joined (operator : String) (join : Bool → Bool → Bool)
    (below : Reading → List String → Except String Answer) :
    Nat → Reading → List String → Except String Answer
  | 0, r, words => below r words
  | rounds + 1, r, words => do
    let a ← below r words
    if (read a.rest).isWord operator then
      let words := a.rest.drop 1
      let b ← joined operator join below rounds (read words) words
      pure { b with holds := join a.holds b.holds }
    else pure a

/-- Reads the condition at the start of words, of which the first is read as given. -/
def whole (f : Files) : Nat → Reading → List String → Except String Answer
  | 0, _, _ => .error "too many arguments"
  | rounds + 1, r, words =>
    joined "-o" or (joined "-a" and (single rounds (whole f rounds)) rounds) rounds r words
where
  /-- Reads a condition that is not joined; `inside` reads what stands between parentheses. -/
  single (rounds : Nat) (inside : Reading → List String → Except String Answer) (r : Reading)
      (words : List String) : Except String Answer :=
    match rounds with
    | 0 => .error "too many arguments"
    | rounds + 1 => do
      let rest := words.drop 1
      match r, words with
      | .operator "!" _, _ =>
        let a ← single rounds inside (read rest) rest
        pure { a with holds := !a.holds, last := a.last <|> words.head? }
      | .operator "(" _, _ =>
        if (read rest).isWord ")" then pure ⟨false, some ")", rest.drop 1⟩
        else
          let a ← inside (read rest) rest
          if (read a.rest).isWord ")" then pure { a with last := some ")", rest := a.rest.drop 1 }
          else throw "closing paren expected"
      | .operator word .unary, _ =>
        match rest with
        | [] => throw s!"{word}: argument expected"
        | operand :: rest => pure ⟨← ask f word operand, some operand, rest⟩
      | _, [] => pure ⟨false, none, []⟩
      | _, word :: rest =>
        match read rest with
        | .operator operator .binary =>
          match rest.drop 1 with
          | [] => throw s!"{operator}: argument expected"
          | second :: rest => pure ⟨← compare f operator word second, some second, rest⟩
        | _ => pure ⟨!word.isEmpty, some word, rest⟩

/-- Asks whether the condition that words make holds, or, if it is `negated`, whether it does not. -/
def holds (f : Files) : Nat → Bool → List String → Except String Bool
  | 0, _, _ => .ok false
  | _ + 1, _, [] => .ok false
  | rounds + 1, negated, words => do
    let ask (r : Reading) (words : List String) : Except String Bool := do
      let a ← whole f (2 * words.length + 2) r words
      match a.last, a.rest with
      | some last, _ :: _ =>
        throw (if last.isEmpty then "unexpected operator" else s!"{last}: unexpected operator")
      | _, _ => pure (a.holds != negated)
    let fewer : Except String Bool :=
      let inside := (words.drop 1).dropLast
      if words.head? = some "(" && words.getLast? = some ")" then ask (read inside) inside
      else if words.head? = some "!" then holds f rounds true (words.drop 1)
      else ask (read words) words
    match words with
    | [_, operator, _] => if kind? operator = some .binary then ask .operand words else fewer
    | [_, _, _, _] => fewer
    | _ => ask (read words) words

/-- Asks whether the condition that words make holds. -/
def ofWords (f : Files) (words : List String) : Except String Bool :=
  holds f (words.length + 1) false words

end LintLedger.Toolbox.Shell.Condition
