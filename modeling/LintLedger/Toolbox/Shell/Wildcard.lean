import LintLedger.Files
import LintLedger.Text.Raw

/-!
# Wildcards

A pattern is made of the characters of a word, of which those that were quoted stand for themselves. It is
read into *pieces* first (`Pattern.ofMarks`), and then fits a text or not (`Pattern.fits`). Patterns are
used in three ways: to select a branch, to cut the start or the end off a value, and to find files.
-/

namespace LintLedger.Toolbox.Shell

/-- A character of a word, and whether it was quoted. -/
structure Mark where
  /-- The character. -/
  char : Char
  /-- Was it quoted? -/
  quoted : Bool
deriving DecidableEq, Repr, Inhabited

/-- The text of a word, the quotation marks forgotten. -/
def textOf (ms : List Mark) : List Char := ms.map Mark.char

/-- Characters as marks. -/
def marksOf (quoted : Bool) (cs : List Char) : List Mark := cs.map fun c => ⟨c, quoted⟩

/-- A member of a set of characters. -/
inductive Member where
  /-- All characters from one to another. -/
  | range (first last : Char)
  /-- The characters of a class. -/
  | ofClass (test : Char → Bool)

/-- Does the member hold a character? -/
def Member.holds (c : Char) : Member → Bool
  | .range first last => first ≤ c && c ≤ last
  | .ofClass test => test c

/-- A piece of a pattern. -/
inductive Piece where
  /-- The character. -/
  | one (c : Char)
  /-- Any character. -/
  | any
  /-- Any text. -/
  | many
  /-- A character of a set, or, if `negated`, of no member of it. -/
  | oneOf (negated : Bool) (members : List Member)

/-- The pieces of a pattern. -/
abbrev Pattern := List Piece

namespace Pattern

/-- The classes of characters by their names; they know ASCII only. -/
def classes : List (String × (Char → Bool)) :=
  let isGraph (c : Char) : Bool := 0x21 ≤ c.toNat && c.toNat ≤ 0x7E
  [("alnum", Char.isAlphanum), ("alpha", Char.isAlpha), ("blank", fun c => c = ' ' || c = '\t'),
    ("cntrl", fun c => c.toNat < 0x20 || c.toNat = 0x7F), ("digit", Char.isDigit), ("graph", isGraph),
    ("lower", Char.isLower), ("print", fun c => c = ' ' || isGraph c),
    ("punct", fun c => isGraph c && !c.isAlphanum),
    ("space", fun c => c = ' ' || (0x09 ≤ c.toNat && c.toNat ≤ 0x0D)), ("upper", Char.isUpper),
    ("xdigit", fun c => c.isDigit || ('a' ≤ c && c ≤ 'f') || ('A' ≤ c && c ≤ 'F'))]

/-- The class named at the start of a text, behind its first bracket, and the rest. -/
def class? (ms : List Mark) : Option ((Char → Bool) × List Mark) :=
  classes.findSome? fun (name, test) =>
    let written := marksOf false (":" ++ name ++ ":]").toList
    if written.isPrefixOf ms then some (test, ms.drop written.length) else none

/-- The members of a set up to its end, and the rest; a bracket that ends no set is one of them at the
start. -/
def members? : Nat → Bool → List Mark → Option (List Member × List Mark)
  | 0, _, _ => none
  | _ + 1, _, [] => none
  | rounds + 1, atStart, m :: ms =>
    if m = ⟨']', false⟩ && !atStart then some ([], ms)
    else
      let more (member : Member) (rest : List Mark) : Option (List Member × List Mark) :=
        (members? rounds false rest).map fun (members, rest) => (member :: members, rest)
      match (if m = ⟨'[', false⟩ then class? ms else none) with
      | some (test, rest) => more (.ofClass test) rest
      | none =>
        match ms with
        | ⟨'-', false⟩ :: last :: rest =>
          if last = ⟨']', false⟩ then more (.range m.char m.char) ms
          else more (.range m.char last.char) rest
        | _ => more (.range m.char m.char) ms

/-- Quotes each character behind an unquoted backslash, which is dropped. -/
def unescape : List Mark → List Mark
  | ⟨'\\', false⟩ :: m :: ms => ⟨m.char, true⟩ :: unescape ms
  | m :: ms => m :: unescape ms
  | [] => []

/-- The pattern of a word in which quoting is done by marks only. -/
def ofQuoted : Nat → List Mark → Pattern
  | 0, _ => []
  | _ + 1, [] => []
  | rounds + 1, m :: ms =>
    if m.quoted then .one m.char :: ofQuoted rounds ms
    else match m.char with
      | '?' => .any :: ofQuoted rounds ms
      | '*' => .many :: ofQuoted rounds ms
      | '[' =>
        let (negated, body) := match ms with
          | ⟨'!', false⟩ :: ms => (true, ms)
          | ms => (false, ms)
        match members? (ms.length + 1) true body with
        | some (members, rest) => .oneOf negated members :: ofQuoted rounds rest
        | none => .one '[' :: ofQuoted rounds ms
      | c => .one c :: ofQuoted rounds ms

/-- The pattern of a word. -/
def ofMarks (ms : List Mark) : Pattern :=
  let ms := unescape ms
  ofQuoted (ms.length + 1) ms

/-- The text and all its ends, the longest first. -/
def tailsOf : List Char → List (List Char)
  | [] => [[]]
  | c :: cs => (c :: cs) :: tailsOf cs

/-- Does the pattern fit the whole text? -/
def fits : Pattern → List Char → Bool
  | [], cs => cs.isEmpty
  | .one c :: ps, d :: cs => c = d && fits ps cs
  | .any :: ps, _ :: cs => fits ps cs
  | .oneOf negated members :: ps, d :: cs => members.any (Member.holds d) != negated && fits ps cs
  | .many :: ps, cs => (tailsOf cs).any (fits ps)
  | _ :: _, [] => false

/-- The text without the part at its start that the pattern fits. -/
def cutStart (p : Pattern) (longest : Bool) (cs : List Char) : List Char :=
  let cuts := List.range (cs.length + 1)
  match (if longest then cuts.reverse else cuts).find? fun n => p.fits (cs.take n) with
  | some n => cs.drop n
  | none => cs

/-- The text without the part at its end that the pattern fits. -/
def cutEnd (p : Pattern) (longest : Bool) (cs : List Char) : List Char :=
  let cuts := List.range (cs.length + 1)
  match (if longest then cuts else cuts.reverse).find? fun n => p.fits (cs.drop n) with
  | some n => cs.take n
  | none => cs

end Pattern

/-! ### Finding files -/

/-- What a raw path leads to. -/
def resolve (f : Files) (path : String) : Except Files.Fault (List String × Entry) :=
  f.resolve (Text.Raw.bytesOf path)

/-- A name as a raw text. -/
def rawName (name : String) : String := String.ofList (Text.Raw.ofBytes (Path.nameBytes name))

/-- The names in a folder, as raw texts, with those of the folder itself and the one above. -/
def namesIn (f : Files) (folder : List String) : List (List Char) :=
  let inside := f.entries.filterMap fun (names, _) =>
    match names.reverse with
    | name :: above => if above.reverse = folder then some (rawName name).toList else none
    | [] => none
  ['.'] :: ['.', '.'] :: inside

/-- May the character be a wildcard? -/
def isWild (m : Mark) : Bool := !m.quoted && (m.char = '*' || m.char = '?' || m.char = '[')

/-- The folder that a raw path leads to; no path is the current one. -/
def folder? (f : Files) (path : List Char) : Option (List String) :=
  match resolve f (if path.isEmpty then "." else String.ofList path) with
  | .ok (names, .folder) => some names
  | _ => none

/-- The paths that the steps of a pattern lead to, from the path of a folder on. -/
def pathsFrom (f : Files) : List (List Mark) → List Char → List (List Char)
  | [], path => [path]
  | step :: steps, path =>
    let last := steps.isEmpty
    let next (name : List Char) : List (List Char) :=
      if last then [path ++ name] else pathsFrom f steps (path ++ name ++ ['/'])
    if !step.any isWild then
      let name := textOf (Pattern.unescape step)
      let found := match resolve f (String.ofList (path ++ name)) with
        | .ok _ => true
        | .error _ => false
      if last && !name.isEmpty && !found then [] else next name
    else match folder? f path with
      | none => []
      | some folder =>
        let hidden := (Pattern.unescape step).head?.any fun m => m.char = '.'
        let names := (namesIn f folder).filter fun name =>
          (hidden || name.head? ≠ some '.') && (Pattern.ofMarks step).fits name
        names.flatMap fun name =>
          if last then [path ++ name]
          else match folder? f (path ++ name) with
            | some _ => next name
            | none => []

/-- Cuts a word at its slashes. -/
def stepsOf : List Mark → List (List Mark)
  | [] => [[]]
  | m :: ms =>
    match stepsOf ms with
    | step :: steps => if m.char = '/' then [] :: step :: steps else (m :: step) :: steps
    | [] => [[m]]

/-- Is a text not behind another one, by code points? -/
def precedes (a b : List Char) : Bool := !List.lex b a fun c d => c.toNat < d.toNat

/-- The files that a word with wildcards names, in order; the word itself, if it names none. -/
def filesOf (f : Files) (ms : List Mark) : List (List Char) :=
  if !ms.any isWild then [textOf ms]
  else
    let found := pathsFrom f (stepsOf ms) []
    if found.isEmpty then [textOf ms] else found.mergeSort precedes

end LintLedger.Toolbox.Shell
