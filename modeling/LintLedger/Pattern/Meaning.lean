import LintLedger.Pattern.Expr
import LintLedger.Pattern.Fault
import LintLedger.Pattern.Regex
import LintLedger.Unicode.CaseFold
import LintLedger.Unicode.Script
import LintLedger.Unicode.Segmentation
import LintLedger.Unicode.Version

/-!
# What patterns mean

From a pattern as it is written to a regular expression over sets of characters: the flags in force at
each place decide what a letter, a dot, an anchor and a class stand for. A flag holds from its place
to the end of the group around it, across `|`, so the flags go through the tree in reading order.

With the `u` flag off, classes are sets of bytes. A text is matched by whole characters, so such a
class may hold ASCII characters only: naming another character is a fault, and so is every negation,
which would let in the bytes of which other characters are made.
-/

namespace LintLedger.Pattern

open LintLedger.Unicode

/-- The flags in force at a place, but for `x`, which only concerns reading. -/
structure Flags where
  /-- Letters match in either case. -/
  ignoreCase : Bool := false
  /-- `^` and `$` match at line ends. -/
  multiLine : Bool := false
  /-- The dot matches line feeds too. -/
  dotAll : Bool := false
  /-- Classes range over all characters. -/
  unicode : Bool := true
  /-- Carriage returns end lines. -/
  crlf : Bool := false
deriving DecidableEq, Repr

/-- The flags after some have been set. -/
def Flags.apply (f : Flags) (settings : FlagSettings) : Flags :=
  { ignoreCase := (settings.value? .ignoreCase).getD f.ignoreCase
    multiLine := (settings.value? .multiLine).getD f.multiLine
    dotAll := (settings.value? .dotAll).getD f.dotAll
    unicode := (settings.value? .unicode).getD f.unicode
    crlf := (settings.value? .crlf).getD f.crlf }

/-! ### Sets of characters -/

/-- The set with the other case of its ASCII letters added. -/
def closeAsciiCase (s : CodeSet) : CodeSet :=
  let shifted (lo hi : Nat) (shift : Nat → Nat) : CodeSet :=
    CodeSet.ofRanges ((s.inter (CodeSet.range lo hi)).ranges.map fun (a, b) => (shift a, shift b))
  CodeSet.unions [s, shifted 0x41 0x5A (· + 0x20), shifted 0x61 0x7A (· - 0x20)]

/-- The set as it matches under the flags: with the other cases added where case does not matter. -/
def Flags.fold (f : Flags) (s : CodeSet) : CodeSet :=
  if f.ignoreCase then (if f.unicode then CaseFold.close s else closeAsciiCase s) else s

/-- The complement of a set, which only exists where classes range over all characters. -/
def Flags.negate (f : Flags) (negated : Bool) (s : CodeSet) : Except Cause CodeSet :=
  if negated then (if f.unicode then pure s.compl else throw .halfCharacter) else pure s

/-- The members of a named class of ASCII characters. -/
def AsciiClass.members (kind : AsciiClass) : CodeSet :=
  CodeSet.ofRanges <| match kind with
  | .alnum => [(0x30, 0x39), (0x41, 0x5A), (0x61, 0x7A)]
  | .alpha => [(0x41, 0x5A), (0x61, 0x7A)]
  | .ascii => [(0x00, 0x7F)]
  | .blank => [(0x09, 0x09), (0x20, 0x20)]
  | .cntrl => [(0x00, 0x1F), (0x7F, 0x7F)]
  | .digit => [(0x30, 0x39)]
  | .graph => [(0x21, 0x7E)]
  | .lower => [(0x61, 0x7A)]
  | .print => [(0x20, 0x7E)]
  | .punct => [(0x21, 0x2F), (0x3A, 0x40), (0x5B, 0x60), (0x7B, 0x7E)]
  | .space => [(0x09, 0x0D), (0x20, 0x20)]
  | .upper => [(0x41, 0x5A)]
  | .word => [(0x30, 0x39), (0x41, 0x5A), (0x5F, 0x5F), (0x61, 0x7A)]
  | .xdigit => [(0x30, 0x39), (0x41, 0x46), (0x61, 0x66)]

/-- The members of a class with a letter of its own. -/
def Shorthand.members (kind : Shorthand) (unicode : Bool) : CodeSet :=
  match kind, unicode with
  | .digit, true => Category.decimalNumber.members
  | .space, true => Property.whiteSpace.members
  | .word, true => wordSet
  | .digit, false => AsciiClass.members .digit
  | .space, false => AsciiClass.members .space
  | .word, false => asciiWordSet

/-- A name in the form in which the tables list names: ASCII in lower case, without blanks, hyphens,
underscores and a leading `is`. The short name `isc` is no prefixed `c`. -/
def looseName (name : String) : String :=
  let kept (cs : List Char) : List Char :=
    (cs.filter fun c => c.toNat < 0x80 && c != ' ' && c != '_' && c != '-').map Char.toLower
  match name.toList with
  | i :: s :: rest =>
    if i.toLower = 'i' ∧ s.toLower = 's' then
      if kept rest = ['c'] then "isc" else String.ofList (kept rest)
    else String.ofList (kept (i :: s :: rest))
  | cs => String.ofList (kept cs)

/-- The members of a general category or a group of them, or of the three sets named like one. -/
def categorySet? (name : String) : Option CodeSet :=
  match name with
  | "any" => some (CodeSet.range 0 0x10FFFF)
  | "ascii" => some (CodeSet.range 0 0x7F)
  | "assigned" => some Category.unassigned.members.compl
  | name => (Category.named? name).map Category.membersOf

/-- The set that a query for a property asks for. A name alone is a property, a category or a script,
in this order, except that three short names are categories first. -/
def PropertyQuery.members? (query : PropertyQuery) : Option CodeSet :=
  match query with
  | .name asked =>
    let wanted := looseName asked
    let property? :=
      if wanted = "cf" ∨ wanted = "sc" ∨ wanted = "lc" then none
      else (Property.named? wanted).map Property.members
    property? <|> categorySet? wanted <|> (Script.named? wanted).map Script.members
  | .value asked which =>
    let wanted := looseName which
    let segment (classes : List Property) : Option CodeSet :=
      (Segmentation.named? classes wanted).map Property.members
    match looseName asked with
    | "gc" | "generalcategory" => categorySet? wanted
    | "sc" | "script" => (Script.named? wanted).map Script.members
    | "scx" | "scriptextensions" => (Script.named? wanted).map Script.extended
    | "age" => Version.members? wanted
    | "gcb" | "graphemeclusterbreak" => segment Segmentation.cluster
    | "wb" | "wordbreak" => segment Segmentation.word
    | "sb" | "sentencebreak" => segment Segmentation.sentence
    | _ => none

/-- The characters with the asked property. -/
def propertySet (f : Flags) (query : PropertyQuery) (negated : Bool) : Except Cause CodeSet :=
  if f.unicode then
    match query.members? with
    | some s => f.negate negated (f.fold s)
    | none => throw .property
  else throw .beyondAscii

/-- The character of a literal; a byte above ASCII is half a character. -/
def Literal.value (l : Literal) (f : Flags) : Except Cause Char :=
  if !f.unicode && l.byte && 0x80 ≤ l.char.toNat then throw .halfCharacter else pure l.char

/-- The character of a literal inside brackets. -/
def Literal.memberValue (l : Literal) (f : Flags) : Except Cause Char := do
  let c ← l.value f
  if !f.unicode && 0x80 ≤ c.toNat then throw .beyondAscii else pure c

/-- The members of what stands between brackets. Case variants are added before a negation and to
both sides of an operator. -/
def ClassExpr.members (f : Flags) : ClassExpr → Except Cause CodeSet
  | .empty => pure CodeSet.empty
  | .literal l => do
    let c ← l.memberValue f
    pure (CodeSet.single c.toNat)
  | .range lo hi => do
    let lo ← lo.memberValue f
    let hi ← hi.memberValue f
    pure (CodeSet.range lo.toNat hi.toNat)
  | .ascii kind negated => f.negate negated (f.fold kind.members)
  | .shorthand kind negated => f.negate negated (kind.members f.unicode)
  | .property query negated => propertySet f query negated
  | .nested set negated => do
    let s ← set.members f
    f.negate negated (f.fold s)
  | .union first rest => do
    let s ← first.members f
    let t ← rest.members f
    pure (s.union t)
  | .operation op left right => do
    let s ← left.members f
    let t ← right.members f
    let s := f.fold s
    let t := f.fold t
    pure <| match op with
      | .intersection => s.inter t
      | .difference => s.diff t
      | .symmetricDifference => s.symmDiff t

/-! ### Expressions -/

/-- What the dot stands for. -/
def dotSet (f : Flags) : Except Cause CodeSet :=
  if f.unicode then
    pure (if f.dotAll then CodeSet.all
      else if f.crlf then (CodeSet.ofRanges [(0x0A, 0x0A), (0x0D, 0x0D)]).compl
      else (CodeSet.single 0x0A).compl)
  else throw .halfCharacter

/-- What an anchor stands for. -/
def Anchor.guard (f : Flags) : Anchor → Guard
  | .lineStart => if f.multiLine then .lineStart f.crlf else .textStart
  | .lineEnd => if f.multiLine then .lineEnd f.crlf else .textEnd
  | .textStart => .textStart
  | .textEnd => .textEnd
  | .wordEdge => .word .either f.unicode
  | .notWordEdge => .word .neither f.unicode
  | .wordStart => .word .start f.unicode
  | .wordEnd => .word .stop f.unicode
  | .wordStartHalf => .word .notBehind f.unicode
  | .wordEndHalf => .word .notBefore f.unicode

/-- The regular expression of a pattern, and the flags in force behind it. -/
def Expr.meaning : Expr → Flags → Except Cause (Regex CodeSet Guard × Flags)
  | .empty, f => pure (.empty, f)
  | .setFlags settings, f => pure (.empty, f.apply settings)
  | .literal l, f => do
    let c ← l.value f
    pure (.step (f.fold (CodeSet.single c.toNat)), f)
  | .dot, f => do
    let s ← dotSet f
    pure (.step s, f)
  | .anchor a, f => pure (.guard (a.guard f), f)
  | .shorthand kind negated, f => do
    let s ← f.negate negated (kind.members f.unicode)
    pure (.step s, f)
  | .property query negated, f => do
    let s ← propertySet f query negated
    pure (.step s, f)
  | .brackets set negated, f => do
    let s ← set.members f
    let s ← f.negate negated (f.fold s)
    pure (.step s, f)
  | .repetition e least most, f => do
    let (r, f) ← e.meaning f
    pure (.repetition r least most, f)
  | .group e captures settings, f => do
    let (r, _) ← e.meaning (f.apply settings)
    pure (.group captures r, f)
  | .concat first rest, f => do
    let (r, f) ← first.meaning f
    let (s, f) ← rest.meaning f
    pure (.concat r s, f)
  | .alternation first rest, f => do
    let (r, f) ← first.meaning f
    let (s, f) ← rest.meaning f
    pure (.alternation r s, f)

end LintLedger.Pattern
