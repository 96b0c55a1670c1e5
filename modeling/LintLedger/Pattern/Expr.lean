/-!
# Pattern expressions

A pattern as it is written: what the reader of `LintLedger.Pattern.Reader` produces and
`LintLedger.Pattern.Meaning` interprets. The tree keeps the flags where they stand, since a flag holds
from its place to the end of the group around it, in reading order and across `|`.
-/

namespace LintLedger.Pattern

/-- What a flag letter switches. -/
inductive Flag where
  /-- `i`: letters match in either case. -/
  | ignoreCase
  /-- `m`: `^` and `$` match at line ends. -/
  | multiLine
  /-- `s`: the dot matches line feeds too. -/
  | dotAll
  /-- `U`: repetitions prefer few instead of many. -/
  | swapGreed
  /-- `u`: classes range over all characters. -/
  | unicode
  /-- `R`: a carriage return before a line feed belongs to the line end. -/
  | crlf
  /-- `x`: blanks and comments in the pattern do not count. -/
  | verbose
deriving DecidableEq, Repr

/-- The flag of a letter. -/
def Flag.ofLetter? : Char → Option Flag
  | 'i' => some .ignoreCase
  | 'm' => some .multiLine
  | 's' => some .dotAll
  | 'U' => some .swapGreed
  | 'u' => some .unicode
  | 'R' => some .crlf
  | 'x' => some .verbose
  | _ => none

/-- Flags with the value that each is set to. -/
abbrev FlagSettings := List (Flag × Bool)

/-- The value that the settings give a flag, if they name it. -/
def FlagSettings.value? (fs : FlagSettings) (f : Flag) : Option Bool := fs.lookup f

/-- A condition on a place in the text. -/
inductive Anchor where
  /-- `^`. -/
  | lineStart
  /-- `$`. -/
  | lineEnd
  /-- `\A`. -/
  | textStart
  /-- `\z`. -/
  | textEnd
  /-- `\b`: the start or the end of a word. -/
  | wordEdge
  /-- `\B`: neither. -/
  | notWordEdge
  /-- `\b{start}` or `\<`. -/
  | wordStart
  /-- `\b{end}` or `\>`. -/
  | wordEnd
  /-- `\b{start-half}`: no word character before. -/
  | wordStartHalf
  /-- `\b{end-half}`: no word character after. -/
  | wordEndHalf
deriving DecidableEq, Repr

/-- The classes with a letter of their own. -/
inductive Shorthand where
  /-- `\d`. -/
  | digit
  /-- `\s`. -/
  | space
  /-- `\w`. -/
  | word
deriving DecidableEq, Repr

/-- The named classes of ASCII characters. -/
inductive AsciiClass where
  | alnum | alpha | ascii | blank | cntrl | digit | graph | lower | print | punct | space | upper
  | word | xdigit
deriving DecidableEq, Repr

/-- What the braces of `\p{…}` ask for. -/
inductive PropertyQuery where
  /-- A name alone. -/
  | name (name : String)
  /-- A name with a value. -/
  | value (name value : String)
deriving DecidableEq, Repr

/-- A character in a pattern; `byte` says that it is written as a byte, with two hexadecimal digits. -/
structure Literal where
  /-- The character. -/
  char : Char
  /-- Written as `\xNN`? -/
  byte : Bool
deriving DecidableEq, Repr

/-- The operators between sets inside brackets. -/
inductive SetOperator where
  /-- `&&`. -/
  | intersection
  /-- `--`. -/
  | difference
  /-- `~~`. -/
  | symmetricDifference
deriving DecidableEq, Repr

/-- What stands between brackets. -/
inductive ClassExpr where
  /-- Nothing. -/
  | empty
  /-- One character. -/
  | literal (l : Literal)
  /-- All characters between two, both included. -/
  | range (lo hi : Literal)
  /-- `[:name:]` or `[:^name:]`. -/
  | ascii (kind : AsciiClass) (negated : Bool)
  /-- `\d` and its kin. -/
  | shorthand (kind : Shorthand) (negated : Bool)
  /-- `\p{…}` or `\P{…}`. -/
  | property (query : PropertyQuery) (negated : Bool)
  /-- Brackets inside brackets. -/
  | nested (set : ClassExpr) (negated : Bool)
  /-- Neighbours: the members of either. -/
  | union (first rest : ClassExpr)
  /-- Two sets with an operator between them. -/
  | operation (op : SetOperator) (left right : ClassExpr)
deriving Repr

/-- A pattern as it is written. -/
inductive Expr where
  /-- Nothing: matches everywhere, without taking a character. -/
  | empty
  /-- Flags for the rest of the group. -/
  | setFlags (settings : FlagSettings)
  /-- One character. -/
  | literal (l : Literal)
  /-- The dot. -/
  | dot
  /-- A condition on the place. -/
  | anchor (a : Anchor)
  /-- `\d` and its kin. -/
  | shorthand (kind : Shorthand) (negated : Bool)
  /-- `\p{…}` or `\P{…}`. -/
  | property (query : PropertyQuery) (negated : Bool)
  /-- A bracketed class. -/
  | brackets (set : ClassExpr) (negated : Bool)
  /-- At least `least` copies, at most `most` if there is a bound. -/
  | repetition (e : Expr) (least : Nat) (most : Option Nat)
  /-- A group, with the flags it sets for itself; does it remember what it covers? -/
  | group (e : Expr) (captures : Bool) (settings : FlagSettings)
  /-- One after the other. -/
  | concat (first rest : Expr)
  /-- One or the other. -/
  | alternation (first rest : Expr)
deriving Repr

namespace ClassExpr

/-- The set of the items between two operators. -/
def ofItems : List ClassExpr → ClassExpr
  | [] => .empty
  | [e] => e
  | e :: es => .union e (ofItems es)

/-- How deeply sets are nested, a run of neighbours counted as one level. -/
def depth : ClassExpr → Nat
  | .nested s _ => s.depth + 1
  | .union a b => max (a.depth + 1) (if b matches .union _ _ then b.depth else b.depth + 1)
  | .operation _ a b => max a.depth b.depth + 1
  | _ => 0

end ClassExpr

namespace Expr

/-- The items of a branch in order. -/
def ofItems : List Expr → Expr
  | [] => .empty
  | [e] => e
  | e :: es => .concat e (ofItems es)

/-- The branches of a group in order. -/
def ofBranches : List Expr → Expr
  | [] => .empty
  | [e] => e
  | e :: es => .alternation e (ofBranches es)

/-- How deeply expressions are nested, a run of neighbours or of branches counted as one level. -/
def depth : Expr → Nat
  | .brackets s _ => s.depth + 1
  | .repetition e _ _ => e.depth + 1
  | .group e _ _ => e.depth + 1
  | .concat a b => max (a.depth + 1) (if b matches .concat _ _ then b.depth else b.depth + 1)
  | .alternation a b => max (a.depth + 1) (if b matches .alternation _ _ then b.depth else b.depth + 1)
  | _ => 0

end Expr
end LintLedger.Pattern
