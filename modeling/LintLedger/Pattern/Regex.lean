import LintLedger.Unicode.Property

/-!
# Regular expressions

What a pattern means once its flags are settled: an expression whose leaves take one character out of
a set, or take none and ask for a condition on the place. The kinds of the two leaves are parameters,
since the matcher of `LintLedger.Pattern.Matcher` replaces each leaf by the set of places of one text
where it holds and then runs the same expression.

A place of a text is the number of characters before it. `Regex.Matches` says which stretch of a text
an expression covers, from one place to another; it is the meaning that the matcher has to compute.
-/

namespace LintLedger.Pattern

open LintLedger.Unicode (CodeSet Category Property)

/-- A regular expression with leaves that take a character (`σ`) and leaves that take none (`γ`). -/
inductive Regex (σ γ : Type) where
  /-- Covers the empty stretch. -/
  | empty
  /-- Covers one character out of the set. -/
  | step (set : σ)
  /-- Covers the empty stretch where the condition holds. -/
  | guard (condition : γ)
  /-- Covers what the body covers; a group that captures remembers it. -/
  | group (captures : Bool) (body : Regex σ γ)
  /-- One after the other. -/
  | concat (first second : Regex σ γ)
  /-- One or the other. -/
  | alternation (first second : Regex σ γ)
  /-- At least `least` copies one after the other, at most `most` if there is a bound. -/
  | repetition (body : Regex σ γ) (least : Nat) (most : Option Nat)
deriving Repr

/-- The same expression with its leaves replaced. -/
def Regex.mapLeaves {σ γ σ' γ' : Type} (f : σ → σ') (g : γ → γ') : Regex σ γ → Regex σ' γ'
  | .empty => .empty
  | .step s => .step (f s)
  | .guard c => .guard (g c)
  | .group captures a => .group captures (a.mapLeaves f g)
  | .concat a b => .concat (a.mapLeaves f g) (b.mapLeaves f g)
  | .alternation a b => .alternation (a.mapLeaves f g) (b.mapLeaves f g)
  | .repetition a least most => .repetition (a.mapLeaves f g) least most

/-- Which side of a word a place must be on. -/
inductive WordEdge where
  /-- At a start or an end. -/
  | either
  /-- At neither. -/
  | neither
  /-- At a start. -/
  | start
  /-- At an end. -/
  | stop
  /-- Behind no word character. -/
  | notBehind
  /-- Before no word character. -/
  | notBefore
deriving DecidableEq, Repr

/-- A condition on the two neighbours of a place. -/
inductive Guard where
  /-- Nothing before. -/
  | textStart
  /-- Nothing after. -/
  | textEnd
  /-- At the start of a line; `crlf` counts a carriage return as a line end, and one before a line
  feed as half of one. -/
  | lineStart (crlf : Bool)
  /-- At the end of a line. -/
  | lineEnd (crlf : Bool)
  /-- At a place of a word, with words of all characters or of ASCII ones only. -/
  | word (edge : WordEdge) (unicode : Bool)
deriving DecidableEq, Repr

/-- Letters, marks, digits, joining punctuation and the invisible joiners. -/
def wordSet : CodeSet :=
  CodeSet.unions [Property.alphabetic.members, Category.membersOf Category.mark,
    Category.decimalNumber.members, Category.connectorPunctuation.members,
    Property.joinControl.members]

/-- ASCII letters, digits and the underscore. -/
def asciiWordSet : CodeSet :=
  CodeSet.ofRanges [(0x30, 0x39), (0x41, 0x5A), (0x5F, 0x5F), (0x61, 0x7A)]

/-- Is there a neighbour, and does it belong to words? -/
def isWordNeighbour (unicode : Bool) : Option Char → Bool
  | some c => (if unicode then wordSet else asciiWordSet).has c
  | none => false

/-- Does the condition hold between the two neighbours of a place? -/
def Guard.holds (g : Guard) (before after : Option Char) : Bool :=
  match g with
  | .textStart => before.isNone
  | .textEnd => after.isNone
  | .lineStart false => before.isNone || before = some '\n'
  | .lineStart true =>
    before.isNone || before = some '\n' || (before = some '\r' && after ≠ some '\n')
  | .lineEnd false => after.isNone || after = some '\n'
  | .lineEnd true =>
    after.isNone || after = some '\r' || (after = some '\n' && before ≠ some '\r')
  | .word edge unicode =>
    let behind := isWordNeighbour unicode before
    let ahead := isWordNeighbour unicode after
    match edge with
    | .either => behind != ahead
    | .neither => behind == ahead
    | .start => !behind && ahead
    | .stop => behind && !ahead
    | .notBehind => !behind
    | .notBefore => !ahead

/-- The neighbour before a place. -/
def charBefore (text : List Char) : Nat → Option Char
  | 0 => none
  | i + 1 => text[i]?

/-- `r.Matches text i j`: the expression covers the text from place `i` to place `j`. -/
inductive Regex.Matches (text : List Char) : Regex CodeSet Guard → Nat → Nat → Prop where
  /-- The empty expression stays where it is. -/
  | empty {i : Nat} (h : i ≤ text.length) : Matches text .empty i i
  /-- A set takes a member. -/
  | step {s : CodeSet} {i : Nat} {c : Char} (hc : text[i]? = some c) (hs : s.has c = true) :
      Matches text (.step s) i (i + 1)
  /-- A condition holds between the neighbours. -/
  | guard {g : Guard} {i : Nat} (hi : i ≤ text.length)
      (hg : g.holds (charBefore text i) text[i]? = true) : Matches text (.guard g) i i
  /-- A group covers what its body covers. -/
  | group {captures : Bool} {a : Regex CodeSet Guard} {i j : Nat} (h : Matches text a i j) :
      Matches text (.group captures a) i j
  /-- The second expression goes on where the first ends. -/
  | concat {a b : Regex CodeSet Guard} {i j k : Nat} (ha : Matches text a i j)
      (hb : Matches text b j k) : Matches text (.concat a b) i k
  /-- The first choice. -/
  | left {a b : Regex CodeSet Guard} {i j : Nat} (h : Matches text a i j) :
      Matches text (.alternation a b) i j
  /-- The second choice. -/
  | right {a b : Regex CodeSet Guard} {i j : Nat} (h : Matches text b i j) :
      Matches text (.alternation a b) i j
  /-- No copy, where none is needed. -/
  | stop {a : Regex CodeSet Guard} {most : Option Nat} {i : Nat} (h : i ≤ text.length) :
      Matches text (.repetition a 0 most) i i
  /-- One copy more, where the bound allows it. -/
  | again {a : Regex CodeSet Guard} {least : Nat} {most : Option Nat} {i j k : Nat}
      (hmost : most ≠ some 0) (ha : Matches text a i j)
      (hr : Matches text (.repetition a (least - 1) (most.map (· - 1))) j k) :
      Matches text (.repetition a least most) i k

/-- The expression covers some stretch of the text. -/
def Regex.Occurs (r : Regex CodeSet Guard) (text : List Char) : Prop :=
  ∃ i j, r.Matches text i j

end LintLedger.Pattern
