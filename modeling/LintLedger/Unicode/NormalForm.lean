import LintLedger.Unicode.Composite

/-!
# The composed form of a text

Texts that differ only in how a letter and its marks are written have one composed form: every composite
is taken apart (`parts`), marks behind one base are put in the order of their classes (`order`), and what
stands for one character is put together again (`compose`).
-/

namespace LintLedger.Unicode

/-! ### Syllables -/

/-- The first syllable. -/
def firstSyllable : Nat := 0xAC00

/-- The number of syllables: 19 leads, 21 vowels, 28 tails counting none as one. -/
def syllableCount : Nat := 11172

/-- The letters of a syllable. -/
def syllableParts? (n : Nat) : Option (List Nat) :=
  if firstSyllable ≤ n ∧ n < firstSyllable + syllableCount then
    let i := n - firstSyllable
    let tail := i % 28
    some ([0x1100 + i / 588, 0x1161 + i % 588 / 28] ++ if tail = 0 then [] else [0x11A7 + tail])
  else none

/-- The syllable of a lead and a vowel, or of a syllable without a tail and a tail. -/
def syllable? (a b : Nat) : Option Nat :=
  if 0x1100 ≤ a ∧ a < 0x1113 ∧ 0x1161 ≤ b ∧ b < 0x1176 then
    some (firstSyllable + ((a - 0x1100) * 21 + (b - 0x1161)) * 28)
  else if firstSyllable ≤ a ∧ a < firstSyllable + syllableCount ∧ (a - firstSyllable) % 28 = 0 ∧
      0x11A7 < b ∧ b < 0x11C3 then
    some (a + (b - 0x11A7))
  else none

/-! ### Taking apart -/

/-- How deep composites lie inside each other. -/
def deepest : Nat := 3

/-- The base and the marks of a code point, with composites taken apart so deep. -/
def partsTo : Nat → Nat → List Nat
  | 0, n => [n]
  | depth + 1, n =>
    match composites.of? n with
    | some (base :: marks) => partsTo depth base ++ marks
    | _ => [n]

/-- The base and the marks of a character, or the letters of a syllable. -/
def parts (c : Char) : List Char :=
  ((syllableParts? c.toNat).getD (partsTo deepest c.toNat)).map Char.ofNat

/-! ### Order of marks -/

/-- Puts a character in front of a text in order: a mark moves behind those of a lesser class. -/
def orderFront (c : Char) : List Char → List Char
  | [] => [c]
  | d :: ds =>
    if markClass d ≠ 0 ∧ markClass d < markClass c then d :: orderFront c ds else c :: d :: ds

/-- A text with marks in the order of their classes. -/
def order (cs : List Char) : List Char := cs.foldr orderFront []

/-! ### Putting together -/

/-- The character that stands for two. -/
def composed? (a b : Char) : Option Char :=
  ((syllable? a.toNat b.toNat).or (composites.standing? [a.toNat, b.toNat])).map Char.ofNat

/-- A text that is being put together. -/
structure Composing where
  /-- What is finished. -/
  done : List Char := []
  /-- The base that characters can still join. -/
  base : Option Char := none
  /-- The marks behind it that did not. -/
  marks : List Char := []

/-- All that a composing holds, in order. -/
def Composing.text (s : Composing) : List Char := s.done ++ s.base.toList ++ s.marks

/-- Takes in a character: it joins the base if no mark of its class or a greater one stands between. -/
def Composing.add (s : Composing) (c : Char) : Composing :=
  let blocked : Bool := match s.marks.getLast? with
    | some m => markClass c ≤ markClass m
    | none => false
  let joined? := s.base.bind fun b => if blocked then none else composed? b c
  match joined? with
  | some d => { s with base := some d }
  | none =>
    if markClass c = 0 then { done := s.text, base := some c }
    else { s with marks := s.marks ++ [c] }

/-- The composed form of a text. -/
def normalForm (cs : List Char) : List Char :=
  ((order (cs.flatMap parts)).foldl Composing.add {}).text

end LintLedger.Unicode
