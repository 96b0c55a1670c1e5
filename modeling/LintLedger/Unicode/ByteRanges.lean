import LintLedger.Unicode.CodeSet

/-!
# Sets of code points as sequences of bytes

In UTF-8 a range of code points is a union of *products*: sequences of byte ranges of which every choice
of bytes encodes a member and every member is one choice. A range is cut in two wherever it is none,
at the ends of the lengths and where the trailing bytes run out, until each part is a product.
-/

namespace LintLedger.Unicode.ByteRanges

/-- The first byte of an encoding of a length, without the bits of the code point. -/
def mark : Nat → Nat
  | 0 | 1 => 0
  | 2 => 0xC0
  | 3 => 0xE0
  | _ => 0xF0

/-- The number of bytes of a code point. -/
def byteCount (n : Nat) : Nat :=
  if n < 0x80 then 1 else if n < 0x800 then 2 else if n < 0x10000 then 3 else 4

/-- The bytes of a code point. -/
def bytes (n : Nat) : List Nat :=
  let length := byteCount n
  let trailing := (List.range (length - 1)).map fun i => 0x80 + (n >>> (6 * i)) % 0x40
  (mark length + n >>> (6 * (length - 1))) :: trailing.reverse

/-- The last code point of the first part, if the range has to be cut: at a greatest code point of a
length, or where `count` trailing bytes do not run from their first value to their last. -/
def cut? (lo hi : Nat) : Option Nat :=
  let atLength := [0x7F, 0x7FF, 0xFFFF].find? fun last => lo ≤ last ∧ last < hi
  let atTrailing (count : Nat) : Option Nat :=
    let block := 1 <<< (6 * count)
    if hi < 0x80 ∨ lo / block = hi / block then none
    else if lo % block ≠ 0 then some (lo / block * block + block - 1)
    else if hi % block ≠ block - 1 then some (hi / block * block - 1)
    else none
  atLength <|> atTrailing 1 <|> atTrailing 2 <|> atTrailing 3

/-- The products of a range of code points. -/
def products (lo hi : Nat) : List (List (Nat × Nat)) :=
  if hi < lo then []
  else match cut? lo hi with
    | some last =>
      if _h : lo ≤ last ∧ last < hi then products lo last ++ products (last + 1) hi
      else [(bytes lo).zip (bytes hi)]
    | none => [(bytes lo).zip (bytes hi)]
termination_by hi - lo

/-- The products of a set of code points, those of surrogates left out, in ascending order. -/
def ofSet (s : CodeSet) : List (List (Nat × Nat)) :=
  (s.diff (CodeSet.range 0xD800 0xDFFF)).ranges.flatMap fun (lo, hi) => products lo (min hi 0x10FFFF)

/-- How many first elements two sequences share. -/
def shared : List (Nat × Nat) → List (Nat × Nat) → Nat
  | a :: as, b :: bs => if a = b then shared as bs + 1 else 0
  | _, _ => 0

/-- The number of different starts of the sequences, the empty start not counted: the size of the tree
that they make. Equal starts have to stand side by side. -/
def startCount : List (List (Nat × Nat)) → Nat
  | [] => 0
  | [a] => a.length
  | a :: b :: rest => (a.length - shared a b) + startCount (b :: rest)

end LintLedger.Unicode.ByteRanges
