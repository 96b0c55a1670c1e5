/-!
# Sets of code points

A set of code points is kept as its *flips*: the ascending list of the numbers at which membership
changes, starting outside the set. `[0x30, 0x3A]` is the set of the ASCII digits, `[0]` is the set of
all code points. In this form complement is a flip at zero, and every set operation that decides
membership point by point is the same sweep over the two lists (`sweep`), with the Boolean operation
as its only parameter.

A number past the last code point may lie in a set (complements have no end); no character has such
a number, so nothing depends on it.
-/

namespace LintLedger.Unicode

/-- A set of code points, as the ascending list of the numbers where membership changes. -/
structure CodeSet where
  /-- The numbers where membership changes. -/
  flips : List Nat
deriving DecidableEq, Repr

namespace CodeSet

/-- Membership after the flips at or below `n`, when it is `inside` before the first of them. -/
def contains.go (n : Nat) : Bool → List Nat → Bool
  | inside, [] => inside
  | inside, p :: ps => if n < p then inside else contains.go n (!inside) ps

/-- Does the set hold the number `n`? -/
def contains (s : CodeSet) (n : Nat) : Bool := contains.go n false s.flips

/-- Does the set hold the code point of `c`? -/
def has (s : CodeSet) (c : Char) : Bool := s.contains c.toNat

/-- The empty set. -/
def empty : CodeSet := ⟨[]⟩

/-- The set of all code points. -/
def all : CodeSet := ⟨[0]⟩

/-- The numbers from `lo` to `hi`, both included; empty when `hi < lo`. -/
def range (lo hi : Nat) : CodeSet := if hi < lo then empty else ⟨[lo, hi + 1]⟩

/-- The set with the one member `n`. -/
def single (n : Nat) : CodeSet := range n n

/-- Emits a flip at `p` exactly if the result of the operation changes there. -/
private def flipAt (p : Nat) (before after : Bool) (rest : List Nat) : List Nat :=
  if before = after then rest else p :: rest

/-- One pass over two flip lists from the lowest number upwards, keeping the membership in either set
and flipping where the Boolean operation `f` of the two changes. -/
def sweep (f : Bool → Bool → Bool) (a b : Bool) : List Nat → List Nat → List Nat
  | [], [] => []
  | p :: ps, [] => flipAt p (f a b) (f (!a) b) (sweep f (!a) b ps [])
  | [], q :: qs => flipAt q (f a b) (f a (!b)) (sweep f a (!b) [] qs)
  | p :: ps, q :: qs =>
    if p < q then flipAt p (f a b) (f (!a) b) (sweep f (!a) b ps (q :: qs))
    else if q < p then flipAt q (f a b) (f a (!b)) (sweep f a (!b) (p :: ps) qs)
    else flipAt p (f a b) (f (!a) (!b)) (sweep f (!a) (!b) ps qs)
termination_by ps qs => ps.length + qs.length

/-- The set whose members are decided by `f` from membership in the two sets. -/
def combine (f : Bool → Bool → Bool) (s t : CodeSet) : CodeSet :=
  let rest := sweep f false false s.flips t.flips
  if f false false then
    match rest with
    | 0 :: rest => ⟨rest⟩
    | rest => ⟨0 :: rest⟩
  else ⟨rest⟩

/-- The members of either set. -/
def union (s t : CodeSet) : CodeSet := combine (· || ·) s t

/-- The members of both sets. -/
def inter (s t : CodeSet) : CodeSet := combine (· && ·) s t

/-- The members of the first set that the second does not hold. -/
def diff (s t : CodeSet) : CodeSet := combine (fun a b => a && !b) s t

/-- The members of exactly one of the two sets. -/
def symmDiff (s t : CodeSet) : CodeSet := combine Bool.xor s t

/-- Every code point that the set does not hold. -/
def compl (s : CodeSet) : CodeSet := symmDiff all s

/-- The members of any of the sets. -/
def unions (ss : List CodeSet) : CodeSet := ss.foldl union empty

/-- Is every member below 128? -/
def isAscii (s : CodeSet) : Bool := (s.diff (range 0 0x7F)).flips.isEmpty

/-- The members as closed ranges of code points, lowest first. -/
def ranges (s : CodeSet) : List (Nat × Nat) := go s.flips
where
  /-- Flips read two by two; a set without a last flip ends at the last code point. -/
  go : List Nat → List (Nat × Nat)
    | lo :: hi :: rest => (lo, hi - 1) :: go rest
    | [lo] => if lo ≤ 0x10FFFF then [(lo, 0x10FFFF)] else []
    | [] => []

end CodeSet
end LintLedger.Unicode
