import LintLedger.Text.Split
import LintLedger.Unicode.CodeSet

/-!
# Written ranges

The tables of this folder write a set of code points as ascending entries with a blank between
neighbours, each a hexadecimal number (`B5`), two of them for a closed range (`41-5A`), or a range
with a step (`100-12E/2` is every second number from `100` to `12E`).
-/

namespace LintLedger.Unicode

/-- The value of a hexadecimal digit, in either case. -/
def hexDigit? (c : Char) : Option Nat :=
  if '0' ≤ c ∧ c ≤ '9' then some (c.toNat - 0x30)
  else if 'a' ≤ c ∧ c ≤ 'f' then some (c.toNat - 0x57)
  else if 'A' ≤ c ∧ c ≤ 'F' then some (c.toNat - 0x37)
  else none

/-- The number written by hexadecimal digits; `none` for any other character or for no digit. -/
def hexNumber? (cs : List Char) : Option Nat :=
  if cs.isEmpty then none
  else cs.foldlM (fun n c => (hexDigit? c).map (n * 16 + ·)) 0

/-- An arithmetic progression of code points. -/
structure Stride where
  /-- The first member. -/
  lo : Nat
  /-- No member lies above. -/
  hi : Nat
  /-- The distance between neighbours. -/
  step : Nat
deriving Repr

namespace Stride

/-- Reads one entry of a table. -/
def read? (entry : List Char) : Option Stride := do
  let number (cs : List Char) : Option Nat := hexNumber? cs
  match Text.split '/' entry with
  | [range] =>
    match Text.split '-' range with
    | [lo] => do let n ← number lo; pure ⟨n, n, 1⟩
    | [lo, hi] => pure ⟨← number lo, ← number hi, 1⟩
    | _ => none
  | [range, step] =>
    match Text.split '-' range with
    | [lo, hi] => pure ⟨← number lo, ← number hi, ← number step⟩
    | _ => none
  | _ => none

/-- The members in ascending order. -/
def members (s : Stride) : List Nat :=
  (List.range ((s.hi - s.lo) / s.step + 1)).map (s.lo + · * s.step)

/-- Is the number a member? -/
def contains (s : Stride) (n : Nat) : Bool := s.lo ≤ n && n ≤ s.hi && (n - s.lo) % s.step = 0

/-- The members as closed ranges in ascending order. -/
def ranges (s : Stride) : List (Nat × Nat) :=
  if s.step = 1 then [(s.lo, s.hi)] else s.members.map fun n => (n, n)

end Stride

namespace CodeSet

/-- The set of ascending closed ranges; ranges that touch become one. -/
def ofRanges (rs : List (Nat × Nat)) : CodeSet :=
  ⟨rs.foldr (fun (lo, hi) flips =>
    match flips with
    | next :: rest => if next = hi + 1 then lo :: rest else lo :: (hi + 1) :: flips
    | [] => [lo, hi + 1]) []⟩

/-- The set that the lines of a table write. -/
def ofLines (lines : List String) : CodeSet :=
  ofRanges (lines.flatMap fun line =>
    ((Text.split ' ' line.toList).filterMap Stride.read?).flatMap Stride.ranges)

end CodeSet
end LintLedger.Unicode
