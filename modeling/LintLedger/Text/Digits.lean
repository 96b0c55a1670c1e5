/-!
# Numbers in decimal digits

The ten ASCII digits, the number that a run of them writes, and the signed numbers that reports give
their positions in: one sign or none, then at least one digit and nothing else. The value is exact, of
whatever length the run is; ranges are for the reader of the number to check.
-/

namespace LintLedger.Text

/-- Is the character one of the ten ASCII digits? -/
def isDigit (c : Char) : Bool := '0' ≤ c && c ≤ '9'

/-- The number written by decimal digits. -/
def digitsValue (digits : List Char) : Nat := digits.foldl (fun n c => n * 10 + (c.toNat - 0x30)) 0

/-- The number that a text of digits writes; `none` for the empty text and for any other character. -/
def natural? (cs : List Char) : Option Nat :=
  if cs ≠ [] ∧ cs.all isDigit then some (digitsValue cs) else none

/-- The number that a text writes, with one sign or none before its digits. -/
def integer? : List Char → Option Int
  | '-' :: cs => (natural? cs).map fun n => -(n : Int)
  | '+' :: cs => (natural? cs).map Int.ofNat
  | cs => (natural? cs).map Int.ofNat

/-- The digits of a number. -/
def digits (n : Nat) : List Char := Nat.toDigits 10 n

end LintLedger.Text
