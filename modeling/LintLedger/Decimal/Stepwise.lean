import LintLedger.Decimal.Binary64
import LintLedger.Text.Digits

/-!
# Reading a decimal in steps

The quick way to a floating-point value: the digits are gathered into one number as long as it fits 64
bits, and that number is multiplied or divided by a power of ten. Each step rounds, so the value is not
always the one nearest to the decimal: it can be a few units of the last place away. What is given here is
exactly this value, step by step.

* Digits before the point that no longer fit count as a power of ten.
* Digits behind the point that no longer fit are dropped.
* Powers of ten up to `greatestTen` are one product or one quotient. Farther down the number is first
  divided by the greatest of them as often as it takes; farther up there is no value.
-/

namespace LintLedger.Decimal

open LintLedger.Text (digitsValue)

/-- Numbers end below this one, `2 ^ 64`. -/
def wordEnd : Nat := 0x10000000000000000

/-- Appends digits to a number as long as it fits 64 bits, and the digits left over. -/
def gather (n : Nat) : List Char → Nat × List Char
  | [] => (n, [])
  | c :: cs =>
    let next := n * 10 + digitsValue [c]
    if next < wordEnd then gather next cs else (n, c :: cs)

namespace Binary64

/-- The greatest power of ten that is one step. -/
def greatestTen : Nat := 308

/-- A power of ten, rounded. -/
def ten (k : Nat) : Binary64 := (ofNat? (Nat.pow 10 k)).getD (zero false)

/-- A value divided by the greatest of these powers `n` times over, or until nothing is left of it. -/
def shrink? : Nat → Binary64 → Option Binary64
  | 0, x => some x
  | n + 1, x =>
    if x.significand = 0 then some x else (x.quotient? (ten greatestTen)).bind (shrink? n)

/-- A value times `10 ^ e`, in steps; `none` if it is too great. -/
def scaleTen? (x : Binary64) (e : Int) : Option Binary64 :=
  if x.significand = 0 then some x
  else if greatestTen < e then none
  else if 0 ≤ e then x.product? (ten e.toNat)
  else
    let rounds := ((-e).toNat - 1) / greatestTen
    (x.shrink? rounds).bind fun y => y.quotient? (ten ((-e).toNat - rounds * greatestTen))

/-- The value of a decimal with the given digits before and behind the point, times `10 ^ e`, read in
steps; `none` if it is too great. -/
def ofDigits? (negative : Bool) (whole fraction : List Char) (e : Int) : Option Binary64 :=
  let (n, beyond) := gather 0 whole
  let (n, dropped) := gather n fraction
  let e := e + beyond.length - (fraction.length - dropped.length)
  (ofNat? n).bind fun x => (x.scaleTen? e).map (withSign negative)

end Binary64
end LintLedger.Decimal
