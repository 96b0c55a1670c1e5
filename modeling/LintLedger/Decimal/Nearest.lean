/-!
# The nearest binary value to a quotient

A floating-point value is a natural number below a bound, its significand, times a power of two from a
range. Rounding to such a value is exact arithmetic on natural numbers: the power of two is the one that
leaves as many binary digits as the format keeps (or the least one there is), and the quotient by it is
rounded to the nearest integer, a tie to the even one.
-/

namespace LintLedger.Decimal

/-- `2 ^ e` as a quotient of natural numbers. -/
def twoPow (e : Int) : Nat × Nat := (Nat.pow 2 e.toNat, Nat.pow 2 (-e).toNat)

/-- `10 ^ e` as a quotient of natural numbers. -/
def tenPow (e : Int) : Nat × Nat := (Nat.pow 10 e.toNat, Nat.pow 10 (-e).toNat)

/-- The quotient rounded to the nearest integer, a tie to the even one. -/
def roundHalfEven (num den : Nat) : Nat :=
  let q := num / den
  let r := num % den
  if 2 * r < den then q
  else if den < 2 * r then q + 1
  else if q % 2 = 0 then q else q + 1

/-- What a binary format keeps of a number. -/
structure Precision where
  /-- The number of significant bits. -/
  bits : Nat
  /-- The least power of two. -/
  leastExponent : Int
  /-- The greatest power of two of a finite value. -/
  greatestExponent : Int
deriving DecidableEq, Repr

namespace Precision

/-- Values of 64 bits in all, 53 of them significant. -/
def double : Precision := ⟨53, -1074, 971⟩

/-- Values of 80 bits in all, 64 of them significant. -/
def extended : Precision := ⟨64, -16445, 16320⟩

/-- The significands end below this power of two. -/
def significandEnd (p : Precision) : Nat := Nat.pow 2 p.bits

/-- The least significand of a value of full precision. -/
def leastFull (p : Precision) : Nat := Nat.pow 2 (p.bits - 1)

/-- The significand and the power of two of the value nearest to a quotient; `none` if it is too great. -/
def nearest? (p : Precision) (num den : Nat) : Option (Nat × Int) :=
  let guess := max p.leastExponent ((num.log2 : Int) - (den.log2 : Int) - p.bits)
  let scaled (e : Int) : Nat × Nat := (num * (twoPow e).2, den * (twoPow e).1)
  let fits (e : Int) : Bool := (scaled e).1 < p.significandEnd * (scaled e).2
  let exponent := if fits guess then guess else guess + 1
  let significand := roundHalfEven (scaled exponent).1 (scaled exponent).2
  let (significand, exponent) :=
    if significand = p.significandEnd then (p.leastFull, exponent + 1) else (significand, exponent)
  if num = 0 then some (0, p.leastExponent)
  else if exponent ≤ p.greatestExponent then some (significand, exponent) else none

end Precision
end LintLedger.Decimal
