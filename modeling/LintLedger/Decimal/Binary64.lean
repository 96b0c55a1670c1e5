import LintLedger.Decimal.Nearest

/-!
# Binary floating point, exactly

A finite 64-bit floating-point value is a sign and a significand times a power of two. Products and
quotients of such values are worked out on natural numbers and rounded once, to the nearest value.
-/

namespace LintLedger.Decimal

/-- A finite 64-bit floating-point value, `significand * 2 ^ exponent` with a sign. -/
structure Binary64 where
  /-- Below zero, or the negative zero? -/
  negative : Bool
  /-- The significant bits, below `2 ^ 53`. -/
  significand : Nat
  /-- The power of two, at least `-1074`. -/
  exponent : Int
deriving DecidableEq, Repr

namespace Binary64

/-- Zero with a sign. -/
def zero (negative : Bool) : Binary64 := ⟨negative, 0, Precision.double.leastExponent⟩

/-- The value nearest to a quotient; `none` if it is too great. -/
def ofQuotient? (negative : Bool) (num den : Nat) : Option Binary64 :=
  (Precision.double.nearest? num den).map fun (significand, exponent) => ⟨negative, significand, exponent⟩

/-- The value nearest to a natural number. -/
def ofNat? (n : Nat) : Option Binary64 := ofQuotient? false n 1

/-- The magnitude of a value as a quotient of natural numbers. -/
def magnitude (x : Binary64) : Nat × Nat := (x.significand * (twoPow x.exponent).1, (twoPow x.exponent).2)

/-- The product of two values, rounded; `none` if it is too great. -/
def product? (x y : Binary64) : Option Binary64 :=
  ofQuotient? (x.negative != y.negative) (x.magnitude.1 * y.magnitude.1) (x.magnitude.2 * y.magnitude.2)

/-- The quotient of two values, the second not zero, rounded; `none` if it is too great. -/
def quotient? (x y : Binary64) : Option Binary64 :=
  ofQuotient? (x.negative != y.negative) (x.magnitude.1 * y.magnitude.2) (x.magnitude.2 * y.magnitude.1)

/-- The value with the given sign. -/
def withSign (negative : Bool) (x : Binary64) : Binary64 := { x with negative }

end Binary64
end LintLedger.Decimal
