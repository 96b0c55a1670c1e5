import LintLedger.Decimal.Binary64

/-!
# The shortest decimal of a floating-point value

A value stands for all reals that round to it. Its text is the decimal with the fewest digits among
these reals, of two such decimals the nearer one, and on a tie the one with the even last digit. The
search goes over the number of digits: on the grid of decimals with that many digits only the two
neighbours of the value need to be tried.
-/

namespace LintLedger.Decimal

/-- A positive decimal, `digits * 10 ^ exponent`. -/
structure Scaled where
  /-- The digits as one number. -/
  digits : Nat
  /-- The power of ten. -/
  exponent : Int
deriving DecidableEq, Repr

/-- Compares `a * 10 ^ i` with `b * 2 ^ j`. -/
def compareScaled (a : Nat) (i : Int) (b : Nat) (j : Int) : Ordering :=
  compare (a * (tenPow i).1 * (twoPow j).2) (b * (twoPow j).1 * (tenPow i).2)

namespace Binary64

/-- Does the decimal round to the magnitude of the value? The reals that do reach half way to the two
neighbours; the lower neighbour is nearer than the upper one just above a power of two. The ends belong
to the values with an even significand. -/
def isReadFrom (x : Binary64) (d : Scaled) : Bool :=
  let narrow := x.significand = Precision.double.leastFull ∧ Precision.double.leastExponent < x.exponent
  let low := if narrow then 4 * x.significand - 1 else 4 * x.significand - 2
  let high := 4 * x.significand + 2
  let closed := x.significand % 2 = 0
  let below := compareScaled d.digits d.exponent low (x.exponent - 2)
  let above := compareScaled d.digits d.exponent high (x.exponent - 2)
  (below = .gt || (closed && below = .eq)) && (above = .lt || (closed && above = .eq))

/-- The least power of ten above the magnitude of a value that is not zero. -/
def powerAbove (x : Binary64) : Int :=
  let guess : Int := ((x.significand.log2 : Int) + x.exponent) * 30103 / 100000
  let candidates := [guess - 1, guess, guess + 1, guess + 2]
  (candidates.find? fun k => compareScaled 1 k x.significand x.exponent = .gt).getD (guess + 3)

/-- The candidate for a number of digits: of the two neighbours of the value on the grid those that
round to it, the nearer of them, the even one of two that are equally near. -/
def candidate? (x : Binary64) (count : Nat) : Option Scaled :=
  let e := x.powerAbove - count
  let num := x.significand * (twoPow x.exponent).1 * (tenPow e).2
  let den := (twoPow x.exponent).2 * (tenPow e).1
  let lower : Scaled := ⟨num / den, e⟩
  let upper : Scaled := ⟨num / den + 1, e⟩
  match x.isReadFrom lower, x.isReadFrom upper with
  | true, false => some lower
  | false, true => some upper
  | false, false => none
  | true, true => some ⟨roundHalfEven num den, e⟩

/-- The decimal with the trailing zeros of its digits moved into the power of ten. -/
def stripZeros : Nat → Scaled → Scaled
  | 0, d => d
  | n + 1, d =>
    if d.digits ≠ 0 ∧ d.digits % 10 = 0 then stripZeros n ⟨d.digits / 10, d.exponent + 1⟩ else d

/-- The shortest decimal of a value that is not zero. Seventeen digits are enough for every value. -/
def shortest (x : Binary64) : Scaled :=
  let found := ((List.range 17).map (· + 1)).findSome? x.candidate?
  stripZeros 20 (found.getD ⟨0, 0⟩)

/-- The digits of a natural number in base ten. -/
def digitsText (n : Nat) : String := String.ofList (Nat.toDigits 10 n)

/-- A text of zeros. -/
def zeros (n : Nat) : String := String.ofList (List.replicate n '0')

/-- Lays out digits with the point behind the first `point` of them: positional with at least one
digit on either side for values from 0.00001 up to 10 to the 16th, else with a signed exponent. -/
def layout (digits : String) (point : Int) : String :=
  let n : Int := digits.length
  if -5 < point ∧ point ≤ 0 then "0." ++ zeros (-point).toNat ++ digits
  else if 0 < point ∧ point ≤ 16 then
    if n ≤ point then digits ++ zeros (point - n).toNat ++ ".0"
    else (digits.take point.toNat).toString ++ "." ++ (digits.drop point.toNat).toString
  else
    let head := (digits.take 1).toString
    let tail := (digits.drop 1).toString
    let e := point - 1
    head ++ (if tail.isEmpty then "" else "." ++ tail) ++ "e" ++ (if e < 0 then "-" else "+") ++
      digitsText e.natAbs

/-- The text of a value. -/
def text (x : Binary64) : String :=
  let sign := if x.negative then "-" else ""
  if x.significand = 0 then sign ++ "0.0"
  else
    let d := x.shortest
    let digits := digitsText d.digits
    sign ++ layout digits (digits.length + d.exponent)

end Binary64
end LintLedger.Decimal
