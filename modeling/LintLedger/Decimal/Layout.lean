import LintLedger.Decimal.Nearest

/-!
# Numbers with a fixed count of digits

A quotient of natural numbers written in decimal with as many digits as are asked for, rounded to the
nearest such decimal, a tie to the even one: with a number of places behind the point (`fixed`), with a
number of places behind the first digit and an exponent (`scientific`), or in the shorter of the two forms
with a number of significant digits (`general`).
-/

namespace LintLedger.Decimal

/-- How a number is laid out. -/
structure Layout where
  /-- Write the point, and zeros at the end, even where they could be left out? -/
  whole : Bool := false
  /-- Write the exponent with a capital letter? -/
  capital : Bool := false
deriving DecidableEq, Repr

namespace Layout

/-- The digits of a number, at least so many. -/
def digits (least n : Nat) : List Char :=
  let cs := Nat.toDigits 10 n
  List.replicate (least - cs.length) '0' ++ cs

/-- Digits with a point before the last `places` of them. -/
def withPoint (l : Layout) (places n : Nat) : List Char :=
  let cs := digits (places + 1) n
  let before := cs.take (cs.length - places)
  let behind := cs.drop (cs.length - places)
  before ++ (if behind.isEmpty && !l.whole then [] else '.' :: behind)

/-- A quotient with so many places behind the point. -/
def fixed (l : Layout) (num den places : Nat) : List Char :=
  l.withPoint places (roundHalfEven (num * Nat.pow 10 places) den)

/-- The power of ten of the first digit of a positive quotient. -/
def magnitude (num den : Nat) : Int :=
  let guess : Int := ((num.log2 : Int) - (den.log2 : Int)) * 30103 / 100000
  let reaches (e : Int) : Bool := den * (tenPow e).1 ≤ num * (tenPow e).2
  (([guess + 2, guess + 1, guess, guess - 1].find? reaches).getD (guess - 2))

/-- The digits of a quotient, as one number with `places` digits behind the first, and the power of ten of
the first digit. -/
def significant (num den places : Nat) : Nat × Int :=
  if num = 0 then (0, 0)
  else
    let e := magnitude num den
    let step := e - places
    let n := roundHalfEven (num * (tenPow step).2) (den * (tenPow step).1)
    if n = Nat.pow 10 (places + 1) then (Nat.pow 10 places, e + 1) else (n, e)

/-- A power of ten as it is written behind the digits. -/
def exponent (l : Layout) (e : Int) : List Char :=
  (if l.capital then 'E' else 'e') :: (if e < 0 then '-' else '+') :: digits 2 e.natAbs

/-- A quotient with so many places behind its first digit. -/
def scientific (l : Layout) (num den places : Nat) : List Char :=
  let (n, e) := significant num den places
  l.withPoint places n ++ l.exponent e

/-- Digits without the zeros at their end behind the point, and without a point that ends them. -/
def stripZeros (cs : List Char) : List Char :=
  if cs.contains '.' then
    let rest := cs.reverse.dropWhile (· = '0')
    (match rest with
      | '.' :: rest => rest
      | rest => rest).reverse
  else cs

/-- A quotient with so many significant digits: with an exponent if the first digit stands far before or
behind the point. -/
def general (l : Layout) (num den count : Nat) : List Char :=
  let count := max count 1
  let (n, e) := significant num den (count - 1)
  let strip (cs : List Char) : List Char := if l.whole then cs else stripZeros cs
  if -4 ≤ e ∧ e < count then strip (l.fixed num den (count - 1 - e).toNat)
  else strip (l.withPoint (count - 1) n) ++ l.exponent e

end Layout
end LintLedger.Decimal
