import LintLedger.Decimal.Nearest
import LintLedger.Text.Digits
import LintLedger.Toolbox.Printed

/-!
# Numbers in arguments

How programs read the number at the start of an argument: blanks and a sign in front, whole numbers in
base eight, ten or sixteen by how they start, other numbers in decimal or hexadecimal, by name or with an
exponent. What stands behind the number is left to the caller, and so is a number that does not fit.
-/

namespace LintLedger.Toolbox

/-- Is the byte a blank before a number? -/
def isSpace (c : Char) : Bool := c = ' ' || (0x09 ≤ c.toNat && c.toNat ≤ 0x0D)

/-- The sign in front of a number, behind blanks, and the rest. -/
def readSign (cs : List Char) : Bool × List Char :=
  match cs.dropWhile isSpace with
  | '-' :: rest => (true, rest)
  | '+' :: rest => (false, rest)
  | rest => (false, rest)

/-- The whole number at the start of a text, its sign apart, and the rest; `none` if there is no digit. -/
def readWhole? (cs : List Char) : Option (Bool × Nat × List Char) :=
  let (negative, body) := readSign cs
  let digits (base : Nat) (isDigit : Char → Bool) (cs : List Char) : Option (Bool × Nat × List Char) :=
    let ds := cs.takeWhile isDigit
    if ds.isEmpty then none else some (negative, digitsIn base ds, cs.dropWhile isDigit)
  match body with
  | '0' :: x :: h :: rest =>
    if (x = 'x' || x = 'X') && isHex h then digits 16 isHex (h :: rest) else digits 8 isOctal body
  | '0' :: _ => digits 8 isOctal body
  | _ => digits 10 Text.isDigit body

/-- A number that is not whole. -/
inductive Real where
  /-- A value, `significand * 2 ^ exponent` with a sign. -/
  | finite (negative : Bool) (significand : Nat) (exponent : Int)
  /-- Too great for any value. -/
  | infinite (negative : Bool)
  /-- No number. -/
  | nan (negative : Bool)
deriving DecidableEq, Repr

/-- What reading a number gives. -/
structure RealRead where
  /-- The number. -/
  value : Real
  /-- What stands behind it. -/
  rest : List Char
  /-- Is it not in the range of the format? -/
  outOfRange : Bool := false

/-- The number of a quotient; one too great or too small for the precision is out of range. -/
def RealRead.ofQuotient (p : Decimal.Precision) (negative : Bool) (num den : Nat) (rest : List Char) :
    RealRead :=
  match p.nearest? num den with
  | none => { value := .infinite negative, rest := rest, outOfRange := true }
  | some (n, e) =>
    let exact := n * (Decimal.twoPow e).1 * den = num * (Decimal.twoPow e).2
    { value := .finite negative n e, rest := rest, outOfRange := n < p.leastFull && !exact }

/-- The exponent behind one of the marks, if digits follow, and the rest. -/
def readExponent (marks : List Char) (cs : List Char) : Int × List Char :=
  match cs with
  | c :: rest =>
    if marks.contains c then
      let (negative, body) := match rest with
        | '-' :: rest => (true, rest)
        | '+' :: rest => (false, rest)
        | rest => (false, rest)
      let ds := body.takeWhile Text.isDigit
      if ds.isEmpty then (0, cs)
      else
        let n : Int := Text.digitsValue ds
        (if negative then -n else n, body.dropWhile Text.isDigit)
    else (0, cs)
  | [] => (0, [])

/-- Digits with a point among them, at least one digit: those before and behind the point, and the rest. -/
def readPointed? (isDigit : Char → Bool) (cs : List Char) :
    Option (List Char × List Char × List Char) :=
  let whole := cs.takeWhile isDigit
  let (fraction, rest) := match cs.dropWhile isDigit with
    | '.' :: rest => (rest.takeWhile isDigit, rest.dropWhile isDigit)
    | rest => ([], rest)
  let rest := if whole.isEmpty && fraction.isEmpty then cs else rest
  if whole.isEmpty && fraction.isEmpty then none else some (whole, fraction, rest)

/-- Powers of ten beyond this one are out of every range. -/
def farPower : Int := 6000

/-- The number at the start of a text; `none` if there is none. -/
def readReal? (p : Decimal.Precision) (cs : List Char) : Option RealRead :=
  let (negative, body) := readSign cs
  let startsWith (word : String) : Bool :=
    (body.take word.length).map Char.toLower = word.toList
  let decimal : Option RealRead :=
    (readPointed? Text.isDigit body).map fun (whole, fraction, rest) =>
      let (e, rest) := readExponent ['e', 'E'] rest
      let n := Text.digitsValue (whole ++ fraction)
      let e := e - fraction.length
      let top : Int := (Nat.toDigits 10 n).length + e
      if n = 0 then { value := .finite negative 0 0, rest := rest }
      else if farPower < top then { value := .infinite negative, rest := rest, outOfRange := true }
      else if top < -farPower then { value := .finite negative 0 0, rest := rest, outOfRange := true }
      else .ofQuotient p negative (n * (Decimal.tenPow e).1) (Decimal.tenPow e).2 rest
  if startsWith "infinity" then some { value := .infinite negative, rest := body.drop 8 }
  else if startsWith "inf" then some { value := .infinite negative, rest := body.drop 3 }
  else if startsWith "nan" then
    let rest := body.drop 3
    let inside := (rest.drop 1).takeWhile fun c => c.isAlphanum || c = '_'
    let closed := rest.head? = some '(' && rest[inside.length + 1]? = some ')'
    some { value := .nan negative, rest := if closed then rest.drop (inside.length + 2) else rest }
  else match body with
    | '0' :: x :: rest =>
      if x = 'x' || x = 'X' then
        match readPointed? isHex rest with
        | some (whole, fraction, rest) =>
          let (e, rest) := readExponent ['p', 'P'] rest
          let n := digitsIn 16 (whole ++ fraction)
          let e := e - 4 * fraction.length
          if n = 0 then some { value := .finite negative 0 0, rest := rest }
          else if 20000 < e then
            some { value := .infinite negative, rest := rest, outOfRange := true }
          else if e < -40000 then
            some { value := .finite negative 0 0, rest := rest, outOfRange := true }
          else some (.ofQuotient p negative (n * (Decimal.twoPow e).1) (Decimal.twoPow e).2 rest)
        | none => some { value := .finite negative 0 0, rest := x :: rest }
      else decimal
    | _ => decimal

end LintLedger.Toolbox
