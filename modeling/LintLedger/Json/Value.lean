import LintLedger.Decimal.Shortest
import LintLedger.Decimal.Stepwise
import LintLedger.Keyed
import LintLedger.Text.Digits
import LintLedger.Unicode.Ranges

/-!
# JSON values

A JSON value as data. Whole numbers and numbers with a fraction or an exponent are kept apart, since a
field that counts lines takes only the former. An object is the list of its members in the order in
which they are written; the readers give them in ascending order of their names, each name once.
-/

namespace LintLedger

/-- A number in JSON. -/
inductive Json.Number where
  /-- A whole number without fraction and exponent. -/
  | integer (n : Int)
  /-- Any other number. -/
  | real (x : Decimal.Binary64)
deriving DecidableEq, Repr

/-- A JSON value. -/
inductive Json where
  /-- `null`. -/
  | null
  /-- `true` or `false`. -/
  | boolean (b : Bool)
  /-- A number. -/
  | number (n : Json.Number)
  /-- A text. -/
  | text (s : String)
  /-- Values in brackets. -/
  | array (items : List Json)
  /-- Named values in braces. -/
  | object (members : List (String × Json))
deriving Repr

namespace Json

open LintLedger.Text (isDigit digitsValue)

instance : Inhabited Json := ⟨.null⟩

/-- The object with the given members, in ascending order of their names; of members with one name
the last counts. -/
def ofMembers (members : List (String × Json)) : Json := .object (Keyed.ofList members).entries

/-- A whole number. -/
def ofNat (n : Nat) : Json := .number (.integer n)

/-- The value of a member of an object. -/
def member? (j : Json) (name : String) : Option Json :=
  match j with
  | .object members => Keyed.valueAt name members
  | _ => none

/-! ### Numbers as they are written -/

/-- The parts of a decimal number as it is written. -/
structure Numeral where
  /-- Is there a minus sign? -/
  negative : Bool
  /-- The digits before the point. -/
  whole : List Char
  /-- The digits after the point, if there is one. -/
  fraction : Option (List Char)
  /-- The exponent, if there is one. -/
  exponent : Option Int
deriving Repr

/-- The value of a numeral. Without fraction and exponent it is a whole number if it fits 64 bits, with
or without a sign; a negative zero has no whole number. `none` if it is too great for any number. -/
def Numeral.value? (n : Numeral) : Option Number :=
  let whole := digitsValue n.whole
  let real? : Option Number :=
    (Decimal.Binary64.ofDigits? n.negative n.whole (n.fraction.getD []) (n.exponent.getD 0)).map .real
  match n.fraction, n.exponent with
  | none, none =>
    if n.negative then
      if whole = 0 then some (.real (Decimal.Binary64.zero true))
      else if whole ≤ 0x8000000000000000 then some (.integer (-(whole : Int)))
      else real?
    else if whole < 0x10000000000000000 then some (.integer whole)
    else real?
  | _, _ => real?

/-- Where a text stops being a number. -/
inductive NumeralFault where
  /-- There is no first digit. -/
  | noDigits
  /-- No digit follows the point or the sign of the exponent. -/
  | digitMissing
  /-- Neither sign nor digit follows the mark of the exponent. -/
  | exponentMissing
deriving DecidableEq, Repr

/-- The digits at the start of a text, of which there must be one, and the rest. -/
def scanDigits (cs : List Char) : Except (NumeralFault × List Char) (List Char × List Char) :=
  let digits := cs.takeWhile isDigit
  if digits.isEmpty then throw (.digitMissing, cs) else pure (digits, cs.dropWhile isDigit)

/-- The exponent at the start of a text, if there is one, and the rest. -/
def scanExponent (cs : List Char) : Except (NumeralFault × List Char) (Option Int × List Char) :=
  let marked (cs : List Char) : Except (NumeralFault × List Char) (Option Int × List Char) :=
    match cs with
    | '-' :: cs => do
      let (digits, rest) ← scanDigits cs
      pure (some (-(digitsValue digits : Int)), rest)
    | '+' :: cs => do
      let (digits, rest) ← scanDigits cs
      pure (some (digitsValue digits : Int), rest)
    | cs =>
      match scanDigits cs with
      | .ok (digits, rest) => pure (some (digitsValue digits : Int), rest)
      | .error _ => throw (.exponentMissing, cs)
  match cs with
  | 'e' :: cs => marked cs
  | 'E' :: cs => marked cs
  | cs => pure (none, cs)

/-- The unsigned decimal number at the start of a text and the rest: a zero or digits that start with
another one, a fraction, an exponent. A fault carries the text from the character at fault. -/
def scanNumeral (negative : Bool) (cs : List Char) :
    Except (NumeralFault × List Char) (Numeral × List Char) := do
  let (whole, cs) ← match cs with
    | '0' :: rest => pure (['0'], rest)
    | cs =>
      match scanDigits cs with
      | .ok found => pure found
      | .error _ => throw (.noDigits, cs)
  let (fraction, cs) ← match cs with
    | '.' :: cs => do
      let (digits, rest) ← scanDigits cs
      pure (some digits, rest)
    | cs => pure (none, cs)
  let (exponent, cs) ← scanExponent cs
  pure (⟨negative, whole, fraction, exponent⟩, cs)

/-! ### Escaped characters -/

/-- The number of four hexadecimal digits. -/
def fourHexDigits? (a b c d : Char) : Option Nat := Unicode.hexNumber? [a, b, c, d]

/-- The character of two units that stand for one. -/
def pairChar (high low : Nat) : Char :=
  Char.ofNat (0x10000 + (high - 0xD800) * 0x400 + (low - 0xDC00))

/-- Is the number the first unit of a pair? -/
def isHighUnit (n : Nat) : Bool := 0xD800 ≤ n && n < 0xDC00

/-- Is the number the second unit of a pair? -/
def isLowUnit (n : Nat) : Bool := 0xDC00 ≤ n && n < 0xE000

/-- The character behind a one-letter escape that both readers know. -/
def shortEscape? : Char → Option Char
  | '\\' => some '\\'
  | '/' => some '/'
  | 'b' => some '\x08'
  | 'f' => some '\x0C'
  | 'n' => some '\n'
  | 'r' => some '\r'
  | 't' => some '\t'
  | _ => none

end Json
end LintLedger
