import LintLedger.Text.Split

/-!
# Labels beyond ASCII

The labels of a host name are ASCII on the wire. A label beyond ASCII is coded: its ASCII characters come
first, and behind a hyphen, in digits of changing base, the others in ascending order, each as the
difference in value and place to the one before. `encode` writes the code of a label and `decode?` reads
it.
-/

namespace LintLedger.Location.Label

/-! ### Digits -/

/-- A digit of the code: a letter or, from 26 on, a figure. -/
def digit (n : Nat) : Char := if n < 26 then Char.ofNat (0x61 + n) else Char.ofNat (0x16 + n)

/-- The threshold of the digit at a place, which depends on the numbers coded before. -/
def threshold (place bias : Nat) : Nat :=
  if place ≤ bias then 1 else if bias + 26 ≤ place then 26 else place - bias

theorem threshold_bounds (place bias : Nat) : 1 ≤ threshold place bias ∧ threshold place bias ≤ 26 := by
  unfold threshold
  split
  · omega
  · split <;> omega

/-- A number in digits of changing base. -/
def digitsOf (bias place n : Nat) : List Char :=
  let t := threshold place bias
  if n < t then [digit n]
  else digit (t + (n - t) % (36 - t)) :: digitsOf bias (place + 36) ((n - t) / (36 - t))
termination_by n
decreasing_by
  have := threshold_bounds place bias
  have : (n - threshold place bias) / (36 - threshold place bias) ≤ n - threshold place bias :=
    Nat.div_le_self _ _
  omega

/-- Scales a difference down for the next bias. -/
def scale (delta k : Nat) : Nat :=
  if h : 455 < delta then scale (delta / 35) (k + 36) else k + 36 * delta / (delta + 38)
termination_by delta
decreasing_by exact Nat.div_lt_self (by omega) (by omega)

/-- The bias behind a difference, with so many characters coded. -/
def nextBias (delta coded : Nat) (first : Bool) : Nat :=
  let delta := if first then delta / 700 else delta / 2
  scale (delta + delta / coded) 0

/-! ### Writing -/

/-- What coding a label has come to. -/
structure Coding where
  /-- The characters so far. -/
  code : List Char
  /-- The difference to the character coded last. -/
  delta : Nat := 0
  /-- The bias. -/
  bias : Nat := 72
  /-- How many characters are coded. -/
  coded : Nat
  /-- How many of them are ASCII. -/
  plain : Nat

/-- Passes one character of the label while the code point `m` is coded. -/
def Coding.pass (m : Nat) (s : Coding) (c : Char) : Coding :=
  if c.toNat < m then { s with delta := s.delta + 1 }
  else if c.toNat = m then
    { s with
      code := s.code ++ digitsOf s.bias 36 s.delta
      delta := 0
      bias := nextBias s.delta (s.coded + 1) (s.coded = s.plain)
      coded := s.coded + 1 }
  else s

/-- Codes the code points of a list in ascending order, from `n` on. -/
def Coding.all (label : List Char) : List Nat → Nat → Coding → Coding
  | [], _, s => s
  | m :: ms, n, s =>
    let s := label.foldl (Coding.pass m) { s with delta := s.delta + (m - n) * (s.coded + 1) }
    Coding.all label ms (m + 1) { s with delta := s.delta + 1 }

/-- The code of a label. -/
def encode (label : List Char) : List Char :=
  let plain := label.filter (·.toNat < 0x80)
  let points := ((label.map Char.toNat).filter (0x80 ≤ ·)).mergeSort.eraseDups
  let start := if plain.isEmpty then [] else plain ++ ['-']
  (Coding.all label points 0x80 { code := start, coded := plain.length, plain := plain.length }).code

/-! ### Reading -/

/-- The value of a digit. -/
def digitValue? (c : Char) : Option Nat :=
  if 'a' ≤ c ∧ c ≤ 'z' then some (c.toNat - 0x61)
  else if 'A' ≤ c ∧ c ≤ 'Z' then some (c.toNat - 0x41)
  else if '0' ≤ c ∧ c ≤ '9' then some (c.toNat - 0x30 + 26)
  else none

/-- What reading a code has come to. -/
structure Reading where
  /-- The characters so far. -/
  label : List Char
  /-- The code point of the last one. -/
  point : Nat := 0x80
  /-- The bias. -/
  bias : Nat := 72
  /-- Where the next character comes, as far as its number is read. -/
  index : Nat := 0
  /-- The index before the number that is being read. -/
  before : Nat := 0
  /-- What the next digit of the number counts. -/
  weight : Nat := 1
  /-- The place of the next digit. -/
  place : Nat := 36
  /-- Is no character read yet? -/
  first : Bool := true

/-- Numbers of a code end below this one. -/
def numberEnd : Nat := 0x100000000

/-- The character of a code point. -/
def char? (n : Nat) : Option Char := if h : n.isValidChar then some (Char.ofNatAux n h) else none

/-- Takes in the last digit of a number: its character is put in its place. -/
def Reading.put? (r : Reading) (index : Nat) : Option Reading :=
  let length := r.label.length + 1
  let point := r.point + index / length
  (char? point).map fun c =>
    { label := r.label.insertIdx (index % length) c
      point := point
      bias := nextBias (index - r.before) length r.first
      index := index % length + 1
      before := index % length + 1
      first := false }

/-- Takes in a digit. -/
def Reading.add? (r : Reading) (d : Nat) : Option Reading :=
  let index := r.index + d * r.weight
  let t := threshold r.place r.bias
  if numberEnd ≤ index then none
  else if d < t then r.put? index
  else
    let weight := r.weight * (36 - t)
    if numberEnd ≤ weight then none
    else some { r with index := index, weight := weight, place := r.place + 36 }

/-- The label of a code, in lower case where it is ASCII. -/
def decode? (code : List Char) : Option (List Char) := do
  let behind := (code.reverse.takeWhile (· ≠ '-')).reverse
  let plain := (code.take (code.length - behind.length)).dropLast
  let digits ← (if plain.isEmpty then code else behind).mapM digitValue?
  let r ← digits.foldlM Reading.add? { label := plain.map Char.toLower }
  if r.place = 36 then some r.label else none

end LintLedger.Location.Label
