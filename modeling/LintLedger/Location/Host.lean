import LintLedger.Location.HostName
import LintLedger.Location.Percent
import LintLedger.Text.Digits
import LintLedger.Text.Split

/-!
# Hosts in URLs

The host of a URL in the one spelling that is compared: a name (`LintLedger.Location.HostName`), or an
address of version 4 or 6.
-/

namespace LintLedger.Location

/-- Why a text is no URL. -/
inductive Fault where
  /-- There is no scheme. -/
  | noScheme
  /-- The host is missing. -/
  | emptyHost
  /-- The host is no name. -/
  | badName
  /-- The host holds a character that no host has. -/
  | badCharacter
  /-- The port is no number of 16 bits. -/
  | badPort
  /-- The host looks like an address of version 4 and is none. -/
  | badAddress4
  /-- The host looks like an address of version 6 and is none. -/
  | badAddress6
deriving DecidableEq, Repr

/-- The wording of a fault. -/
def Fault.message : Fault → String
  | .noScheme => "relative URL without a base"
  | .emptyHost => "empty host"
  | .badName => "invalid international domain name"
  | .badCharacter => "invalid domain character"
  | .badPort => "invalid port number"
  | .badAddress4 => "invalid IPv4 address"
  | .badAddress6 => "invalid IPv6 address"

namespace Host

/-! ### Addresses of version 4 -/

/-- The number of a part of an address, and whether it can be one at all: hexadecimal behind `0x`, octal
behind `0`, else decimal. -/
def partNumber? (cs : List Char) : Option Nat :=
  let inBase (base : Nat) (digits : List Char) : Option Nat :=
    digits.foldlM (fun n c =>
      match hexValue? c with
      | some d => if d < base then some (n * base + d) else none
      | none => none) 0
  match cs with
  | [] => none
  | '0' :: 'x' :: digits | '0' :: 'X' :: digits => inBase 16 digits
  | '0' :: d :: digits => inBase 8 (d :: digits)
  | digits => inBase 10 digits

/-- The parts of a name, without the empty one behind a last dot. -/
def parts (cs : List Char) : List (List Char) :=
  let ps := Text.split '.' cs
  if ps.getLast? = some [] then ps.dropLast else ps

/-- Is the last part of a name a number? Then the name must be an address. -/
def endsInNumber (cs : List Char) : Bool :=
  match (parts cs).getLast? with
  | some p => (p ≠ [] && p.all Text.isDigit) || (partNumber? p).isSome
  | none => false

/-- An address of version 4 in its usual spelling. -/
def address4 (n : Nat) : String :=
  s!"{n / 0x1000000}.{n / 0x10000 % 256}.{n / 0x100 % 256}.{n % 256}"

/-- Reads an address of up to four parts, the last of which fills what the others leave. -/
def readAddress4? (cs : List Char) : Option Nat := do
  let numbers ← (parts cs).mapM partNumber?
  let last ← numbers.getLast?
  let firsts := numbers.dropLast
  if 3 < firsts.length ∨ firsts.any (255 < ·) ∨ 1 <<< (8 * (4 - firsts.length)) ≤ last then none
  else
    let (high, _) := firsts.foldl (fun (n, shift) p => (n + p <<< shift, shift - 8)) (0, 24)
    some (high + last)

/-! ### Addresses of version 6 -/

/-- The pieces of one side of an address: up to four hexadecimal digits each, or an address of version
4 as the last two. -/
def pieces? (cs : List Char) : Option (List Nat) :=
  if cs = [] then some []
  else
    let texts := Text.split ':' cs
    let one (isLast : Bool) (t : List Char) : Option (List Nat) :=
      if isLast && t.contains '.' then
        let numbers := Text.split '.' t
        if numbers.length = 4 ∧ numbers.all (fun p => p ≠ [] && p.all Text.isDigit &&
            Text.digitsValue p < 256 && (p.length = 1 || p.head? ≠ some '0')) then
          match numbers.map Text.digitsValue with
          | [a, b, c, d] => some [a * 256 + b, c * 256 + d]
          | _ => none
        else none
      else if t ≠ [] ∧ t.length ≤ 4 then
        (t.foldlM (fun n c => (hexValue? c).map (n * 16 + ·)) 0).map ([·])
      else none
    ((texts.dropLast.mapM (one false)).bind fun firsts =>
      (texts.getLast?.bind (one true)).map fun last => (firsts ++ [last]).flatten)

/-- Cuts a text at the first two colons that stand together. -/
def cutAtGap : List Char → Option (List Char × List Char)
  | ':' :: ':' :: rest => some ([], rest)
  | c :: rest => (cutAtGap rest).map fun (before, after) => (c :: before, after)
  | [] => none

/-- Reads an address of eight pieces; one gap may stand for zeros. -/
def readAddress6? (cs : List Char) : Option (List Nat) :=
  match cutAtGap cs with
  | none => (pieces? cs).filter (·.length = 8)
  | some (before, after) => do
    if before.contains '.' then none
    let left ← pieces? before
    let right ← pieces? after
    if left.length + right.length < 8 then
      some (left ++ List.replicate (8 - left.length - right.length) 0 ++ right)
    else none

/-- The place and the length of the longest run of zeros, if one is longer than a single piece. -/
def longestZeros (ps : List Nat) : Option (Nat × Nat) :=
  let runs := (List.range ps.length).map fun i => (i, ((ps.drop i).takeWhile (· = 0)).length)
  let best := runs.foldl (fun best run => if best.2 < run.2 then run else best) (0, 1)
  if best.2 = 1 then none else some best

/-- An address of version 6 in its usual spelling. -/
def address6 (ps : List Nat) : String :=
  let written (ps : List Nat) := ":".intercalate (ps.map fun n => String.ofList (Nat.toDigits 16 n))
  match longestZeros ps with
  | none => "[" ++ written ps ++ "]"
  | some (start, length) =>
    "[" ++ written (ps.take start) ++ "::" ++ written (ps.drop (start + length)) ++ "]"

/-! ### Hosts -/

/-- Reads the address between brackets, if the host is one. -/
def readBrackets? (cs : List Char) : Option (Except Fault String) :=
  match cs with
  | '[' :: rest =>
    if rest.getLast? = some ']' then
      match readAddress6? rest.dropLast with
      | some ps => some (.ok (address6 ps))
      | none => some (.error .badAddress6)
    else some (.error .badAddress6)
  | _ => none

/-- Reads the host under a scheme that every client knows. -/
def readKnown (cs : List Char) : Except Fault String :=
  match readBrackets? cs with
  | some result => result
  | none =>
    match Text.Utf8.decode? (unescape cs) with
    | none => .error .badName
    | some name =>
      match HostName.normalize? name.toList with
      | none => .error .badName
      | some [] => .error .emptyHost
      | some name =>
        if endsInNumber name then
          match readAddress4? name with
          | some n => .ok (address4 n)
          | none => .error .badAddress4
        else .ok (String.ofList name)

/-- The characters that no host holds. -/
def neverInHost (c : Char) : Bool := "\x00\t\n\r #/:<>?@[\\]^|".toList.contains c

/-- Reads the host under any other scheme. -/
def readOther (cs : List Char) : Except Fault String :=
  match readBrackets? cs with
  | some result => result
  | none =>
    if cs.any neverInHost then .error .badCharacter
    else .ok (String.ofList (escape .plain cs))

end Host
end LintLedger.Location
