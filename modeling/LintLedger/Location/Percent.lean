import LintLedger.Text.Utf8

/-!
# Percent escapes

A URL writes a byte that it cannot show as a percent sign and two hexadecimal digits. Which characters
it can show differs from part to part (`Part`); controls and all beyond ASCII are always escaped, and
an escape that is there already stays.
-/

namespace LintLedger.Location

open LintLedger.Text (Utf8.encode Utf8.decodeLossy)

/-- A part of a URL with escapes of its own. -/
inductive Part where
  /-- A path that is not made of names. -/
  | plain
  /-- A name in a path. -/
  | name
  /-- A name in the path of a file, in which nothing counts as an escape. -/
  | fileName
  /-- Who asks. -/
  | user
  /-- A query. -/
  | query
  /-- A query under a scheme that every client knows. -/
  | knownQuery
  /-- A fragment. -/
  | fragment
deriving DecidableEq, Repr

/-- The ASCII characters with a glyph that a part cannot show. -/
def Part.escaped : Part → List Char
  | .plain => []
  | .fragment => " \"<>`".toList
  | .query => " \"#<>".toList
  | .knownQuery => " \"#<>'".toList
  | .name => " \"#<>?`\x7b\x7d".toList
  | .fileName => " \"#<>?`\x7b\x7d/%\\".toList
  | .user => " \"#<>?`\x7b\x7d/:;=@[\\]^|".toList

/-- Does the part show the character as it is? -/
def Part.shows (p : Part) (c : Char) : Bool :=
  0x20 ≤ c.toNat && c.toNat < 0x7F && !p.escaped.contains c

/-- A hexadecimal digit in upper case. -/
def upperHex (n : Nat) : Char := if n < 10 then Char.ofNat (0x30 + n) else Char.ofNat (0x37 + n)

/-- A byte as an escape. -/
def escapeByte (b : UInt8) : List Char := ['%', upperHex (b.toNat / 16), upperHex (b.toNat % 16)]

/-- A text with all escaped that the part cannot show. -/
def escape (p : Part) (cs : List Char) : List Char :=
  cs.flatMap fun c => if p.shows c then [c] else (String.utf8EncodeChar c).flatMap escapeByte

/-- The value of a hexadecimal digit. -/
def hexValue? (c : Char) : Option Nat :=
  if '0' ≤ c ∧ c ≤ '9' then some (c.toNat - 0x30)
  else if 'a' ≤ c ∧ c ≤ 'f' then some (c.toNat - 0x57)
  else if 'A' ≤ c ∧ c ≤ 'F' then some (c.toNat - 0x37)
  else none

/-- The bytes of a text with escapes; a percent sign without two digits stands for itself. -/
def unescape : List Char → List UInt8
  | '%' :: a :: b :: rest =>
    match hexValue? a, hexValue? b with
    | some m, some n => UInt8.ofNat (m * 16 + n) :: unescape rest
    | _, _ => 37 :: unescape (a :: b :: rest)
  | c :: rest => String.utf8EncodeChar c ++ unescape rest
  | [] => []
termination_by cs => cs.length

end LintLedger.Location
