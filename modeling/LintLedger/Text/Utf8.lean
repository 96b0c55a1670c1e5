/-!
# Text as bytes

UTF-8 in both directions. Bytes are cut into *pieces* (`pieces`): characters, and between them broken
pieces, each the longest start of a character that was cut off, or one byte that starts none. Strict
reading refuses broken pieces, lenient reading puts a replacement character in place of each.
-/

namespace LintLedger.Text.Utf8

/-- A piece of a sequence of bytes. -/
inductive Piece where
  /-- A whole character. -/
  | char (c : Char)
  /-- Bytes that are no character. -/
  | broken
deriving DecidableEq, Repr

/-- What the first byte of a character of several bytes announces. -/
structure Lead where
  /-- How many bytes follow. -/
  more : Nat
  /-- The bits that the first byte contributes. -/
  bits : Nat
  /-- The least next byte. -/
  low : UInt8 := 0x80
  /-- The greatest next byte. -/
  high : UInt8 := 0xBF
deriving DecidableEq, Repr

/-- Reads a first byte. The bounds on the byte behind it exclude the long forms of short characters,
the surrogates, and all above the last code point. -/
def lead? (b : UInt8) : Option Lead :=
  if 0xC2 ≤ b ∧ b ≤ 0xDF then some { more := 1, bits := b.toNat - 0xC0 }
  else if b = 0xE0 then some { more := 2, bits := 0, low := 0xA0 }
  else if b = 0xED then some { more := 2, bits := 0xD, high := 0x9F }
  else if 0xE1 ≤ b ∧ b ≤ 0xEF then some { more := 2, bits := b.toNat - 0xE0 }
  else if b = 0xF0 then some { more := 3, bits := 0, low := 0x90 }
  else if b = 0xF4 then some { more := 3, bits := 4, high := 0x8F }
  else if 0xF1 ≤ b ∧ b ≤ 0xF3 then some { more := 3, bits := b.toNat - 0xF0 }
  else none

/-- Reads the bytes behind a first byte: the code point and the rest, or where the character breaks
off. -/
def finish : Nat → Nat → UInt8 → UInt8 → List UInt8 → Piece × List UInt8
  | 0, code, _, _, rest => (.char (Char.ofNat code), rest)
  | _ + 1, _, _, _, [] => (.broken, [])
  | n + 1, code, low, high, b :: rest =>
    if low ≤ b ∧ b ≤ high then finish n (code * 0x40 + (b.toNat - 0x80)) 0x80 0xBF rest
    else (.broken, b :: rest)

theorem finish_length_le (n code : Nat) (low high : UInt8) (bs : List UInt8) :
    (finish n code low high bs).2.length ≤ bs.length := by
  fun_induction finish n code low high bs with
  | case1 => exact Nat.le_refl _
  | case2 => exact Nat.le_refl _
  | case3 n code low high b rest h ih => exact Nat.le_succ_of_le ih
  | case4 => exact Nat.le_refl _

/-- The piece that a byte starts, and the bytes behind it. -/
def piece (b : UInt8) (rest : List UInt8) : Piece × List UInt8 :=
  if b < 0x80 then (.char (Char.ofNat b.toNat), rest)
  else match lead? b with
    | some l => finish l.more l.bits l.low l.high rest
    | none => (.broken, rest)

theorem piece_length_le (b : UInt8) (rest : List UInt8) :
    (piece b rest).2.length ≤ rest.length := by
  unfold piece
  split
  · exact Nat.le_refl _
  · split
    · exact finish_length_le ..
    · exact Nat.le_refl _

/-- The pieces of a sequence of bytes. -/
def pieces : List UInt8 → List Piece
  | [] => []
  | b :: rest => (piece b rest).1 :: pieces (piece b rest).2
termination_by bs => bs.length
decreasing_by
  have := piece_length_le b rest
  simp only [List.length_cons]
  omega

/-- The character of a piece, if it is one. -/
def Piece.char? : Piece → Option Char
  | .char c => some c
  | .broken => none

/-- The character of a piece, the replacement character for a broken one. -/
def Piece.charOrReplacement : Piece → Char
  | .char c => c
  | .broken => '\uFFFD'

/-- The text of a sequence of bytes that has no broken pieces. -/
def decode? (bs : List UInt8) : Option String := ((pieces bs).mapM Piece.char?).map String.ofList

/-- The text of any sequence of bytes. -/
def decodeLossy (bs : List UInt8) : String :=
  String.ofList ((pieces bs).map Piece.charOrReplacement)

/-- The bytes of a text. -/
def encode (s : String) : List UInt8 := s.toList.flatMap String.utf8EncodeChar

end LintLedger.Text.Utf8
