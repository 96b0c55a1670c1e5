import LintLedger.Text.Utf8

/-!
# Raw texts

A raw text holds bytes, each as the character of its number: any sequence of bytes can be written so, also
one that is no text in UTF-8. Programs that know nothing of encodings work on raw texts.
-/

namespace LintLedger.Text.Raw

/-- Bytes, each as the character of its number. -/
def ofBytes (bs : List UInt8) : List Char := bs.map fun b => Char.ofNat b.toNat

/-- The bytes of a raw text. -/
def bytes (cs : List Char) : List UInt8 := cs.map fun c => UInt8.ofNat c.toNat

/-- A raw text holds the bytes it was made of. -/
theorem bytes_ofBytes (bs : List UInt8) : bytes (ofBytes bs) = bs := by
  have one (b : UInt8) : UInt8.ofNat (Char.ofNat b.toNat).toNat = b := by
    have h : b.toNat < 256 := b.toNat_lt
    have valid : b.toNat.isValidChar := Or.inl (by omega)
    rw [Char.ofNat, dif_pos valid]
    change UInt8.ofNat (Char.ofNatAux b.toNat valid).toNat = b
    have : (Char.ofNatAux b.toNat valid).toNat = b.toNat := rfl
    rw [this]
    exact UInt8.ofNat_toNat
  induction bs with
  | nil => rfl
  | cons b bs ih =>
    change UInt8.ofNat (Char.ofNat b.toNat).toNat :: bytes (ofBytes bs) = b :: bs
    rw [one, ih]

/-- A text as a raw text. -/
def ofText (s : String) : String := String.ofList (ofBytes (Utf8.encode s))

/-- The bytes of a raw text in a string. -/
def bytesOf (s : String) : List UInt8 := bytes s.toList

end LintLedger.Text.Raw
