import LintLedger.Text.Utf8
import Mathlib.Order.Defs.LinearOrder

/-!
# Texts in the order of their bytes

Texts are compared by their code points, the first difference decides. Who compares their bytes instead
comes to the same (`LintLedger.Text.Utf8.encode_lt_encode_iff`). This is a property of UTF-8: the first
byte of a character grows with the number of bytes that follow it, and characters of one length are the
digits of their code points to base 64, highest first.
-/

namespace LintLedger.Text.Utf8

/-- **The smaller of two characters has the smaller bytes**, whatever stands behind the two: the
difference is found before either ends. -/
theorem encodeChar_append_lt {a b : Char} (h : a < b) (x y : List UInt8) :
    String.utf8EncodeChar a ++ x < String.utf8EncodeChar b ++ y := by
  have hlt : a.val.toNat < b.val.toNat := h
  have hlast : b.val.toNat < 0x110000 := by
    rcases b.valid with hlow | hhigh
    · exact Nat.lt_trans hlow (by decide)
    · exact hhigh.2
  unfold String.utf8EncodeChar
  dsimp only
  generalize a.val.toNat = m at hlt ⊢
  generalize b.val.toNat = n at hlt hlast ⊢
  -- The digits that are compared first are those of the quotients of the later ones.
  have hm := Nat.div_div_eq_div_mul m 64 64
  have hm' := Nat.div_div_eq_div_mul m 4096 64
  have hn := Nat.div_div_eq_div_mul n 64 64
  have hn' := Nat.div_div_eq_div_mul n 4096 64
  split_ifs <;>
    simp (disch := omega) only [List.cons_append, List.nil_append, List.cons_lt_cons_iff,
      UInt8.lt_iff_toNat_lt, ← UInt8.toNat_inj, UInt8.toNat_ofNat', Nat.mod_eq_of_lt] <;>
    omega

theorem flatMap_encodeChar_lt {s t : List Char} (h : s < t) :
    s.flatMap String.utf8EncodeChar < t.flatMap String.utf8EncodeChar := by
  induction s generalizing t with
  | nil =>
    cases t with
    | nil => exact absurd h (List.not_lt_nil _)
    | cons d ds =>
      rw [List.flatMap_nil, List.flatMap_cons]
      obtain ⟨b, bs, hbytes⟩ := List.exists_cons_of_ne_nil (String.utf8EncodeChar_ne_nil (c := d))
      rw [hbytes]
      exact List.nil_lt_cons ..
  | cons c cs ih =>
    cases t with
    | nil => exact absurd h (List.not_lt_nil _)
    | cons d ds =>
      rw [List.flatMap_cons, List.flatMap_cons]
      rcases List.cons_lt_cons_iff.mp h with hfirst | ⟨rfl, hrest⟩
      · exact encodeChar_append_lt hfirst _ _
      · exact List.append_left_lt (ih hrest)

/-- **Texts in the order of their code points are in the order of their bytes.** -/
theorem encode_lt_encode_iff {s t : String} : encode s < encode t ↔ s < t := by
  have hmono : ∀ {s t : String}, s < t → encode s < encode t := flatMap_encodeChar_lt
  constructor
  · intro h
    rcases Std.lt_trichotomy s t with hlt | rfl | hgt
    · exact hlt
    · exact absurd h (List.lt_irrefl _)
    · exact absurd (hmono hgt) (List.lt_asymm h)
  · exact hmono

end LintLedger.Text.Utf8
