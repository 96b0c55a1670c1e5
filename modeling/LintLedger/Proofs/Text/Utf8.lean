import LintLedger.Text.Utf8
import Mathlib.Data.Nat.Basic
import Mathlib.Tactic.SplitIfs

/-!
# Texts and their bytes

The bytes of a text are read back as the text, and no other bytes are
(`LintLedger.Text.Utf8.decode?_eq_some_iff`), so a text that one program prints is the text that another one
reads. It is enough to read one character and to be left with what stands behind it
(`exists_piece_encodeChar`, `eq_of_piece`): the first byte tells how many bytes follow and gives the highest
digits of the code point to base 64, and each further byte gives one more digit.
-/

namespace LintLedger.Text.Utf8

/-! ### One character -/

/-- A byte behind the first one adds its digit to the code point. -/
theorem finish_succ {d : Nat} (hd : d < 64) {low high : UInt8} (hlow : low.toNat ≤ d + 128)
    (hhigh : d + 128 ≤ high.toNat) (n code : Nat) (rest : List UInt8) :
    finish (n + 1) code low high (UInt8.ofNat (d + 128) :: rest) =
      finish n (code * 64 + d) 0x80 0xBF rest := by
  have hbyte : (UInt8.ofNat (d + 128)).toNat = d + 128 := by
    rw [UInt8.toNat_ofNat', Nat.mod_eq_of_lt (by omega)]
  rw [finish, if_pos, hbyte, Nat.add_sub_cancel]
  rw [UInt8.le_iff_toNat_le, UInt8.le_iff_toNat_le, hbyte]
  exact ⟨hlow, hhigh⟩

/-- The first byte of a character of two bytes. -/
theorem lead?_two : ∀ n < 32, 2 ≤ n →
    lead? (UInt8.ofNat (n + 192)) = some { more := 1, bits := n } := by
  decide

/-- The first byte of a character of three bytes. The digit behind it keeps out the long forms of short
characters and the surrogates. -/
theorem lead?_three : ∀ n < 16, lead? (UInt8.ofNat (n + 224)) = some {
    more := 2
    bits := n
    low := if n = 0 then 0xA0 else 0x80
    high := if n = 13 then 0x9F else 0xBF } := by
  decide

/-- The first byte of a character of four bytes. The digit behind it keeps out the long forms of short
characters and all above the last code point. -/
theorem lead?_four : ∀ n < 5, lead? (UInt8.ofNat (n + 240)) = some {
    more := 3
    bits := n
    low := if n = 0 then 0x90 else 0x80
    high := if n = 4 then 0x8F else 0xBF } := by
  decide

/-- A byte that starts a character of several bytes. -/
theorem piece_of_lead {b : UInt8} (hb : ¬b < 0x80) {l : Lead} (hlead : lead? b = some l)
    (rest : List UInt8) : piece b rest = finish l.more l.bits l.low l.high rest := by
  unfold piece
  rw [if_neg hb, hlead]

/-- **The bytes of a character** are read as the character, whatever stands behind them. -/
theorem exists_piece_encodeChar (c : Char) (rest : List UInt8) :
    ∃ b bs, String.utf8EncodeChar c = b :: bs ∧ piece b (bs ++ rest) = (.char c, rest) := by
  have hvalid : c.val.toNat < 0x110000 ∧ (c.val.toNat < 0xD800 ∨ 0xE000 ≤ c.val.toNat) := by
    rcases c.valid with hlow | hhigh
    · exact ⟨Nat.lt_trans hlow (by decide), Or.inl hlow⟩
    · exact ⟨hhigh.2, Or.inr hhigh.1⟩
  have hchar : Char.ofNat c.val.toNat = c := Char.ofNat_toNat c
  unfold String.utf8EncodeChar
  dsimp only
  generalize c.val.toNat = n at hvalid hchar ⊢
  have hbyte : ∀ m < 256, (UInt8.ofNat m).toNat = m := fun m hm => by
    rw [UInt8.toNat_ofNat', Nat.mod_eq_of_lt hm]
  have hfirst : ∀ m, 128 ≤ m → m < 256 → ¬UInt8.ofNat m < 0x80 := fun m hlow hhigh => by
    rw [UInt8.lt_iff_toNat_lt, hbyte m hhigh]
    exact Nat.not_lt.mpr hlow
  split_ifs with hone htwo hthree
  · refine ⟨_, _, rfl, ?_⟩
    rw [piece, if_pos, hbyte n (by omega), hchar, List.nil_append]
    rw [UInt8.lt_iff_toNat_lt, hbyte n (by omega)]
    exact Nat.lt_succ_of_le hone
  · refine ⟨_, _, rfl, ?_⟩
    rw [Nat.mod_eq_of_lt (show n / 64 < 32 by omega),
      piece_of_lead (hfirst _ (by omega) (by omega)) (lead?_two _ (by omega) (by omega))]
    dsimp only [List.cons_append, List.nil_append]
    rw [finish_succ (by omega) (by simp) (by simp; omega), finish, ← hchar]
    have hdigits : n / 64 * 64 + n % 64 = n := by omega
    rw [hdigits]
  · refine ⟨_, _, rfl, ?_⟩
    rw [Nat.mod_eq_of_lt (show n / 4096 < 16 by omega),
      piece_of_lead (hfirst _ (by omega) (by omega)) (lead?_three _ (by omega))]
    dsimp only [List.cons_append, List.nil_append]
    rw [finish_succ (by omega) (by split_ifs <;> simp; omega) (by split_ifs <;> simp <;> omega),
      finish_succ (by omega) (by simp) (by simp; omega), finish, ← hchar]
    have hdigits : (n / 4096 * 64 + n / 64 % 64) * 64 + n % 64 = n := by omega
    rw [hdigits]
  · refine ⟨_, _, rfl, ?_⟩
    rw [Nat.mod_eq_of_lt (show n / 262144 < 8 by omega),
      piece_of_lead (hfirst _ (by omega) (by omega)) (lead?_four _ (by omega))]
    dsimp only [List.cons_append, List.nil_append]
    rw [finish_succ (by omega) (by split_ifs <;> simp; omega) (by split_ifs <;> simp <;> omega),
      finish_succ (by omega) (by simp) (by simp; omega),
      finish_succ (by omega) (by simp) (by simp; omega), finish, ← hchar]
    have hdigits :
        ((n / 262144 * 64 + n / 4096 % 64) * 64 + n / 64 % 64) * 64 + n % 64 = n := by omega
    rw [hdigits]

/-! ### Texts -/

theorem pieces_encodeChar_append (c : Char) (rest : List UInt8) :
    pieces (String.utf8EncodeChar c ++ rest) = .char c :: pieces rest := by
  obtain ⟨b, bs, hbytes, hpiece⟩ := exists_piece_encodeChar c rest
  rw [hbytes, List.cons_append, pieces, hpiece]

/-- The bytes of a text are cut into its characters. -/
theorem pieces_encode (s : String) : pieces (encode s) = s.toList.map .char := by
  unfold encode
  induction s.toList with
  | nil => rw [List.flatMap_nil, List.map_nil, pieces]
  | cons c cs ih => rw [List.flatMap_cons, pieces_encodeChar_append, ih, List.map_cons]

/-- **The bytes of a text are read back as the text.** -/
theorem decode?_encode (s : String) : decode? (encode s) = some s := by
  have hchars : (s.toList.map Piece.char).mapM Piece.char? = some s.toList := by
    rw [List.mapM_map]
    exact (List.mapM_pure (m := Option) (f := id)).trans (by rw [List.map_id]; rfl)
  rw [decode?, pieces_encode, hchars, Option.map_some, String.ofList_toList]

/-- Also where broken pieces would be replaced: there are none. -/
theorem decodeLossy_encode (s : String) : decodeLossy (encode s) = s := by
  have hchars : (s.toList.map Piece.char).map Piece.charOrReplacement = s.toList := by
    rw [List.map_map]
    exact List.map_id _
  rw [decodeLossy, pieces_encode, hchars, String.ofList_toList]

/-! ### Bytes that are a text -/

theorem val_ofNat {n : Nat} (h : n.isValidChar) : (Char.ofNat n).val.toNat = n := by
  unfold Char.ofNat
  rw [dif_pos h]
  rfl

/-- The bytes of a character of one digit. -/
theorem encodeChar_one {n : Nat} (h : n < 128) :
    String.utf8EncodeChar (Char.ofNat n) = [UInt8.ofNat n] := by
  unfold String.utf8EncodeChar
  rw [val_ofNat (Or.inl (by omega)), if_pos (by omega)]

/-- The bytes of a character of two digits. -/
theorem encodeChar_two {n d : Nat} (hn : 2 ≤ n ∧ n < 32) (hd : d < 64) :
    String.utf8EncodeChar (Char.ofNat (n * 64 + d)) = [UInt8.ofNat (n + 192), UInt8.ofNat (d + 128)] := by
  unfold String.utf8EncodeChar
  rw [val_ofNat (Or.inl (by omega)), if_neg (by omega), if_pos (by omega)]
  simp only [List.cons.injEq, and_true]
  constructor <;> congr 1 <;> omega

/-- The bytes of a character of three digits. -/
theorem encodeChar_three {n d e : Nat} (hn : n < 16) (hd : d < 64) (he : e < 64)
    (hshort : n = 0 → 32 ≤ d) (hsurrogate : n = 13 → d < 32) :
    String.utf8EncodeChar (Char.ofNat ((n * 64 + d) * 64 + e)) =
      [UInt8.ofNat (n + 224), UInt8.ofNat (d + 128), UInt8.ofNat (e + 128)] := by
  have hvalid : Nat.isValidChar ((n * 64 + d) * 64 + e) := by
    unfold Nat.isValidChar
    omega
  unfold String.utf8EncodeChar
  rw [val_ofNat hvalid, if_neg (by omega), if_neg (by omega), if_pos (by omega)]
  simp only [List.cons.injEq, and_true]
  refine ⟨?_, ?_, ?_⟩ <;> congr 1 <;> omega

/-- The bytes of a character of four digits. -/
theorem encodeChar_four {n d e g : Nat} (hn : n < 5) (hd : d < 64) (he : e < 64) (hg : g < 64)
    (hshort : n = 0 → 16 ≤ d) (hlast : n = 4 → d < 16) :
    String.utf8EncodeChar (Char.ofNat (((n * 64 + d) * 64 + e) * 64 + g)) =
      [UInt8.ofNat (n + 240), UInt8.ofNat (d + 128), UInt8.ofNat (e + 128), UInt8.ofNat (g + 128)] := by
  have hvalid : Nat.isValidChar (((n * 64 + d) * 64 + e) * 64 + g) := by
    unfold Nat.isValidChar
    omega
  unfold String.utf8EncodeChar
  rw [val_ofNat hvalid, if_neg (by omega), if_neg (by omega), if_neg (by omega)]
  simp only [List.cons.injEq, and_true]
  refine ⟨?_, ?_, ?_, ?_⟩ <;> congr 1 <;> omega

/-- A byte with which the reading of a character goes on is one more digit. -/
theorem exists_of_finish_succ {n code : Nat} {low high : UInt8} (hlow : 128 ≤ low.toNat)
    {bs rest : List UInt8} {c : Char} (h : finish (n + 1) code low high bs = (.char c, rest)) :
    ∃ d more, low.toNat ≤ d + 128 ∧ d + 128 ≤ high.toNat ∧ bs = UInt8.ofNat (d + 128) :: more ∧
      finish n (code * 64 + d) 0x80 0xBF more = (.char c, rest) := by
  cases bs with
  | nil => simp [finish] at h
  | cons b more =>
    rw [finish] at h
    split at h
    · next hb =>
      rw [UInt8.le_iff_toNat_le, UInt8.le_iff_toNat_le] at hb
      obtain ⟨d, hd⟩ := Nat.exists_eq_add_of_le' (Nat.le_trans hlow hb.1)
      rw [hd, Nat.add_sub_cancel] at h
      rw [hd] at hb
      exact ⟨d, more, hb.1, hb.2, by rw [← hd, UInt8.ofNat_toNat], h⟩
    · simp at h

/-- The reading of a character ends with its code point. -/
theorem eq_of_finish_zero {code : Nat} {low high : UInt8} {bs rest : List UInt8} {c : Char}
    (h : finish 0 code low high bs = (.char c, rest)) : c = Char.ofNat code ∧ bs = rest := by
  obtain ⟨hc, hrest⟩ := Prod.mk.inj h
  exact ⟨(Piece.char.inj hc).symm, hrest⟩

/-- What a first byte announces, and the bounds on the byte behind it. -/
theorem lead?_cases {b : UInt8} {l : Lead} (h : lead? b = some l) :
    128 ≤ l.low.toNat ∧ l.high.toNat ≤ 191 ∧
      (l.more = 1 ∧ b.toNat = l.bits + 192 ∧ 2 ≤ l.bits ∧ l.bits < 32 ∨
        l.more = 2 ∧ b.toNat = l.bits + 224 ∧ l.bits < 16 ∧ (l.bits = 0 → 160 ≤ l.low.toNat) ∧
          (l.bits = 13 → l.high.toNat ≤ 159) ∨
        l.more = 3 ∧ b.toNat = l.bits + 240 ∧ l.bits < 5 ∧ (l.bits = 0 → 144 ≤ l.low.toNat) ∧
          (l.bits = 4 → l.high.toNat ≤ 143)) := by
  unfold lead? at h
  simp only [UInt8.le_iff_toNat_le, ← UInt8.toNat_inj, UInt8.toNat_ofNat] at h
  split_ifs at h <;> (obtain rfl := Option.some.inj h; simp; omega)

/-- **A character that is read** is written with the bytes that were read. -/
theorem eq_of_piece {b : UInt8} {bs rest : List UInt8} {c : Char}
    (h : piece b bs = (.char c, rest)) : b :: bs = String.utf8EncodeChar c ++ rest := by
  have hb : b = UInt8.ofNat b.toNat := UInt8.ofNat_toNat.symm
  unfold piece at h
  split at h
  · next hlt =>
    obtain ⟨rfl, rfl⟩ := @eq_of_finish_zero _ b b _ _ _ h
    rw [encodeChar_one (UInt8.lt_iff_toNat_lt.mp hlt), ← hb, List.singleton_append]
  · split at h
    · next l hl =>
      obtain ⟨hlow, hhigh, hcases⟩ := lead?_cases hl
      rcases hcases with ⟨hmore, hn, hbits⟩ | ⟨hmore, hn, hbits, hfirst, hlast⟩ |
        ⟨hmore, hn, hbits, hfirst, hlast⟩
      · rw [hmore] at h
        obtain ⟨d, bs₁, hd, hd', rfl, h₁⟩ := exists_of_finish_succ hlow h
        obtain ⟨rfl, rfl⟩ := eq_of_finish_zero h₁
        rw [encodeChar_two hbits (by omega), ← hn, ← hb]
        rfl
      · rw [hmore] at h
        obtain ⟨d, bs₁, hd, hd', rfl, h₁⟩ := exists_of_finish_succ hlow h
        obtain ⟨e, bs₂, -, he, rfl, h₂⟩ := exists_of_finish_succ (by decide) h₁
        obtain ⟨rfl, rfl⟩ := eq_of_finish_zero h₂
        have he : e + 128 ≤ 191 := he
        rw [encodeChar_three hbits (by omega) (by omega) (by omega) (by omega), ← hn, ← hb]
        rfl
      · rw [hmore] at h
        obtain ⟨d, bs₁, hd, hd', rfl, h₁⟩ := exists_of_finish_succ hlow h
        obtain ⟨e, bs₂, -, he, rfl, h₂⟩ := exists_of_finish_succ (by decide) h₁
        obtain ⟨g, bs₃, -, hg, rfl, h₃⟩ := exists_of_finish_succ (by decide) h₂
        obtain ⟨rfl, rfl⟩ := eq_of_finish_zero h₃
        have he : e + 128 ≤ 191 := he
        have hg : g + 128 ≤ 191 := hg
        rw [encodeChar_four hbits (by omega) (by omega) (by omega) (by omega) (by omega), ← hn, ← hb]
        rfl
    · simp at h

/-- Bytes that are cut into characters are the bytes of these. -/
theorem flatMap_encodeChar_of_pieces {bs : List UInt8} {cs : List Char}
    (h : (pieces bs).mapM Piece.char? = some cs) : cs.flatMap String.utf8EncodeChar = bs := by
  induction bs using pieces.induct generalizing cs with
  | case1 =>
    rw [pieces] at h
    obtain rfl := Option.some.inj h
    rfl
  | case2 b rest ih =>
    rw [pieces, List.mapM_cons] at h
    obtain ⟨c, hc, h⟩ := Option.bind_eq_some_iff.mp h
    obtain ⟨more, hmore, h⟩ := Option.bind_eq_some_iff.mp h
    obtain rfl := Option.some.inj h
    cases hpiece : piece b rest with
    | mk p behind =>
      rw [hpiece] at hc hmore ih
      cases p with
      | broken => simp [Piece.char?] at hc
      | char d =>
        obtain rfl : d = c := Option.some.inj hc
        rw [List.flatMap_cons, ih hmore, eq_of_piece hpiece]

/-- **Bytes are a text exactly if** they are the bytes of the text. -/
theorem decode?_eq_some_iff {bs : List UInt8} {s : String} : decode? bs = some s ↔ bs = encode s := by
  constructor
  · intro h
    obtain ⟨cs, hcs, rfl⟩ := Option.map_eq_some_iff.mp h
    rw [encode, String.toList_ofList, flatMap_encodeChar_of_pieces hcs]
  · rintro rfl
    exact decode?_encode s
/-! ### Sizes and single bytes -/

/-- A text is as long as its bytes. -/
theorem length_encode (s : String) : (encode s).length = s.utf8ByteSize := by
  have hbytes : s.toByteArray = (encode s).toByteArray := by
    rw [← String.utf8Encode_toList]
    rfl
  simpa using (congrArg ByteArray.size hbytes).symm

theorem encode_append (s t : String) : encode (s ++ t) = encode s ++ encode t := by
  unfold encode
  rw [String.toList_append, List.flatMap_append]

/-- **A byte below 128 stands for itself**: among the bytes of a character it is the only one. -/
theorem eq_of_mem_encodeChar {c : Char} {b : UInt8} (hb : b.toNat < 128)
    (h : b ∈ String.utf8EncodeChar c) : c = Char.ofNat b.toNat ∧ String.utf8EncodeChar c = [b] := by
  have hchar : Char.ofNat c.val.toNat = c := Char.ofNat_toNat c
  unfold String.utf8EncodeChar at h ⊢
  dsimp only at h ⊢
  generalize c.val.toNat = n at h hchar ⊢
  have hlarge : ∀ m, 128 ≤ m → m < 256 → b ≠ UInt8.ofNat m := by
    rintro m hlow hhigh rfl
    rw [UInt8.toNat_ofNat', Nat.mod_eq_of_lt hhigh] at hb
    exact absurd hb (Nat.not_lt.mpr hlow)
  split_ifs at h ⊢ with hone htwo hthree
  · obtain rfl := List.mem_singleton.mp h
    rw [UInt8.toNat_ofNat', Nat.mod_eq_of_lt (by omega), hchar]
    exact ⟨rfl, rfl⟩
  · simp only [List.mem_cons, List.not_mem_nil, or_false] at h
    rcases h with h | h <;> exact absurd h (hlarge _ (by omega) (by omega))
  · simp only [List.mem_cons, List.not_mem_nil, or_false] at h
    rcases h with h | h | h <;> exact absurd h (hlarge _ (by omega) (by omega))
  · simp only [List.mem_cons, List.not_mem_nil, or_false] at h
    rcases h with h | h | h | h <;> exact absurd h (hlarge _ (by omega) (by omega))

end LintLedger.Text.Utf8
