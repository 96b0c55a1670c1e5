import LintLedger.Json.Commented
import LintLedger.Json.Reader
import LintLedger.Json.Writer

/-!
# Written texts are read

A text in quotation marks is written character by character, and each character in one of three ways
(`LintLedger.Json.escapeChar_cases`). The reader of plain JSON takes back one character after the other and
finds the text (`LintLedger.Json.readText?_escaped`).

The reader of JSON with comments allows more between quotation marks, and what the other one reads it reads
alike (`LintLedger.Json.Commented.scanText_of_readText?`). So it finds the text as well.
-/

namespace LintLedger.Json

/-! ### Writing a character -/

/-- The hexadecimal digits of a control character stand for it. -/
theorem fourHexDigits?_control {n : Nat} (h : n < 0x20) :
    fourHexDigits? '0' '0' (hexDigitChar (n / 16)) (hexDigitChar (n % 16)) = some n := by
  decide +revert

/-- A control character is no unit of a pair. -/
theorem isUnit_control {n : Nat} (h : n < 0x20) : isLowUnit n = false ∧ isHighUnit n = false := by
  decide +revert

/-- **The three ways to write a character**: a backslash and its letter, its digits, or the character itself. -/
theorem escapeChar_cases (c : Char) :
    (∃ l, escapeLetter? c = some l ∧ escapeChar c = ['\\', l]) ∨
      (c.toNat < 0x20 ∧ escapeChar c =
        ['\\', 'u', '0', '0', hexDigitChar (c.toNat / 16), hexDigitChar (c.toNat % 16)]) ∨
      (c ≠ '"' ∧ c ≠ '\\' ∧ ¬c.toNat < 0x20 ∧ escapeChar c = [c]) := by
  unfold escapeChar
  split
  · next l hl => exact Or.inl ⟨l, hl, rfl⟩
  · next hnone =>
    split
    · next hcontrol => exact Or.inr (Or.inl ⟨hcontrol, rfl⟩)
    · next hcontrol =>
      refine Or.inr (Or.inr ⟨?_, ?_, hcontrol, rfl⟩)
      · rintro rfl
        simp [escapeLetter?] at hnone
      · rintro rfl
        simp [escapeLetter?] at hnone

/-! ### Reading plain JSON -/

section Plain

variable {cs behind rest : List Char}

/-- A backslash and the letter of a character are read as the character. -/
theorem readText?_letter {c l : Char} (hl : escapeLetter? c = some l)
    (h : readText? behind = some (cs, rest)) :
    readText? ('\\' :: l :: behind) = some (c :: cs, rest) := by
  unfold escapeLetter? at hl
  split at hl
  case h_8 => simp at hl
  all_goals
    obtain rfl := Option.some.inj hl
    simp [readText?, shortEscape?, h]

/-- The digits of a control character are read as the character. -/
theorem readText?_control {c : Char} (hc : c.toNat < 0x20) (h : readText? behind = some (cs, rest)) :
    readText? ('\\' :: 'u' :: '0' :: '0' :: hexDigitChar (c.toNat / 16) ::
      hexDigitChar (c.toNat % 16) :: behind) = some (c :: cs, rest) := by
  obtain ⟨hlow, hhigh⟩ := isUnit_control hc
  simp [readText?, fourHexDigits?_control hc, hlow, hhigh, h]

/-- Any other character but a quotation mark is read as itself. -/
theorem readText?_plain {c : Char} (hquote : c ≠ '"') (hslash : c ≠ '\\') (hc : ¬c.toNat < 0x20)
    (h : readText? behind = some (cs, rest)) : readText? (c :: behind) = some (c :: cs, rest) := by
  rw [readText?]
  · simp [hslash, hc, h]
  all_goals simp [hslash, hquote]

/-- **A text is read as it was written**, whatever comes behind it. -/
theorem readText?_escaped (cs rest : List Char) :
    readText? (cs.flatMap escapeChar ++ '"' :: rest) = some (cs, rest) := by
  induction cs with
  | nil => simp [readText?]
  | cons c cs ih =>
    rw [List.flatMap_cons, List.append_assoc]
    obtain ⟨l, hl, hc⟩ | ⟨hcontrol, hc⟩ | ⟨hquote, hslash, hcontrol, hc⟩ := escapeChar_cases c
    · rw [hc]
      exact readText?_letter hl ih
    · rw [hc]
      exact readText?_control hcontrol ih
    · rw [hc]
      exact readText?_plain hquote hslash hcontrol ih

end Plain

/-! ### Reading JSON with comments -/

namespace Commented

/-- An escape by a letter is none of a quotation mark, nor one by digits. -/
theorem ne_of_shortEscape? {l c : Char} (h : shortEscape? l = some c) : l ≠ '"' ∧ l ≠ '\'' ∧ l ≠ 'u' := by
  refine ⟨?_, ?_, ?_⟩ <;> (rintro rfl; simp [shortEscape?] at h)

/-- **What is a text of plain JSON is one of JSON with comments.** -/
theorem scanText_of_readText? (start : Nat) {text : List Char} {r : List Char × List Char}
    (h : readText? text = some r) : scanText '"' start text = .ok r := by
  fun_induction readText? text generalizing r with
  | case2 rest =>
    obtain rfl := Option.some.inj h
    simp [scanText, pure, Except.pure]
  | case6 a b c d unit hunit hlow hhigh e f g i rest low hpair hsecond ih =>
    obtain ⟨⟨cs, behind⟩, hrest, rfl⟩ := Option.map_eq_some_iff.mp h
    simp [scanText, hunit, hlow, hhigh, hpair, hsecond, ih hrest, bind, Except.bind, pure, Except.pure]
  | case9 a b c d rest unit hunit hlow hhigh ih =>
    obtain ⟨⟨cs, behind⟩, hrest, rfl⟩ := Option.map_eq_some_iff.mp h
    simp [scanText, hunit, hlow, hhigh, ih hrest, bind, Except.bind, pure, Except.pure]
  | case10 rest ih =>
    obtain ⟨⟨cs, behind⟩, hrest, rfl⟩ := Option.map_eq_some_iff.mp h
    simp [scanText, ih hrest, bind, Except.bind, pure, Except.pure]
  | case11 l rest hdigits hquote c hc ih =>
    obtain ⟨⟨cs, behind⟩, hrest, rfl⟩ := Option.map_eq_some_iff.mp h
    obtain ⟨hdouble, hsingle, hu⟩ := ne_of_shortEscape? hc
    rw [scanText]
    · simp [hdouble, hsingle, hu, hc, ih hrest, bind, Except.bind, pure, Except.pure]
    · exact hdigits
  | case14 c rest hquote hdigits hescape hother hplain ih =>
    obtain ⟨⟨cs, behind⟩, hrest, rfl⟩ := Option.map_eq_some_iff.mp h
    obtain ⟨hslash, -⟩ := not_or.mp hplain
    rw [scanText]
    · rw [if_neg hquote, ih hrest]
      rfl
    · exact fun heq _ => hslash heq
    · exact hdigits
    · exact hother
  -- In all other cases there is no text.
  | _ => simp at h

/-- **A text is read as it was written**, whatever comes behind it. -/
theorem scanText_escaped (start : Nat) (cs rest : List Char) :
    scanText '"' start (cs.flatMap escapeChar ++ '"' :: rest) = .ok (cs, rest) :=
  scanText_of_readText? start (readText?_escaped cs rest)

end Commented

end LintLedger.Json
