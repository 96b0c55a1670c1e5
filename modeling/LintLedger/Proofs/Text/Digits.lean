import LintLedger.Text.Digits
import Mathlib.Algebra.Order.Ring.Int
import Mathlib.Data.List.Basic
import Mathlib.Tactic.Ring

/-!
# The numbers that numerals write

A numeral is described by its place values (`LintLedger.Text.placeValue`) and by its three spellings
(`LintLedger.Text.Numeral`): bare digits, digits behind a plus, digits behind a minus. The number is
exact, of whatever length the digits are. Reading a number accepts exactly the numerals and gives
exactly that number (`integer?_eq_some_iff`), so every bound on the number is a bound on the value that
is written and not on what some word can hold.
-/

namespace LintLedger.Text

/-- The number that decimal digits write: each counts by its place from the end. -/
def placeValue : List Char → ℕ
  | [] => 0
  | c :: cs => (c.toNat - '0'.toNat) * 10 ^ cs.length + placeValue cs

/-- **The text is a numeral of the number**: one sign or none, then at least one ASCII digit, and
nothing else. -/
inductive Numeral : List Char → ℤ → Prop
  /-- Digits without a sign. -/
  | bare {ds : List Char} : ds ≠ [] → (∀ c ∈ ds, '0' ≤ c ∧ c ≤ '9') → Numeral ds (placeValue ds)
  /-- Digits behind a plus. -/
  | plus {ds : List Char} : ds ≠ [] → (∀ c ∈ ds, '0' ≤ c ∧ c ≤ '9') →
      Numeral ('+' :: ds) (placeValue ds)
  /-- Digits behind a minus. -/
  | minus {ds : List Char} : ds ≠ [] → (∀ c ∈ ds, '0' ≤ c ∧ c ≤ '9') →
      Numeral ('-' :: ds) (-(placeValue ds : ℤ))

/-- Adding the digits one by one, the earlier ones ten times as much each time, gives every digit its
place value. -/
theorem foldl_digits (cs : List Char) (n : ℕ) :
    cs.foldl (fun n c => n * 10 + (c.toNat - 0x30)) n = n * 10 ^ cs.length + placeValue cs := by
  induction cs generalizing n with
  | nil => simp [placeValue]
  | cons c cs ih =>
    have hzero : '0'.toNat = 0x30 := rfl
    rw [List.foldl_cons, ih, placeValue, List.length_cons, hzero]
    ring

theorem digitsValue_eq_placeValue (cs : List Char) : digitsValue cs = placeValue cs := by
  unfold digitsValue
  rw [foldl_digits, zero_mul, zero_add]

theorem isDigit_iff (c : Char) : isDigit c = true ↔ '0' ≤ c ∧ c ≤ '9' := by
  simp [isDigit]

theorem natural?_eq_some_iff {cs : List Char} {n : ℕ} :
    natural? cs = some n ↔ cs ≠ [] ∧ (∀ c ∈ cs, '0' ≤ c ∧ c ≤ '9') ∧ placeValue cs = n := by
  unfold natural?
  rw [digitsValue_eq_placeValue, Option.ite_none_right_eq_some, Option.some.injEq, List.all_eq_true]
  simp only [isDigit_iff, and_assoc]

/-- No digit is a sign. -/
theorem ne_sign_of_digits {ds : List Char} {sign : Char} (hsign : ¬ '0' ≤ sign)
    (h : ∀ c ∈ ds, '0' ≤ c ∧ c ≤ '9') (rest : List Char) : ds ≠ sign :: rest := by
  rintro rfl
  exact hsign (h sign List.mem_cons_self).1

theorem integer?_minus (ds : List Char) :
    integer? ('-' :: ds) = (natural? ds).map fun m : ℕ => -(m : ℤ) := by
  have h : integer? ('-' :: ds) =
    ((natural? ds).bind fun m => some (m : ℤ)).map fun n => -n := rfl
  rw [h]
  cases natural? ds <;> rfl

theorem integer?_plus (ds : List Char) : integer? ('+' :: ds) = (natural? ds).map Int.ofNat := rfl

/-- A text that starts with no sign is read as digits alone. -/
theorem integer?_of_ne_sign {cs : List Char} (hminus : ∀ rest, cs ≠ '-' :: rest)
    (hplus : ∀ rest, cs ≠ '+' :: rest) : integer? cs = (natural? cs).map Int.ofNat := by
  unfold integer?
  split
  · next rest => exact absurd rfl (hminus rest)
  · next rest => exact absurd rfl (hplus rest)
  · rfl

/-- **Reading a number accepts exactly the numerals**, each with the number that it writes. -/
theorem integer?_eq_some_iff {cs : List Char} {n : ℤ} : integer? cs = some n ↔ Numeral cs n := by
  constructor
  · intro h
    by_cases hminus : ∃ ds, cs = '-' :: ds
    · obtain ⟨ds, rfl⟩ := hminus
      obtain ⟨m, hm, rfl⟩ := Option.map_eq_some_iff.mp ((integer?_minus ds).symm.trans h)
      obtain ⟨hne, hds, rfl⟩ := natural?_eq_some_iff.mp hm
      exact .minus hne hds
    by_cases hplus : ∃ ds, cs = '+' :: ds
    · obtain ⟨ds, rfl⟩ := hplus
      obtain ⟨m, hm, rfl⟩ := Option.map_eq_some_iff.mp ((integer?_plus ds).symm.trans h)
      obtain ⟨hne, hds, rfl⟩ := natural?_eq_some_iff.mp hm
      exact .plus hne hds
    rw [integer?_of_ne_sign (fun ds hds => hminus ⟨ds, hds⟩) (fun ds hds => hplus ⟨ds, hds⟩)] at h
    obtain ⟨m, hm, rfl⟩ := Option.map_eq_some_iff.mp h
    obtain ⟨hne, hds, rfl⟩ := natural?_eq_some_iff.mp hm
    exact .bare hne hds
  · rintro (⟨hne, hds⟩ | ⟨hne, hds⟩ | ⟨hne, hds⟩)
    · rw [integer?_of_ne_sign (ne_sign_of_digits (by decide) hds) (ne_sign_of_digits (by decide) hds),
        natural?_eq_some_iff.mpr ⟨hne, hds, rfl⟩]
      rfl
    · rw [integer?_plus, natural?_eq_some_iff.mpr ⟨hne, hds, rfl⟩]
      rfl
    · rw [integer?_minus, natural?_eq_some_iff.mpr ⟨hne, hds, rfl⟩]
      rfl

/-! ### Writing numbers -/

theorem digits_ne_nil (n : ℕ) : digits n ≠ [] := Nat.toDigits_ne_nil

theorem mem_digits {n : ℕ} {c : Char} (h : c ∈ digits n) : '0' ≤ c ∧ c ≤ '9' := by
  have hdigit : c.isDigit = true := Nat.isDigit_of_mem_toDigits (by decide) (by decide) h
  simpa [Char.isDigit, Char.le_def] using hdigit

/-- The digits of a number do not start with a zero, unless it is the number. -/
theorem head?_digits_ne_zero {n : ℕ} (hn : n ≠ 0) : (digits n).head? ≠ some '0' := by
  induction n using Nat.strongRecOn with
  | ind n ih =>
    unfold digits at ih ⊢
    rcases Nat.lt_or_ge n 10 with hlt | hge
    · have hsingle : ∀ m < 10, m ≠ 0 → [m.digitChar].head? ≠ some '0' := by decide
      rw [Nat.toDigits_of_lt_base hlt]
      exact hsingle n hlt hn
    · -- The first digit is that of the number without its last one.
      rw [Nat.toDigits_of_base_le (by decide) hge, List.head?_append_of_ne_nil _ Nat.toDigits_ne_nil]
      exact ih (n / 10) (by omega) (by omega)

theorem placeValue_digits (n : ℕ) : placeValue (digits n) = n := by
  have hvalue : digitsValue (digits n) = Nat.ofDigitChars 10 (Nat.toDigits 10 n) 0 := by
    unfold digitsValue digits Nat.ofDigitChars
    simp only [Nat.mul_comm]
    rfl
  rw [← digitsValue_eq_placeValue, hvalue, Nat.ofDigitChars_ten_toDigits]

/-- **The digits of a number are a numeral of it.** -/
theorem numeral_digits (n : ℕ) : Numeral (digits n) n := by
  have h : Numeral (digits n) (placeValue (digits n)) :=
    .bare (digits_ne_nil n) fun _ hc => mem_digits hc
  rwa [placeValue_digits] at h

end LintLedger.Text
