import LintLedger.Finding
import Mathlib.Order.Basic

/-!
# When a candidate is a finding

`LintLedger.Candidate.toFinding?_eq_some_iff` says what a candidate must hold to be a given finding, part
by part. Positions are compared as numbers: a position of 32 bits is the number that the candidate
holds, neither cut nor wrapped.
-/

namespace LintLedger.Candidate

/-- A position of 32 bits is had from its own number and from no other. -/
theorem position?_eq_some_iff {n : Option Int} {p : UInt32} :
    position? n = some p ↔ n = some (p.toNat : Int) := by
  cases n with
  | none => simp [position?]
  | some n =>
    unfold position?
    rw [Option.ite_none_right_eq_some, Option.some.injEq, Option.some.injEq]
    constructor
    · rintro ⟨⟨hnonneg, hlt⟩, rfl⟩
      rw [UInt32.toNat_ofNat_of_lt' (by rw [UInt32.size]; omega)]
      omega
    · rintro rfl
      have hp : p.toNat < UInt32.size := p.toNat_lt
      rw [UInt32.size] at hp
      exact ⟨by omega, by rw [Int.toNat_natCast, UInt32.ofNat_toNat]⟩

/-- **A candidate is a finding part by part.** -/
theorem toFinding?_eq_some_iff {c : Candidate} {f : Finding} :
    c.toFinding? = some f ↔
      (c.path ≠ "" ∧ c.message ≠ "") ∧
        c.path = f.path ∧ c.line = some (f.line.toNat : Int) ∧
        c.column = some (f.column.toNat : Int) ∧ c.severity = f.severity ∧ c.message = f.message := by
  unfold toFinding?
  by_cases h : c.path = "" ∨ c.message = ""
  · rw [if_pos h]
    refine iff_of_false (by simp) ?_
    rintro ⟨⟨hpath, hmessage⟩, -⟩
    exact h.elim hpath hmessage
  · rw [if_neg h, ← not_or, ← position?_eq_some_iff, ← position?_eq_some_iff]
    cases hl : position? c.line with
    | none => simp
    | some line =>
      cases hc : position? c.column with
      | none => simp
      | some column =>
        obtain ⟨path, fline, fcolumn, severity, message⟩ := f
        simp [h]

/-- The severity of a candidate plays no part in whether it makes sense. -/
theorem toFinding?_severity (c : Candidate) (s : Severity) :
    { c with severity := s }.toFinding? = c.toFinding?.map fun f => { f with severity := s } := by
  unfold toFinding?
  by_cases h : c.path = "" ∨ c.message = ""
  · rw [if_pos h, if_pos h, Option.map_none]
  · rw [if_neg h, if_neg h]
    cases position? c.line <;> cases position? c.column <;> rfl

end LintLedger.Candidate
