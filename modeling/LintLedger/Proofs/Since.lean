import Mathlib.Data.List.Basic

/-!
# What has happened and has not been undone

Much of what is known behind a sequence of steps is that something has happened at one of them and that no
step since then has undone it: `∃ earlier x later, xs = earlier ++ x :: later ∧ happens earlier x ∧
∀ y ∈ later, keeps y`. Such a statement follows the sequence step by step: with one step more it holds if the
thing happens now, or if it held before and the step leaves it.
-/

namespace LintLedger

/-- **One step more**: it happens now, or it has happened before and is kept now. -/
theorem exists_since_append_singleton_iff {α : Type} {happens : List α → α → Prop} {keeps : α → Prop}
    {xs : List α} {x : α} :
    (∃ earlier y later, xs ++ [x] = earlier ++ y :: later ∧ happens earlier y ∧ ∀ z ∈ later, keeps z) ↔
      happens xs x ∨ keeps x ∧
        ∃ earlier y later, xs = earlier ++ y :: later ∧ happens earlier y ∧ ∀ z ∈ later, keeps z := by
  constructor
  · -- The step at which it happens is the new one, or it and those behind it stand among the old ones.
    rintro ⟨earlier, y, later, hxs, hhappens, hlater⟩
    rcases List.eq_nil_or_concat later with rfl | ⟨later, z, rfl⟩
    · obtain ⟨rfl, rfl⟩ := List.append_singleton_inj.mp hxs
      exact Or.inl hhappens
    · rw [List.concat_eq_append] at hxs hlater
      rw [← List.cons_append, ← List.append_assoc] at hxs
      obtain ⟨rfl, rfl⟩ := List.append_singleton_inj.mp hxs
      refine Or.inr ⟨hlater x (by simp), earlier, y, later, rfl, hhappens, fun z hz => ?_⟩
      exact hlater z (List.mem_append_left _ hz)
  · rintro (hhappens | ⟨hkeeps, earlier, y, later, rfl, hhappens, hlater⟩)
    · exact ⟨xs, x, [], rfl, hhappens, by simp⟩
    · refine ⟨earlier, y, later ++ [x], by simp, hhappens, fun z hz => ?_⟩
      rcases List.mem_append.mp hz with hz | hz
      · exact hlater z hz
      · rw [List.mem_singleton.mp hz]
        exact hkeeps

end LintLedger
