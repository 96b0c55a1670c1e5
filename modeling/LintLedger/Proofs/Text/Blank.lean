import LintLedger.Text.Blank
import Mathlib.Data.List.TakeWhile

/-!
# What is left of a text without its blanks

Trimming is described without the two passes that do it: what is left stands in the text between blanks
and has no blank at either end (`LintLedger.Text.Trims`). A text leaves exactly one such part, and it is
the one that `LintLedger.Text.trimChars` finds (`trims_iff`).
-/

namespace LintLedger.Text

/-- **The text `t` is what is left of `cs` without the blanks around it.** -/
structure Trims (cs t : List Char) : Prop where
  /-- Around it stand blanks only. -/
  around : ∃ before after, cs = before ++ (t ++ after) ∧
    (∀ c ∈ before, isBlank c = true) ∧ ∀ c ∈ after, isBlank c = true
  /-- It does not start with a blank. -/
  head : ∀ c ∈ t.head?, isBlank c = false
  /-- It does not end with a blank. -/
  last : ∀ c ∈ t.getLast?, isBlank c = false

theorem dropBlanks_append {before : List Char} (h : ∀ c ∈ before, isBlank c = true)
    (cs : List Char) : dropBlanks (before ++ cs) = dropBlanks cs :=
  List.dropWhile_append_of_pos h

theorem dropBlanks_of_head {cs : List Char} (h : ∀ c ∈ cs.head?, isBlank c = false) :
    dropBlanks cs = cs := by
  cases cs with
  | nil => rfl
  | cons c cs => exact List.dropWhile_cons_of_neg (by simpa using h c rfl)

theorem head_dropBlanks (cs : List Char) : ∀ c ∈ (dropBlanks cs).head?, isBlank c = false := by
  intro c hc
  have h := List.head?_dropWhile_not isBlank cs
  rw [show (cs.dropWhile isBlank).head? = some c from hc] at h
  exact h

/-- Only blanks are dropped. -/
theorem exists_blanks_append_dropBlanks (cs : List Char) :
    ∃ before, cs = before ++ dropBlanks cs ∧ ∀ c ∈ before, isBlank c = true :=
  ⟨cs.takeWhile isBlank, List.takeWhile_append_dropWhile.symm, fun _ hc => List.mem_takeWhile_imp hc⟩

theorem trims_trimChars (cs : List Char) : Trims cs (trimChars cs) := by
  obtain ⟨before, hbefore, hb⟩ := exists_blanks_append_dropBlanks cs
  obtain ⟨after, hafter, ha⟩ := exists_blanks_append_dropBlanks (dropBlanks cs).reverse
  have hd : dropBlanks cs = trimChars cs ++ after.reverse := by
    rw [trimChars, ← List.reverse_append, ← hafter, List.reverse_reverse]
  refine ⟨⟨before, after.reverse, ?_, hb, fun c hc => ha c (List.mem_reverse.mp hc)⟩, ?_, ?_⟩
  · rw [← hd]
    exact hbefore
  · intro c hc
    refine head_dropBlanks cs c ?_
    rw [hd, List.head?_append, Option.mem_def.mp hc]
    rfl
  · intro c hc
    refine head_dropBlanks (dropBlanks cs).reverse c ?_
    rwa [trimChars, List.getLast?_reverse] at hc

theorem Trims.trimChars_eq {cs t : List Char} (h : Trims cs t) : trimChars cs = t := by
  obtain ⟨before, after, rfl, hb, ha⟩ := h.around
  rw [trimChars, dropBlanks_append hb]
  cases t with
  | nil =>
    have hnil : dropBlanks after = [] := List.dropWhile_eq_nil_iff.mpr ha
    rw [List.nil_append, hnil]
    rfl
  | cons c t =>
    have hfront : dropBlanks (c :: t ++ after) = c :: t ++ after := dropBlanks_of_head h.head
    have hback : dropBlanks (c :: t).reverse = (c :: t).reverse := by
      refine dropBlanks_of_head ?_
      rw [List.head?_reverse]
      exact h.last
    rw [hfront, List.reverse_append,
      dropBlanks_append (fun d hd => ha d (List.mem_reverse.mp hd)), hback, List.reverse_reverse]

/-- **Trimming is determined by what it leaves.** -/
theorem trims_iff {cs t : List Char} : Trims cs t ↔ trimChars cs = t := by
  refine ⟨Trims.trimChars_eq, ?_⟩
  rintro rfl
  exact trims_trimChars cs

/-- Nothing is left of a text exactly if it is blank. -/
theorem trimChars_eq_nil_iff {cs : List Char} : trimChars cs = [] ↔ ∀ c ∈ cs, isBlank c = true := by
  rw [← trims_iff]
  constructor
  · rintro ⟨⟨before, after, rfl, hb, ha⟩, -, -⟩
    rw [List.nil_append]
    exact List.forall_mem_append.mpr ⟨hb, ha⟩
  · intro h
    exact ⟨⟨cs, [], by simp, h, by simp⟩, by simp, by simp⟩

end LintLedger.Text
