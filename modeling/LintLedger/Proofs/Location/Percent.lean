import LintLedger.Location.Percent
import Mathlib.Data.List.Basic

/-!
# What escaping leaves in a text

An escaped text holds characters that the part of the URL shows as they are, and the characters that
escapes are made of; no others (`LintLedger.Location.mem_escape`). So a separator that a part does not
show never comes up in it.
-/

namespace LintLedger.Location

/-- The characters that escapes are made of. -/
def escapeMarks : List Char := "%0123456789ABCDEF".toList

theorem upperHex_mem {n : ℕ} (h : n < 16) : upperHex n ∈ escapeMarks := by
  revert n
  decide

theorem mem_escapeByte {b : UInt8} {c : Char} (h : c ∈ escapeByte b) : c ∈ escapeMarks := by
  have hb : b.toNat < 256 := b.toNat_lt
  simp only [escapeByte, List.mem_cons, List.not_mem_nil, or_false] at h
  rcases h with rfl | rfl | rfl
  · decide
  · exact upperHex_mem (by omega)
  · exact upperHex_mem (by omega)

/-- **An escaped text holds what is shown, and escapes.** -/
theorem mem_escape {p : Part} {cs : List Char} {c : Char} (h : c ∈ escape p cs) :
    (c ∈ cs ∧ p.shows c = true) ∨ c ∈ escapeMarks := by
  obtain ⟨d, hd, hc⟩ := List.mem_flatMap.mp h
  split at hc
  · next hshows =>
    rw [List.mem_singleton] at hc
    rw [hc]
    exact Or.inl ⟨hd, hshows⟩
  · obtain ⟨b, -, hb⟩ := List.mem_flatMap.mp hc
    exact Or.inr (mem_escapeByte hb)

theorem not_mem_escape_of_not_shows {p : Part} {c : Char} (hmark : c ∉ escapeMarks)
    (hshows : ¬p.shows c = true) (cs : List Char) : c ∉ escape p cs :=
  fun h => (mem_escape h).elim (fun h => hshows h.2) hmark

theorem not_mem_escape_of_not_mem {p : Part} {cs : List Char} {c : Char} (hmark : c ∉ escapeMarks)
    (hmem : c ∉ cs) : c ∉ escape p cs :=
  fun h => (mem_escape h).elim (fun h => hmem h.1) hmark

end LintLedger.Location
