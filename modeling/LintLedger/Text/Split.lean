/-!
# Cutting text at a separator

A text with `n` separators has `n + 1` pieces, some of them perhaps empty: cutting loses nothing but
the separators, and putting them back between the pieces gives the text (`join_split`). Report lines
are cut at colons and reports at line feeds by this one function.
-/

namespace LintLedger.Text

variable {α : Type} [DecidableEq α]

/-- The pieces between the separators, in order; always at least one. -/
def split (sep : α) : List α → List (List α)
  | [] => [[]]
  | c :: cs =>
    if c = sep then [] :: split sep cs
    else match split sep cs with
      | [] => [[c]]
      | piece :: rest => (c :: piece) :: rest

/-- The pieces with one separator between neighbours. -/
def join (sep : α) : List (List α) → List α
  | [] => []
  | [piece] => piece
  | piece :: rest => piece ++ sep :: join sep rest

theorem split_ne_nil (sep : α) (cs : List α) : split sep cs ≠ [] := by
  cases cs with
  | nil => simp [split]
  | cons c cs =>
    unfold split
    split
    · simp
    · split <;> simp

/-- Joining the pieces of a text at their separator gives the text back. -/
theorem join_split (sep : α) (cs : List α) : join sep (split sep cs) = cs := by
  induction cs with
  | nil => rfl
  | cons c cs ih =>
    unfold split
    split
    · next h =>
      subst h
      cases hs : split c cs with
      | nil => exact absurd hs (split_ne_nil c cs)
      | cons piece rest => rw [hs] at ih; simp [join, ih]
    · split
      · next hs => exact absurd hs (split_ne_nil sep cs)
      · next piece rest hs =>
        rw [hs] at ih
        cases rest with
        | nil => simpa [join] using ih
        | cons p ps => simp only [join, List.cons_append] at ih ⊢; rw [ih]

end LintLedger.Text
