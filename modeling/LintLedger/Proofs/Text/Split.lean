import LintLedger.Text.Split

/-!
# Texts and their pieces

Cutting a text at a separator gives pieces without the separator, and joining them with it gives the
text back (`LintLedger.Text.join_split`). Everything about the pieces of a longer text follows from one
equation at a separator (`split_append`); in particular, pieces that are written each behind a separator
can be told apart in the text (`flatMap_sep_injective`).
-/

namespace LintLedger.Text

variable {α : Type} [DecidableEq α] {sep : α}

/-- A text without the separator is one piece. -/
theorem split_of_not_mem {p : List α} (h : sep ∉ p) : split sep p = [p] := by
  induction p with
  | nil => rfl
  | cons c p ih =>
    obtain ⟨hc, hp⟩ := List.ne_and_not_mem_of_not_mem_cons h
    rw [split, if_neg (Ne.symm hc), ih hp]

/-- **A separator parts the pieces** before it from those behind it. -/
theorem split_append (cs ds : List α) :
    split sep (cs ++ sep :: ds) = split sep cs ++ split sep ds := by
  induction cs with
  | nil => simp [split]
  | cons c cs ih =>
    rw [List.cons_append, split, split, ih]
    by_cases hc : c = sep
    · rw [if_pos hc, if_pos hc, List.cons_append]
    · rw [if_neg hc, if_neg hc]
      -- The character goes to the first piece of the text before the separator, which is there.
      obtain ⟨p, ps, hps⟩ := List.exists_cons_of_ne_nil (split_ne_nil sep cs)
      rw [hps, List.cons_append, List.cons_append]

/-- **The first piece ends at the first separator.** -/
theorem split_append_sep {p : List α} (h : sep ∉ p) (cs : List α) :
    split sep (p ++ sep :: cs) = p :: split sep cs := by
  rw [split_append, split_of_not_mem h, List.singleton_append]

/-- No piece holds the separator. -/
theorem not_mem_of_mem_split {cs p : List α} (h : p ∈ split sep cs) : sep ∉ p := by
  induction cs generalizing p with
  | nil =>
    rw [split, List.mem_singleton] at h
    rw [h]
    exact List.not_mem_nil
  | cons c cs ih =>
    unfold split at h
    split at h
    · rcases List.mem_cons.mp h with rfl | h
      · exact List.not_mem_nil
      · exact ih h
    · next hc =>
      split at h
      · next hs => exact absurd hs (split_ne_nil sep cs)
      · next piece rest hs =>
        rcases List.mem_cons.mp h with rfl | h
        · refine List.not_mem_cons_of_ne_of_not_mem (Ne.symm hc) (ih ?_)
          rw [hs]
          exact List.mem_cons_self
        · refine ih ?_
          rw [hs]
          exact List.mem_cons_of_mem _ h

omit [DecidableEq α] in
/-- Joining a first piece to a list that is not empty puts one separator between. -/
theorem join_cons (sep : α) (p : List α) {ps : List (List α)} (h : ps ≠ []) :
    join sep (p :: ps) = p ++ sep :: join sep ps := by
  cases ps with
  | nil => exact absurd rfl h
  | cons q ps => rfl

/-- A text written as pieces, each behind a separator, is cut into these pieces. -/
theorem split_append_flatMap {p : List α} {ps : List (List α)} (hp : sep ∉ p)
    (hps : ∀ q ∈ ps, sep ∉ q) : split sep (p ++ ps.flatMap fun q => sep :: q) = p :: ps := by
  induction ps generalizing p with
  | nil => rw [List.flatMap_nil, List.append_nil, split_of_not_mem hp]
  | cons q ps ih =>
    rw [List.flatMap_cons, List.cons_append, split_append_sep hp,
      ih (hps q List.mem_cons_self) fun r hr => hps r (List.mem_cons_of_mem _ hr)]

omit [DecidableEq α] in
/-- Joined pieces are the first one, and the others each behind a separator. -/
theorem join_cons_eq (sep : α) (p : List α) (ps : List (List α)) :
    join sep (p :: ps) = p ++ ps.flatMap fun q => sep :: q := by
  induction ps generalizing p with
  | nil => rw [List.flatMap_nil, List.append_nil]; rfl
  | cons q ps ih => rw [join_cons sep p (List.cons_ne_nil q ps), ih, List.flatMap_cons, List.cons_append]

omit [DecidableEq α] in
theorem mem_join {ps : List (List α)} {p : List α} (hp : p ∈ ps) {c : α} (hc : c ∈ p) : c ∈ join sep ps := by
  obtain ⟨q, qs, rfl⟩ := List.exists_cons_of_ne_nil (List.ne_nil_of_mem hp)
  rw [join_cons_eq, List.mem_append, List.mem_flatMap]
  rcases List.mem_cons.mp hp with rfl | hp
  · exact Or.inl hc
  · exact Or.inr ⟨p, hp, List.mem_cons_of_mem sep hc⟩

/-- The pieces are made of what is in the text. -/
theorem mem_of_mem_split {cs p : List α} (hp : p ∈ split sep cs) {c : α} (hc : c ∈ p) : c ∈ cs := by
  rw [← join_split sep cs]
  exact mem_join hp hc

/-- Pieces that are joined are cut apart again. -/
theorem split_join {ps : List (List α)} (hne : ps ≠ []) (h : ∀ p ∈ ps, sep ∉ p) :
    split sep (join sep ps) = ps := by
  obtain ⟨p, ps, rfl⟩ := List.exists_cons_of_ne_nil hne
  obtain ⟨hp, hps⟩ := List.forall_mem_cons.mp h
  rw [join_cons_eq, split_append_flatMap hp hps]

/-- **Pieces behind separators can be told apart.** -/
theorem flatMap_sep_injective {ps qs : List (List α)} (hps : ∀ p ∈ ps, sep ∉ p)
    (hqs : ∀ q ∈ qs, sep ∉ q)
    (h : (ps.flatMap fun p => sep :: p) = qs.flatMap fun q => sep :: q) : ps = qs := by
  have hp := split_append_flatMap List.not_mem_nil hps
  have hq := split_append_flatMap List.not_mem_nil hqs
  rw [h, hq] at hp
  exact (List.cons.inj hp).2.symm

end LintLedger.Text
