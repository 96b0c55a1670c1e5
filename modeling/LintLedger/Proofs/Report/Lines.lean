import LintLedger.Proofs.Text.Split
import LintLedger.Report

/-!
# The lines of a report

A report is cut at its line feeds, and what remains of a piece without its carriage return is a line,
unless nothing remains. All about the lines of a longer text follows from one equation at a line feed
(`LintLedger.Report.linesOf_append_feed`): what stands before it and what stands behind it give their
lines apart from each other. So a text is the lines of its pieces (`linesOf_eq_flatMap`), and lines that
are written each with a line feed are read one by one (`linesOf_flatMap_feed`).

What an output says is what its lines say, one by one (`LintLedger.Report.said`), and that of the empty
output is nothing; so outputs can be put together with line feeds (`said_append_feed`).

A part of a report is made of some of its lines, as they stand there (`LintLedger.Report.part`): with the
line feeds that end them, with their carriage returns, and without a line feed at the end where the
report has none. Its lines are the chosen ones (`linesOf_part`).
-/

namespace LintLedger.Report

open LintLedger.Text (split)

/-! ### Pieces and lines -/

theorem linesOf_nil : linesOf [] = [] := rfl

/-- A piece without a line feed is one line, or none. -/
theorem linesOf_of_not_mem {piece : List Char} (h : '\n' ∉ piece) :
    linesOf piece = if dropReturn piece = [] then [] else [dropReturn piece] := by
  unfold linesOf
  rw [Text.split_of_not_mem h, List.map_singleton]
  cases dropReturn piece with
  | nil => rfl
  | cons c cs => rfl

/-- **A line feed keeps apart** the lines before it and behind it. -/
theorem linesOf_append_feed (text rest : List Char) :
    linesOf (text ++ '\n' :: rest) = linesOf text ++ linesOf rest := by
  unfold linesOf
  rw [Text.split_append, List.map_append, List.filter_append]

/-- Taking the carriage return off adds nothing. -/
theorem dropReturn_subset (piece : List Char) : dropReturn piece ⊆ piece := by
  unfold dropReturn
  split
  · exact List.dropLast_subset piece
  · exact List.Subset.refl piece

/-- A line goes on to the end of the line. -/
theorem feed_not_mem_of_mem_linesOf {text line : List Char} (h : line ∈ linesOf text) :
    '\n' ∉ line := by
  obtain ⟨piece, hpiece, rfl⟩ := List.mem_map.mp (List.mem_filter.mp h).1
  exact fun hfeed => Text.not_mem_of_mem_split hpiece (dropReturn_subset piece hfeed)

/-- Lines that are written each with a line feed are read one by one. -/
theorem linesOf_flatMap_feed (pieces : List (List Char)) :
    linesOf (pieces.flatMap fun p => p ++ ['\n']) = pieces.flatMap linesOf := by
  induction pieces with
  | nil => rfl
  | cons p ps ih =>
    rw [List.flatMap_cons, List.flatMap_cons, List.append_assoc, List.singleton_append,
      linesOf_append_feed, ih]

/-! ### What an output says -/

/-- **What the lines of an output say**, in order. An output without text is no report, and says nothing. -/
def said (a : Attribution) (document output : String) : List Candidate :=
  match ofOutput (some output) with
  | .ok report => report.candidates a document
  | .error .noText => []

theorem said_eq_map (a : Attribution) (document output : String) :
    said a document output = (linesOf output.toList).map (Candidate.ofLine a document) := by
  by_cases htext : output.toList = []
  · have hfault : ofOutput (some output) = .error .noText := dif_neg (not_not_intro htext)
    simp only [said, hfault, htext, linesOf_nil, List.map_nil]
  · have hreport : ofOutput (some output) = .ok ⟨output.toList, htext⟩ := dif_pos htext
    simp only [said, hreport, candidates]

/-- Two outputs with a line feed between them say what the one says and then what the other says. -/
theorem said_append_feed (a : Attribution) (document s t : String) :
    said a document (s ++ "\n" ++ t) = said a document s ++ said a document t := by
  have htext : (s ++ "\n" ++ t).toList = s.toList ++ '\n' :: t.toList := by simp
  rw [said_eq_map, said_eq_map, said_eq_map, htext, linesOf_append_feed, List.map_append]

/-! ### Parts of a report -/

/-- Some of the pieces of a text, as they stand there: each ends with its line feed, but for the last one
of the text, which has none. -/
def choose (chosen : List Char → Bool) : List (List Char) → List Char
  | [] => []
  | [last] => if chosen last then last else []
  | p :: ps => (if chosen p then p ++ ['\n'] else []) ++ choose chosen ps

/-- **The part of a report** made of the lines that are chosen, in their order. -/
def part (chosen : List Char → Bool) (text : List Char) : List Char :=
  choose (fun piece => chosen (dropReturn piece)) (split '\n' text)

variable (chosen : List Char → Bool)

theorem choose_cons (p : List Char) {ps : List (List Char)} (h : ps ≠ []) :
    choose chosen (p :: ps) = (if chosen p then p ++ ['\n'] else []) ++ choose chosen ps := by
  cases ps with
  | nil => exact absurd rfl h
  | cons q qs => rfl

/-- With all pieces chosen the text is whole. -/
theorem choose_true (pieces : List (List Char)) :
    choose (fun _ => true) pieces = Text.join '\n' pieces := by
  induction pieces with
  | nil => rfl
  | cons p ps ih =>
    cases ps with
    | nil => rfl
    | cons q qs =>
      rw [choose_cons _ _ (List.cons_ne_nil q qs), ih, Text.join_cons _ _ (List.cons_ne_nil q qs),
        if_pos rfl, List.append_assoc, List.singleton_append]

/-- The lines of chosen pieces. -/
theorem linesOf_choose (pieces : List (List Char)) :
    linesOf (choose chosen pieces) = (pieces.filter chosen).flatMap linesOf := by
  induction pieces with
  | nil => rfl
  | cons p ps ih =>
    cases ps with
    -- The last piece is chosen without a line feed, and ends with the text.
    | nil => by_cases hc : chosen p = true <;> simp [choose, hc, linesOf_nil]
    | cons q qs =>
      rw [choose_cons _ _ (List.cons_ne_nil q qs)]
      by_cases hc : chosen p = true
      · rw [if_pos hc, List.append_assoc, List.singleton_append, linesOf_append_feed, ih,
          List.filter_cons_of_pos hc, List.flatMap_cons]
      · rw [if_neg hc, List.nil_append, ih, List.filter_cons_of_neg hc]

/-- The lines of a report are the lines of its pieces. -/
theorem linesOf_eq_flatMap (text : List Char) :
    linesOf text = (split '\n' text).flatMap linesOf := by
  have h := linesOf_choose (fun _ => true) (split '\n' text)
  rwa [choose_true, Text.join_split, List.filter_eq_self.mpr fun _ _ => rfl] at h

/-- Choosing pieces by what remains of them is choosing lines. -/
theorem flatMap_linesOf_filter {pieces : List (List Char)} (h : ∀ p ∈ pieces, '\n' ∉ p) :
    (pieces.filter fun p => chosen (dropReturn p)).flatMap linesOf =
      (pieces.flatMap linesOf).filter chosen := by
  induction pieces with
  | nil => rfl
  | cons p ps ih =>
    obtain ⟨hp, hps⟩ := List.forall_mem_cons.mp h
    rw [List.flatMap_cons, List.filter_append, ← ih hps, linesOf_of_not_mem hp]
    by_cases hc : chosen (dropReturn p) = true
    · rw [List.filter_cons_of_pos (by exact hc), List.flatMap_cons, linesOf_of_not_mem hp]
      split <;> simp [hc]
    · rw [List.filter_cons_of_neg (by exact hc)]
      split <;> simp [hc]

/-- **The lines of a part** are the chosen ones. -/
theorem linesOf_part (text : List Char) :
    linesOf (part chosen text) = (linesOf text).filter chosen := by
  have hpieces : ∀ p ∈ split '\n' text, '\n' ∉ p := fun p hp => Text.not_mem_of_mem_split hp
  unfold part
  rw [linesOf_choose, flatMap_linesOf_filter chosen hpieces, ← linesOf_eq_flatMap]

end LintLedger.Report
