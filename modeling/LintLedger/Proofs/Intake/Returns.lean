import LintLedger.Intake
import LintLedger.Proofs.Report.Lines
import Mathlib.Data.List.Forall2

/-!
# Carriage returns at line ends

Some tools end their lines with a carriage return and a line feed, others with a line feed alone, and some
do now one and now the other. A text *with returns* is a text in which a return has been put before some of
the line feeds, and perhaps one at the end (`LintLedger.Report.WithReturns`). Piece by piece it is the text
or the text with one return behind it (`LintLedger.Report.WithReturns.split`), and where the text has no
returns of its own, the one that is dropped from a piece is the one that was put there; blank lines and a
last line without a line feed are no exceptions.

So a text with returns has the lines of the text (`LintLedger.Report.WithReturns.linesOf_eq`). Whatever
looks at a report looks at its lines only, and a whole run with all that it counts is the same
(`LintLedger.Intake.takeReport_withReturns`).
-/

namespace LintLedger

namespace Report

/-- **The second text is the first one with carriage returns put in**: one before some of the line feeds,
and perhaps one at the end. -/
inductive WithReturns : List Char → List Char → Prop where
  /-- The text ends as it did. -/
  | plain : WithReturns [] []
  /-- A return ends the text. -/
  | last : WithReturns [] ['\r']
  /-- A return stands before a line feed. -/
  | feed {cs ds : List Char} (rest : WithReturns cs ds) :
      WithReturns ('\n' :: cs) ('\r' :: '\n' :: ds)
  /-- A character is as it was, be it a line feed or not. -/
  | keep (c : Char) {cs ds : List Char} (rest : WithReturns cs ds) : WithReturns (c :: cs) (c :: ds)

theorem dropReturn_of_not_mem {piece : List Char} (h : '\r' ∉ piece) : dropReturn piece = piece := by
  refine if_neg fun hlast => h ?_
  exact List.mem_of_getLast? hlast

theorem dropReturn_append_return (piece : List Char) : dropReturn (piece ++ ['\r']) = piece := by
  have hlast : (piece ++ ['\r']).getLast? = some '\r' := List.getLast?_concat
  rw [dropReturn, if_pos hlast, List.dropLast_concat]

/-- The second piece is the first one, perhaps with a return behind it, and the first one has none. -/
def IsReturned (p q : List Char) : Prop := '\r' ∉ p ∧ (q = p ∨ q = p ++ ['\r'])

theorem IsReturned.cons {p q : List Char} (h : IsReturned p q) {c : Char} (hc : c ≠ '\r') :
    IsReturned (c :: p) (c :: q) := by
  obtain ⟨hp, rfl | rfl⟩ := h
  · exact ⟨List.not_mem_cons_of_ne_of_not_mem hc.symm hp, Or.inl rfl⟩
  · exact ⟨List.not_mem_cons_of_ne_of_not_mem hc.symm hp, Or.inr rfl⟩

theorem IsReturned.dropReturn_eq {p q : List Char} (h : IsReturned p q) : dropReturn q = dropReturn p := by
  obtain ⟨hp, rfl | rfl⟩ := h
  · rfl
  · rw [dropReturn_append_return, dropReturn_of_not_mem hp]

namespace WithReturns

variable {cs ds : List Char}

/-- **Piece by piece** a text with returns is the text, perhaps with a return behind it. -/
theorem split (h : WithReturns cs ds) (hcs : '\r' ∉ cs) :
    List.Forall₂ IsReturned (Text.split '\n' cs) (Text.split '\n' ds) := by
  induction h with
  | plain => exact .cons ⟨List.not_mem_nil, Or.inl rfl⟩ .nil
  | last => exact .cons ⟨List.not_mem_nil, Or.inr rfl⟩ .nil
  | @feed cs ds _ ih =>
    have hrest := ih (List.ne_and_not_mem_of_not_mem_cons hcs).2
    -- The piece before the line feed was empty, and is a lone return now.
    have hempty : Text.split '\n' ('\n' :: cs) = [] :: Text.split '\n' cs :=
      Text.split_append_sep List.not_mem_nil cs
    have hlone : Text.split '\n' ('\r' :: '\n' :: ds) = ['\r'] :: Text.split '\n' ds :=
      Text.split_append_sep (p := ['\r']) (by decide) ds
    rw [hempty, hlone]
    exact .cons ⟨List.not_mem_nil, Or.inr rfl⟩ hrest
  | @keep c cs ds _ ih =>
    obtain ⟨hc, hrest⟩ := List.ne_and_not_mem_of_not_mem_cons hcs
    have hpieces := ih hrest
    rw [Text.split, Text.split]
    by_cases hfeed : c = '\n'
    · rw [if_pos hfeed, if_pos hfeed]
      exact .cons ⟨List.not_mem_nil, Or.inl rfl⟩ hpieces
    · rw [if_neg hfeed, if_neg hfeed]
      -- The character goes to the first piece on both sides.
      obtain ⟨p, ps, hp⟩ := List.exists_cons_of_ne_nil (Text.split_ne_nil '\n' cs)
      obtain ⟨q, qs, hq⟩ := List.exists_cons_of_ne_nil (Text.split_ne_nil '\n' ds)
      rw [hp, hq] at hpieces ⊢
      cases hpieces with
      | cons hfirst hothers => exact .cons (hfirst.cons hc.symm) hothers

/-- **A text with returns has the lines of the text.** -/
theorem linesOf_eq (h : WithReturns cs ds) (hcs : '\r' ∉ cs) : linesOf ds = linesOf cs := by
  have hpieces : (Text.split '\n' cs).map dropReturn = (Text.split '\n' ds).map dropReturn := by
    rw [← List.forall₂_eq_eq_eq, List.forall₂_map_left_iff, List.forall₂_map_right_iff]
    exact (h.split hcs).imp fun _ _ hreturned => hreturned.dropReturn_eq.symm
  rw [linesOf, linesOf, hpieces]

/-- A text with returns is not empty if the text is not. -/
theorem ne_nil (h : WithReturns cs ds) (hcs : cs ≠ []) : ds ≠ [] := by
  cases h with
  | plain => exact absurd rfl hcs
  | last => exact absurd rfl hcs
  | feed rest => exact List.cons_ne_nil _ _
  | keep c rest => exact List.cons_ne_nil _ _

end WithReturns
end Report

namespace Intake

open Report (said WithReturns)

/-- A run looks at the lines of a report and at nothing else of it. -/
theorem takeReport_congr_linesOf (i : Intake) {r s : Report}
    (h : Report.linesOf r.text = Report.linesOf s.text) (path : String) (l : Ledger) :
    i.takeReport r path l = i.takeReport s path l := by
  have hcandidates : r.candidates i.attribution path = s.candidates i.attribution path :=
    congrArg (List.map (Candidate.ofLine i.attribution path)) h
  rw [takeReport, takeReport, hcandidates]

/-- **Carriage returns at line ends do not show.** Put into a text that has none of its own, before some of
its line feeds and perhaps at its end, they change nothing of what the text says, wherever the documents of
its lines come from; and nothing of a run, for any intake, on any path and over any ledger: neither the
ledger that it leaves, nor how many findings it has entered and how many lines it has left out, nor the log
of all that. -/
theorem takeReport_withReturns {s t : String} (hs : s ≠ "") (hreturn : '\r' ∉ s.toList)
    (h : WithReturns s.toList t.toList) :
    (∀ a document, said a document t = said a document s) ∧
      ∃ plain returned, Report.ofOutput (some s) = .ok plain ∧ Report.ofOutput (some t) = .ok returned ∧
        ∀ (i : Intake) (path : String) (l : Ledger),
          i.takeReport returned path l = i.takeReport plain path l ∧
            ∀ document, i.take (some t) document path l = i.take (some s) document path l := by
  have hlines : Report.linesOf t.toList = Report.linesOf s.toList := h.linesOf_eq hreturn
  have hplain : s.toList ≠ [] := fun hnil => hs (String.toList_eq_nil_iff.mp hnil)
  have hreturned : t.toList ≠ [] := h.ne_nil hplain
  have hs' : Report.ofOutput (some s) = .ok ⟨s.toList, hplain⟩ := dif_pos hplain
  have ht' : Report.ofOutput (some t) = .ok ⟨t.toList, hreturned⟩ := dif_pos hreturned
  refine ⟨fun a document => ?_, _, _, hs', ht', fun i path l => ?_⟩
  · rw [Report.said_eq_map, Report.said_eq_map, hlines]
  · have hrun : i.takeReport ⟨t.toList, hreturned⟩ path l = i.takeReport ⟨s.toList, hplain⟩ path l :=
      takeReport_congr_linesOf i hlines path l
    refine ⟨hrun, fun document => ?_⟩
    cases document with
    | none => rfl
    | some location => simp only [take, hs', ht', hrun]

/-- Returns before the first line feed, on a blank line, and at the end of a line that has no message and so
stays without one; the line feed between them is as it was. -/
theorem takeReport_withReturns_mixed :
    let s := "/a:1:2:one\n\n/a:3:4:two\n/a:5:6:"
    let t := "/a:1:2:one\r\n\r\n/a:3:4:two\n/a:5:6:\r"
    let i : Intake := { attribution := .reported, stalePolicy := .clear }
    (s ≠ "" ∧ '\r' ∉ s.toList ∧ WithReturns s.toList t.toList) ∧
      i.take (some t) (some "file:///d") "/d" .empty = i.take (some s) (some "file:///d") "/d" .empty ∧
      (i.take (some s) (some "file:///d") "/d" .empty).2 =
        [.replacing "/a", .malformedLine "/d", .reportTaken "/d" 2 1, .clearing "/d"] := by
  intro s t i
  have hs : s ≠ "" := by decide
  have hreturn : '\r' ∉ s.toList := by decide
  have h : WithReturns s.toList t.toList := by
    simp only [s, t]
    repeat constructor
  obtain ⟨-, plain, returned, -, -, hrun⟩ := takeReport_withReturns hs hreturn h
  exact ⟨⟨hs, hreturn, h⟩, (hrun i "/d" .empty).2 (some "file:///d"), by decide +kernel⟩

end Intake
end LintLedger
