import LintLedger.Proofs.Intake
import LintLedger.Proofs.Report.Lines

/-!
# Noise in a report

What a report says, it says line by line: two reports with a line feed between them say what the one says
and then what the other says (`LintLedger.Report.said_append_feed`), and so they have the findings of both
(`LintLedger.Intake.findings_append_feed`). An output is *noise* on a path if nothing of what it says makes
sense there (`LintLedger.Intake.IsNoise`); it may have any number of lines, and it has no findings.

Noise within a report is therefore invisible: the ledger is the one that the report leaves without it, be it
between two findings for a document, before the first one, or behind the last one, and whatever becomes of
stale findings (`LintLedger.Intake.take_noise`). What tells the two apart is the log, which counts the lines
that made no sense.
-/

namespace LintLedger.Intake

open Report (linesOf said)

/-- **The output is noise** for an intake on a path: nothing that it says makes sense. -/
def IsNoise (i : Intake) (path noise : String) : Prop :=
  ∀ c ∈ said i.attribution path noise, c.isWellFormed = false

instance (i : Intake) (path noise : String) : Decidable (i.IsNoise path noise) :=
  inferInstanceAs (Decidable (∀ c ∈ said i.attribution path noise, c.isWellFormed = false))

variable {i : Intake} {path : String}

/-- Texts with a line feed between them have the findings of both. -/
theorem findings_append_feed (i : Intake) (path : String) (text rest : List Char) :
    i.findings path (text ++ '\n' :: rest) = i.findings path text ++ i.findings path rest := by
  simp only [findings, Report.linesOf_append_feed, List.filterMap_append]

/-- A line that makes no sense has no finding. -/
theorem finding?_of_not_isWellFormed {line : List Char}
    (h : (Candidate.ofLine i.attribution path line).isWellFormed = false) :
    i.finding? path line = none := by
  have hnone : (Candidate.ofLine i.attribution path line).toFinding? = none := by
    rw [← Option.not_isSome_iff_eq_none, Candidate.toFinding?_isSome, h]
    exact Bool.false_ne_true
  rw [finding?, hnone, Option.map_none]

/-- **Noise has no findings.** -/
theorem findings_of_isNoise {noise : String} (h : i.IsNoise path noise) :
    i.findings path noise.toList = [] := by
  rw [findings, List.filterMap_eq_nil_iff]
  intro line hline
  have hsaid : Candidate.ofLine i.attribution path line ∈ said i.attribution path noise := by
    rw [Report.said_eq_map]
    exact List.mem_map_of_mem hline
  exact finding?_of_not_isWellFormed (h _ hsaid)

/-- Noise adds nothing to the findings of the texts around it. -/
theorem findings_around_noise {noise : String} (h : i.IsNoise path noise) (s t : String) :
    i.findings path (s ++ "\n" ++ noise ++ "\n" ++ t).toList =
      i.findings path (s ++ "\n" ++ t).toList := by
  have hnoisy : (s ++ "\n" ++ noise ++ "\n" ++ t).toList =
      s.toList ++ '\n' :: (noise.toList ++ '\n' :: t.toList) := by simp
  have hquiet : (s ++ "\n" ++ t).toList = s.toList ++ '\n' :: t.toList := by simp
  calc i.findings path (s ++ "\n" ++ noise ++ "\n" ++ t).toList
      = i.findings path s.toList ++ (i.findings path noise.toList ++ i.findings path t.toList) := by
        rw [hnoisy, findings_append_feed, findings_append_feed]
    _ = i.findings path s.toList ++ i.findings path t.toList := by
        rw [findings_of_isNoise h, List.nil_append]
    _ = i.findings path (s ++ "\n" ++ t).toList := by rw [hquiet, findings_append_feed]

/-- **Reports compose line by line, and noise in them is invisible.** Two outputs with a line feed between
them say what the one says and then what the other says, wherever the documents of their lines come from.
With noise between them they leave the ledger that they leave without it, for any intake and any document,
over any ledger; both outputs may be empty, and then the noise is all that was printed. -/
theorem take_noise (s t : String) :
    (∀ a document, said a document (s ++ "\n" ++ t) = said a document s ++ said a document t) ∧
      ∀ (i : Intake) (path noise : String), i.IsNoise path noise →
        ∀ (document : Option String) (l : Ledger),
          (i.take (some (s ++ "\n" ++ noise ++ "\n" ++ t)) document path l).1 =
            (i.take (some (s ++ "\n" ++ t)) document path l).1 := by
  refine ⟨fun a document => Report.said_append_feed a document s t, ?_⟩
  intro i path noise hnoise document l
  have hnoisy : s ++ "\n" ++ noise ++ "\n" ++ t ≠ "" := by simp
  have hquiet : s ++ "\n" ++ t ≠ "" := by simp
  exact take_congr_findings hnoisy hquiet (findings_around_noise hnoise s t) document l

/-- Noise of a blank line, a lone carriage return, a line without fields and one that counts from zero, between
two findings for a document; the document that it names keeps what it had, and the analysed one is cleared. -/
theorem take_noise_between :
    let i : Intake := { attribution := .reported, stalePolicy := .clear }
    let noise := "\n\r\nno line\n/b:0:1:none\r\n"
    let old : Finding := ⟨"/d", 7, 7, .error, "old"⟩
    let l := (Ledger.empty.replace "/b" [old]).replace "/d" [old]
    i.IsNoise "/d" noise ∧
      (i.take (some ("/a:1:1:one\r" ++ "\n" ++ noise ++ "\n" ++ "/a:2:1:two")) (some "file:///d") "/d" l).1 =
        (i.take (some ("/a:1:1:one\r" ++ "\n" ++ "/a:2:1:two")) (some "file:///d") "/d" l).1 ∧
      (i.take (some ("/a:1:1:one\r" ++ "\n" ++ "/a:2:1:two")) (some "file:///d") "/d" l).1.entries =
        [("/a", [⟨"/a", 0, 0, .warning, "one"⟩, ⟨"/a", 1, 0, .warning, "two"⟩]), ("/b", [old]),
          ("/d", [])] := by
  intro i noise old l
  have hnoise : i.IsNoise "/d" noise := by decide +kernel
  exact ⟨hnoise, (take_noise _ _).2 i "/d" noise hnoise (some "file:///d") l, by decide +kernel⟩

end LintLedger.Intake
