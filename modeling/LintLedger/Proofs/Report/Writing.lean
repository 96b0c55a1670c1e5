import LintLedger.Proofs.Intake
import LintLedger.Proofs.Report.Grammar
import LintLedger.Proofs.Report.Lines

/-!
# Writing a ledger as a report

A finding is written as the report line that names its document, its position counted from one, and its
message (`LintLedger.Finding.written`), and findings are written line by line. A ledger can be written as
a report if the report can say what it holds (`LintLedger.Ledger.IsWritable`): a document whose list is
empty would leave no trace, and a line feed or a colon in a path would be taken for the end of it.

What is written is read back (`LintLedger.Intake.take_written`): taking in the report leaves the ledger
that was written, whatever document was analysed, and in whatever way the documents alternate in the
report, as long as each of them keeps its findings in their order.
-/

namespace LintLedger

/-- A finding as a line of a report. -/
def Finding.written (f : Finding) : List Char :=
  f.path.toList ++ ':' :: (Text.digits (f.line.toNat + 1) ++ ':' ::
    (Text.digits (f.column.toNat + 1) ++ ':' :: f.message.toList))

/-- Findings as a report, each on a line of its own. -/
def Report.written (fs : List Finding) : String :=
  String.ofList ((fs.map Finding.written).flatMap fun line => line ++ ['\n'])

/-- **A report line can say what the finding says.** -/
structure Finding.IsWritable (f : Finding) : Prop where
  /-- The document has a name. -/
  path_ne : f.path ≠ ""
  /-- The name ends at the first colon. -/
  colon : ':' ∉ f.path.toList
  /-- The name stands on one line. -/
  path_line : '\n' ∉ f.path.toList
  /-- There are no blanks around the name. -/
  trim_path : Text.trim f.path = f.path
  /-- There is a message. -/
  message_ne : f.message ≠ ""
  /-- The message stands on one line. -/
  message_line : '\n' ∉ f.message.toList
  /-- The message does not end like a line. -/
  message_end : f.message.toList.getLast? ≠ some '\r'

instance : DecidablePred Finding.IsWritable := fun f =>
  decidable_of_iff
    (f.path ≠ "" ∧ ':' ∉ f.path.toList ∧ '\n' ∉ f.path.toList ∧ Text.trim f.path = f.path ∧
      f.message ≠ "" ∧ '\n' ∉ f.message.toList ∧ f.message.toList.getLast? ≠ some '\r')
    ⟨fun ⟨hp, hc, hl, ht, hm, hml, hme⟩ => ⟨hp, hc, hl, ht, hm, hml, hme⟩,
      fun h => ⟨h.path_ne, h.colon, h.path_line, h.trim_path, h.message_ne, h.message_line,
        h.message_end⟩⟩

namespace Ledger

/-- **A report can say what the ledger holds.** -/
structure IsWritable (l : Ledger) : Prop where
  /-- Every document has a finding. -/
  ne_nil : ∀ k fs, l.get? k = some fs → fs ≠ []
  /-- Every finding stands under its own document. -/
  own : ∀ k fs, l.get? k = some fs → ∀ f ∈ fs, f.path = k
  /-- Every finding can be written. -/
  finding : ∀ k fs, l.get? k = some fs → ∀ f ∈ fs, f.IsWritable

/-- **The findings are those of the ledger**, in an order that keeps those of a document in theirs; the
documents may alternate in any way. -/
structure IsOrder (l : Ledger) (fs : List Finding) : Prop where
  /-- They are the findings of the ledger. -/
  perm : fs.Perm l.findings
  /-- The findings of a document come in their order. -/
  filter : ∀ k gs, l.get? k = some gs → fs.filter (fun f => f.path = k) = gs

theorem mem_findings_iff {l : Ledger} {f : Finding} :
    f ∈ l.findings ↔ ∃ k fs, l.get? k = some fs ∧ f ∈ fs := by
  unfold findings
  rw [List.mem_flatMap]
  constructor
  · rintro ⟨⟨k, fs⟩, hentry, hf⟩
    exact ⟨k, fs, (mem_entries_iff l k fs).mp hentry, hf⟩
  · rintro ⟨k, fs, hget, hf⟩
    exact ⟨(k, fs), (mem_entries_iff l k fs).mpr hget, hf⟩

theorem isWritable_iff {l : Ledger} :
    l.IsWritable ↔ ∀ e ∈ l.entries, e.2 ≠ [] ∧ ∀ f ∈ e.2, f.path = e.1 ∧ f.IsWritable := by
  constructor
  · rintro h ⟨k, fs⟩ hentry
    have hget := (mem_entries_iff l k fs).mp hentry
    exact ⟨h.ne_nil k fs hget, fun f hf => ⟨h.own k fs hget f hf, h.finding k fs hget f hf⟩⟩
  · intro h
    have hentry := fun k fs (hget : l.get? k = some fs) => h (k, fs) ((mem_entries_iff l k fs).mpr hget)
    exact ⟨fun k fs hget => (hentry k fs hget).1, fun k fs hget f hf => ((hentry k fs hget).2 f hf).1,
      fun k fs hget f hf => ((hentry k fs hget).2 f hf).2⟩

instance : DecidablePred IsWritable := fun _ => decidable_of_iff _ isWritable_iff.symm

theorem isOrder_iff {l : Ledger} {fs : List Finding} :
    l.IsOrder fs ↔
      fs.Perm l.findings ∧ ∀ e ∈ l.entries, fs.filter (fun f => f.path = e.1) = e.2 := by
  constructor
  · rintro ⟨hperm, hfilter⟩
    exact ⟨hperm, fun e he => hfilter e.1 e.2 ((mem_entries_iff l e.1 e.2).mp he)⟩
  · rintro ⟨hperm, hfilter⟩
    exact ⟨hperm, fun k gs hget => hfilter (k, gs) ((mem_entries_iff l k gs).mpr hget)⟩

instance (l : Ledger) : DecidablePred l.IsOrder := fun _ => decidable_of_iff _ isOrder_iff.symm

end Ledger

/-! ### The fields of a position -/

namespace Report

theorem colon_not_mem_digits (n : ℕ) : ':' ∉ Text.digits n :=
  fun h => absurd (Text.mem_digits h).2 (by decide)

theorem feed_not_mem_digits (n : ℕ) : '\n' ∉ Text.digits n :=
  fun h => absurd (Text.mem_digits h).1 (by decide)

/-- No digit is a blank. -/
theorem isBlank_of_mem_digits {n : ℕ} {c : Char} (h : c ∈ Text.digits n) :
    Text.isBlank c = false := by
  obtain ⟨hlow, hhigh⟩ := Text.mem_digits h
  have h48 : 48 ≤ c.toNat := hlow
  have h57 : c.toNat ≤ 57 := hhigh
  simp [Text.isBlank]
  omega

/-- The digits of a number write it. -/
theorem writes_digits (n : ℕ) : Writes (Text.digits n) n := by
  refine ⟨Text.digits n, ⟨⟨[], [], by simp, by simp, by simp⟩, fun c hc => ?_, fun c hc => ?_⟩,
    Text.numeral_digits n⟩
  · exact isBlank_of_mem_digits (List.mem_of_mem_head? hc)
  · exact isBlank_of_mem_digits (List.mem_of_mem_getLast? hc)

end Report

/-! ### A line -/

namespace Finding

/-- The parts of a finding as they are written. -/
def cut (f : Finding) : Report.Cut :=
  ⟨f.path.toList, Text.digits (f.line.toNat + 1), Text.digits (f.column.toNat + 1), f.message.toList⟩

namespace IsWritable

variable {f : Finding} (h : f.IsWritable)
include h

/-- What is written is cut where it was put together. -/
theorem cut_isOf : f.cut.IsOf f.written :=
  ⟨rfl, h.colon, Report.colon_not_mem_digits _, Report.colon_not_mem_digits _⟩

theorem toList_path_ne : f.path.toList ≠ [] :=
  fun hnil => h.path_ne (String.toList_eq_nil_iff.mp hnil)

theorem toList_message_ne : f.message.toList ≠ [] :=
  fun hnil => h.message_ne (String.toList_eq_nil_iff.mp hnil)

/-- The document of a written line is the one that it names. -/
theorem attributed (document : String) :
    Report.Attributed document .reported f.cut.location f.path := by
  have htrims : Text.Trims f.path.toList f.path.toList := by
    rw [Text.trims_iff]
    have hpath := congrArg String.toList h.trim_path
    rwa [Text.trim, String.toList_ofList] at hpath
  have hnamed : Report.Attributed document .reported f.path.toList (String.ofList f.path.toList) :=
    .named htrims h.toList_path_ne
  rwa [String.ofList_toList] at hnamed

/-- **A written line is read back**, whatever document is analysed, but for the severity, which is not
written. -/
theorem toFinding?_written (document : String) :
    (Candidate.ofLine .reported document f.written).toFinding? =
      some { f with severity := .error } := by
  refine (Report.toFinding?_ofLine_iff h.cut_isOf).mpr ⟨h.toList_message_ne, h.path_ne,
    h.attributed document, ?_, ?_, String.ofList_toList.symm, rfl⟩
  · exact_mod_cast Report.writes_digits (f.line.toNat + 1)
  · exact_mod_cast Report.writes_digits (f.column.toNat + 1)

/-- With a classifier that gives the message its severity, all of the finding is read back. -/
theorem finding?_written {classifier : Classifier} (hc : classifier f.message = f.severity)
    (document : String) :
    (Intake.retaining classifier .reported).finding? document f.written = some f := by
  have hread : (Candidate.ofLine (Intake.retaining classifier .reported).attribution document
      f.written).toFinding? = some { f with severity := .error } := h.toFinding?_written document
  have hclass : (Intake.retaining classifier .reported).classifier f.message = f.severity := hc
  unfold Intake.finding?
  rw [hread, Option.map_some, Option.some.injEq]
  dsimp only
  rw [hclass]

theorem feed_not_mem_written : '\n' ∉ f.written := by
  unfold written
  simp [h.path_line, h.message_line, Report.feed_not_mem_digits]

/-- A written finding is one line. -/
theorem linesOf_written : Report.linesOf f.written = [f.written] := by
  have hlast : f.written.getLast? = f.message.toList.getLast? := by
    obtain ⟨c, cs, hcs⟩ := List.exists_cons_of_ne_nil h.toList_message_ne
    unfold written
    rw [hcs]
    simp [List.getLast?_append, List.getLast?_cons]
  have hdrop : Report.dropReturn f.written = f.written := by
    unfold Report.dropReturn
    rw [hlast, if_neg h.message_end]
  rw [Report.linesOf_of_not_mem h.feed_not_mem_written, hdrop, if_neg]
  simp [written]

end IsWritable
end Finding

/-! ### A report -/

namespace Report

/-- The lines of a report are the findings that it was written from. -/
theorem linesOf_written {fs : List Finding} (h : ∀ f ∈ fs, f.IsWritable) :
    linesOf (written fs).toList = fs.map Finding.written := by
  unfold written
  rw [String.toList_ofList, linesOf_flatMap_feed, List.flatMap_map, List.map_eq_flatMap]
  exact List.flatMap_congr fun f hf => (h f hf).linesOf_written

end Report

namespace Intake

/-- The findings of a report are the ones that it was written from. -/
theorem findings_written {classifier : Classifier} {fs : List Finding}
    (h : ∀ f ∈ fs, f.IsWritable) (hc : ∀ f ∈ fs, classifier f.message = f.severity)
    (document : String) :
    (retaining classifier .reported).findings document (Report.written fs).toList = fs := by
  unfold findings
  rw [Report.linesOf_written h, List.filterMap_map]
  have hread : ∀ f ∈ fs,
      ((retaining classifier .reported).finding? document ∘ Finding.written) f = some f :=
    fun f hf => (h f hf).finding?_written (hc f hf) document
  rw [List.filterMap_congr hread, List.filterMap_some]

/-- **What is written is read back.** If a report can say what a ledger holds, then taking in the report
of its findings, in any order that keeps those of a document in theirs, leaves the ledger again: from
nothing, whatever document is analysed, and with any classifier that gives every message the severity
that it has in the ledger. -/
theorem take_written {l : Ledger} (hl : l.IsWritable) {classifier : Classifier}
    (hc : ∀ f ∈ l.findings, classifier f.message = f.severity) {fs : List Finding}
    (hfs : l.IsOrder fs) (location path : String) :
    ((retaining classifier .reported).take (some (Report.written fs)) (some location) path
      .empty).1 = l := by
  have hmem : ∀ f ∈ fs, ∃ k gs, l.get? k = some gs ∧ f ∈ gs :=
    fun f hf => Ledger.mem_findings_iff.mp (hfs.perm.mem_iff.mp hf)
  have hwritable : ∀ f ∈ fs, f.IsWritable := by
    intro f hf
    obtain ⟨k, gs, hget, hmemf⟩ := hmem f hf
    exact hl.finding k gs hget f hmemf
  have hfindings := findings_written hwritable
    (fun f hf => hc f (hfs.perm.mem_iff.mp hf)) path
  refine Ledger.ext_get? fun k => ?_
  rw [get?_take_of_retain rfl, hfindings]
  cases hget : l.get? k with
  | none =>
    -- A finding that names a document stands under it in the ledger, so nothing names this one.
    rw [if_pos, Ledger.get?_empty]
    rw [List.filter_eq_nil_iff]
    rintro f hf hpath
    obtain ⟨k', gs, hget', hf'⟩ := hmem f hf
    have hk : k' = k := (hl.own k' gs hget' f hf').symm.trans (of_decide_eq_true hpath)
    rw [hk, hget] at hget'
    exact absurd hget' (by simp)
  | some gs => rw [hfs.filter k gs hget, if_neg (hl.ne_nil k gs hget)]

/-- Two documents in turn, a path with a carriage return and a blank within, a message with colons and a
blank at its start, the greatest position, and one finding twice. -/
theorem take_written_alternating :
    let a (line : UInt32) (severity : Severity) (message : String) : Finding :=
      ⟨"/x y\r/a", line, 4294967295, severity, message⟩
    let b : Finding := ⟨"b.sv", 7, 0, .error, " error: x:y "⟩
    let l := (Ledger.empty.replace "/x y\r/a" [a 0 .warning "one", a 2 .error "error"]).replace
      "b.sv" [b, b]
    let fs := [b, a 0 .warning "one", b, a 2 .error "error"]
    let classifier := Classifier.ofKeyword "error"
    (l.IsWritable ∧ (∀ f ∈ l.findings, classifier f.message = f.severity) ∧ l.IsOrder fs) ∧
      Report.written fs =
        "b.sv:8:1: error: x:y \n/x y\r/a:1:4294967296:one\nb.sv:8:1: error: x:y \n" ++
          "/x y\r/a:3:4294967296:error\n" ∧
      ((retaining classifier .reported).take (some (Report.written fs)) (some "file:///d") "/d"
        .empty).1 = l := by
  intro a b l fs classifier
  have hwritable : l.IsWritable := by decide +kernel
  have hclass : ∀ f ∈ l.findings, classifier f.message = f.severity := by decide +kernel
  have horder : l.IsOrder fs := by decide +kernel
  exact ⟨⟨hwritable, hclass, horder⟩, by decide +kernel,
    take_written hwritable hclass horder "file:///d" "/d"⟩

end Intake
end LintLedger
