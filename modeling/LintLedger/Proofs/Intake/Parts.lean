import LintLedger.Proofs.Intake
import LintLedger.Proofs.Report.Lines

/-!
# A report taken in document by document

A tool that looks at many files prints one report on all of them, with the lines on one file between
those on another. The *subject* of a line is the document that it names, and the analysed one if it
names none (`LintLedger.Report.subject`). A line that is attributed by what it names says the same as the
line attributed to its subject (`LintLedger.Candidate.ofLine_reported`), so a report is worth its parts,
one for each subject: taking in the whole report with attribution to the named documents, and taking in
the parts one after the other, each as a report on its own subject alone, leave the same ledger, in
whatever order the parts come (`LintLedger.Intake.take_eq_foldl_takePart`).

Both sides come to the same at every document: what the lines with this subject say, if any of them makes
sense, and else what was there before. The visited documents of the one run over the whole report do not
show, nor do the fresh ones of the many runs over its parts.
-/

namespace LintLedger

/-! ### Subjects -/

namespace Report

/-- **The subject of a line**: the document that its first field names without the blanks around it, and
the given one if that is empty. -/
def subject (document : String) (line : List Char) : String :=
  let named := Text.trim (String.ofList (line.takeWhile (· ≠ ':')))
  if named = "" then document else named

theorem head_split {α : Type} [DecidableEq α] (sep : α) (cs : List α) :
    ∃ rest, Text.split sep cs = cs.takeWhile (· ≠ sep) :: rest := by
  induction cs with
  | nil => exact ⟨[], rfl⟩
  | cons c cs ih =>
    obtain ⟨rest, hrest⟩ := ih
    by_cases hc : c = sep
    · exact ⟨Text.split sep cs, by simp [Text.split, hc]⟩
    · exact ⟨rest, by simp [Text.split, hc, hrest]⟩

theorem path_reported (document : String) (location : List Char) :
    Attribution.path .reported document location =
      if Text.trim (String.ofList location) = "" then document
      else Text.trim (String.ofList location) := by
  unfold Attribution.path Text.trim
  rw [String.toList_ofList]
  cases Text.trimChars location with
  | nil => simp
  | cons c cs => simp

end Report

/-- **A line that names its document** says what it says as a line about its subject. -/
theorem Candidate.ofLine_reported (document : String) (line : List Char) :
    Candidate.ofLine .reported document line =
      Candidate.ofLine .document (Report.subject document line) line := by
  obtain ⟨rest, hrest⟩ := Report.head_split ':' line
  unfold Candidate.ofLine Report.subject
  rw [hrest]
  -- Only the number of fields decides what else the line says.
  rcases rest with _ | ⟨l, _ | ⟨c, message⟩⟩
  · simp only [Candidate.ofFields, Report.path_reported]
    rfl
  · simp only [Candidate.ofFields, Report.path_reported]
    rfl
  · simp only [Candidate.ofFields, Report.path_reported]
    rfl

/-! ### Findings by subject -/

namespace Intake

open Report (linesOf part subject)

/-- The findings of the part of a report with the given subject, read as a report on this subject. -/
def findingsOn (classifier : Classifier) (document : String) (text : List Char) (k : String) :
    List Finding :=
  (retaining classifier .document).findings k (part (fun line => subject document line = k) text)

variable (classifier : Classifier)

theorem finding?_reported (document : String) (line : List Char) :
    (retaining classifier .reported).finding? document line =
      (retaining classifier .document).finding? (subject document line) line := by
  unfold finding?
  exact congrArg (fun c : Candidate => c.toFinding?.map _) (Candidate.ofLine_reported document line)

/-- The finding of a line for a document is there exactly if the document is its subject. -/
theorem filter_finding?_reported (document : String) (line : List Char) (k : String) :
    ((retaining classifier .reported).finding? document line).filter (fun f => f.path = k) =
      if subject document line = k then (retaining classifier .document).finding? k line
      else none := by
  rw [finding?_reported]
  have hpath : ∀ f, (retaining classifier .document).finding? (subject document line) line = some f →
      f.path = subject document line := fun f hf => path_of_finding? rfl hf
  split
  · next hk =>
    subst hk
    cases hf : (retaining classifier .document).finding? (subject document line) line with
    | none => rfl
    | some f => exact Option.filter_some_pos (decide_eq_true (hpath f hf))
  · next hk =>
    rw [Option.filter_eq_none_iff]
    intro f hf
    rw [hpath f hf]
    simpa using hk

/-- **The findings of a report for a document** are those of the part with this subject. -/
theorem filter_findings_reported (document : String) (text : List Char) (k : String) :
    ((retaining classifier .reported).findings document text).filter (fun f => f.path = k) =
      findingsOn classifier document text k := by
  unfold findingsOn findings
  rw [Report.linesOf_part, List.filter_filterMap, List.filterMap_filter]
  refine List.filterMap_congr fun line _ => ?_
  rw [filter_finding?_reported]
  exact if_congr decide_eq_true_iff.symm rfl rfl

/-- A document with findings is the subject of a line. -/
theorem exists_line_of_findingsOn {document : String} {text : List Char} {k : String}
    (h : findingsOn classifier document text k ≠ []) :
    ∃ line ∈ linesOf text, subject document line = k := by
  obtain ⟨f, hf⟩ := List.exists_mem_of_ne_nil _ h
  obtain ⟨line, hline, -⟩ := List.mem_filterMap.mp hf
  rw [Report.linesOf_part] at hline
  obtain ⟨hmem, hk⟩ := List.mem_filter.mp hline
  exact ⟨line, hmem, of_decide_eq_true hk⟩

/-! ### One run and many -/

/-- Takes in the part of a report with the given subject, as a report on this subject alone. -/
def takePart (document : String) (text : List Char) (location k : String) (l : Ledger) : Ledger :=
  ((retaining classifier .document).take
    (some (String.ofList (part (fun line => subject document line = k) text))) (some location) k l).1

/-- **A part tells of its subject and of nothing else.** -/
theorem get?_takePart (document : String) (text : List Char) (location p : String) (l : Ledger)
    (k : String) :
    (takePart classifier document text location p l).get? k =
      if k = p ∧ findingsOn classifier document text k ≠ [] then
        some (findingsOn classifier document text k)
      else l.get? k := by
  unfold takePart
  rw [get?_take_of_retain rfl, String.toList_ofList]
  have hpath : ∀ f ∈ findingsOn classifier document text p, f.path = p :=
    fun f hf => path_of_document rfl hf
  change (if (findingsOn classifier document text p).filter (fun f => f.path = k) = [] then l.get? k
    else some ((findingsOn classifier document text p).filter fun f => f.path = k)) = _
  by_cases hk : k = p
  · subst hk
    rw [List.filter_eq_self.mpr fun f hf => decide_eq_true (hpath f hf), ← ite_not]
    exact if_congr (by simp) rfl rfl
  · have hnone : (findingsOn classifier document text p).filter (fun f => f.path = k) = [] := by
      rw [List.filter_eq_nil_iff]
      intro f hf
      rw [hpath f hf]
      simpa using Ne.symm hk
    rw [if_pos hnone, if_neg fun h => hk h.1]

/-- **Behind all parts**, in whatever order they come, a document that is among their subjects has the
findings of its part, if there are any, and every other one what it had. -/
theorem get?_foldl_takePart (document : String) (text : List Char) (locationOf : String → String)
    (subjects : List String) (l : Ledger) (k : String) :
    (subjects.foldl (fun l p => takePart classifier document text (locationOf p) p l) l).get? k =
      if k ∈ subjects ∧ findingsOn classifier document text k ≠ [] then
        some (findingsOn classifier document text k)
      else l.get? k := by
  -- The later parts are taken in over what the first one leaves, so the ledger varies.
  induction subjects generalizing l with
  | nil => simp
  | cons p ps ih =>
    rw [List.foldl_cons, ih, get?_takePart]
    by_cases hne : findingsOn classifier document text k = []
    · simp only [hne, ne_eq, not_true_eq_false, and_false, if_false]
    · simp only [hne, ne_eq, not_false_eq_true, and_true, List.mem_cons]
      by_cases hps : k ∈ ps
      · rw [if_pos hps, if_pos (Or.inr hps)]
      · rw [if_neg hps]
        exact if_congr (or_iff_left hps).symm rfl rfl

/-- **A report is worth its parts.** Taking in a report whose lines name their documents leaves the same
ledger as taking in, for each subject of its lines, the part with this subject as a report on it alone,
one part after the other in any order: stale findings stay in both cases, and whatever the ledger held
before and whichever document was analysed. The parts keep their lines as they stand in the report, with
the line ends that they have there, and with the lines that make no sense. -/
theorem take_eq_foldl_takePart (document s location : String) (locationOf : String → String)
    (subjects : List String)
    (hsubjects : ∀ p, p ∈ subjects ↔ ∃ line ∈ linesOf s.toList, subject document line = p)
    (l : Ledger) :
    ((retaining classifier .reported).take (some s) (some location) document l).1 =
      subjects.foldl (fun l p => takePart classifier document s.toList (locationOf p) p l) l := by
  refine Ledger.ext_get? fun k => ?_
  rw [get?_take_of_retain rfl, filter_findings_reported, get?_foldl_takePart, ← ite_not]
  -- What is left to say is that no document with findings is missing from the subjects.
  refine if_congr ⟨fun hne => ⟨?_, hne⟩, And.right⟩ rfl rfl
  exact (hsubjects k).mpr (exists_line_of_findingsOn classifier hne)

/-- Two documents in turn, a line that names none, a line that makes no sense, and carriage returns: the
report leaves what its three parts leave, in an order that is not that of the lines. -/
theorem take_eq_foldl_takePart_interleaved :
    let s := "/b:2:1:error\r\n /a :1:4:one\n\n:7:1:here\r\n/b:x:1:none\n/b:3:1: two:2"
    let subjects := ["/d", "/b", "/a"]
    let old : Finding := ⟨"/b", 7, 7, .error, "old"⟩
    let l := (Ledger.empty.replace "/b" [old]).replace "/e" [old]
    let classifier := Classifier.ofKeyword "error"
    (∀ p, p ∈ subjects ↔ ∃ line ∈ linesOf s.toList, subject "/d" line = p) ∧
      ((retaining classifier .reported).take (some s) (some "file:///d") "/d" l).1 =
        subjects.foldl (fun l p => takePart classifier "/d" s.toList ("file://" ++ p) p l) l ∧
      ((retaining classifier .reported).take (some s) (some "file:///d") "/d" l).1.entries =
        [("/a", [⟨"/a", 0, 3, .warning, "one"⟩]),
          ("/b", [⟨"/b", 1, 0, .error, "error"⟩, ⟨"/b", 2, 0, .warning, " two:2"⟩]),
          ("/d", [⟨"/d", 6, 0, .warning, "here"⟩]), ("/e", [old])] := by
  intro s subjects old l classifier
  have hlines : (linesOf s.toList).map (subject "/d") = ["/b", "/a", "/d", "/b", "/b"] := by
    decide +kernel
  have hsubjects : ∀ p, p ∈ subjects ↔ ∃ line ∈ linesOf s.toList, subject "/d" line = p := by
    intro p
    rw [← List.mem_map, hlines]
    simp [subjects]
    tauto
  exact ⟨hsubjects,
    take_eq_foldl_takePart classifier "/d" s "file:///d" ("file://" ++ ·) subjects hsubjects l,
    by decide +kernel⟩

end Intake
end LintLedger
