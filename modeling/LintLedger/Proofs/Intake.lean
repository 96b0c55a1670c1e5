import LintLedger.Intake
import LintLedger.Proofs.Finding
import LintLedger.Proofs.Ledger.Run

/-!
# What the intake leaves in the ledger

The intake reads a report line by line, and a line gives at most one finding
(`LintLedger.Intake.finding?`). The findings of a text (`LintLedger.Intake.findings`) are therefore a
list that depends on nothing but the text, the analysed path, the attribution and the classifier – not
on the ledger, and not on the run. `LintLedger.Intake.entered_foldl` is the link: a run through the
lines has entered exactly these findings, whatever stands between them. What the ledger holds behind
an intake is then read off the run (`LintLedger.Intake.get?_take`).
-/

namespace LintLedger.Intake

variable (i : Intake) (path : String)

/-- The finding of a report line on a path, if the line makes sense: what the line says, with the
severity of its message. -/
def finding? (line : List Char) : Option Finding :=
  (Candidate.ofLine i.attribution path line).toFinding?.map fun f =>
    { f with severity := i.classifier f.message }

/-- **The findings of a text** on a path: those of its lines that are not empty, in order. -/
def findings (text : List Char) : List Finding := (Report.linesOf text).filterMap (i.finding? path)

/-- The findings that an output about a path has for a document, in order. -/
def found (output k : String) : List Finding :=
  (i.findings path output.toList).filter fun f => f.path = k

/-- An intake that keeps stale findings. -/
def retaining (classifier : Classifier) (attribution : Attribution) : Intake :=
  { classifier := classifier, attribution := attribution, stalePolicy := .retain }

/-- The documents that the lines of a text name, as far as they make sense, whatever document is
analysed. -/
def namedPaths (text : List Char) : List String :=
  (Report.linesOf text).filterMap fun line =>
    (Candidate.ofLine .reported "" line).toFinding?.map Finding.path

end LintLedger.Intake

namespace LintLedger

open Ledger.Run (Entered entered_start)

namespace Intake

variable {l : Ledger} {fs : List Finding} {r : Ledger.Run}

/-- Classifying a line before or after it is known to make sense is the same. -/
theorem toFinding?_classify (i : Intake) (path : String) (line : List Char) :
    (i.classify (Candidate.ofLine i.attribution path line)).toFinding? = i.finding? path line := by
  unfold classify finding?
  rw [Candidate.toFinding?_severity]
  refine Option.map_congr fun f hf => ?_
  have hmessage : f.message = _ := (Candidate.toFinding?_eq_some_iff.mp hf).2.2.2.2.2.symm
  rw [hmessage]

/-- A line is about the analysed document, or says the same under every analysed document. -/
theorem path_ofLine_or_eq (a : Attribution) (path : String) (line : List Char) :
    (Candidate.ofLine a path line).path = path ∨
      Candidate.ofLine a path line = Candidate.ofLine .reported "" line := by
  have hpath : ∀ location, a.path path location = path ∨
      a.path path location = Attribution.path .reported "" location := by
    intro location
    cases a with
    | document => exact Or.inl rfl
    | reported =>
      unfold Attribution.path
      dsimp only
      split
      · exact Or.inl rfl
      · exact Or.inr rfl
  unfold Candidate.ofLine
  generalize Text.split ':' line = fields
  unfold Candidate.ofFields
  split
  · exact (hpath []).imp_right fun h => by rw [h]
  · next location => exact (hpath location).imp_right fun h => by rw [h]
  · next location _ => exact (hpath location).imp_right fun h => by rw [h]
  · next location _ _ _ => exact (hpath location).imp_right fun h => by rw [h]

/-- **A finding is about the analysed document, or about one that the text names.** -/
theorem path_of_mem_findings {i : Intake} {path : String} {text : List Char} {f : Finding}
    (h : f ∈ i.findings path text) : f.path = path ∨ f.path ∈ namedPaths text := by
  obtain ⟨line, hline, hf⟩ := List.mem_filterMap.mp h
  obtain ⟨g, hg, rfl⟩ := Option.map_eq_some_iff.mp hf
  rcases path_ofLine_or_eq i.attribution path line with hpath | hsame
  · exact Or.inl ((Candidate.toFinding?_eq_some_iff.mp hg).2.1.symm.trans hpath)
  · rw [hsame] at hg
    refine Or.inr (List.mem_filterMap.mpr ⟨line, hline, ?_⟩)
    rw [hg]
    rfl

/-- Where every line is about the analysed document, a line has its finding there. -/
theorem path_of_finding? {i : Intake} (h : i.attribution = .document) {path : String}
    {line : List Char} {f : Finding} (hf : i.finding? path line = some f) : f.path = path := by
  obtain ⟨g, hg, rfl⟩ := Option.map_eq_some_iff.mp hf
  rw [h] at hg
  have hpath : (Candidate.ofLine .document path line).path = path := by
    unfold Candidate.ofLine Candidate.ofFields
    split <;> rfl
  exact (Candidate.toFinding?_eq_some_iff.mp hg).2.1.symm.trans hpath

/-- Where every line is about the analysed document, so is every finding. -/
theorem path_of_document {i : Intake} (h : i.attribution = .document) {path : String}
    {text : List Char} {f : Finding} (hf : f ∈ i.findings path text) : f.path = path := by
  obtain ⟨line, -, hline⟩ := List.mem_filterMap.mp hf
  exact path_of_finding? h hline

/-- Entering a line adds its finding, if it has one. -/
theorem entered_enter (i : Intake) (path : String) (h : Entered l fs r) (line : List Char) :
    Entered l (fs ++ (i.finding? path line).toList)
      (i.enter path r (Candidate.ofLine i.attribution path line)) := by
  unfold enter
  rw [toFinding?_classify]
  cases i.finding? path line with
  | none => simpa using h.drop path
  | some f => exact h.commit f

/-- Entering lines one after the other adds all their findings. -/
theorem entered_foldl (i : Intake) (path : String) (lines : List (List Char))
    (h : Entered l fs r) :
    Entered l (fs ++ lines.filterMap (i.finding? path))
      ((lines.map (Candidate.ofLine i.attribution path)).foldl (i.enter path) r) := by
  induction lines generalizing fs r with
  | nil => simpa using h
  | cons line lines ih =>
    have hstep := ih (entered_enter i path h line)
    rw [List.append_assoc] at hstep
    rw [List.map_cons, List.foldl_cons]
    cases hf : i.finding? path line with
    | none =>
      rw [List.filterMap_cons_none hf]
      simpa [hf] using hstep
    | some f =>
      rw [List.filterMap_cons_some hf]
      simpa [hf] using hstep

/-- The ledger behind the run of a report, lookup by lookup. The summary at the end of the lines is one
more event, and changes nothing else. -/
theorem get?_takeReport (i : Intake) (report : Report) (path : String) (l : Ledger) (k : String) :
    (i.takeReport report path l).ledger.get? k =
      if ∃ f ∈ i.findings path report.text, f.path = k then
        some ((i.findings path report.text).filter fun f => f.path = k)
      else if i.stalePolicy = .clear ∧ k = path then some []
      else l.get? k := by
  have h : Entered l ([] ++ i.findings path report.text)
      ((report.candidates i.attribution path).foldl (i.enter path) (.start l)) :=
    entered_foldl i path _ (entered_start l)
  rw [List.nil_append] at h
  exact (h.tell _).get?_finish path i.stalePolicy k

/-- Taking in a text enters the report of the text. -/
theorem take_eq_takeReport (i : Intake) {s : String} (hs : s.toList ≠ []) (location path : String)
    (l : Ledger) :
    (i.take (some s) (some location) path l).1 = (i.takeReport ⟨s.toList, hs⟩ path l).ledger := by
  have hreport : Report.ofOutput (some s) = .ok ⟨s.toList, hs⟩ := dif_pos hs
  unfold take
  rw [hreport]

/-- Without a text there is nothing to take in. -/
theorem take_of_silent (i : Intake) {output : Option String} (h : output = none ∨ output = some "")
    (document : Option String) (path : String) (l : Ledger) :
    (i.take output document path l).1 = l := by
  cases document with
  | none => rfl
  | some location =>
    rcases h with rfl | rfl
    · rfl
    · rfl

/-- **Where stale findings stay**, a document has the findings of the text for it, and what it had if
there are none. The empty text is no exception: it is not taken in, and it has no findings. -/
theorem get?_take_of_retain {i : Intake} (h : i.stalePolicy = .retain) (s location path : String)
    (l : Ledger) (k : String) :
    (i.take (some s) (some location) path l).1.get? k =
      if (i.findings path s.toList).filter (fun f => f.path = k) = [] then l.get? k
      else some ((i.findings path s.toList).filter fun f => f.path = k) := by
  by_cases hs : s = ""
  · subst hs
    rw [take_of_silent i (Or.inr rfl)]
    exact (if_pos rfl).symm
  · have hne : s.toList ≠ [] := fun hnil => hs (String.toList_eq_nil_iff.mp hnil)
    rw [take_eq_takeReport i hne, get?_takeReport]
    by_cases hk : ∃ f ∈ i.findings path s.toList, f.path = k
    · rw [if_pos hk, if_neg]
      obtain ⟨f, hf, hpath⟩ := hk
      exact List.ne_nil_of_mem (List.mem_filter.mpr ⟨hf, decide_eq_true hpath⟩)
    · rw [if_neg hk, if_neg (by simp [h]), if_pos]
      rw [List.filter_eq_nil_iff]
      exact fun f hf hpath => hk ⟨f, hf, of_decide_eq_true hpath⟩

/-! ### What is found for a document -/

/-- The empty output has no findings. -/
theorem found_empty (i : Intake) (path k : String) : i.found path "" k = [] := rfl

theorem found_ne_nil_iff {i : Intake} {path output k : String} :
    i.found path output k ≠ [] ↔ ∃ f ∈ i.findings path output.toList, f.path = k := by
  unfold found
  rw [Ne, List.filter_eq_nil_iff]
  push Not
  exact exists_congr fun f => and_congr_right fun _ => decide_eq_true_iff

/-- Where every line is about the analysed document, nothing is found for any other one. -/
theorem found_of_document {i : Intake} (h : i.attribution = .document) {path k : String}
    (hk : k ≠ path) (output : String) : i.found path output k = [] := by
  by_contra hne
  obtain ⟨f, hf, rfl⟩ := found_ne_nil_iff.mp hne
  exact hk (path_of_document h hf)

/-- **The ledger behind any output**, by what was found for a document. The empty output clears
nothing. -/
theorem get?_take_found (i : Intake) (output location path : String) (l : Ledger) (k : String) :
    (i.take (some output) (some location) path l).1.get? k =
      if i.found path output k ≠ [] then some (i.found path output k)
      else if output ≠ "" ∧ i.stalePolicy = .clear ∧ k = path then some []
      else l.get? k := by
  by_cases hempty : output = ""
  · subst hempty
    rw [take_of_silent i (Or.inr rfl), found_empty]
    simp
  · have hne : output.toList ≠ [] := fun hnil => hempty (String.toList_eq_nil_iff.mp hnil)
    rw [take_eq_takeReport i hne, get?_takeReport]
    refine if_congr found_ne_nil_iff.symm rfl (if_congr ?_ rfl rfl)
    exact (and_iff_right hempty).symm

/-- Texts with the same findings leave the same ledger, as long as neither is empty. -/
theorem take_congr_findings {i : Intake} {path s t : String} (hs : s ≠ "") (ht : t ≠ "")
    (h : i.findings path s.toList = i.findings path t.toList) (document : Option String)
    (l : Ledger) :
    (i.take (some s) document path l).1 = (i.take (some t) document path l).1 := by
  cases document with
  | none => rfl
  | some location =>
    have hfound : ∀ k, i.found path s k = i.found path t k := by
      intro k
      unfold found
      rw [h]
    refine Ledger.ext_get? fun k => ?_
    rw [get?_take_found, get?_take_found, hfound]
    simp only [hs, ht, ne_eq, not_false_eq_true, true_and]

/-- **All that an intake does to the ledger.** A document that the text reports on has the findings of
the text for it, in their order and no others; the analysed path is clean if nothing was found for it
and stale findings are to go; and every other document is as it was. Without a document, or without a
text, nothing changes. -/
theorem get?_take (i : Intake) (path : String) (l : Ledger) :
    (∀ s : String, s ≠ "" → ∀ location k,
      (i.take (some s) (some location) path l).1.get? k =
        if ∃ f ∈ i.findings path s.toList, f.path = k then
          some ((i.findings path s.toList).filter fun f => f.path = k)
        else if i.stalePolicy = .clear ∧ k = path then some []
        else l.get? k) ∧
    (∀ output, (i.take output none path l).1 = l) ∧
    ∀ output, output = none ∨ output = some "" → ∀ document,
      (i.take output document path l).1 = l := by
  refine ⟨fun s hs location k => ?_, fun output => rfl, fun output h document => ?_⟩
  · have hne : s.toList ≠ [] := fun hnil => hs (String.toList_eq_nil_iff.mp hnil)
    rw [take_eq_takeReport i hne]
    exact get?_takeReport i ⟨s.toList, hne⟩ path l k
  · exact take_of_silent i h document path l

/-- Two documents reported on in turn, with a line that makes no sense between them: both have what the
text says of them, the analysed document is cleared, and a fourth one is as it was. -/
theorem get?_take_interleaved :
    let i : Intake :=
      { classifier := .ofKeyword "error", attribution := .reported, stalePolicy := .clear }
    let old : Finding := ⟨"/b", 7, 7, .error, "old"⟩
    let l := ((Ledger.empty.replace "/b" [old]).replace "/d" [old]).replace "/e" [old]
    let s := "/b:2:1:error: x\n/a:1:4:one\r\nno line\n\n/b:0:1:none\n/b:3:1: two:2\n"
    let after := (i.take (some s) (some "file:///d") "/d" l).1
    s ≠ "" ∧
      after.get? "/b" = some [⟨"/b", 1, 0, .error, "error: x"⟩, ⟨"/b", 2, 0, .warning, " two:2"⟩] ∧
      after.get? "/a" = some [⟨"/a", 0, 3, .warning, "one"⟩] ∧
      after.get? "/d" = some [] ∧
      after.get? "/e" = some [old] := by
  intro i old l s after
  have hs : s ≠ "" := by decide +kernel
  have h := (get?_take i "/d" l).1 s hs "file:///d"
  refine ⟨hs, ?_, ?_, ?_, ?_⟩
  · exact (h "/b").trans (by decide +kernel)
  · exact (h "/a").trans (by decide +kernel)
  · exact (h "/d").trans (by decide +kernel)
  · exact (h "/e").trans (by decide +kernel)

end Intake
end LintLedger
