import LintLedger.Proofs.CommandLine.Check
import LintLedger.Proofs.Since

/-!
# What an earlier file leaves behind

Where stale findings are to go, nothing should stand under a file that was just checked but what the tool
has just printed about it. An output that says anything at all sees to that, whether it has findings or
not. An output that is empty does not: it is not taken in, and so does not clear anything. Then the file
keeps what the visits before have left for it, because the tool named the file while it looked at another
one, or because the file is checked for a second time and the tool had something to say at the first.

A visit *reports* on a document if it has findings for it, and *settles* it if it has, or if it clears it.
What stands under a document behind many visits is what the last one that settled it has reported
(`LintLedger.CommandLine.entry_foldl_ne_nil_iff`), and so the exact condition is one on these visits
(`LintLedger.CommandLine.isFresh_iff`).
-/

namespace LintLedger.CommandLine

/-- **Nothing stale stands under a file**: there is no finding but those that the output has for it. -/
def IsFresh (intake : Intake) (l : Ledger) (file output : String) : Prop :=
  ∀ f ∈ (l.get? file).getD [], f ∈ intake.found file output file

section Visits

variable (tool : Tool) (intake : Intake)

/-- The visit has findings for the document. -/
def Visit.Reports (v : Visit) (k : String) : Prop :=
  ∃ output, v.output? tool = some output ∧ intake.found v.file output k ≠ []

/-- **The visit settles the document**: it has findings for it, or clears it. -/
def Visit.Settles (v : Visit) (k : String) : Prop :=
  ∃ output, v.output? tool = some output ∧
    (intake.found v.file output k ≠ [] ∨
      output ≠ "" ∧ intake.stalePolicy = .clear ∧ k = v.file)

/-- **Something is left behind for a document** by visits: the last of them that settles it reports on
it. -/
def LeftBehind (visits : List Visit) (k : String) : Prop :=
  ∃ earlier v later, visits = earlier ++ v :: later ∧ v.Reports tool intake k ∧
    ∀ w ∈ later, ¬w.Settles tool intake k

variable {tool intake} {v : Visit} {visits : List Visit} {k : String}

/-- **One visit**: findings stand under a document behind it if it reports on the document, or if they
stood there before and it does not settle it. -/
theorem Visit.entry_take_ne_nil_iff (v : Visit) (l : Ledger) (k : String) :
    ((v.take tool intake l).get? k).getD [] ≠ [] ↔
      v.Reports tool intake k ∨ ¬v.Settles tool intake k ∧ (l.get? k).getD [] ≠ [] := by
  unfold Visit.Reports Visit.Settles
  cases houtput : v.output? tool with
  | none =>
    rw [take_of_none houtput]
    simp
  | some output =>
    rw [take_of_some houtput, Intake.get?_take_found]
    simp only [Option.some.injEq, exists_eq_left']
    by_cases hfound : intake.found v.file output k = []
    · rw [if_neg (not_not_intro hfound)]
      by_cases hclears : output ≠ "" ∧ intake.stalePolicy = .clear ∧ k = v.file
      · rw [if_pos hclears]
        exact iff_of_false (by simp) fun h =>
          h.elim (fun h => h hfound) fun h => h.1 (Or.inr hclears)
      · rw [if_neg hclears]
        simp only [hfound, ne_eq, not_true_eq_false, false_or, hclears, not_false_eq_true, true_and]
    · rw [if_pos hfound]
      exact iff_of_true hfound (Or.inl hfound)

theorem not_leftBehind_nil : ¬LeftBehind tool intake [] k := by
  rintro ⟨earlier, v, later, hvisits, -⟩
  simp at hvisits

/-- One visit more leaves something behind if it reports on the document, or if something was left behind
before and it does not settle it. -/
theorem leftBehind_append_singleton :
    LeftBehind tool intake (visits ++ [v]) k ↔
      v.Reports tool intake k ∨ ¬v.Settles tool intake k ∧ LeftBehind tool intake visits k :=
  exists_since_append_singleton_iff

/-- **Many visits**, from nothing on: findings stand under a document exactly if something is left behind
for it. -/
theorem entry_foldl_ne_nil_iff (visits : List Visit) (k : String) :
    ((visits.foldl (Visit.take tool intake) .empty).get? k).getD [] ≠ [] ↔
      LeftBehind tool intake visits k := by
  induction visits using List.reverseRecOn with
  | nil => exact iff_of_false (not_not_intro rfl) not_leftBehind_nil
  | append_singleton visits v ih =>
    rw [List.foldl_concat, Visit.entry_take_ne_nil_iff, leftBehind_append_singleton, ih]

end Visits

/-- **Nothing stale stands under a file that was just checked exactly if** the output is not empty, or the
visits before have left nothing behind for the file. Stale findings are to go, the lines of a report may
be attributed either way, and the tool may answer at every visit as it likes. -/
theorem isFresh_iff {s : Settings} {intake : Intake} (hintake : s.intake = .ok intake)
    (hclear : s.stalePolicy = .clear) {log : List Event} {earlier : List Visit} {v : Visit}
    (hfile : v.host.files.isFile v.file = true) {outcome : Tool.Outcome}
    (hrun : v.host.run s.tool (Text.Utf8.encode v.file) = .ok outcome) {q : Progress}
    (hok : lintEach s log (earlier ++ [v]) = .ok q) :
    IsFresh intake q.ledger v.file outcome.output ↔
      outcome.output ≠ "" ∨ ¬LeftBehind s.tool intake earlier v.file := by
  rw [lintEach_of_intake hintake] at hok
  unfold IsFresh
  rw [ledger_checkAll hok, List.foldl_concat, Visit.take_of_some (Visit.output?_of_ok hfile hrun),
    Intake.get?_take_found, ← entry_foldl_ne_nil_iff, not_not]
  by_cases hempty : outcome.output = ""
  · -- The empty output has no findings and clears nothing: all depends on what stood there before.
    rw [hempty, Intake.found_empty, if_neg (not_not_intro rfl), if_neg fun h => h.1 rfl]
    simp [List.eq_nil_iff_forall_not_mem]
  · refine iff_of_true (fun f hf => ?_) (Or.inl hempty)
    by_cases hfound : intake.found v.file outcome.output v.file = []
    · rw [if_neg (not_not_intro hfound),
        if_pos ⟨hempty, (Settings.fields_of_intake hintake).2.trans hclear, rfl⟩] at hf
      simp at hf
    · rwa [if_pos hfound] at hf

/-- A file that is checked twice: the tool has a finding at the first visit and says something else at
the second, and the finding is gone. -/
theorem isFresh_iff_twice :
    let files : Files := { entries := [(["a"], .file [])] }
    let s : Settings := { attribution := .reported, stalePolicy := .clear }
    let printing (output : String) : Host :=
      { files := files, run := fun _ _ => .ok ⟨.exited 0, output, ""⟩ }
    let intake : Intake := { attribution := .reported, stalePolicy := .clear }
    let earlier : List Visit := [⟨printing "/a:1:1:old\n", "/a"⟩]
  let v : Visit := ⟨printing "all is well\n", "/a"⟩
  ∃ q, lintEach s [] (earlier ++ [v]) = .ok q ∧ IsFresh intake q.ledger "/a" "all is well\n" := by
  intro files s printing intake earlier v
  have hdirect : files.IsDirect "/a" ["a"] := by decide +kernel
  have hfile : files.isFile "/a" = true := Files.isFile_of_file hdirect rfl
  have hnone : ∀ w ∈ earlier ++ [v], ¬w.Fails s.tool := by
    intro w hw
    rcases List.mem_append.mp hw with hw | hw <;> rw [List.mem_singleton.mp hw] <;>
      exact Visit.not_fails_of_ok rfl
  have hok : ∃ q, lintEach s [] (earlier ++ [v]) = .ok q := exists_checkAll_eq_ok_iff.mpr hnone
  obtain ⟨q, hq⟩ := hok
  have hrun : v.host.run s.tool (Text.Utf8.encode v.file) =
      .ok ⟨.exited 0, "all is well\n", ""⟩ := rfl
  have hintake : s.intake = .ok intake := rfl
  exact ⟨q, hq, (isFresh_iff hintake rfl hfile hrun hq).mpr (Or.inl (by decide))⟩

/-- **A file can be left with a finding that the tool does not repeat**: the tool names a second file
while it looks at the first one, prints nothing about the second one itself, and the finding stays, though
stale findings are to go. -/
theorem not_isFresh_silent :
    let h : Host :=
      { files := { entries := [(["a"], .file []), (["b"], .file [])] }
        run := fun _ bytes => .ok ⟨.exited 0,
          if bytes = Text.Utf8.encode "/a" then "/b:1:1:unused\n" else "", ""⟩ }
    let s : Settings := { attribution := .reported, stalePolicy := .clear }
    let intake : Intake := { attribution := .reported, stalePolicy := .clear }
    s.intake = .ok intake ∧ h.files.isFile "/b" = true ∧
      h.run s.tool (Text.Utf8.encode "/b") = .ok ⟨.exited 0, "", ""⟩ ∧
      ∃ q, lint h s [] ["/a", "/b"] = .ok q ∧
        q.ledger.get? "/b" = some [⟨"/b", 0, 0, .warning, "unused"⟩] ∧
        ¬IsFresh intake q.ledger "/b" "" := by
  intro h s intake
  have hdirectA : h.files.IsDirect "/a" ["a"] := by decide +kernel
  have hdirectB : h.files.IsDirect "/b" ["b"] := by decide +kernel
  have hfileA : h.files.isFile "/a" = true := Files.isFile_of_file hdirectA rfl
  have hfileB : h.files.isFile "/b" = true := Files.isFile_of_file hdirectB rfl
  have hrunA : h.run s.tool (Text.Utf8.encode "/a") = .ok ⟨.exited 0, "/b:1:1:unused\n", ""⟩ := by
    decide +kernel
  have hrunB : h.run s.tool (Text.Utf8.encode "/b") = .ok ⟨.exited 0, "", ""⟩ := by
    decide +kernel
  have hnone : ∀ v ∈ ["/a", "/b"].map (Visit.mk h), ¬v.Fails s.tool := by
    intro v hv
    obtain ⟨file, -, rfl⟩ := List.mem_map.mp hv
    exact Visit.not_fails_of_ok rfl
  obtain ⟨q, hq⟩ := (@exists_checkAll_eq_ok_iff s.tool intake { log := [] } _).mpr hnone
  have houtputA : (Visit.mk h "/a").output? s.tool = some "/b:1:1:unused\n" :=
    @Visit.output?_of_ok _ ⟨h, "/a"⟩ _ hfileA hrunA
  have houtputB : (Visit.mk h "/b").output? s.tool = some "" :=
    @Visit.output?_of_ok _ ⟨h, "/b"⟩ _ hfileB hrunB
  have hledger : q.ledger = (intake.take (some "/b:1:1:unused\n") (some "/a") "/a" .empty).1 := by
    rw [ledger_checkAll hq, List.map_cons, List.map_cons, List.foldl_cons, List.foldl_cons,
      Visit.take_of_some houtputA, Visit.take_of_some houtputB]
    exact Intake.take_of_silent intake (Or.inr rfl) _ _ _
  have hentry : q.ledger.get? "/b" = some [⟨"/b", 0, 0, .warning, "unused"⟩] := by
    rw [hledger]
    decide +kernel
  refine ⟨rfl, hfileB, hrunB, q, ?_, hentry, fun hfresh => ?_⟩
  · rw [lint_eq_lintEach]
    exact hq
  · unfold IsFresh at hfresh
    rw [hentry] at hfresh
    simp [Intake.found_empty] at hfresh

end LintLedger.CommandLine
