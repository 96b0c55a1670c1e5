import LintLedger.Proofs.CommandLine.Check

/-!
# The order of the files

Where every line of a report is about the analysed document, no visit touches any document but its own.
What stands under a file behind many visits is then what one visit of it alone leaves there
(`LintLedger.CommandLine.get?_foldl_take_of_document`), whether the file is visited once or more often, and
whatever is visited before or behind it. The ledger depends on nothing but which files are visited, and
since it prints its documents in the order of their paths, a list of files can be given in any order
(`LintLedger.CommandLine.run_lint_perm`).

The tool is taken to answer at every visit of a path as at the first one: that is what one host for all the
visits says.
-/

namespace LintLedger.CommandLine

variable (tool : Tool) (intake : Intake)

/-- What a visit leaves under its own file if nothing is known before. -/
def Visit.leaves? (v : Visit) : Option (List Finding) := (v.take tool intake .empty).get? v.file

variable {tool intake}

/-- Where every line is about the analysed document, **a visit writes what it leaves under its own file**,
if it leaves anything there, and nothing else. -/
theorem Visit.get?_take_of_document (hdocument : intake.attribution = .document) (v : Visit)
    (l : Ledger) (k : String) :
    (v.take tool intake l).get? k =
      if k = v.file then (v.leaves? tool intake).or (l.get? k) else l.get? k := by
  unfold Visit.leaves?
  cases houtput : v.output? tool with
  | none =>
    rw [take_of_none houtput, take_of_none houtput]
    simp
  | some output =>
    rw [take_of_some houtput, take_of_some houtput, Intake.get?_take_found, Intake.get?_take_found]
    by_cases hk : k = v.file
    · subst hk
      rw [if_pos rfl, Ledger.get?_empty]
      by_cases hfound : intake.found v.file output v.file = []
      · rw [if_neg (not_not_intro hfound), if_neg (not_not_intro hfound)]
        by_cases hclears : output ≠ "" ∧ intake.stalePolicy = .clear ∧ v.file = v.file
        · rw [if_pos hclears, if_pos hclears, Option.some_or]
        · rw [if_neg hclears, if_neg hclears, Option.none_or]
      · rw [if_pos hfound, if_pos hfound, Option.some_or]
    · rw [if_neg hk, if_neg (not_not_intro (Intake.found_of_document hdocument hk output)),
        if_neg fun h => hk h.2.2]

/-- **Many visits**: under every file that is visited stands what one visit of it leaves, and under
everything else nothing. -/
theorem get?_foldl_take_of_document (hdocument : intake.attribution = .document) (h : Host)
    (files : List String) (k : String) :
    ((files.map (Visit.mk h)).foldl (Visit.take tool intake) .empty).get? k =
      if k ∈ files then (Visit.mk h k).leaves? tool intake else none := by
  induction files using List.reverseRecOn with
  | nil => rfl
  | append_singleton files f ih =>
    rw [List.map_append, List.map_singleton, List.foldl_concat,
      Visit.get?_take_of_document hdocument, ih]
    by_cases hk : k = f
    · -- A file that was visited before is left as it was: the visit leaves the same once more.
      subst hk
      have hmem : k ∈ files ++ [k] := by simp
      rw [if_pos rfl, if_pos hmem]
      by_cases hbefore : k ∈ files
      · rw [if_pos hbefore, Option.or_self]
      · rw [if_neg hbefore, Option.or_none]
    · have hmem : k ∈ files ++ [f] ↔ k ∈ files := by simp [hk]
      rw [if_neg hk]
      exact if_congr hmem.symm rfl rfl

/-- Visits in another order gather the same. -/
theorem gathered_lint_perm {s : Settings} (hdocument : s.attribution = .document) (h : Host)
    (log : List Event) {files files' : List String} (hperm : files.Perm files') :
    gathered (lint h s log files) = gathered (lint h s log files') := by
  rw [lint_eq_lintEach, lint_eq_lintEach]
  cases hintake : s.intake with
  | error bad =>
    unfold lintEach
    rw [hintake]
  | ok intake =>
    have hvisits : (files.map (Visit.mk h)).Perm (files'.map (Visit.mk h)) := hperm.map _
    rw [lintEach_of_intake hintake, lintEach_of_intake hintake]
    by_cases hfails : ∃ v ∈ files.map (Visit.mk h), v.Fails s.tool
    · have hfails' : ∃ v ∈ files'.map (Visit.mk h), v.Fails s.tool := by
        obtain ⟨v, hv, hv'⟩ := hfails
        exact ⟨v, hvisits.mem_iff.mp hv, hv'⟩
      rw [gathered_checkAll_of_fails hfails, gathered_checkAll_of_fails hfails']
    · push Not at hfails
      have hledger : (files.map (Visit.mk h)).foldl (Visit.take s.tool intake) .empty =
          (files'.map (Visit.mk h)).foldl (Visit.take s.tool intake) .empty := by
        have hattribution := (Settings.fields_of_intake hintake).1.trans hdocument
        refine Ledger.ext_get? fun k => ?_
        rw [get?_foldl_take_of_document hattribution, get?_foldl_take_of_document hattribution]
        exact if_congr hperm.mem_iff rfl rfl
      rw [gathered_checkAll hfails,
        gathered_checkAll fun v hv => hfails v (hvisits.mem_iff.mpr hv), hledger, hvisits.countP_eq]

/-- **The order of the files makes no difference** to what the command that checks them prints, and to its
status, if every line of a report is about the analysed document. Files may be named more than once, and
what is no file may be named, and it makes no difference either whether the command fails. -/
theorem run_lint_perm {h : Host} {config : Option String} {files files' : List String}
    (hperm : files.Perm files')
    (hdocument : ∀ s log, settings h.files config = .ok (s, log) → s.attribution = .document)
    (bytes : List UInt8) (verbose : Bool) (format : Format) :
    (run h bytes ⟨config, verbose, .lint files format⟩).Alike
      (run h bytes ⟨config, verbose, .lint files' format⟩) := by
  rw [run_lint_eq, run_lint_eq]
  cases hsettings : settings h.files config with
  | error f => exact ⟨rfl, rfl⟩
  | ok loaded =>
    obtain ⟨s, log⟩ := loaded
    exact alike_report (gathered_lint_perm (hdocument s log hsettings) h log hperm) h verbose verbose
      format

/-- Two files, one of them named twice, and a name that stands for nothing. -/
theorem run_lint_perm_repeated :
    let h : Host :=
      { files := { entries := [(["a"], .file []), (["b"], .file [])] }
        run := fun _ bytes => .ok ⟨.exited 1,
          if bytes = Text.Utf8.encode "/a" then "a:1:1:error: x\n" else "b:2:1:unused\n", ""⟩ }
    (run h [] ⟨none, false, .lint ["/b", "/none", "/a", "/b"] .text⟩).Alike
      (run h [] ⟨none, false, .lint ["/a", "/b", "/b", "/none"] .text⟩) := by
  intro h
  have hdirect : ∀ name ∈ Settings.fileNames,
      h.files.IsDirect (Path.join (herePath h.files) name) ([] ++ [name]) := by
    decide +kernel
  have hnone : Settings.discover? h.files (herePath h.files) = none := by
    rw [Settings.discover?_of_isDirect hdirect]
    decide +kernel
  refine run_lint_perm (by decide) (fun s log hsettings => ?_) [] false .text
  rw [settings_of_discover?_eq_none hnone] at hsettings
  obtain ⟨rfl, -⟩ := Prod.mk.inj (Except.ok.inj hsettings)
  rfl

end LintLedger.CommandLine
