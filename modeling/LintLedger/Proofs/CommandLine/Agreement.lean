import LintLedger.Proofs.CommandLine.Check
import LintLedger.Proofs.Text.Utf8

/-!
# Checking a file and taking in its report

What a tool prints about a file can come in on two ways. The one command runs the tool on the file, the
other is given what the tool has printed before. In the end both take the same text about the same document
into an empty ledger, and both count one file
(`LintLedger.CommandLine.gathered_lint_singleton`, `LintLedger.CommandLine.gathered_parse`). So they end
alike (`LintLedger.CommandLine.run_lint_alike_run_parse`): it makes no difference how the tool ended, what
it printed as errors, and whether the text is read or stands in a file.

They also fail alike where a pattern of the settings cannot be read
(`LintLedger.CommandLine.isFailure_of_badPattern`), since no text is taken in then.
-/

namespace LintLedger.CommandLine

variable {h : Host} {s : Settings} {intake : Intake}

/-- The command that checks files, given one file on which the tool can be started. -/
theorem gathered_lint_singleton (hintake : s.intake = .ok intake) {f : String}
    (hfile : h.files.isFile f = true) {outcome : Tool.Outcome}
    (hrun : h.run s.tool (Text.Utf8.encode f) = .ok outcome) (log : List Event) :
    gathered (lint h s log [f]) =
      some ((intake.take (some outcome.output) (some f) f .empty).1, 1) := by
  let v : Visit := ⟨h, f⟩
  have hnone : ∀ w ∈ [v], ¬w.Fails s.tool := by
    intro w hw
    rw [List.mem_singleton.mp hw]
    exact @Visit.not_fails_of_ok s.tool v outcome hrun
  have houtput : v.output? s.tool = some outcome.output :=
    @Visit.output?_of_ok s.tool v outcome hfile hrun
  have hcount : [v].countP (fun w => w.host.files.isFile w.file) = 1 := by
    rw [List.countP_singleton, if_pos hfile]
  rw [lint_eq_lintEach, lintEach_of_intake hintake, List.map_singleton, gathered_checkAll hnone,
    hcount, List.foldl_cons, List.foldl_nil, Visit.take_of_some houtput]

/-- The command that takes in a report, given a text. -/
theorem gathered_parse (hintake : s.intake = .ok intake) {input : Option String}
    {bytes : List UInt8} {t : String} (hinput : captured h input bytes = .ok t)
    (log : List Event) (f : String) :
    gathered (parse h s log f input bytes) =
      some ((intake.take (some t) (some f) f .empty).1, 1) := by
  unfold parse
  rw [hinput, hintake]
  rfl

/-- The two commands gather the same. -/
theorem gathered_lint_eq_gathered_parse {f t : String} (hfile : h.files.isFile f = true)
    {outcome : Tool.Outcome} (hrun : h.run s.tool (Text.Utf8.encode f) = .ok outcome)
    (hprinted : outcome.output = t) {input : Option String} {bytes : List UInt8}
    (hinput : captured h input bytes = .ok t) (log log' : List Event) :
    gathered (lint h s log [f]) = gathered (parse h s log' f input bytes) := by
  cases hintake : s.intake with
  | error bad =>
    unfold lint parse
    rw [hinput, hintake]
    rfl
  | ok intake =>
    rw [gathered_lint_singleton hintake hfile hrun, gathered_parse hintake hinput, hprinted]

/-- A text that is read as its bytes is the text. -/
theorem captured_encode (h : Host) (t : String) : captured h none (Text.Utf8.encode t) = .ok t := by
  unfold captured
  rw [Text.Utf8.decode?_encode]

theorem captured_of_readText {path t : String} (hread : h.files.readText path = .ok t)
    (bytes : List UInt8) : captured h (some path) bytes = .ok t := by
  simp only [captured, hread]

/-- **Both commands fail where a pattern of the settings cannot be read**, whatever files are to be
checked, and whatever report is to be taken in. -/
theorem isFailure_of_badPattern {config : Option String} {log : List Event}
    (hsettings : settings h.files config = .ok (s, log)) {r : Settings.Rule}
    (hr : r ∈ s.severity.rules) {fault : Pattern.Fault}
    (hfault : Pattern.compile r.pattern = .error fault) (bytes : List UInt8) (verbose : Bool)
    (format : Format) :
    (∀ files, (run h bytes ⟨config, verbose, .lint files format⟩).IsFailure) ∧
      ∀ f input, (run h bytes ⟨config, verbose, .parse f input format⟩).IsFailure := by
  obtain ⟨bad, hintake⟩ := Settings.exists_intake_eq_error hr hfault
  constructor
  · intro files
    have hlint : gathered (lint h s log files) = none := by
      unfold lint
      rw [hintake]
      rfl
    rw [run_lint_eq, hsettings]
    exact isFailure_report hlint h verbose format
  · intro f input
    have hparse : gathered (parse h s log f input bytes) = none := by
      unfold parse
      rw [hintake]
      cases captured h input bytes <;> rfl
    rw [run_parse_eq, hsettings]
    exact isFailure_report hparse h verbose format

/-- **Checking a file and taking in its report end alike.** If there is the file and the tool can be started
on it, the command that checks it prints the same, and has the same status, as the command that takes in
what the tool has printed, whether it reads this text or is given a file with it; and if a pattern of the
settings cannot be read, both fail. -/
theorem run_lint_alike_run_parse {config : Option String} {f t : String}
    (hfile : h.files.isFile f = true)
    (hprints : ∀ s log, settings h.files config = .ok (s, log) →
      ∃ outcome, h.run s.tool (Text.Utf8.encode f) = .ok outcome ∧ outcome.output = t)
    (bytes : List UInt8) (verbose verbose' : Bool) (format : Format) :
    (run h bytes ⟨config, verbose, .lint [f] format⟩).Alike
        (run h (Text.Utf8.encode t) ⟨config, verbose', .parse f none format⟩) ∧
      (∀ path bytes', h.files.readText path = .ok t →
        (run h bytes ⟨config, verbose, .lint [f] format⟩).Alike
          (run h bytes' ⟨config, verbose', .parse f (some path) format⟩)) ∧
      ∀ s log, settings h.files config = .ok (s, log) →
        (∃ r ∈ s.severity.rules, ∃ fault, Pattern.compile r.pattern = .error fault) →
          (run h bytes ⟨config, verbose, .lint [f] format⟩).IsFailure ∧
            ∀ input bytes', (run h bytes' ⟨config, verbose', .parse f input format⟩).IsFailure := by
  -- How the text is read makes no difference to what is gathered.
  have halike : ∀ input bytes', captured h input bytes' = .ok t →
      (run h bytes ⟨config, verbose, .lint [f] format⟩).Alike
        (run h bytes' ⟨config, verbose', .parse f input format⟩) := by
    intro input bytes' hinput
    rw [run_lint_eq, run_parse_eq]
    cases hsettings : settings h.files config with
    | error failure => exact ⟨rfl, rfl⟩
    | ok loaded =>
      obtain ⟨s, log⟩ := loaded
      obtain ⟨outcome, hrun, hprinted⟩ := hprints s log hsettings
      exact alike_report (gathered_lint_eq_gathered_parse hfile hrun hprinted hinput log log) h
        verbose verbose' format
  refine ⟨halike none _ (captured_encode h t), fun path bytes' hread => ?_,
    fun s log hsettings hrule => ?_⟩
  · exact halike (some path) bytes' (captured_of_readText hread bytes')
  · obtain ⟨r, hr, fault, hfault⟩ := hrule
    exact ⟨(isFailure_of_badPattern hsettings hr hfault bytes verbose format).1 [f],
      fun input bytes' => (isFailure_of_badPattern hsettings hr hfault bytes' verbose' format).2 f input⟩

/-- A tool that finds an error and ends with status 1. Without a settings file both commands report the
error; with one that has a rule whose pattern cannot be read, both fail. -/
theorem run_lint_alike_run_parse_error :
    let rules := "\x7b\"severity\": \x7b\"rules\": [\x7b\"pattern\": \"(\", \"severity\": \"error\"\x7d]\x7d\x7d"
    let h : Host :=
      { files := { entries := [(["a"], .file []), (["rules"], .file (Text.Utf8.encode rules))] }
        run := fun _ _ => .ok ⟨.exited 1, "a:1:1:error: x\n", "1 error\n"⟩ }
    (run h [] ⟨none, false, .lint ["/a"] .json⟩).Alike
        (run h (Text.Utf8.encode "a:1:1:error: x\n") ⟨none, true, .parse "/a" none .json⟩) ∧
      (run h [] ⟨some "/rules", false, .lint ["/a"] .json⟩).IsFailure ∧
      (run h [] ⟨some "/rules", true, .parse "/a" none .json⟩).IsFailure := by
  intro rules h
  have hplace : h.files.IsDirect "/a" ["a"] := by
    decide +kernel
  have hfile : h.files.isFile "/a" = true := Files.isFile_of_file hplace rfl
  have hdirect : h.files.IsDirect "/rules" ["rules"] := by
    decide +kernel
  have hsettings : settings h.files (some "/rules") = .ok (_, []) :=
    @settings_of_isDirect _ _ _ _ { severity := { rules := [⟨"(", .error⟩] } } hdirect
      ⟨rfl, rfl⟩ (by decide +kernel)
  have hprints : ∀ config s log, settings h.files config = .ok (s, log) →
      ∃ outcome, h.run s.tool (Text.Utf8.encode "/a") = .ok outcome ∧
        outcome.output = "a:1:1:error: x\n" :=
    fun _ _ _ _ => ⟨_, rfl, rfl⟩
  have hbad : ∃ fault, Pattern.compile "(" = .error fault := ⟨_, rfl⟩
  obtain ⟨hlint, hparse⟩ := (run_lint_alike_run_parse hfile (hprints (some "/rules")) [] false true
    .json).2.2 _ _ hsettings ⟨_, List.mem_singleton_self _, hbad⟩
  exact ⟨(run_lint_alike_run_parse hfile (hprints none) [] false true .json).1, hlint,
    hparse none []⟩

end LintLedger.CommandLine
