import LintLedger.CommandLine
import LintLedger.Proofs.Intake
import LintLedger.Proofs.Settings.Loading
import Mathlib.Data.List.Induction

/-!
# Checking files

A command checks its files one behind the other, and what is known about the documents is handed on from
file to file. A *visit* is the checking of one file, with the host as it is found at that moment: a tool
that is asked again may answer otherwise. A visit leaves the file out, takes in what the tool printed, or
fails (`LintLedger.CommandLine.Visit.leads_or_fails`), and it fails exactly if there is a file and the
tool cannot be started on it.

So many visits come to an end exactly if none of them fails
(`LintLedger.CommandLine.exists_checkAll_eq_ok_iff`), and the ledger behind them is that of a plain fold
(`LintLedger.CommandLine.ledger_checkAll`), in which a visit that finds no file does nothing.

A command that reports shows the ledger and the number of the files, and how it came to them makes no
difference: two commands that have gathered the same end alike (`LintLedger.CommandLine.alike_report`).
-/

namespace LintLedger

namespace CommandLine

/-! ### One visit -/

/-- The checking of a file, with the host as it is found at that moment. -/
structure Visit where
  /-- The host. -/
  host : Host
  /-- The path of the file. -/
  file : String

namespace Visit

variable (tool : Tool) (intake : Intake)

/-- What the tool prints at a visit; nothing if there is no such file, or if the tool cannot be started
on it. -/
def output? (v : Visit) : Option String :=
  if v.host.files.isFile v.file then
    match v.host.run tool (Text.Utf8.encode v.file) with
    | .ok outcome => some outcome.output
    | .error _ => none
  else none

/-- **A visit fails**: there is a file, and the tool cannot be started on it. -/
def Fails (v : Visit) : Prop :=
  v.host.files.isFile v.file = true ∧
    ∃ fault, v.host.run tool (Text.Utf8.encode v.file) = .error fault

/-- The ledger behind a visit: what was printed is taken in. -/
def take (l : Ledger) (v : Visit) : Ledger :=
  match v.output? tool with
  | some output => (intake.take (some output) (some v.file) v.file l).1
  | none => l

/-- **What a visit leads to** if it does not fail. -/
inductive Leads (p : Progress) (v : Visit) : Progress → Prop where
  /-- There is no file, which is left out. -/
  | skipped (nothing : v.host.files.isFile v.file = false) :
      Leads p v { p with log := p.log ++ [.skipping v.file] }
  /-- What the tool printed is taken in. -/
  | taken {outcome : Tool.Outcome} (file : v.host.files.isFile v.file = true)
      (ran : v.host.run tool (Text.Utf8.encode v.file) = .ok outcome) :
      Leads p v {
        ledger := (intake.take (some outcome.output) (some v.file) v.file p.ledger).1
        checked := p.checked + 1
        log := p.log ++ [Event.toolStarted tool.program v.file] ++
          (tool.status? outcome).toList.map Event.toolFailed ++
          (intake.take (some outcome.output) (some v.file) v.file p.ledger).2 }

variable {tool intake} {p q : Progress} {v : Visit}

theorem output?_of_ok {outcome : Tool.Outcome} (hfile : v.host.files.isFile v.file = true)
    (hrun : v.host.run tool (Text.Utf8.encode v.file) = .ok outcome) :
    v.output? tool = some outcome.output := by
  unfold output?
  rw [if_pos hfile, hrun]

theorem output?_of_not_isFile (hnothing : v.host.files.isFile v.file = false) :
    v.output? tool = none :=
  if_neg (Bool.eq_false_iff.mp hnothing)

theorem not_fails_of_ok {outcome : Tool.Outcome}
    (hrun : v.host.run tool (Text.Utf8.encode v.file) = .ok outcome) : ¬v.Fails tool := by
  rintro ⟨-, fault, hfault⟩
  simp [hrun] at hfault

theorem take_of_some {output : String} (h : v.output? tool = some output) (l : Ledger) :
    v.take tool intake l = (intake.take (some output) (some v.file) v.file l).1 := by
  unfold take
  rw [h]

theorem take_of_none (h : v.output? tool = none) (l : Ledger) : v.take tool intake l = l := by
  unfold take
  rw [h]

/-- **A visit leads to something or fails**, and not both. -/
theorem leads_or_fails (tool : Tool) (intake : Intake) (p : Progress) (v : Visit) :
    (∃ q, check v.host tool intake p v.file = .ok q ∧ v.Leads tool intake p q) ∧ ¬v.Fails tool ∨
      (∃ f, check v.host tool intake p v.file = .error f) ∧ v.Fails tool := by
  unfold check
  cases hfile : v.host.files.isFile v.file with
  | false =>
    rw [if_pos (by rfl)]
    refine Or.inl ⟨⟨_, rfl, .skipped hfile⟩, fun hfails => ?_⟩
    exact Bool.noConfusion (hfile.symm.trans hfails.1)
  | true =>
    rw [if_neg (by simp)]
    cases hrun : v.host.run tool (Text.Utf8.encode v.file) with
    | error fault => exact Or.inr ⟨⟨_, rfl⟩, hfile, fault, hrun⟩
    | ok outcome =>
      exact Or.inl ⟨⟨_, rfl, .taken hfile hrun⟩, not_fails_of_ok hrun⟩

theorem leads_of_check (hok : check v.host tool intake p v.file = .ok q) :
    v.Leads tool intake p q := by
  rcases leads_or_fails tool intake p v with ⟨⟨q', hok', hleads⟩, -⟩ | ⟨⟨f, herror⟩, -⟩
  · obtain rfl := Except.ok.inj (hok.symm.trans hok')
    exact hleads
  · simp [herror] at hok

theorem exists_check_eq_ok_iff :
    (∃ q, check v.host tool intake p v.file = .ok q) ↔ ¬v.Fails tool := by
  rcases leads_or_fails tool intake p v with ⟨⟨q, hok, -⟩, hnot⟩ | ⟨⟨f, herror⟩, hfails⟩
  · exact iff_of_true ⟨q, hok⟩ hnot
  · exact iff_of_false (by simp [herror]) (not_not_intro hfails)

theorem Leads.ledger (h : v.Leads tool intake p q) : q.ledger = v.take tool intake p.ledger := by
  cases h with
  | skipped hnothing => rw [take_of_none (output?_of_not_isFile hnothing)]
  | taken hfile hrun => rw [take_of_some (output?_of_ok hfile hrun)]

/-- A visit is counted if there is a file. -/
theorem Leads.checked (h : v.Leads tool intake p q) :
    q.checked = p.checked + if v.host.files.isFile v.file then 1 else 0 := by
  cases h with
  | skipped hnothing => rw [hnothing]; rfl
  | taken hfile _ => rw [hfile]; rfl

end Visit

/-! ### Many visits -/

/-- Makes visits one behind the other. -/
def checkAll (tool : Tool) (intake : Intake) (p : Progress) (visits : List Visit) :
    Except Failure Progress :=
  visits.foldlM (fun p v => check v.host tool intake p v.file) p

/-- The command that checks files, with a host of its own for each of them. -/
def lintEach (s : Settings) (log : List Event) (visits : List Visit) : Except Failure Progress :=
  match s.intake with
  | .error pattern => .error ⟨log, pattern.message⟩
  | .ok intake => checkAll s.tool intake { log := log } visits

/-- On one host, it is the command. -/
theorem lint_eq_lintEach (h : Host) (s : Settings) (log : List Event) (files : List String) :
    lint h s log files = lintEach s log (files.map (Visit.mk h)) := by
  unfold lint lintEach checkAll
  cases s.intake with
  | error pattern => rfl
  | ok intake =>
    dsimp only
    rw [List.foldlM_map]

variable {tool : Tool} {intake : Intake} {p q : Progress} {visits : List Visit} {v : Visit}

theorem lintEach_of_intake {s : Settings} (hintake : s.intake = .ok intake) (log : List Event)
    (visits : List Visit) :
    lintEach s log visits = checkAll s.tool intake { log := log } visits := by
  unfold lintEach
  rw [hintake]

/-- **One visit more.** -/
theorem checkAll_append_singleton_eq_ok_iff :
    checkAll tool intake p (visits ++ [v]) = .ok q ↔
      ∃ m, checkAll tool intake p visits = .ok m ∧ check v.host tool intake m v.file = .ok q := by
  unfold checkAll
  simp only [List.foldlM_append, List.foldlM_cons, List.foldlM_nil, bind_pure]
  cases visits.foldlM (fun p v => check v.host tool intake p v.file) p with
  | error f => simp [bind, Except.bind]
  | ok m => simp [bind, Except.bind]

/-- **Visits come to an end** exactly if none of them fails. -/
theorem exists_checkAll_eq_ok_iff :
    (∃ q, checkAll tool intake p visits = .ok q) ↔ ∀ v ∈ visits, ¬v.Fails tool := by
  induction visits using List.reverseRecOn with
  | nil => exact iff_of_true ⟨p, rfl⟩ (by simp)
  | append_singleton visits v ih =>
    simp only [checkAll_append_singleton_eq_ok_iff, List.mem_append, List.mem_singleton]
    constructor
    · rintro ⟨q, m, hm, hq⟩ w (hw | rfl)
      · exact ih.mp ⟨m, hm⟩ w hw
      · exact Visit.exists_check_eq_ok_iff.mp ⟨q, hq⟩
    · intro hnone
      obtain ⟨m, hm⟩ := ih.mpr fun w hw => hnone w (Or.inl hw)
      obtain ⟨q, hq⟩ := Visit.exists_check_eq_ok_iff.mpr (hnone v (Or.inr rfl))
      exact ⟨q, m, hm, hq⟩

/-- **The ledger behind visits** takes in what was printed at each of them. -/
theorem ledger_checkAll (hok : checkAll tool intake p visits = .ok q) :
    q.ledger = visits.foldl (Visit.take tool intake) p.ledger := by
  induction visits using List.reverseRecOn generalizing q with
  | nil =>
    obtain rfl := Except.ok.inj hok
    rfl
  | append_singleton visits v ih =>
    obtain ⟨m, hm, hcheck⟩ := checkAll_append_singleton_eq_ok_iff.mp hok
    rw [(Visit.leads_of_check hcheck).ledger, ih hm, List.foldl_concat]

/-- The visits of files are counted. -/
theorem checked_checkAll (hok : checkAll tool intake p visits = .ok q) :
    q.checked = p.checked + visits.countP fun v => v.host.files.isFile v.file := by
  induction visits using List.reverseRecOn generalizing q with
  | nil =>
    obtain rfl := Except.ok.inj hok
    rfl
  | append_singleton visits v ih =>
    obtain ⟨m, hm, hcheck⟩ := checkAll_append_singleton_eq_ok_iff.mp hok
    rw [(Visit.leads_of_check hcheck).checked, ih hm, List.countP_append, List.countP_singleton,
      Nat.add_assoc]

/-! ### The settings of a command -/

/-- Without a settings file, a command follows the default settings. -/
theorem settings_of_discover?_eq_none {f : Files}
    (hnone : Settings.discover? f (herePath f) = none) :
    settings f none = .ok ({}, [.settingsDefault]) := by
  unfold settings
  rw [hnone]

/-- A command follows the settings of the file that it is given. -/
theorem settings_of_isDirect {f : Files} {path : String} {names : List String}
    {content : List UInt8} {s : Settings} (hpath : f.IsDirect path names)
    (hfile : f.Holds names content)
    (hs : ((Text.Utf8.decode? content).bind fun text => (Settings.ofText text).toOption) = some s) :
    settings f (some path) = .ok ({ s with folder := some (Path.folder path) }, []) := by
  obtain ⟨text, htext, hs⟩ := Option.bind_eq_some_iff.mp hs
  have hread : f.readText path = .ok text := Files.readText_of_isDirect hpath hfile htext
  unfold settings Settings.load
  simp only [hread, Settings.toOption_ofText_eq_some_iff.mp hs, Path.Form.shown_text]

/-- The command that checks files fails without settings, and else reports on the files. -/
theorem run_lint_eq (h : Host) (bytes : List UInt8) (config : Option String) (verbose : Bool)
    (files : List String) (format : Format) :
    run h bytes ⟨config, verbose, .lint files format⟩ =
      match settings h.files config with
      | .error f => failed h verbose f
      | .ok (s, log) => report h verbose format (lint h s log files) := by
  unfold run
  cases settings h.files config <;> rfl

/-- The command that takes in a report fails without settings, and else reports on what it took in. -/
theorem run_parse_eq (h : Host) (bytes : List UInt8) (config : Option String) (verbose : Bool)
    (document : String) (input : Option String) (format : Format) :
    run h bytes ⟨config, verbose, .parse document input format⟩ =
      match settings h.files config with
      | .error f => failed h verbose f
      | .ok (s, log) => report h verbose format (parse h s log document input bytes) := by
  unfold run
  cases settings h.files config <;> rfl

/-! ### What is seen of a command -/

/-- Two commands end alike: they print the same, and their status is the same. -/
def Outcome.Alike (o o' : Outcome) : Prop := o.output = o'.output ∧ o.status = o'.status

/-- A command fails: it prints nothing, and its status is 2. -/
def Outcome.IsFailure (o : Outcome) : Prop := o.output = "" ∧ o.status = 2

/-- What a command has gathered when it comes to its report: the ledger and the number of the files. -/
def gathered (p : Except Failure Progress) : Option (Ledger × Nat) :=
  p.toOption.map fun q => (q.ledger, q.checked)

/-- **A report shows what was gathered**, and a command that failed shows nothing. -/
theorem alike_report {p p' : Except Failure Progress} (hsame : gathered p = gathered p') (h : Host)
    (verbose verbose' : Bool) (format : Format) :
    (report h verbose format p).Alike (report h verbose' format p') := by
  cases p with
  | error f =>
    cases p' with
    | error f' => exact ⟨rfl, rfl⟩
    | ok q' => simp [gathered, Except.toOption] at hsame
  | ok q =>
    cases p' with
    | error f' => simp [gathered, Except.toOption] at hsame
    | ok q' =>
      have hpair : (q.ledger, q.checked) = (q'.ledger, q'.checked) := Option.some.inj hsame
      obtain ⟨hledger, hchecked⟩ := Prod.mk.inj hpair
      constructor
      · simp only [report, hledger, hchecked]
      · simp only [report, hledger]

theorem isFailure_report {p : Except Failure Progress} (hnone : gathered p = none) (h : Host)
    (verbose : Bool) (format : Format) : (report h verbose format p).IsFailure := by
  cases p with
  | error f => exact ⟨rfl, rfl⟩
  | ok q => simp [gathered, Except.toOption] at hnone

/-- Visits of which none fails gather all that was printed, and count the files. -/
theorem gathered_checkAll (hnone : ∀ v ∈ visits, ¬v.Fails tool) :
    gathered (checkAll tool intake p visits) =
      some (visits.foldl (Visit.take tool intake) p.ledger,
        p.checked + visits.countP fun v => v.host.files.isFile v.file) := by
  obtain ⟨q, hok⟩ := exists_checkAll_eq_ok_iff.mpr hnone
  rw [← ledger_checkAll hok, ← checked_checkAll hok, hok]
  rfl

/-- Visits of which one fails gather nothing. -/
theorem gathered_checkAll_of_fails (hfails : ∃ v ∈ visits, v.Fails tool) :
    gathered (checkAll tool intake p visits) = none := by
  obtain ⟨v, hv, hv'⟩ := hfails
  cases hok : checkAll tool intake p visits with
  | error f => rfl
  | ok q => exact absurd hv' (exists_checkAll_eq_ok_iff.mp ⟨q, hok⟩ v hv)

end CommandLine
end LintLedger
