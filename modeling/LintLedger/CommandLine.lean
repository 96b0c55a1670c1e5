import LintLedger.CommandLine.Help
import LintLedger.Ledger.Listing
import LintLedger.Ledger.Written
import LintLedger.Session.Frames

/-!
# The command line

The commands of the program as functions of the host and the input. A command either fails, and then
prints nothing and ends with status 2, or prints one report on all it found and ends with status 1 if
there is an error among it, else with 0. Whatever it does, it tells as events; those of little interest
are told on request only.
-/

namespace LintLedger.CommandLine

/-- What a command left behind. -/
structure Outcome where
  /-- How it ended. -/
  status : Nat
  /-- What it printed. -/
  output : String := ""
  /-- What it told. -/
  log : List Event := []
  /-- The files behind it. -/
  files : Files

/-- Why a command failed, with what happened before. -/
structure Failure where
  /-- What happened before. -/
  log : List Event
  /-- Why it failed. -/
  reason : String

/-- The path of the current folder. -/
def herePath (f : Files) : String := "/" ++ "/".intercalate f.here

/-- The settings that a command follows: those of the given file, else those of the current folder, else
the default ones. -/
def settings (f : Files) (given : Option String) : Except Failure (Settings × List Event) :=
  let load (path : String) (log : List Event) : Except Failure (Settings × List Event) :=
    match Settings.load f path with
    | .ok s => .ok (s, log)
    | .error fault => .error ⟨log, fault.message⟩
  match given with
  | some path => load path []
  | none =>
    match Settings.discover? f (herePath f) with
    | some path => load path [.settingsUsed path]
    | none => .ok ({}, [.settingsDefault])

/-- A ledger in a format. -/
def printed (l : Ledger) (checked : Nat) : Format → String
  | .text => l.listing checked
  | .json => l.pretty ++ "\n"

/-- The status behind a report. -/
def reportStatus (l : Ledger) : Nat := if l.hasErrors then 1 else 0

/-! ### Checking files -/

/-- How far checking files has come. -/
structure Progress where
  /-- What was found. -/
  ledger : Ledger := .empty
  /-- How many files were checked. -/
  checked : Nat := 0
  /-- What happened. -/
  log : List Event

/-- Checks a file. What is no file is left out. -/
def check (h : Host) (tool : Tool) (intake : Intake) (p : Progress) (file : String) :
    Except Failure Progress :=
  if !h.files.isFile file then .ok { p with log := p.log ++ [.skipping file] }
  else
    let started := p.log ++ [Event.toolStarted tool.program file]
    match h.run tool (Text.Utf8.encode file) with
    | .error fault => .error ⟨started, tool.spawnMessage fault⟩
    | .ok outcome =>
      let (ledger, log) := intake.take (some outcome.output) (some file) file p.ledger
      let failed := (tool.status? outcome).toList.map Event.toolFailed
      .ok { ledger := ledger, checked := p.checked + 1, log := started ++ failed ++ log }

/-- Checks files one behind the other. -/
def lint (h : Host) (s : Settings) (log : List Event) (files : List String) :
    Except Failure Progress :=
  match s.intake with
  | .error pattern => .error ⟨log, pattern.message⟩
  | .ok intake => files.foldlM (check h s.tool intake) { log := log }

/-! ### Taking in a report -/

/-- The text of a captured report. -/
def captured (h : Host) (input : Option String) (bytes : List UInt8) : Except String String :=
  match input with
  | some path =>
    match h.files.readText path with
    | .ok text => .ok text
    | .error fault => .error fault.message
  | none =>
    match Text.Utf8.decode? bytes with
    | some text => .ok text
    | none => .error Files.Fault.notText.message

/-- Takes in a captured report. -/
def parse (h : Host) (s : Settings) (log : List Event) (document : String) (input : Option String)
    (bytes : List UInt8) : Except Failure Progress :=
  match captured h input bytes with
  | .error reason => .error ⟨log, reason⟩
  | .ok text =>
    match s.intake with
    | .error pattern => .error ⟨log, pattern.message⟩
    | .ok intake =>
      let (ledger, more) := intake.take (some text) (some document) document .empty
      .ok { ledger := ledger, checked := 1, log := log ++ more }

/-! ### Writing a settings file -/

/-- The names under which the settings file of the current folder is written. -/
def settingsPlace (f : Files) : List String := f.here ++ [Settings.newFileName]

/-- Makes room for the settings file, by force: what stands there goes, unless it is a folder. Without force
nothing is done. -/
def makeRoom (f : Files) (force : Bool) : Except Files.Fault (Files × List Event) :=
  if force then
    match f.unlink (settingsPlace f) with
    | .ok f => .ok (f, [.fileReplaced Settings.newFileName])
    | .error .notFound => .ok (f, [])
    | .error fault => .error fault
  else .ok (f, [])

/-- Writes the settings file to start with, as a new file in the room that was made for it. Where it fails,
the files are left as they are at that moment. -/
def init (f : Files) (force : Bool) : Files × Except Failure (List Event) :=
  match makeRoom f force with
  | .error fault => (f, .error ⟨[], fault.message⟩)
  | .ok (room, log) =>
    match room.create? (settingsPlace f) (Text.Utf8.encode Settings.template) with
    | some files => (files, .ok (log ++ [.fileCreated Settings.newFileName]))
    | none =>
      (room, .error ⟨log, s!"{Settings.newFileName} already exists. Use --force to overwrite."⟩)

/-! ### Running a command -/

/-- Is the event told? -/
def isTold (verbose : Bool) (e : Event) : Bool :=
  match e.level with
  | .trace => false
  | .debug => verbose
  | _ => true

/-- A command that failed. -/
def failed (h : Host) (verbose : Bool) (f : Failure) : Outcome :=
  { status := 2
    log := (f.log ++ [Event.commandFailed f.reason]).filter (isTold verbose)
    files := h.files }

/-- A command that reports on what it found. -/
def report (h : Host) (verbose : Bool) (format : Format) (p : Except Failure Progress) : Outcome :=
  match p with
  | .error f => failed h verbose f
  | .ok p =>
    { status := reportStatus p.ledger
      output := printed p.ledger p.checked format
      log := p.log.filter (isTold verbose)
      files := h.files }

/-- Runs a command, which may read the given bytes. -/
def run (h : Host) (bytes : List UInt8) (i : Invocation) : Outcome :=
  match i.command with
  | .lint files format =>
    report h i.verbose format do
      let (s, log) ← settings h.files i.settings
      lint h s log files
  | .parse document input format =>
    report h i.verbose format do
      let (s, log) ← settings h.files i.settings
      parse h s log document input bytes
  | .init force =>
    match init h.files force with
    | (files, .error f) => { failed h i.verbose f with files := files }
    | (files, .ok log) => { status := 0, log := log.filter (isTold i.verbose), files := files }
  | .serve =>
    let t := Session.serveBytes h bytes
    { status := 0, output := t.output, log := t.log.filter (isTold i.verbose), files := h.files }

/-- Does what the arguments ask for. -/
def perform (h : Host) (bytes : List UInt8) (args : List String) : Outcome :=
  match Request.read args with
  | .run i => run h bytes i
  | .explain t => { status := 0, output := t.text, files := h.files }
  | .version => { status := 0, output := versionLine, files := h.files }
  | .refused => { status := 2, files := h.files }

end LintLedger.CommandLine
