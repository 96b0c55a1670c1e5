import LintLedger.Diagnostic
import LintLedger.Host
import LintLedger.Intake
import LintLedger.Location

/-!
# Analyses

An analysis runs the tool on the file at a location, takes what it printed into the ledger, and tells
for which documents the editor has to be shown something new: for the analysed one whenever it is
known, and for every other one whose findings are not what they were.

A tool that finds nothing prints nothing, and the intake leaves the ledger alone then. Where stale
findings are to go, the analysis clears the document itself.
-/

namespace LintLedger

/-- The tool together with the intake of what it prints. -/
structure Analyser where
  /-- The tool. -/
  tool : Tool := {}
  /-- The intake. -/
  intake : Intake := {}

instance : Inhabited Analyser := ⟨{}⟩

/-- What an editor is shown for a document from now on. -/
structure Publication where
  /-- The location of the document. -/
  location : Location
  /-- All that is shown for it. -/
  diagnostics : List Diagnostic
  /-- The version of the document that was analysed, if it is known. -/
  version : Option Int
deriving DecidableEq, Repr

/-- What came of an analysis. -/
structure Analysis where
  /-- The ledger behind it. -/
  ledger : Ledger
  /-- What the editor is shown. -/
  publications : List Publication := []
  /-- What happened. -/
  log : List Event := []

namespace Analysis

/-- What the editor is shown for an entry of the ledger behind the analysis of a path. -/
def publication? (path : String) (version : Option Int) (before : Ledger)
    (entry : String × List Finding) : Option Publication :=
  if entry.1 = path ∨ before.get? entry.1 ≠ some entry.2 then
    (Location.ofPath? entry.1).map fun location =>
      { location := location
        diagnostics := entry.2.map Diagnostic.ofFinding
        version := if entry.1 = path then version else none }
  else none

/-- All that the editor is shown behind the analysis of a path. -/
def publications? (path : String) (version : Option Int) (before after : Ledger) :
    List Publication :=
  after.entries.filterMap (publication? path version before)

/-- Takes in what the tool printed about the file at a location. -/
def ofOutput (a : Analyser) (before : Ledger) (location : Location) (path : String)
    (version : Option Int) (output : String) : Analysis :=
  let (after, log) := a.intake.take (some output) (some location.text) path before
  if output.isEmpty ∧ a.intake.stalePolicy = .clear then
    let after := after.clear path
    { ledger := after
      publications := publications? path version before after
      log := log ++ [.clearingSilent location.text] }
  else
    { ledger := after, publications := publications? path version before after, log := log }

/-- Analyses the document at a location. -/
def run (a : Analyser) (h : Host) (before : Ledger) (location : Location) (version : Option Int) :
    Analysis :=
  match location.pathBytes? with
  | none => { ledger := before, log := [.notAFile location.text] }
  | some bytes =>
    let path := Text.Utf8.decodeLossy bytes
    let started := Event.toolStarted a.tool.program path
    match h.run a.tool bytes with
    | .error fault =>
      { ledger := before
        log := [started, .analysisFailed location.text (a.tool.spawnMessage fault)] }
    | .ok outcome =>
      let analysis := ofOutput a before location path version outcome.output
      let failed := (a.tool.status? outcome).toList.map Event.toolFailed
      { analysis with log := started :: failed ++ analysis.log }

end Analysis
end LintLedger
