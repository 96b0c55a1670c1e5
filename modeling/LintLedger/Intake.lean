import LintLedger.Classifier
import LintLedger.Ledger.Run
import LintLedger.Report

/-!
# Intake

The intake takes what the tool printed about a document into the ledger: line by line a candidate, its
severity from its message, and then either a finding for the run or a line that is left out. If the
tool printed nothing, or there is no document, the ledger stays as it is.
-/

namespace LintLedger

/-- How reports are taken in. -/
structure Intake where
  /-- How severities are told. -/
  classifier : Classifier := Classifier.ofKeyword Classifier.defaultKeyword
  /-- Where the documents of the lines come from. -/
  attribution : Attribution := default
  /-- What becomes of a target for which nothing was found. -/
  stalePolicy : StalePolicy := default

namespace Intake

instance : Inhabited Intake := ⟨{}⟩

/-- How an intake shows itself in messages; a classifier cannot be shown. -/
def describe (i : Intake) : String :=
  let attribution := match i.attribution with
    | .document => "Document"
    | .reported => "Reported"
  let policy := match i.stalePolicy with
    | .retain => "Retain"
    | .clear => "Clear"
  "DiagnosticPipeline \x7b classifier: \"<dyn SeverityClassifier>\", path_source: " ++ attribution ++
    ", stale_policy: " ++ policy ++ " \x7d"

/-- A candidate with the severity of its message. -/
def classify (i : Intake) (c : Candidate) : Candidate :=
  { c with severity := i.classifier c.message }

/-- Enters a candidate of the report on a path. -/
def enter (i : Intake) (path : String) (r : Ledger.Run) (c : Candidate) : Ledger.Run :=
  match (i.classify c).toFinding? with
  | some f => r.commit f
  | none => r.drop path

/-- Enters a report on a path and ends the run. -/
def takeReport (i : Intake) (report : Report) (path : String) (l : Ledger) : Ledger.Run :=
  let r := (report.candidates i.attribution path).foldl (i.enter path) (.start l)
  let r := { r with log := r.log ++ [Event.reportTaken path r.committed r.dropped] }
  r.finish path i.stalePolicy

/-- Takes in what the tool printed about a document. The document is given by its location, its path is
the target of the run. -/
def take (i : Intake) (output : Option String) (document : Option String) (path : String)
    (l : Ledger) : Ledger × List Event :=
  match document with
  | none => (l, [.noDocument path])
  | some location =>
    match Report.ofOutput output with
    | .error .noText => (l, [.noReport location])
    | .ok report =>
      let r := i.takeReport report path l
      (r.ledger, r.log)

end Intake
end LintLedger
