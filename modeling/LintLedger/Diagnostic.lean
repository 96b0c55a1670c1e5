import LintLedger.Finding
import LintLedger.Text.Blank

/-!
# Diagnostics

What an editor shows of a finding. The tool says where a finding starts and not where it ends, so the
range is empty; the blanks around the message are not shown.
-/

namespace LintLedger

/-- What an editor shows of a finding. -/
structure Diagnostic where
  /-- The line of both ends of the range. -/
  line : UInt32
  /-- The column of both ends of the range. -/
  column : UInt32
  /-- How serious it is. -/
  severity : Severity
  /-- What is said. -/
  message : String
deriving DecidableEq, Repr

namespace Diagnostic

/-- Who speaks, in an editor that listens to several. -/
def source : String := "lintbridge"

/-- The diagnostic of a finding. -/
def ofFinding (f : Finding) : Diagnostic := ⟨f.line, f.column, f.severity, Text.trim f.message⟩

/-- The number of a severity in the protocol of editors. -/
def severityNumber : Severity → Nat
  | .error => 1
  | .warning => 2

end Diagnostic
end LintLedger
