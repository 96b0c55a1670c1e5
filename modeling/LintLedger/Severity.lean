/-!
# Severities

A finding is an error or a warning. Where nothing is known it counts as an error.
-/

namespace LintLedger

/-- How serious a finding is. -/
inductive Severity where
  /-- The code is wrong. -/
  | error
  /-- The code is suspicious. -/
  | warning
deriving DecidableEq, Repr

namespace Severity

instance : Inhabited Severity := ⟨.error⟩

/-- The name of a severity in reports and settings. -/
def name : Severity → String
  | .error => "error"
  | .warning => "warning"

/-- All severities, the default first. -/
def all : List Severity := [.error, .warning]

theorem name_injective {a b : Severity} (h : a.name = b.name) : a = b := by
  cases a <;> cases b <;> simp_all [name]

end Severity
end LintLedger
