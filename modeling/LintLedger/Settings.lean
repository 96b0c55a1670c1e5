import LintLedger.Intake
import LintLedger.Tool

/-!
# Settings

What a user may choose: the tool, the attribution of report lines, what becomes of stale findings, and
how severities are told. Settings are valid if they name a program and say how an error is recognised
(`Settings.fault?`); the patterns of their rules are only read when a classifier is made of them
(`Settings.classifier`), and the first that cannot be read is the fault.
-/

namespace LintLedger

namespace Settings

/-- A rule as it is written: a pattern and the severity of the messages that match. -/
structure Rule where
  /-- The pattern. -/
  pattern : String
  /-- The severity. -/
  severity : Severity
deriving DecidableEq, Repr

/-- How severities are told. -/
structure Severities where
  /-- What marks an error if there are no rules. -/
  keyword : String := Classifier.defaultKeyword
  /-- The rules in order. -/
  rules : List Rule := []
  /-- The severity of messages that no rule matches. -/
  fallback : Severity := .warning
deriving DecidableEq, Repr

instance : Inhabited Severities := ⟨{}⟩

end Settings

/-- What a user may choose. -/
structure Settings where
  /-- The tool. -/
  tool : Tool := {}
  /-- Where the documents of report lines come from. -/
  attribution : Attribution := default
  /-- What becomes of a target for which nothing was found. -/
  stalePolicy : StalePolicy := default
  /-- How severities are told. -/
  severity : Settings.Severities := {}
  /-- The folder of the file they come from, if they come from a file. -/
  folder : Option String := none
deriving DecidableEq, Repr

namespace Settings

instance : Inhabited Settings := ⟨{}⟩

/-- Why settings are not valid. -/
inductive Invalid where
  /-- The name of the program is blank. -/
  | blankProgram
  /-- Nothing marks an error. -/
  | noKeyword
deriving DecidableEq, Repr

/-- The wording of a fault. -/
def Invalid.message : Invalid → String
  | .blankProgram => "tool.program must not be empty"
  | .noKeyword => "severity.keyword must not be empty"

/-- What is wrong with the settings, if anything is. -/
def fault? (s : Settings) : Option Invalid :=
  if (Text.trimChars s.tool.program.toList).isEmpty then some .blankProgram
  else if s.severity.rules.isEmpty && s.severity.keyword.isEmpty then some .noKeyword
  else none

/-- A pattern that cannot be read. -/
structure BadPattern where
  /-- The pattern as it is written. -/
  source : String
  /-- What is wrong with it. -/
  fault : Pattern.Fault
deriving DecidableEq, Repr

/-- Which pattern it is that cannot be read. -/
def BadPattern.summary (p : BadPattern) : String := s!"Invalid severity pattern `{p.source}`"

/-- Which pattern cannot be read, and why. -/
def BadPattern.message (p : BadPattern) : String :=
  s!"{p.summary}: {p.fault.message p.source.toList}"

/-- Reads the pattern of a rule. -/
def Rule.compile (r : Rule) : Except BadPattern Classifier.Rule :=
  match Pattern.compile r.pattern with
  | .ok p => .ok ⟨p, r.severity⟩
  | .error fault => .error ⟨r.pattern, fault⟩

/-- The classifier that the settings ask for: the rules, or the keyword if there are none. -/
def Severities.classifier (s : Severities) : Except BadPattern Classifier :=
  if s.rules.isEmpty then pure (Classifier.ofKeyword s.keyword)
  else do
    let rules ← s.rules.mapM Rule.compile
    pure (Classifier.ofRules rules s.fallback)

/-- The intake that the settings ask for. -/
def intake (s : Settings) : Except BadPattern Intake := do
  let classifier ← s.severity.classifier
  pure { classifier := classifier, attribution := s.attribution, stalePolicy := s.stalePolicy }

end Settings
end LintLedger
