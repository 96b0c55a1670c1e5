import LintLedger.Pattern
import LintLedger.Severity

/-!
# Classifiers

The tool does not say how serious a finding is, so the severity is guessed from the message. A
classifier is any function from messages to severities. Two kinds come from the settings: a keyword
that makes a message an error, and a table of rules of which the first that matches decides. For both
an empty message is an error.
-/

namespace LintLedger

/-- A way to tell the severity of a message. -/
abbrev Classifier := String → Severity

namespace Text

/-- Does the first text occur in the second as a contiguous part? -/
def occursIn (part : List Char) : List Char → Bool
  | [] => part.isEmpty
  | c :: cs => part.isPrefixOf (c :: cs) || occursIn part cs

end Text

/-- A rule: messages in which the pattern occurs have the severity. -/
structure Classifier.Rule where
  /-- The pattern. -/
  pattern : Pattern
  /-- The severity of the messages that match. -/
  severity : Severity

namespace Classifier

/-- Does the rule decide the message? -/
def Rule.matches (r : Rule) (message : String) : Bool := r.pattern.occursIn message

/-- The keyword that marks an error if the settings name none. -/
def defaultKeyword : String := "error"

/-- A message is an error if the keyword occurs in it. -/
def ofKeyword (keyword : String) : Classifier := fun message =>
  if message.isEmpty || Text.occursIn keyword.toList message.toList then .error else .warning

/-- The first rule that matches decides, the fallback if none does. -/
def ofRules (rules : List Rule) (fallback : Severity) : Classifier := fun message =>
  if message.isEmpty then .error
  else match rules.find? (·.matches message) with
    | some r => r.severity
    | none => fallback

/-- A message is an error if it starts with the given text. -/
def ofLead (lead : String) : Classifier := fun message =>
  if lead.toList.isPrefixOf message.toList then .error else .warning

end Classifier
end LintLedger
