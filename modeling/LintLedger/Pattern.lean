import LintLedger.Pattern.Matcher
import LintLedger.Pattern.Meaning
import LintLedger.Pattern.Reader
import LintLedger.Pattern.Room

/-!
# Patterns

A pattern is read and given its meaning once; after that it can be asked of any text whether it
occurs there.
-/

namespace LintLedger

/-- A pattern that has been read: the text it was written as, and what it means. -/
structure Pattern where
  /-- The pattern as it is written. -/
  source : String
  /-- What it means. -/
  regex : Pattern.Regex Unicode.CodeSet Pattern.Guard

namespace Pattern

/-- Reads a pattern. What a part of it means depends on the flags around it, so a part without a
meaning is a fault of the whole, and so is taking too much room. -/
def compile (source : String) : Except Fault Pattern := do
  let e ← Expr.read source.toList
  match e.meaning {} with
  | .ok (r, _) => if r.fits then pure ⟨source, r⟩ else throw .size
  | .error cause => throw (.unreadable cause [.between source.toList []])

/-- Does the pattern occur in the text? -/
def occursIn (p : Pattern) (text : String) : Bool := p.regex.occursIn text.toList

end Pattern
end LintLedger
