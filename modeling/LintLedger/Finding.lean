import LintLedger.Severity

/-!
# Findings

A *candidate* is what a line of a report says, whether it makes sense or not: its positions may be
missing, negative or too great, its document and its message may be empty. A *finding* is a candidate
that makes sense (`Candidate.toFinding?`); positions of a finding count from zero and take 32 bits.
Nothing but a well-formed candidate becomes a finding (`Candidate.toFinding?_isSome`).
-/

namespace LintLedger

/-- A finding of the tool in a document. -/
structure Finding where
  /-- The path of the document. -/
  path : String
  /-- The line, counted from zero. -/
  line : UInt32
  /-- The column, counted from zero. -/
  column : UInt32
  /-- How serious it is. -/
  severity : Severity
  /-- What the tool says. -/
  message : String
deriving DecidableEq, Repr

/-- Is the finding an error? -/
def Finding.isError (f : Finding) : Bool := f.severity = .error

/-- What a line of a report says. -/
structure Candidate where
  /-- The path of the document it is attributed to. -/
  path : String
  /-- The line, counted from zero, if there is a number. -/
  line : Option Int
  /-- The column, counted from zero, if there is a number. -/
  column : Option Int
  /-- How serious it is. -/
  severity : Severity
  /-- The rest of the line. -/
  message : String
deriving DecidableEq, Repr

namespace Candidate

/-- The position of a finding, if the number is one. -/
def position? (n : Option Int) : Option UInt32 :=
  match n with
  | some n => if 0 ≤ n ∧ n < 0x100000000 then some (UInt32.ofNat n.toNat) else none
  | none => none

/-- Does the candidate make sense: has it a document, a message, and two positions in range? -/
def isWellFormed (c : Candidate) : Bool :=
  c.path ≠ "" && c.message ≠ "" && (position? c.line).isSome && (position? c.column).isSome

/-- The finding that a candidate is, if it makes sense. -/
def toFinding? (c : Candidate) : Option Finding :=
  if c.path = "" ∨ c.message = "" then none
  else match position? c.line, position? c.column with
    | some line, some column => some ⟨c.path, line, column, c.severity, c.message⟩
    | _, _ => none

/-- Exactly the well-formed candidates are findings. -/
theorem toFinding?_isSome (c : Candidate) : c.toFinding?.isSome = c.isWellFormed := by
  unfold toFinding? isWellFormed
  cases position? c.line <;> cases position? c.column <;> grind

end Candidate
end LintLedger
