import LintLedger.Ledger
import LintLedger.Log

/-!
# Runs

A run enters the findings of one report into a ledger. The first finding for a document replaces all
that was known about it, the further ones are added behind it; so a document that the run reports on
ends with the findings of this run and no others, and a document that it does not report on keeps what
it had. What becomes of the target of the run when nothing was found for it is decided at the end, by
the *stale policy*.
-/

namespace LintLedger

/-- What becomes of the old findings of a target for which a run found nothing. -/
inductive StalePolicy where
  /-- They stay. -/
  | retain
  /-- They go. -/
  | clear
deriving DecidableEq, Repr

namespace StalePolicy

instance : Inhabited StalePolicy := ⟨.retain⟩

/-- The name of a policy in settings. -/
def name : StalePolicy → String
  | .retain => "retain"
  | .clear => "clear"

/-- All policies, the default first. -/
def all : List StalePolicy := [.retain, .clear]

end StalePolicy

namespace Ledger

/-- A run that has begun. -/
structure Run where
  /-- The ledger so far. -/
  ledger : Ledger
  /-- The documents with a finding in this run. -/
  visited : List String := []
  /-- The number of findings entered. -/
  committed : Nat := 0
  /-- The number of report lines that made no sense. -/
  dropped : Nat := 0
  /-- What happened. -/
  log : List Event := []

namespace Run

/-- A run over a ledger begins. -/
def start (l : Ledger) : Run := { ledger := l }

/-- Has the run a finding for the document? -/
def hasVisited (r : Run) (document : String) : Bool := r.visited.contains document

/-- Enters a finding. -/
def commit (r : Run) (f : Finding) : Run :=
  if r.hasVisited f.path then
    { r with ledger := r.ledger.append f.path f, committed := r.committed + 1 }
  else
    { r with
      ledger := r.ledger.replace f.path [f]
      visited := f.path :: r.visited
      committed := r.committed + 1
      log := r.log ++ [.replacing f.path] }

/-- Leaves out a line of the report on a path. -/
def drop (r : Run) (path : String) : Run :=
  { r with dropped := r.dropped + 1, log := r.log ++ [.malformedLine path] }

/-- Ends the run, whose target is the given document. -/
def finish (r : Run) (target : String) (policy : StalePolicy) : Run :=
  match policy with
  | .retain => r
  | .clear =>
    if r.hasVisited target then r
    else { r with ledger := r.ledger.clear target, log := r.log ++ [.clearing target] }

end Run
end Ledger
end LintLedger
