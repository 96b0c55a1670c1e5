import LintLedger.Pattern.Fault
import LintLedger.Pattern.Machine

/-!
# The room that a pattern takes

A pattern is refused if one of the two machines that would match it byte by byte, forwards and
backwards, takes too much room. No machine is needed for a choice between very many texts.
-/

namespace LintLedger.Pattern

/-- From how many texts on a choice between texts is looked up and not matched. -/
def manyTexts : Nat := 3000

/-- Is the plan a choice between very many texts? -/
def Plan.isLongList : Plan → Bool
  | .choice ps => manyTexts ≤ ps.length && ps.all fun p => p.bytes?.isSome
  | _ => false

/-- Does the expression leave room? -/
def Regex.fits (r : Regex Unicode.CodeSet Guard) : Bool :=
  let p := r.plan
  p.isLongList ||
    ((p.machine sizeLimit false).room ≤ sizeLimit && (p.machine sizeLimit true).room ≤ sizeLimit)

end LintLedger.Pattern
