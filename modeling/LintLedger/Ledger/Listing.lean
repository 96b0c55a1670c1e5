import LintLedger.Ledger
import LintLedger.Text.Blank

/-!
# Listings

A ledger as people read it: a block for each document that has findings, headed by its path, with
positions counted from one as compilers print them, and a last line that sums up.
-/

namespace LintLedger

/-- A finding on a line. -/
def Finding.listed (f : Finding) : String :=
  s!"{f.line.toNat + 1}:{f.column.toNat + 1} {f.severity.name}: {Text.trim f.message}"

namespace Ledger

/-- The block of a document; none if it has no findings. -/
def block (document : String) (findings : List Finding) : String :=
  if findings.isEmpty then ""
  else s!"\n{document}:\n" ++ String.join (findings.map fun f => s!"  {f.listed}\n")

/-- The last line of a listing. -/
def summary (l : Ledger) (checked : Nat) : String :=
  s!"\nChecked {checked} files, found {l.findingCount} issues\n"

/-- The listing of a ledger, for which so many files were checked. -/
def listing (l : Ledger) (checked : Nat) : String :=
  String.join (l.entries.map fun (d, fs) => block d fs) ++ l.summary checked

end Ledger
end LintLedger
