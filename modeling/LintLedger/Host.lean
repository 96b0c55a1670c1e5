import LintLedger.Files
import LintLedger.Tool

/-!
# Hosts

What the program finds around itself: the files, and the programs that can be run on them. A host
answers every question at once and as often as it is asked.
-/

namespace LintLedger

/-- The files and programs around the program. -/
structure Host where
  /-- The files. -/
  files : Files
  /-- What happens when a tool is run on a path, which is given byte by byte. -/
  run : Tool → List UInt8 → Except Tool.SpawnFault Tool.Outcome

end LintLedger
