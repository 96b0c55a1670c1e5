import LintLedger.Json.Decode
import LintLedger.Json.Writer
import LintLedger.Ledger

/-!
# Written findings and ledgers

A finding is written as an object with its five fields, and read back from one that may hold further
members; a ledger is an object from the paths of the documents to the arrays of their findings.
-/

namespace LintLedger

open Json (Decode.Fault)
open Json.Decode

/-- A severity as JSON. -/
def Severity.toJson (s : Severity) : Json := .text s.name

/-- Decodes a severity. -/
def Severity.decode : Json → Except Fault Severity := choice Severity.name Severity.all

namespace Finding

/-- A finding as JSON. -/
def toJson (f : Finding) : Json :=
  .object [("filePath", .text f.path), ("line", .ofNat f.line.toNat),
    ("column", .ofNat f.column.toNat), ("severity", f.severity.toJson), ("message", .text f.message)]

/-- How a finding is written. -/
def shape : Shape Finding where
  name := "struct DiagnosticRecord"
  fields := [
    ⟨"filePath", false, fun j f => do pure { f with path := ← text j }⟩,
    ⟨"line", false, fun j f => do pure { f with line := ← word j }⟩,
    ⟨"column", false, fun j f => do pure { f with column := ← word j }⟩,
    ⟨"severity", false, fun j f => do pure { f with severity := ← Severity.decode j }⟩,
    ⟨"message", false, fun j f => do pure { f with message := ← text j }⟩]
  closed := false

/-- Decodes a finding. -/
def decode : Json → Except Fault Finding := shape.decode ⟨"", 0, 0, default, ""⟩

end Finding

namespace Ledger

/-- A ledger as JSON. -/
def toJson (l : Ledger) : Json :=
  .object (l.entries.map fun (d, fs) => (d, .array (fs.map Finding.toJson)))

/-- Decodes a ledger. -/
def decode (j : Json) : Except Fault Ledger := do
  pure ⟨← keyed (list Finding.decode) j⟩

/-- A ledger as text, spread over lines. -/
def pretty (l : Ledger) : String := l.toJson.pretty

end Ledger
end LintLedger
