import LintLedger.Finding
import LintLedger.Keyed

/-!
# The ledger

The ledger holds what is known about every document: under the path of the document the list of its
findings, in the order in which the tool reported them. A document may be known and clean: its list is
then empty, which is not the same as being unknown. Documents come in the order of their paths.

Each operation is told apart by the lookups after it (`get?_replace`, `get?_append`, `get?_clear`,
`get?_remove`); with `ext_get?` that says all about it. What is asked of a ledger as a whole is told by the
lookups too (`hasErrors_iff`).
-/

namespace LintLedger

/-- What is known about the documents. -/
structure Ledger where
  /-- The findings of each known document. -/
  documents : Keyed (List Finding)
deriving DecidableEq

namespace Ledger

/-- Nothing is known. -/
def empty : Ledger := ⟨.empty⟩

instance : Inhabited Ledger := ⟨empty⟩

/-- The findings of a document, if it is known. -/
def get? (l : Ledger) (document : String) : Option (List Finding) := l.documents.get? document

/-- Is the document known? -/
def contains (l : Ledger) (document : String) : Bool := l.documents.contains document

/-- The documents with their findings, in the order of their paths. -/
def entries (l : Ledger) : List (String × List Finding) := l.documents.entries

/-- Writes the findings of a document in place of the old ones. -/
def replace (l : Ledger) (document : String) (findings : List Finding) : Ledger :=
  ⟨l.documents.insert document findings⟩

/-- Adds a finding behind those of a document. -/
def append (l : Ledger) (document : String) (finding : Finding) : Ledger :=
  l.replace document ((l.get? document).getD [] ++ [finding])

/-- Makes a document known and clean. -/
def clear (l : Ledger) (document : String) : Ledger := l.replace document []

/-- Forgets a document. -/
def remove (l : Ledger) (document : String) : Ledger := ⟨l.documents.erase document⟩

/-- The number of known documents. -/
def size (l : Ledger) : Nat := l.documents.size

/-- Is no document known? -/
def isEmpty (l : Ledger) : Bool := l.documents.entries.isEmpty

/-- All findings, document by document. -/
def findings (l : Ledger) : List Finding := l.entries.flatMap (·.2)

/-- The number of findings. -/
def findingCount (l : Ledger) : Nat := l.findings.length

/-- Is one of the findings an error? -/
def hasErrors (l : Ledger) : Bool := l.findings.any Finding.isError

/-! ### Lookups after each operation -/

@[simp] theorem get?_empty (k : String) : empty.get? k = none := rfl

@[simp] theorem get?_replace (l : Ledger) (d k : String) (fs : List Finding) :
    (l.replace d fs).get? k = if k = d then some fs else l.get? k :=
  Keyed.get?_insert l.documents d k fs

@[simp] theorem get?_append (l : Ledger) (d k : String) (f : Finding) :
    (l.append d f).get? k = if k = d then some ((l.get? d).getD [] ++ [f]) else l.get? k :=
  get?_replace ..

@[simp] theorem get?_clear (l : Ledger) (d k : String) :
    (l.clear d).get? k = if k = d then some [] else l.get? k :=
  get?_replace ..

@[simp] theorem get?_remove (l : Ledger) (d k : String) :
    (l.remove d).get? k = if k = d then none else l.get? k :=
  Keyed.get?_erase l.documents d k

theorem mem_entries_iff (l : Ledger) (d : String) (fs : List Finding) :
    (d, fs) ∈ l.entries ↔ l.get? d = some fs :=
  Keyed.mem_entries_iff l.documents d fs

/-- Ledgers with the same lookups are the same ledger. -/
theorem ext_get? {l m : Ledger} (h : ∀ k, l.get? k = m.get? k) : l = m := by
  obtain ⟨ds⟩ := l
  obtain ⟨es⟩ := m
  exact congrArg Ledger.mk (Keyed.ext_get? h)

/-! ### The ledger as a whole -/

theorem isEmpty_iff (l : Ledger) : l.isEmpty = true ↔ l.size = 0 :=
  List.isEmpty_iff_length_eq_zero

/-- There are errors exactly if one stands under some document. -/
theorem hasErrors_iff (l : Ledger) :
    l.hasErrors = true ↔ ∃ d fs, l.get? d = some fs ∧ ∃ f ∈ fs, f.severity = .error := by
  simp only [hasErrors, findings, List.any_eq_true, List.mem_flatMap, Prod.exists, mem_entries_iff,
    Finding.isError, decide_eq_true_eq]
  constructor
  · rintro ⟨f, ⟨d, fs, hget, hf⟩, herror⟩
    exact ⟨d, fs, hget, f, hf, herror⟩
  · rintro ⟨d, fs, hget, f, hf, herror⟩
    exact ⟨f, ⟨d, fs, hget, hf⟩, herror⟩

end Ledger
end LintLedger
