import LintLedger.Proofs.Intake
import Mathlib.Data.Finset.Basic

/-!
# Runs one behind the other

A *delivery* is what a tool printed about a document, together with the intake that takes it in. It writes
to some documents (`LintLedger.Delivery.written`): those for which the text has findings, and the analysed
one if stale findings are to go and there is a text at all. What it writes there it does not take from the
ledger, and it leaves all other documents alone (`LintLedger.Delivery.get?_apply`). Everything about two
deliveries follows from this one equation: whether their order shows, and whether the first one does, is
only a matter of the documents that they write to (`LintLedger.Delivery.apply_apply_of_written`).
-/

namespace LintLedger

/-- What a tool printed about a document, and how it is taken in. -/
structure Delivery where
  /-- The intake. -/
  intake : Intake
  /-- What the tool printed, if it printed anything. -/
  output : Option String
  /-- The location of the analysed document. -/
  location : String
  /-- The path of the analysed document. -/
  path : String

namespace Delivery

/-- The ledger behind a delivery. -/
def apply (d : Delivery) (l : Ledger) : Ledger :=
  (d.intake.take d.output (some d.location) d.path l).1

/-- The findings of a delivery, in the order of the text. -/
def findings (d : Delivery) : List Finding := d.intake.findings d.path (d.output.getD "").toList

/-- Does the delivery clear its document if it has no finding for it? -/
def clears (d : Delivery) : Bool := d.intake.stalePolicy = .clear && d.output.getD "" ≠ ""

/-- **The documents that a delivery writes to.** -/
def written (d : Delivery) : Finset String :=
  (d.findings.map Finding.path).toFinset ∪ if d.clears then {d.path} else ∅

/-- What a delivery writes to a document. -/
def entry (d : Delivery) (k : String) : List Finding := d.findings.filter fun f => f.path = k

theorem mem_written_iff {d : Delivery} {k : String} :
    k ∈ d.written ↔ d.entry k ≠ [] ∨ d.clears = true ∧ k = d.path := by
  have hfound : k ∈ (d.findings.map Finding.path).toFinset ↔ d.entry k ≠ [] := by
    unfold entry
    rw [List.mem_toFinset, List.mem_map, Ne, List.filter_eq_nil_iff]
    push Not
    exact exists_congr fun f => and_congr_right fun _ => decide_eq_true_iff.symm
  have hcleared : k ∈ (if d.clears then {d.path} else ∅ : Finset String) ↔
      d.clears = true ∧ k = d.path := by
    cases d.clears <;> simp
  rw [written, Finset.mem_union, hfound, hcleared]

/-- Without an output, nothing more happens than with the empty one. -/
theorem apply_eq_take (d : Delivery) (l : Ledger) :
    d.apply l = (d.intake.take (some (d.output.getD "")) (some d.location) d.path l).1 := by
  unfold apply
  cases houtput : d.output with
  | none =>
    rw [Intake.take_of_silent _ (Or.inl rfl), Option.getD_none,
      Intake.take_of_silent _ (Or.inr rfl)]
  | some s => rfl

/-- **A delivery in one equation**: a document that it writes to has what it writes there, whatever stood
there before, and every other document is as it was. -/
theorem get?_apply (d : Delivery) (l : Ledger) (k : String) :
    (d.apply l).get? k = if k ∈ d.written then some (d.entry k) else l.get? k := by
  have hfound : d.intake.found d.path (d.output.getD "") k = d.entry k := rfl
  rw [apply_eq_take, Intake.get?_take_found, hfound]
  by_cases hentry : d.entry k = []
  · -- Nothing was found for the document: it is written to exactly if it is cleared.
    have hclears : (d.output.getD "" ≠ "" ∧ d.intake.stalePolicy = .clear ∧ k = d.path) ↔
        k ∈ d.written := by
      rw [mem_written_iff, or_iff_right (not_not_intro hentry)]
      simp [clears, and_assoc, and_left_comm]
    rw [if_neg (not_not_intro hentry), hentry]
    exact if_congr hclears rfl rfl
  · rw [if_pos hentry, if_pos (mem_written_iff.mpr (Or.inl hentry))]

variable {d e : Delivery} (l : Ledger)

/-- Deliveries that write to different documents can change places. -/
theorem apply_comm_of_disjoint (h : Disjoint d.written e.written) :
    e.apply (d.apply l) = d.apply (e.apply l) := by
  refine Ledger.ext_get? fun k => ?_
  rw [get?_apply, get?_apply, get?_apply, get?_apply]
  by_cases hd : k ∈ d.written
  · have he : k ∉ e.written := Finset.disjoint_left.mp h hd
    rw [if_neg he, if_pos hd, if_pos hd]
  · rw [if_neg hd, if_neg hd]

/-- A delivery does not show behind one that writes to all its documents. -/
theorem apply_apply_of_subset (h : d.written ⊆ e.written) : e.apply (d.apply l) = e.apply l := by
  refine Ledger.ext_get? fun k => ?_
  rw [get?_apply, get?_apply, get?_apply]
  by_cases he : k ∈ e.written
  · rw [if_pos he, if_pos he]
  · have hd : k ∉ d.written := fun hd => he (h hd)
    rw [if_neg he, if_neg he, if_neg hd]

/-- **Two deliveries, one behind the other**, over any ledger, each with its own intake. If no document is
written to by both, their order makes no difference; if the second one writes to all the documents of the
first, it leaves what it leaves alone. So a delivery that is repeated changes nothing. -/
theorem apply_apply_of_written (d e : Delivery) (l : Ledger) :
    (Disjoint d.written e.written → e.apply (d.apply l) = d.apply (e.apply l)) ∧
      (d.written ⊆ e.written → e.apply (d.apply l) = e.apply l) ∧
      d.apply (d.apply l) = d.apply l :=
  ⟨apply_comm_of_disjoint l, apply_apply_of_subset l, apply_apply_of_subset l subset_rfl⟩

/-- Two tools on two files: the first names a third file and finds nothing for its own, which is cleared;
the second one is silent on its own file, which is kept. They can change places. Behind a report that
names both documents of the first tool nothing of it is left, though the report itself is read with
another intake. -/
theorem apply_apply_of_written_mixed :
    let first : Delivery :=
      ⟨{ attribution := .reported, stalePolicy := .clear }, some "/c:1:1:error\n", "file:///a", "/a"⟩
    let second : Delivery := ⟨{ attribution := .reported }, some "/d:2:1:two\nno line\n", "file:///b", "/b"⟩
    let report : Delivery :=
      ⟨{ attribution := .reported }, some "/c:3:3:three\n/a:4:4:four\n/e:5:5:five\n", "file:///e", "/e"⟩
    let old : Finding := ⟨"/a", 7, 7, .error, "old"⟩
    let l := (Ledger.empty.replace "/a" [old]).replace "/b" [old]
    Disjoint first.written second.written ∧ first.written ⊆ report.written ∧
      second.apply (first.apply l) = first.apply (second.apply l) ∧
      report.apply (first.apply l) = report.apply l ∧
      (first.apply l).get? "/a" = some [] ∧ (first.apply l).get? "/b" = some [old] := by
  intro first second report old l
  have hdisjoint : Disjoint first.written second.written := by decide +kernel
  have hsubset : first.written ⊆ report.written := by decide +kernel
  exact ⟨hdisjoint, hsubset, (apply_apply_of_written first second l).1 hdisjoint,
    (apply_apply_of_written first report l).2.1 hsubset, by decide +kernel, by decide +kernel⟩

end Delivery
end LintLedger
