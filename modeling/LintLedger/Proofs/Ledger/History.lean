import LintLedger.Proofs.Intake
import LintLedger.Proofs.Report.Grammar
import LintLedger.Proofs.Report.Lines
import Mathlib.Data.List.Induction

/-!
# Where the findings of a ledger come from

A ledger takes any path as a key and any findings under it; that a finding stands under its own document
is no matter of the type. It is a matter of history: what is ever done to a ledger is that a report is
taken in, that a document is cleared, and that a document is forgotten (`LintLedger.Ledger.Change`), and
of these only the first brings findings, each of them to its own document
(`LintLedger.Ledger.mem_of_apply`). So behind any history, from nothing on, a finding that stands under a
document is one that a report in the history gave for this document (`exists_gives_of_ofChanges`), and
whatever holds of the findings of a line holds of all that a ledger will ever show.

Among this is that a finding names its document and says something on a single line
(`LintLedger.Intake.told_of_mem_findings`).
-/

namespace LintLedger

/-! ### What the findings of a text say -/

namespace Candidate

/-- The message of a line is a part of it. -/
theorem message_subset_of_ofLine {a : Attribution} {document : String} {line : List Char}
    (h : (ofLine a document line).message ≠ "") :
    (ofLine a document line).message.toList ⊆ line := by
  obtain ⟨x, hx⟩ := Report.exists_isOf_of_message h
  rw [Report.ofLine_of_isOf hx, String.toList_ofList, hx.text]
  intro c hc
  simp [hc]

end Candidate

namespace Intake

variable {i : Intake} {path : String}

/-- What an intake reads in a line names its document and says a part of the line. -/
theorem told_of_finding? {line : List Char} {f : Finding} (h : i.finding? path line = some f) :
    f.path ≠ "" ∧ f.message ≠ "" ∧ f.message.toList ⊆ line := by
  obtain ⟨g, hg, rfl⟩ := Option.map_eq_some_iff.mp h
  obtain ⟨⟨hpath, hmessage⟩, hpath', -, -, -, hmessage'⟩ := Candidate.toFinding?_eq_some_iff.mp hg
  have hpart := Candidate.message_subset_of_ofLine hmessage
  rw [hpath'] at hpath
  rw [hmessage'] at hmessage hpart
  exact ⟨hpath, hmessage, hpart⟩

/-- **The findings of a text** name their documents, and their messages are not empty and stand on one
line. -/
theorem told_of_mem_findings {text : List Char} {f : Finding} (h : f ∈ i.findings path text) :
    f.path ≠ "" ∧ f.message ≠ "" ∧ '\n' ∉ f.message.toList := by
  obtain ⟨line, hline, hf⟩ := List.mem_filterMap.mp h
  obtain ⟨hpath, hmessage, hpart⟩ := told_of_finding? hf
  exact ⟨hpath, hmessage, fun hfeed => Report.feed_not_mem_of_mem_linesOf hline (hpart hfeed)⟩

/-- **An entry behind an intake** is an old one, or an empty one, or holds the findings of the text for
this document. -/
theorem entry_of_take {output document : Option String} {l : Ledger} {k : String} {fs : List Finding}
    (h : (i.take output document path l).1.get? k = some fs) :
    l.get? k = some fs ∨ fs = [] ∨ ∃ s location, output = some s ∧ document = some location ∧
      fs = (i.findings path s.toList).filter fun f => f.path = k := by
  rcases document with _ | location
  · exact Or.inl h
  by_cases hsilent : output = none ∨ output = some ""
  · rw [take_of_silent i hsilent] at h
    exact Or.inl h
  · obtain ⟨s, rfl⟩ := Option.ne_none_iff_exists'.mp fun hnone => hsilent (Or.inl hnone)
    have hne : s.toList ≠ [] :=
      fun hnil => hsilent (Or.inr (congrArg some (String.toList_eq_nil_iff.mp hnil)))
    rw [take_eq_takeReport i hne, get?_takeReport] at h
    split at h
    · exact Or.inr (Or.inr ⟨s, location, rfl, rfl, (Option.some.inj h).symm⟩)
    · split at h
      · exact Or.inr (Or.inl (Option.some.inj h).symm)
      · exact Or.inl h

end Intake

/-! ### Histories -/

namespace Ledger

/-- What is done to a ledger. -/
inductive Change where
  /-- What a tool printed about a document is taken in. -/
  | take (i : Intake) (output document : Option String) (path : String)
  /-- A document is made known and clean, since a tool printed nothing about it. -/
  | clear (path : String)
  /-- A document is forgotten. -/
  | remove (path : String)

/-- The ledger behind a change. -/
def Change.apply (l : Ledger) : Change → Ledger
  | .take i output document path => (i.take output document path l).1
  | .clear path => l.clear path
  | .remove path => l.remove path

/-- The ledger behind some changes, from nothing on. -/
def ofChanges (changes : List Change) : Ledger := changes.foldl Change.apply .empty

theorem ofChanges_append (changes more : List Change) :
    ofChanges (changes ++ more) = more.foldl Change.apply (ofChanges changes) := by
  unfold ofChanges
  rw [List.foldl_append]

/-- **A change gives a document a finding**: it takes in a text that has this finding for it. -/
def Change.Gives (c : Change) (k : String) (f : Finding) : Prop :=
  ∃ i s location path, c = .take i (some s) (some location) path ∧
    f ∈ i.findings path s.toList ∧ f.path = k

/-- **One change**: what stands under a document behind it is given by it or stood there before. -/
theorem mem_of_apply {l : Ledger} {c : Change} {k : String} {fs : List Finding}
    (h : (c.apply l).get? k = some fs) {f : Finding} (hf : f ∈ fs) :
    c.Gives k f ∨ ∃ gs, l.get? k = some gs ∧ f ∈ gs := by
  cases c with
  | take i output document path =>
    -- A text replaces the whole entry: nothing of the old one is left among what it gives.
    rcases Intake.entry_of_take h with hold | rfl | ⟨s, location, rfl, rfl, rfl⟩
    · exact Or.inr ⟨fs, hold, hf⟩
    · exact absurd hf List.not_mem_nil
    · obtain ⟨hmem, hpath⟩ := List.mem_filter.mp hf
      exact Or.inl ⟨i, s, location, path, rfl, hmem, of_decide_eq_true hpath⟩
  | clear path =>
    rw [Change.apply, get?_clear] at h
    split at h
    · rw [← Option.some.inj h] at hf
      exact absurd hf List.not_mem_nil
    · exact Or.inr ⟨fs, h, hf⟩
  | remove path =>
    rw [Change.apply, get?_remove] at h
    split at h
    · exact absurd h (by simp)
    · exact Or.inr ⟨fs, h, hf⟩

/-- **A whole history**: what stands under a document was given to it by one of the changes. -/
theorem exists_gives_of_ofChanges (changes : List Change) {k : String} {fs : List Finding}
    (h : (ofChanges changes).get? k = some fs) {f : Finding} (hf : f ∈ fs) :
    ∃ c ∈ changes, c.Gives k f := by
  induction changes using List.reverseRecOn generalizing fs with
  | nil => exact absurd h (by simp [ofChanges])
  | append_singleton changes c ih =>
    rw [ofChanges_append] at h
    rcases mem_of_apply h hf with hgives | ⟨gs, hget, hmem⟩
    · exact ⟨c, by simp, hgives⟩
    · obtain ⟨d, hd, hgives⟩ := ih hget hmem
      exact ⟨d, List.mem_append_left _ hd, hgives⟩

/-- What is given was read in a line that makes sense. -/
theorem Change.Gives.exists_line {c : Change} {k : String} {f : Finding} (h : c.Gives k f) :
    ∃ i s location path, c = .take i (some s) (some location) path ∧
      ∃ line ∈ Report.linesOf s.toList,
        (Candidate.ofLine i.attribution path line).isWellFormed = true ∧
          i.finding? path line = some f := by
  obtain ⟨i, s, location, path, hc, hmem, -⟩ := h
  obtain ⟨line, hline, hf⟩ := List.mem_filterMap.mp hmem
  refine ⟨i, s, location, path, hc, line, hline, ?_, hf⟩
  obtain ⟨g, hg, -⟩ := Option.map_eq_some_iff.mp hf
  rw [← Candidate.toFinding?_isSome, hg]
  rfl

/-- What is given to a document is a finding about it. -/
theorem Change.Gives.told {c : Change} {k : String} {f : Finding} (h : c.Gives k f) :
    f.path = k ∧ k ≠ "" ∧ f.message ≠ "" ∧ '\n' ∉ f.message.toList := by
  obtain ⟨i, s, location, path, -, hmem, rfl⟩ := h
  exact ⟨rfl, Intake.told_of_mem_findings hmem⟩

end Ledger
end LintLedger
