import LintLedger.Proofs.Ledger.Run
import Mathlib.Data.List.Induction

/-!
# The last writer

A ledger is written to by one run after another. A run as a whole is a *pass*: the findings that it enters,
and the target and the policy that it is ended with, unless it is broken off before. A pass writes to the
documents that it has findings for, and to its target if it clears it; and what it writes there it does not
take from the ledger (`LintLedger.Ledger.Pass.get?_apply`).

Behind any passes, and in the middle of a further one, the entry of a document is therefore what was written
there last. A run in progress has written what a pass with the same findings has written that is broken off
at this point, so that it needs no case of its own (`LintLedger.Ledger.last_writer_decides`).
-/

namespace LintLedger.Ledger

namespace Run

/-- The run over a ledger that has entered the findings, one behind the other. -/
def ofFindings (l : Ledger) (fs : List Finding) : Run := fs.foldl commit (start l)

theorem entered_ofFindings (l : Ledger) (fs : List Finding) : Entered l fs (ofFindings l fs) := by
  unfold ofFindings
  induction fs using List.reverseRecOn with
  | nil => exact entered_start l
  | append_singleton fs f ih =>
    rw [List.foldl_append]
    exact ih.commit f

end Run

/-- A run as a whole. -/
structure Pass where
  /-- The findings that it enters, in order. -/
  findings : List Finding
  /-- The target and the policy that it is ended with; without them it is broken off. -/
  ending : Option (String × StalePolicy)

namespace Pass

/-- The ledger behind a pass. -/
def apply (l : Ledger) (p : Pass) : Ledger :=
  match p.ending with
  | none => (Run.ofFindings l p.findings).ledger
  | some (target, policy) => ((Run.ofFindings l p.findings).finish target policy).ledger

/-- **The pass enters a finding** for the document. -/
def Enters (p : Pass) (k : String) : Prop := ∃ f ∈ p.findings, f.path = k

/-- **The pass clears the document**: it is its target, stale findings are to go, and it enters none. -/
def Clears (p : Pass) (k : String) : Prop := p.ending = some (k, .clear) ∧ ¬p.Enters k

instance (p : Pass) : DecidablePred p.Enters := fun k =>
  inferInstanceAs (Decidable (∃ f ∈ p.findings, f.path = k))

instance (p : Pass) : DecidablePred p.Clears := fun k =>
  inferInstanceAs (Decidable (p.ending = some (k, .clear) ∧ ¬p.Enters k))

/-- What a pass enters for a document, in order. -/
def entry (p : Pass) (k : String) : List Finding := p.findings.filter fun f => f.path = k

/-- **A pass in one equation.** -/
theorem get?_apply (p : Pass) (l : Ledger) (k : String) :
    (p.apply l).get? k =
      if p.Enters k then some (p.entry k) else if p.Clears k then some [] else l.get? k := by
  have hentered := Run.entered_ofFindings l p.findings
  by_cases hk : p.Enters k
  · rw [if_pos hk]
    unfold apply
    split
    · exact (hentered.lookup k).trans (if_pos hk)
    · next target policy _ => exact (hentered.get?_finish target policy k).trans (if_pos hk)
  · rw [if_neg hk]
    unfold apply
    split
    · next hending =>
      have hnot : ¬p.Clears k := by simp [Clears, hending]
      exact ((hentered.lookup k).trans (if_neg hk)).trans (if_neg hnot).symm
    · next target policy hending =>
      refine ((hentered.get?_finish target policy k).trans (if_neg hk)).trans (if_congr ?_ rfl rfl)
      unfold Clears
      rw [hending, Option.some.injEq, Prod.mk.injEq, and_iff_left hk, and_comm, @eq_comm _ k]

end Pass

/-- The ledger behind some passes, one behind the other. -/
def behind (l : Ledger) (passes : List Pass) : Ledger := passes.foldl Pass.apply l

theorem behind_append (l : Ledger) (earlier later : List Pass) :
    behind l (earlier ++ later) = behind (behind l earlier) later :=
  List.foldl_append

/-- **Passes that enter nothing for a document** can only clear it. -/
theorem get?_behind_of_not_enters {passes : List Pass} {k : String}
    (h : ∀ p ∈ passes, ¬p.Enters k) (l : Ledger) :
    (behind l passes).get? k = if ∃ p ∈ passes, p.Clears k then some [] else l.get? k := by
  induction passes using List.reverseRecOn with
  | nil => simp [behind]
  | append_singleton passes p ih =>
    have hpasses : ∀ q ∈ passes, ¬q.Enters k := fun q hq => h q (List.mem_append_left _ hq)
    rw [behind_append]
    change (p.apply (behind l passes)).get? k = _
    rw [Pass.get?_apply, if_neg (h p (by simp)), ih hpasses]
    by_cases hclears : p.Clears k
    · rw [if_pos hclears, if_pos ⟨p, by simp, hclears⟩]
    · rw [if_neg hclears]
      refine if_congr ?_ rfl rfl
      simp [or_and_right, exists_or, hclears]

/-- **The last pass that enters something for a document** decides what stands there, unless the document is
cleared behind it. -/
theorem get?_behind_of_enters {earlier later : List Pass} {p : Pass} {k : String} (hp : p.Enters k)
    (hlater : ∀ q ∈ later, ¬q.Enters k) (l : Ledger) :
    (behind l (earlier ++ p :: later)).get? k =
      if ∃ q ∈ later, q.Clears k then some [] else some (p.entry k) := by
  rw [behind_append]
  change (behind (p.apply (behind l earlier)) later).get? k = _
  rw [get?_behind_of_not_enters hlater, Pass.get?_apply, if_pos hp]

/-- **The last writer decides.** At any point of any run, behind whole passes over any ledger, the visited
documents are those of the findings that this run has entered so far, and these are counted; between two runs
nothing is entered yet. With this run as the last one, broken off here, the entry of a document is what the
last run that entered something for it has entered for it, in order; or it is empty, if a later run, ended
with the document as its target, has cleared it. Where no run entered anything it is empty if some run has
cleared it, and else as it was. -/
theorem last_writer_decides (l : Ledger) (passes : List Pass) (fs : List Finding) :
    let r := Run.ofFindings (behind l passes) fs
    let runs := passes ++ [⟨fs, none⟩]
    (∀ d, r.hasVisited d = true ↔ ∃ f ∈ fs, f.path = d) ∧
      r.committed = fs.length ∧
      ∀ k,
        (∀ earlier p later, runs = earlier ++ p :: later → p.Enters k → (∀ q ∈ later, ¬q.Enters k) →
          r.ledger.get? k = if ∃ q ∈ later, q.Clears k then some []
            else some (p.findings.filter fun f => f.path = k)) ∧
        ((∀ p ∈ runs, ¬p.Enters k) →
          r.ledger.get? k = if ∃ p ∈ runs, p.Clears k then some [] else l.get? k) := by
  intro r runs
  have hentered := Run.entered_ofFindings (behind l passes) fs
  have hledger : r.ledger = behind l runs := (behind_append l passes [⟨fs, none⟩]).symm
  refine ⟨hentered.visited, hentered.committed, fun k => ⟨?_, fun hnone => ?_⟩⟩
  · intro earlier p later hruns hp hlater
    rw [hledger, hruns]
    exact get?_behind_of_enters hp hlater l
  · rw [hledger]
    exact get?_behind_of_not_enters hnone l

/-- A run that is broken off, one that clears a document which the first has written to, and one whose target
is not cleared, since it has a finding for it; then, in the middle of a fourth one, four documents: cleared,
written to by the third run, written to by the fourth one itself, and left as it was. -/
theorem last_writer_decides_mixed :
    let f (k : String) (line : UInt32) : Finding := ⟨k, line, 0, .warning, "x"⟩
    let l := (Ledger.empty.replace "/a" [f "/a" 9]).replace "/d" [f "/d" 9]
    let first : Pass := ⟨[f "/a" 1, f "/b" 1, f "/a" 2], none⟩
    let second : Pass := ⟨[f "/c" 1], some ("/a", .clear)⟩
    let third : Pass := ⟨[f "/b" 2, f "/b" 3], some ("/b", .clear)⟩
    let r := Run.ofFindings (behind l [first, second, third]) [f "/c" 4]
    (first.Enters "/a" ∧ second.Clears "/a" ∧ third.Enters "/b" ∧ ¬third.Clears "/b") ∧
      r.hasVisited "/c" = true ∧ r.committed = 1 ∧
      r.ledger.get? "/a" = some [] ∧ r.ledger.get? "/b" = some [f "/b" 2, f "/b" 3] ∧
      r.ledger.get? "/c" = some [f "/c" 4] ∧ r.ledger.get? "/d" = some [f "/d" 9] := by
  intro f l first second third r
  obtain ⟨hvisited, hcommitted, hentry⟩ := last_writer_decides l [first, second, third] [f "/c" 4]
  refine ⟨by decide, (hvisited "/c").mpr ⟨_, List.mem_singleton_self _, rfl⟩, hcommitted,
    ?_, ?_, ?_, ?_⟩
  · exact ((hentry "/a").1 [] first [second, third, _] rfl (by decide) (by decide)).trans
      (if_pos ⟨second, by simp, by decide⟩)
  · exact ((hentry "/b").1 [first, second] third [_] rfl (by decide) (by decide)).trans
      (by decide)
  · exact ((hentry "/c").1 [first, second, third] _ [] rfl (by decide) (by simp)).trans (by decide)
  · exact ((hentry "/d").2 (by decide)).trans (by decide)

end LintLedger.Ledger
