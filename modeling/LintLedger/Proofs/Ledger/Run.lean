import LintLedger.Ledger.Run
import Mathlib.Data.List.Basic

/-!
# What a run leaves in the ledger

A run is described by the list of findings that it has entered so far, in their order, and by the
ledger over which it began; nothing else matters. `LintLedger.Ledger.Run.Entered` says so: it gives
the visited documents, the tally and every lookup in the ledger from these two. It holds at the start
with the empty list (`entered_start`), entering a finding adds that finding at the end of the list
(`Entered.commit`), and leaving out a line changes nothing (`Entered.drop`).

The decision that a run makes at each finding, to replace or to add, is thus never seen from outside:
for a document that was reported on, its findings in the run are its entry.
-/

namespace LintLedger.Ledger.Run

/-- **The run `r` has entered the findings `fs`** over the ledger `l`. -/
structure Entered (l : Ledger) (fs : List Finding) (r : Run) : Prop where
  /-- The visited documents are those of the findings. -/
  visited : ∀ k, r.hasVisited k = true ↔ ∃ f ∈ fs, f.path = k
  /-- Every finding is counted. -/
  committed : r.committed = fs.length
  /-- A document that was reported on has its findings in the run, any other one what it had. -/
  lookup : ∀ k, r.ledger.get? k =
    if ∃ f ∈ fs, f.path = k then some (fs.filter fun f => f.path = k) else l.get? k

variable {l : Ledger} {fs : List Finding} {r : Run}

theorem entered_start (l : Ledger) : Entered l [] (start l) where
  visited k := by simp [start, hasVisited]
  committed := rfl
  lookup k := by simp [start]

/-! ### One finding -/

theorem commit_of_visited (r : Run) {f : Finding} (h : r.hasVisited f.path = true) :
    r.commit f = { r with ledger := r.ledger.append f.path f, committed := r.committed + 1 } :=
  if_pos h

theorem commit_of_not_visited (r : Run) {f : Finding} (h : ¬r.hasVisited f.path = true) :
    r.commit f =
      { r with
        ledger := r.ledger.replace f.path [f]
        visited := f.path :: r.visited
        committed := r.committed + 1
        log := r.log ++ [.replacing f.path] } :=
  if_neg h

theorem hasVisited_commit (r : Run) (f : Finding) (k : String) :
    (r.commit f).hasVisited k = true ↔ f.path = k ∨ r.hasVisited k = true := by
  by_cases h : r.hasVisited f.path = true
  · rw [commit_of_visited r h]
    refine ⟨Or.inr, ?_⟩
    rintro (rfl | hk)
    · exact h
    · exact hk
  · rw [commit_of_not_visited r h]
    change (f.path :: r.visited).contains k = true ↔ _
    rw [List.contains_cons, Bool.or_eq_true, beq_iff_eq]
    exact or_congr eq_comm Iff.rfl

@[simp] theorem committed_commit (r : Run) (f : Finding) :
    (r.commit f).committed = r.committed + 1 := by
  unfold commit
  split <;> rfl

/-- **Entering a finding in one equation**: the entry of its document grows by it, and the first finding
of a run starts from nothing. -/
theorem get?_commit (r : Run) (f : Finding) (k : String) :
    (r.commit f).ledger.get? k =
      if k = f.path then
        some ((if r.hasVisited f.path then (r.ledger.get? f.path).getD [] else []) ++ [f])
      else r.ledger.get? k := by
  by_cases h : r.hasVisited f.path = true
  · rw [commit_of_visited r h, if_pos h, get?_append]
  · rw [commit_of_not_visited r h, if_neg h, get?_replace, List.nil_append]

theorem Entered.commit (h : Entered l fs r) (f : Finding) : Entered l (fs ++ [f]) (r.commit f) where
  visited k := by
    rw [hasVisited_commit, h.visited]
    simp [or_comm]
  committed := by
    rw [committed_commit, h.committed, List.length_append, List.length_singleton]
  lookup k := by
    rw [get?_commit]
    by_cases hk : k = f.path
    · subst hk
      have hmem : ∃ g ∈ fs ++ [f], g.path = f.path := ⟨f, by simp, rfl⟩
      rw [if_pos rfl, if_pos hmem, List.filter_append]
      -- What the run had for the document is the filtered list in either case: it is empty if the
      -- document was not visited.
      have hold : (if r.hasVisited f.path then (r.ledger.get? f.path).getD [] else []) =
          fs.filter fun g => g.path = f.path := by
        by_cases hv : r.hasVisited f.path = true
        · rw [if_pos hv, h.lookup, if_pos ((h.visited _).mp hv), Option.getD_some]
        · rw [if_neg hv, eq_comm, List.filter_eq_nil_iff]
          intro g hg
          simpa using fun hpath => hv ((h.visited _).mpr ⟨g, hg, hpath⟩)
      rw [hold]
      simp
    · have hmem : (∃ g ∈ fs ++ [f], g.path = k) ↔ ∃ g ∈ fs, g.path = k := by
        simp [Ne.symm hk]
      rw [if_neg hk, h.lookup, List.filter_append]
      simp only [hmem]
      simp [Ne.symm hk]

/-! ### A line that makes no sense, and the end -/

theorem Entered.drop (h : Entered l fs r) (path : String) : Entered l fs (r.drop path) :=
  ⟨h.visited, h.committed, h.lookup⟩

/-- What a run tells plays no part in what it has entered. -/
theorem Entered.tell (h : Entered l fs r) (log : List Event) : Entered l fs { r with log := log } :=
  ⟨h.visited, h.committed, h.lookup⟩

/-- Ending a run clears the target if the policy says so and nothing was found for it. -/
theorem get?_finish (r : Run) (target : String) (policy : StalePolicy) (k : String) :
    (r.finish target policy).ledger.get? k =
      if policy = .clear ∧ k = target ∧ r.hasVisited target = false then some []
      else r.ledger.get? k := by
  cases policy with
  | retain => simp [finish]
  | clear =>
    cases hv : r.hasVisited target with
    | true => simp [finish, hv]
    | false => simp [finish, hv]

/-- **The ledger behind a run**, lookup by lookup. -/
theorem Entered.get?_finish (h : Entered l fs r) (target : String) (policy : StalePolicy)
    (k : String) :
    (r.finish target policy).ledger.get? k =
      if ∃ f ∈ fs, f.path = k then some (fs.filter fun f => f.path = k)
      else if policy = .clear ∧ k = target then some []
      else l.get? k := by
  rw [Run.get?_finish, h.lookup]
  by_cases hk : ∃ f ∈ fs, f.path = k
  · rw [if_pos hk, if_neg, if_pos hk]
    rintro ⟨-, rfl, hv⟩
    rw [(h.visited k).mpr hk] at hv
    exact Bool.noConfusion hv
  · rw [if_neg hk, if_neg hk]
    refine if_congr ?_ rfl rfl
    constructor
    · rintro ⟨hp, hkt, -⟩
      exact ⟨hp, hkt⟩
    · rintro ⟨hp, rfl⟩
      exact ⟨hp, rfl, Bool.eq_false_iff.mpr fun hv => hk ((h.visited k).mp hv)⟩

end LintLedger.Ledger.Run
