import LintLedger.Proofs.Intake
import Mathlib.Algebra.BigOperators.Group.Finset.Basic

/-!
# The accounts of a run

A run keeps four accounts that nothing ties to each other: it counts the findings that it enters and the
lines that it leaves out, it remembers the documents that it has visited, and it tells what it does. That
they agree is kept by each line that is entered (`LintLedger.Ledger.Run.Balanced`): the two counts grow by
one between them, a document is told to be replaced when it is first visited and not again, and a line that
is left out is told as one.

So the summary that a run tells at its end can be checked against its report and against the ledger that it
leaves (`LintLedger.Intake.balance_take`): no line is lost and none is counted twice.
-/

namespace LintLedger

/-! ### What events tell -/

namespace Event

/-- The document whose old findings are replaced, if the event tells so. -/
def replaced? : Event → Option String
  | .replacing document => some document
  | _ => none

/-- The path of the report of which a line is left out, if the event tells so. -/
def leftOut? : Event → Option String
  | .malformedLine path => some path
  | _ => none

/-- The document that is cleared, if the event tells so. -/
def cleared? : Event → Option String
  | .clearing document => some document
  | _ => none

/-- The path of a report that has been taken in, with the findings that were entered and the lines that were
left out, if the event tells so. -/
def summary? : Event → Option (String × Nat × Nat)
  | .reportTaken path committed dropped => some (path, committed, dropped)
  | _ => none

end Event

/-! ### The accounts of a run in progress -/

namespace Ledger.Run

/-- **The accounts of a run agree** after so many lines of the report on a path. -/
structure Balanced (path : String) (lines : Nat) (r : Run) : Prop where
  /-- Every line is a finding or is left out. -/
  lines : r.committed + r.dropped = lines
  /-- Every visited document is told to be replaced, in the order of the visits. -/
  replaced : r.log.filterMap Event.replaced? = r.visited.reverse
  /-- No document is visited for the first time twice. -/
  nodup : r.visited.Nodup
  /-- Every line that is left out is told. -/
  leftOut : r.log.filterMap Event.leftOut? = List.replicate r.dropped path
  /-- No document is cleared while lines are entered. -/
  cleared : r.log.filterMap Event.cleared? = []
  /-- The summary is still to come. -/
  summary : r.log.filterMap Event.summary? = []

variable {path : String} {lines : Nat} {r : Run}

theorem balanced_start (path : String) (l : Ledger) : Balanced path 0 (start l) :=
  ⟨rfl, rfl, .nil, rfl, rfl, rfl⟩

/-- Entering a finding keeps the accounts. -/
theorem Balanced.commit (h : Balanced path lines r) (f : Finding) :
    Balanced path (lines + 1) (r.commit f) := by
  have hlines : r.committed + 1 + r.dropped = lines + 1 := by
    rw [← h.lines, Nat.add_right_comm]
  by_cases hvisited : r.hasVisited f.path = true
  · rw [commit_of_visited r hvisited]
    exact ⟨hlines, h.replaced, h.nodup, h.leftOut, h.cleared, h.summary⟩
  · rw [commit_of_not_visited r hvisited]
    have hnew : f.path ∉ r.visited := fun hmem => hvisited (List.contains_iff_mem.mpr hmem)
    refine ⟨hlines, ?_, List.nodup_cons.mpr ⟨hnew, h.nodup⟩, ?_, ?_, ?_⟩
    · rw [List.filterMap_append, h.replaced, List.reverse_cons]
      rfl
    · rw [List.filterMap_append, h.leftOut]
      exact List.append_nil _
    · rw [List.filterMap_append, h.cleared]
      rfl
    · rw [List.filterMap_append, h.summary]
      rfl

/-- Leaving out a line keeps the accounts. -/
theorem Balanced.drop (h : Balanced path lines r) : Balanced path (lines + 1) (r.drop path) where
  lines := by rw [← h.lines, Nat.add_assoc]; rfl
  replaced := by
    rw [← List.append_nil (r.drop path).visited.reverse]
    exact (List.filterMap_append ..).trans (congrArg (· ++ []) h.replaced)
  nodup := h.nodup
  leftOut := by
    refine (List.filterMap_append ..).trans ?_
    rw [h.leftOut]
    exact List.replicate_succ'.symm
  cleared := (List.filterMap_append ..).trans (congrArg (· ++ []) h.cleared)
  summary := (List.filterMap_append ..).trans (congrArg (· ++ []) h.summary)

/-- The end of a run adds to its log that the target is cleared, if it is. -/
theorem log_finish (r : Run) (target : String) (policy : StalePolicy) :
    (r.finish target policy).log =
      r.log ++ if policy = .clear ∧ r.hasVisited target = false then [.clearing target] else [] := by
  cases policy with
  | retain => simp [finish]
  | clear =>
    cases hvisited : r.hasVisited target with
    | true => simp [finish, hvisited]
    | false => simp [finish, hvisited]

end Ledger.Run

/-! ### The accounts of a whole run -/

namespace Intake

open Ledger.Run (Balanced balanced_start Entered entered_start)

/-- Entering a line keeps the accounts, be it a finding or not. -/
theorem balanced_enter (i : Intake) {path : String} {lines : Nat} {r : Ledger.Run}
    (h : Balanced path lines r) (c : Candidate) : Balanced path (lines + 1) (i.enter path r c) := by
  unfold enter
  cases (i.classify c).toFinding? with
  | some f => exact h.commit f
  | none => exact h.drop

/-- **The accounts agree behind all lines.** -/
theorem balanced_foldl (i : Intake) {path : String} {lines : Nat} {r : Ledger.Run}
    (h : Balanced path lines r) (cs : List Candidate) :
    Balanced path (lines + cs.length) (cs.foldl (i.enter path) r) := by
  induction cs generalizing lines r with
  | nil => exact h
  | cons c cs ih =>
    rw [List.foldl_cons, List.length_cons, Nat.add_comm cs.length, ← Nat.add_assoc]
    exact ih (balanced_enter i h c)

/-- The findings of all documents are as many as there are findings. -/
theorem sum_length_filter_path (fs : List Finding) :
    ∑ k ∈ (fs.map Finding.path).toFinset, (fs.filter fun f => f.path = k).length = fs.length := by
  have hcount : ∀ k, (fs.filter fun f => f.path = k).length = (fs.map Finding.path).count k := by
    intro k
    rw [List.count, List.countP_map, List.countP_eq_length_filter]
    rfl
  simp only [hcount]
  rw [List.sum_toFinset_count_eq_length, List.length_map]

theorem mem_toFinset_path_iff {fs : List Finding} {k : String} :
    k ∈ (fs.map Finding.path).toFinset ↔ ∃ f ∈ fs, f.path = k := by
  rw [List.mem_toFinset, List.mem_map]

/-- A text about a document is taken in by a run that goes through its lines, tells its summary, and ends. -/
theorem take_of_text (i : Intake) {s : String} (hs : s.toList ≠ []) (location path : String)
    (l : Ledger) :
    let r := ((Report.linesOf s.toList).map (Candidate.ofLine i.attribution path)).foldl (i.enter path)
      (.start l)
    let told := { r with log := r.log ++ [Event.reportTaken path r.committed r.dropped] }
    i.take (some s) (some location) path l =
      ((told.finish path i.stalePolicy).ledger, (told.finish path i.stalePolicy).log) := by
  have hreport : Report.ofOutput (some s) = .ok ⟨s.toList, hs⟩ := dif_pos hs
  unfold take
  rw [hreport]
  rfl

/-- The lines of a report are its pieces of which something remains without a carriage return. -/
theorem length_linesOf (text : List Char) :
    (Report.linesOf text).length =
      (Text.split '\n' text).countP fun piece => Report.dropReturn piece ≠ [] := by
  rw [Report.linesOf, ← List.countP_eq_length_filter, List.countP_map]
  exact List.countP_congr fun piece _ => by simp

/-- **The accounts of a run balance.** Behind a text about a document there is one summary. The findings and
the left out lines that it tells are together the pieces between the line feeds of the text of which
something remains without a carriage return at the end. The findings are those that stand in the ledger
behind the run under the documents for which the text has findings. Just these documents are told to be
replaced, each of them once; a line is told to be left out as often as the summary says; and the analysed
document is told to be cleared, once, exactly if stale findings are to go and it is none of them, and no
other document ever is. -/
theorem balance_take (i : Intake) {s : String} (hs : s ≠ "") (location path : String) (l : Ledger) :
    let after := (i.take (some s) (some location) path l).1
    let log := (i.take (some s) (some location) path l).2
    let reported := ((i.findings path s.toList).map Finding.path).toFinset
    ∃ n m, log.filterMap Event.summary? = [(path, n, m)] ∧
      n + m = ((Text.split '\n' s.toList).countP fun piece => Report.dropReturn piece ≠ []) ∧
      n = ∑ k ∈ reported, ((after.get? k).getD []).length ∧
      (log.filterMap Event.replaced?).Nodup ∧
      (log.filterMap Event.replaced?).toFinset = reported ∧
      (log.filterMap Event.replaced?).length = reported.card ∧
      log.filterMap Event.leftOut? = List.replicate m path ∧
      log.filterMap Event.cleared? =
        if i.stalePolicy = .clear ∧ path ∉ reported then [path] else [] := by
  intro after log reported
  have htext : s.toList ≠ [] := fun hnil => hs (String.toList_eq_nil_iff.mp hnil)
  -- The run behind all lines, before its summary.
  let lines := Report.linesOf s.toList
  let r := (lines.map (Candidate.ofLine i.attribution path)).foldl (i.enter path) (.start l)
  have hbalanced : Balanced path lines.length r := by
    have h := balanced_foldl i (balanced_start path l) (lines.map (Candidate.ofLine i.attribution path))
    rwa [Nat.zero_add, List.length_map] at h
  have hentered : Entered l (i.findings path s.toList) r := entered_foldl i path lines (entered_start l)
  have hvisited : r.visited.toFinset = reported := by
    ext k
    rw [mem_toFinset_path_iff, ← hentered.visited, List.mem_toFinset]
    exact List.contains_iff_mem.symm
  have hlog : log = r.log ++ [.reportTaken path r.committed r.dropped] ++
      if i.stalePolicy = .clear ∧ path ∉ reported then [.clearing path] else [] := by
    have hstale : path ∉ reported ↔ r.hasVisited path = false := by
      rw [mem_toFinset_path_iff, ← hentered.visited, Bool.not_eq_true]
    simp only [hstale]
    exact (congrArg Prod.snd (take_of_text i htext location path l)).trans (Ledger.Run.log_finish ..)
  have hreplaced : log.filterMap Event.replaced? = r.visited.reverse := by
    rw [hlog, List.filterMap_append, List.filterMap_append, hbalanced.replaced]
    split <;> simp [Event.replaced?]
  refine ⟨r.committed, r.dropped, ?_, ?_, ?_, ?_, ?_, ?_, ?_, ?_⟩
  · rw [hlog, List.filterMap_append, List.filterMap_append, hbalanced.summary]
    split <;> rfl
  · rw [hbalanced.lines, length_linesOf]
  · have hentry : ∀ k ∈ reported, ((after.get? k).getD []).length =
        ((i.findings path s.toList).filter fun f => f.path = k).length := by
      intro k hk
      have hafter := (get?_take i path l).1 s hs location k
      rw [hafter, if_pos (mem_toFinset_path_iff.mp hk), Option.getD_some]
    rw [hentered.committed, Finset.sum_congr rfl hentry, sum_length_filter_path]
  · rw [hreplaced]
    exact List.nodup_reverse.mpr hbalanced.nodup
  · rw [hreplaced, List.toFinset_reverse, hvisited]
  · rw [hreplaced, List.length_reverse, ← hvisited, List.toFinset_card_of_nodup hbalanced.nodup]
  · rw [hlog, List.filterMap_append, List.filterMap_append, hbalanced.leftOut]
    split <;> simp [Event.leftOut?]
  · rw [hlog, List.filterMap_append, List.filterMap_append, hbalanced.cleared]
    split <;> rfl

/-- Two documents reported on in turn, with a blank line, a lone carriage return and two lines that make no
sense among them, over a ledger that knew one of them; the analysed document is none of them. -/
theorem balance_take_interleaved :
    let i : Intake := { attribution := .reported, stalePolicy := .clear }
    let s := "/b:2:1:x\n/a:1:4:y\r\nno line\n\n\r\n/b:0:1:none\n/b:3:1:z\n"
    let l := Ledger.empty.replace "/b" [⟨"/b", 7, 7, .error, "old"⟩]
    let log := (i.take (some s) (some "file:///d") "/d" l).2
    s ≠ "" ∧
      log = [.replacing "/b", .replacing "/a", .malformedLine "/d", .malformedLine "/d",
        .reportTaken "/d" 3 2, .clearing "/d"] ∧
      (log.filterMap Event.replaced?).Nodup ∧
      3 + 2 = ((Text.split '\n' s.toList).countP fun piece => Report.dropReturn piece ≠ []) := by
  intro i s l log
  have hs : s ≠ "" := by decide +kernel
  have hlog : log = [.replacing "/b", .replacing "/a", .malformedLine "/d", .malformedLine "/d",
      .reportTaken "/d" 3 2, .clearing "/d"] := by decide +kernel
  obtain ⟨n, m, hsummary, hlines, -, hnodup, -⟩ := balance_take i hs "file:///d" "/d" l
  obtain ⟨rfl, rfl⟩ : 3 = n ∧ 2 = m := by
    have htold : log.filterMap Event.summary? = [("/d", 3, 2)] := by rw [hlog]; rfl
    simpa using htold.symm.trans hsummary
  exact ⟨hs, hlog, hnodup, hlines⟩

end Intake
end LintLedger
