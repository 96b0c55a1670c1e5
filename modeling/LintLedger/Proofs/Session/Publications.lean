import LintLedger.Proofs.Session.Analysis
import LintLedger.Proofs.Text.Order
import LintLedger.Session
import Mathlib.Data.List.Forall2

/-!
# What an analysis publishes

An analysis compares the ledgers before and behind it, document by document, and publishes what is not
what it was. A reader of the output has no ledger to compare: seen from there, the documents that are
published are the analysed one, if anything is known about it, and every other one that the output
reports on and reports otherwise than what was known
(`LintLedger.Analysis.mem_shownPaths_ofOutput_iff`). Nothing is published twice, and the publications
come in the order of the paths, which is that of their bytes. `LintLedger.Session.notices_validate` says
all of this of the server.
-/

namespace LintLedger

namespace Analysis

/-! ### The findings of an output, document by document -/

/-- The ledger behind an output, by what was found for a document. -/
theorem get?_ofOutput_found (a : Analyser) (before : Ledger) (location : Location) (path : String)
    (version : Option Int) (output : String) (k : String) :
    (ofOutput a before location path version output).ledger.get? k =
      if a.intake.found path output k ≠ [] then some (a.intake.found path output k)
      else if a.intake.stalePolicy = .clear ∧ k = path then some []
      else before.get? k := by
  rw [get?_ofOutput]
  exact if_congr Intake.found_ne_nil_iff.symm rfl rfl

/-- **Another document is not what it was** exactly if the output reports on it and reports otherwise than
it was known. -/
theorem changed_ofOutput_iff (a : Analyser) (before : Ledger) (location : Location) {path : String}
    (version : Option Int) (output : String) {k : String} (hk : k ≠ path) (gs : List Finding) :
    ((ofOutput a before location path version output).ledger.get? k = some gs ∧
        before.get? k ≠ some gs) ↔
      gs = a.intake.found path output k ∧ a.intake.found path output k ≠ [] ∧
        before.get? k ≠ some (a.intake.found path output k) := by
  rw [get?_ofOutput_found]
  by_cases hfound : a.intake.found path output k = []
  · rw [if_neg (not_not_intro hfound), if_neg fun hclear => hk hclear.2]
    exact iff_of_false (fun h => h.2 h.1) fun h => h.2.1 hfound
  · rw [if_pos hfound, Option.some.injEq, eq_comm]
    constructor
    · rintro ⟨rfl, hnew⟩
      exact ⟨rfl, hfound, hnew⟩
    · rintro ⟨rfl, -, hnew⟩
      exact ⟨rfl, hnew⟩

/-! ### Which documents are published -/

/-- The paths of the entries that something is published for. -/
def shownPaths (path : String) (version : Option Int) (before after : Ledger) : List String :=
  (after.entries.filter fun e => (publication? path version before e).isSome).map (·.1)

/-- **Every path that is published comes with its own publication**, and there are no others. -/
theorem forall₂_shownPaths (path : String) (version : Option Int) (before after : Ledger) :
    List.Forall₂
      (fun k p => ∃ fs, after.get? k = some fs ∧ publication? path version before (k, fs) = some p)
      (shownPaths path version before after) (publications? path version before after) := by
  unfold shownPaths publications?
  rw [List.forall₂_map_left_iff]
  -- By induction on a part of the entries, which all are what the ledger holds.
  have hget : ∀ e ∈ after.entries, after.get? e.1 = some e.2 :=
    fun e he => (Ledger.mem_entries_iff after e.1 e.2).mp he
  generalize after.entries = es at hget ⊢
  induction es with
  | nil => exact .nil
  | cons e es ih =>
    obtain ⟨he, hes⟩ := List.forall_mem_cons.mp hget
    cases hp : publication? path version before e with
    | none =>
      rw [List.filterMap_cons_none hp, List.filter_cons_of_neg (by simp [hp])]
      exact ih hes
    | some p =>
      rw [List.filterMap_cons_some hp, List.filter_cons_of_pos (by simp [hp])]
      exact .cons ⟨e.2, he, hp⟩ (ih hes)

theorem pairwise_shownPaths (path : String) (version : Option Int) (before after : Ledger) :
    (shownPaths path version before after).Pairwise (· < ·) := by
  unfold shownPaths
  rw [List.pairwise_map]
  exact after.documents.ascending.filter _

theorem mem_shownPaths_iff {path : String} {version : Option Int} {before after : Ledger}
    {k : String} :
    k ∈ shownPaths path version before after ↔
      ∃ fs, after.get? k = some fs ∧ (k = path ∨ before.get? k ≠ some fs) ∧
        (Location.ofPath? k).isSome := by
  unfold shownPaths
  rw [List.mem_map]
  constructor
  · rintro ⟨⟨k, fs⟩, he, rfl⟩
    obtain ⟨hmem, hsome⟩ := List.mem_filter.mp he
    unfold publication? at hsome
    split at hsome
    · next hnew =>
      exact ⟨fs, (Ledger.mem_entries_iff after k fs).mp hmem, hnew, by simpa using hsome⟩
    · simp at hsome
  · rintro ⟨fs, hget, hnew, hsome⟩
    refine ⟨(k, fs), List.mem_filter.mpr ⟨(Ledger.mem_entries_iff after k fs).mpr hget, ?_⟩, rfl⟩
    unfold publication?
    rw [if_pos hnew, Option.isSome_map]
    exact hsome

/-- **What is published behind an output**, without the ledger behind it: the analysed document if it is
known, and the others that the output reports on and reports otherwise than they were known. -/
theorem mem_shownPaths_ofOutput_iff (a : Analyser) (before : Ledger) (location : Location)
    (path : String) (version : Option Int) (output : String) (k : String) :
    k ∈ shownPaths path version before (ofOutput a before location path version output).ledger ↔
      (Location.ofPath? k).isSome ∧
        (k = path ∧
            ((ofOutput a before location path version output).ledger.get? path).isSome ∨
          k ≠ path ∧ a.intake.found path output k ≠ [] ∧
            before.get? k ≠ some (a.intake.found path output k)) := by
  rw [mem_shownPaths_iff]
  by_cases hk : k = path
  · subst hk
    simp [Option.isSome_iff_exists, and_comm]
  · constructor
    · rintro ⟨fs, hget, hnew, hsome⟩
      obtain ⟨-, hfound⟩ := (changed_ofOutput_iff a before location version output hk fs).mp
        ⟨hget, hnew.resolve_left hk⟩
      exact ⟨hsome, Or.inr ⟨hk, hfound⟩⟩
    · rintro ⟨hsome, ⟨hpath, -⟩ | ⟨-, hfound⟩⟩
      · exact absurd hpath hk
      · obtain ⟨hget, hnew⟩ :=
          (changed_ofOutput_iff a before location version output hk _).mpr ⟨rfl, hfound⟩
        exact ⟨_, hget, Or.inr hnew, hsome⟩

end Analysis

namespace Session

/-- **What the server publishes when it analyses a document.** If the document is no file, or the tool
cannot be started on it, nothing is published and the session is what it was. Otherwise the ledger holds
what the output reports on each document, and else what it held, except that the analysed document is
cleared if nothing was found for it and stale findings are to go; and the publications, one for each path
in a list in the order of their bytes, are those of the analysed document, if it is known, and of every
other one that the output reports on otherwise than it was known, as far as they are paths of files. Each
shows all findings of its document, and that of the analysed document carries the version. -/
theorem notices_validate (h : Host) (s : Session) (u : Location) (version : Option Int) :
    ((u.pathBytes? = none ∨
        ∃ bytes fault, u.pathBytes? = some bytes ∧ h.run s.analyser.tool bytes = .error fault) →
      (validate h s u version).1 = s ∧ (validate h s u version).2.notices = []) ∧
    ∀ bytes outcome, u.pathBytes? = some bytes → h.run s.analyser.tool bytes = .ok outcome →
      let path := Text.Utf8.decodeLossy bytes
      let after := (validate h s u version).1.ledger
      (∀ k, after.get? k =
        if s.analyser.intake.found path outcome.output k ≠ [] then
          some (s.analyser.intake.found path outcome.output k)
        else if s.analyser.intake.stalePolicy = .clear ∧ k = path then some []
        else s.ledger.get? k) ∧
      ∃ paths : List String,
        paths.Pairwise (fun k l => Text.Utf8.encode k < Text.Utf8.encode l) ∧
        (∀ k, k ∈ paths ↔ (Location.ofPath? k).isSome ∧
          (k = path ∧ (after.get? path).isSome ∨
            k ≠ path ∧ s.analyser.intake.found path outcome.output k ≠ [] ∧
              s.ledger.get? k ≠ some (s.analyser.intake.found path outcome.output k))) ∧
        List.Forall₂ (fun k notice => ∃ fs c, after.get? k = some fs ∧ Location.ofPath? k = some c ∧
            notice = .publish ⟨c,
              fs.map fun f => ⟨f.line, f.column, f.severity, Text.trim f.message⟩,
              if k = path then version else none⟩)
          paths (validate h s u version).2.notices := by
  refine ⟨?_, fun bytes outcome hbytes hrun => ?_⟩
  · intro hnothing
    obtain ⟨hledger, hsilent⟩ : (Analysis.run s.analyser h s.ledger u version).ledger = s.ledger ∧
        (Analysis.run s.analyser h s.ledger u version).publications = [] := by
      rcases hnothing with hbytes | ⟨bytes, fault, hbytes, hfault⟩
      · exact Analysis.run_of_none hbytes s.ledger version
      · exact Analysis.run_of_error hbytes hfault s.ledger version
    unfold validate
    dsimp only
    rw [hledger, hsilent]
    exact ⟨rfl, rfl⟩
  · obtain ⟨hledger, hpublications⟩ := Analysis.run_of_ok hbytes hrun s.ledger version
    unfold validate
    dsimp only
    rw [hledger, hpublications, Analysis.publications_ofOutput]
    refine ⟨Analysis.get?_ofOutput_found s.analyser s.ledger u _ version outcome.output,
      Analysis.shownPaths _ version s.ledger _, ?_,
      Analysis.mem_shownPaths_ofOutput_iff s.analyser s.ledger u _ version outcome.output, ?_⟩
    · exact (Analysis.pairwise_shownPaths _ version _ _).imp Text.Utf8.encode_lt_encode_iff.mpr
    · rw [List.forall₂_map_right_iff]
      refine (Analysis.forall₂_shownPaths _ version _ _).imp fun k p hk => ?_
      obtain ⟨fs, hget, hp⟩ := hk
      obtain ⟨-, hp⟩ := Option.ite_none_right_eq_some.mp hp
      obtain ⟨c, hc, rfl⟩ := Option.map_eq_some_iff.mp hp
      exact ⟨fs, c, hget, hc, rfl⟩

/-- A report on four documents, of which one is reported as it was, one otherwise, one by a path from the
current folder, and the analysed one not at all: the second is published, and the analysed one, which is
cleared. -/
theorem notices_validate_mixed :
    let host : Host :=
      { files := {}
        run := fun _ _ => .ok ⟨.exited 1, "/c:2:1: error: x \n/b:1:1:y\nsub/d:1:1:y\n/c:0:1:z\n", ""⟩ }
    let old : String → Finding := fun k => ⟨k, 0, 0, .warning, "y"⟩
    let s : Session :=
      { phase := .serving
        analyser := { intake := { attribution := .reported, stalePolicy := .clear } }
        ledger := ((Ledger.empty.replace "/a" [old "/a"]).replace "/b" [old "/b"]).replace "/c"
          [old "/c"] }
    let u : Location := { scheme := "file", authority := some {}, path := .names ["a"] }
    let c : Location := { scheme := "file", authority := some {}, path := .names ["c"] }
    (∃ bytes, u.pathBytes? = some bytes ∧ (host.run s.analyser.tool bytes).isOk = true) ∧
      (validate host s u (some 7)).2.notices =
        [.publish ⟨u, [], some 7⟩, .publish ⟨c, [⟨1, 0, .error, "error: x"⟩], none⟩] ∧
      ∃ paths : List String, paths.Pairwise (fun k l => Text.Utf8.encode k < Text.Utf8.encode l) ∧
        "/a" ∈ paths ∧ "/b" ∉ paths ∧ "/c" ∈ paths ∧ "sub/d" ∉ paths ∧ paths.length = 2 := by
  intro host old s u c
  have hbytes : u.pathBytes? = some (Text.Utf8.encode "/a") := by decide +kernel
  have hnotices : (validate host s u (some 7)).2.notices =
      [.publish ⟨u, [], some 7⟩, .publish ⟨c, [⟨1, 0, .error, "error: x"⟩], none⟩] := by
    decide +kernel
  obtain ⟨-, paths, hordered, hmem, hpublished⟩ :=
    (notices_validate host s u (some 7)).2 _ _ hbytes rfl
  refine ⟨⟨_, hbytes, rfl⟩, hnotices, paths, hordered, ?_, ?_, ?_, ?_, ?_⟩
  · rw [hmem]
    decide +kernel
  · rw [hmem]
    decide +kernel
  · rw [hmem]
    decide +kernel
  · rw [hmem]
    decide +kernel
  · rw [hpublished.length_eq, hnotices]
    rfl

end Session
end LintLedger
