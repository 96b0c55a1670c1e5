import LintLedger.Proofs.Intake
import LintLedger.Session.Analysis

/-!
# What an analysis does

An analysis either comes to nothing – the document is no file, or the tool cannot be started – and then
the ledger is what it was and the editor is shown nothing, or the output of the tool is taken in
(`LintLedger.Analysis.run_cases`). Taking in an output is one equation on the lookups of the ledger
(`get?_ofOutput`), the same one for every output: an output without a text is a report without findings
here, since the analysis itself clears the document where the intake leaves it alone.

What the editor is shown is read off the two ledgers (`mem_publications?_iff`): the analysed document as
it is now, and every document that is not what it was.
-/

namespace LintLedger.Analysis

/-! ### The ledger -/

/-- **The ledger behind an output**, lookup by lookup. -/
theorem get?_ofOutput (a : Analyser) (before : Ledger) (location : Location) (path : String)
    (version : Option Int) (output : String) (k : String) :
    (ofOutput a before location path version output).ledger.get? k =
      if ∃ f ∈ a.intake.findings path output.toList, f.path = k then
        some ((a.intake.findings path output.toList).filter fun f => f.path = k)
      else if a.intake.stalePolicy = .clear ∧ k = path then some []
      else before.get? k := by
  unfold ofOutput
  dsimp only
  by_cases hempty : output = ""
  · -- The intake leaves the ledger alone, and the analysis clears the document itself.
    subst hempty
    rw [Intake.take_of_silent a.intake (Or.inr rfl)]
    have hnone : ¬∃ f ∈ a.intake.findings path "".toList, f.path = k := by
      rintro ⟨f, hf, -⟩
      exact absurd hf List.not_mem_nil
    rw [if_neg hnone]
    by_cases hclear : a.intake.stalePolicy = .clear
    · simp [hclear]
    · simp [hclear]
  · have htext : ¬(output.isEmpty = true ∧ a.intake.stalePolicy = .clear) :=
      fun h => hempty (String.isEmpty_iff.mp h.1)
    have hne : output.toList ≠ [] := fun hnil => hempty (String.toList_eq_nil_iff.mp hnil)
    rw [if_neg htext, Intake.take_eq_takeReport a.intake hne]
    exact Intake.get?_takeReport a.intake ⟨output.toList, hne⟩ path before k

/-- No document is forgotten by an output. -/
theorem get?_ofOutput_ne_none (a : Analyser) {before : Ledger} (location : Location) (path : String)
    (version : Option Int) (output : String) {k : String} (h : before.get? k ≠ none) :
    (ofOutput a before location path version output).ledger.get? k ≠ none := by
  rw [get?_ofOutput]
  split
  · simp
  · split
    · simp
    · exact h

/-- **A document that is known behind an output** was known before, or is the analysed one, or is one
that the output reports on. -/
theorem known_of_ofOutput {a : Analyser} {before : Ledger} {location : Location} {path : String}
    {version : Option Int} {output : String} {k : String}
    (h : (ofOutput a before location path version output).ledger.get? k ≠ none) :
    before.get? k ≠ none ∨ k = path ∨ ∃ f ∈ a.intake.findings path output.toList, f.path = k := by
  rw [get?_ofOutput] at h
  split at h
  · next hfound => exact Or.inr (Or.inr hfound)
  · split at h
    · next hcleared => exact Or.inr (Or.inl hcleared.2)
    · exact Or.inl h

/-- Where every line is about the analysed document, no other one is touched. -/
theorem get?_ofOutput_of_document {a : Analyser} (h : a.intake.attribution = .document)
    (before : Ledger) (location : Location) {path : String} (version : Option Int) (output : String)
    {k : String} (hk : k ≠ path) :
    (ofOutput a before location path version output).ledger.get? k = before.get? k := by
  rw [get?_ofOutput, if_neg, if_neg fun hclear => hk hclear.2]
  rintro ⟨f, hf, rfl⟩
  exact hk (Intake.path_of_document h hf)

/-! ### Running the tool -/

section Run

variable {a : Analyser} {h : Host} {location : Location} {bytes : List UInt8}

/-- If the document is no file, an analysis comes to nothing. -/
theorem run_of_none (hbytes : location.pathBytes? = none) (before : Ledger)
    (version : Option Int) :
    (run a h before location version).ledger = before ∧
      (run a h before location version).publications = [] := by
  unfold run
  rw [hbytes]
  exact ⟨rfl, rfl⟩

/-- If the tool cannot be started, an analysis comes to nothing. -/
theorem run_of_error (hbytes : location.pathBytes? = some bytes) {fault : Tool.SpawnFault}
    (hrun : h.run a.tool bytes = .error fault) (before : Ledger) (version : Option Int) :
    (run a h before location version).ledger = before ∧
      (run a h before location version).publications = [] := by
  unfold run
  rw [hbytes]
  dsimp only
  rw [hrun]
  exact ⟨rfl, rfl⟩

/-- If it can, what it printed is taken in. -/
theorem run_of_ok (hbytes : location.pathBytes? = some bytes) {outcome : Tool.Outcome}
    (hrun : h.run a.tool bytes = .ok outcome) (before : Ledger) (version : Option Int) :
    (run a h before location version).ledger =
        (ofOutput a before location (Text.Utf8.decodeLossy bytes) version outcome.output).ledger ∧
      (run a h before location version).publications =
        (ofOutput a before location (Text.Utf8.decodeLossy bytes) version
          outcome.output).publications := by
  unfold run
  rw [hbytes]
  dsimp only
  rw [hrun]
  exact ⟨rfl, rfl⟩

/-- **An analysis comes to nothing, or takes in what the tool printed.** -/
theorem run_cases (a : Analyser) (h : Host) (before : Ledger) (location : Location)
    (version : Option Int) :
    ((run a h before location version).ledger = before ∧
        (run a h before location version).publications = []) ∨
      ∃ bytes outcome, location.pathBytes? = some bytes ∧ h.run a.tool bytes = .ok outcome ∧
        (run a h before location version).ledger =
          (ofOutput a before location (Text.Utf8.decodeLossy bytes) version outcome.output).ledger ∧
        (run a h before location version).publications =
          (ofOutput a before location (Text.Utf8.decodeLossy bytes) version
            outcome.output).publications := by
  cases hbytes : location.pathBytes? with
  | none => exact Or.inl (run_of_none hbytes before version)
  | some bytes =>
    cases hrun : h.run a.tool bytes with
    | error fault => exact Or.inl (run_of_error hbytes hrun before version)
    | ok outcome => exact Or.inr ⟨bytes, outcome, rfl, hrun, run_of_ok hbytes hrun before version⟩

end Run

/-! ### What the editor is shown -/

/-- What is shown behind an output is read off the ledgers before and behind it. -/
theorem publications_ofOutput (a : Analyser) (before : Ledger) (location : Location) (path : String)
    (version : Option Int) (output : String) :
    (ofOutput a before location path version output).publications =
      publications? path version before
        (ofOutput a before location path version output).ledger := by
  unfold ofOutput
  dsimp only
  split <;> rfl

/-- **What the editor is shown**: every document that is the analysed one or not what it was, as it is
now. -/
theorem mem_publications?_iff {path : String} {version : Option Int} {before after : Ledger}
    {p : Publication} :
    p ∈ publications? path version before after ↔
      ∃ k fs c, after.get? k = some fs ∧ (k = path ∨ before.get? k ≠ some fs) ∧
        Location.ofPath? k = some c ∧
        p = ⟨c, fs.map Diagnostic.ofFinding, if k = path then version else none⟩ := by
  unfold publications?
  rw [List.mem_filterMap]
  constructor
  · rintro ⟨⟨k, fs⟩, hmem, hp⟩
    unfold publication? at hp
    obtain ⟨hshown, hp⟩ := Option.ite_none_right_eq_some.mp hp
    obtain ⟨c, hc, rfl⟩ := Option.map_eq_some_iff.mp hp
    exact ⟨k, fs, c, (Ledger.mem_entries_iff after k fs).mp hmem, hshown, hc, rfl⟩
  · rintro ⟨k, fs, c, hget, hshown, hc, rfl⟩
    refine ⟨(k, fs), (Ledger.mem_entries_iff after k fs).mpr hget, ?_⟩
    unfold publication?
    rw [if_pos hshown, hc]
    rfl

/-! ### Where every line is about the analysed document -/

/-- It is all that is shown. -/
theorem mem_publications_of_document {a : Analyser} (h : a.intake.attribution = .document)
    {before : Ledger} {location : Location} {path : String} {version : Option Int} {output : String}
    {p : Publication} :
    p ∈ (ofOutput a before location path version output).publications ↔
      ∃ fs c, (ofOutput a before location path version output).ledger.get? path = some fs ∧
        Location.ofPath? path = some c ∧ p = ⟨c, fs.map Diagnostic.ofFinding, version⟩ := by
  rw [publications_ofOutput, mem_publications?_iff]
  constructor
  · rintro ⟨k, fs, c, hget, hnew, hc, rfl⟩
    by_cases hk : k = path
    · subst hk
      exact ⟨fs, c, hget, hc, by rw [if_pos rfl]⟩
    · rw [get?_ofOutput_of_document h before location version output hk] at hget
      exact absurd hget (hnew.resolve_left hk)
  · rintro ⟨fs, c, hget, hc, rfl⟩
    exact ⟨path, fs, c, hget, Or.inl rfl, hc, by rw [if_pos rfl]⟩

/-- It is shown as it is known behind the output, if it is known. -/
theorem publications_of_document {a : Analyser} (h : a.intake.attribution = .document)
    (before : Ledger) (location : Location) (path : String) (version : Option Int)
    (output : String) :
    (ofOutput a before location path version output).publications =
      (((ofOutput a before location path version output).ledger.get? path).bind fun fs =>
        (Location.ofPath? path).map fun c =>
          (⟨c, fs.map Diagnostic.ofFinding, version⟩ : Publication)).toList := by
  rw [publications_ofOutput, publications?, Ledger.entries, Keyed.filterMap_entries (k := path)]
  · simp only [publication?, if_pos, true_or]
    rfl
  · rintro ⟨k, fs⟩ he hk
    have hget := (Ledger.mem_entries_iff _ k fs).mp he
    rw [get?_ofOutput_of_document h before location version output hk] at hget
    unfold publication?
    rw [if_neg]
    rintro (hpath | hnew)
    · exact hk hpath
    · exact hnew hget

section Document

variable {a : Analyser} {h : Host} {location : Location} {path : String}

/-- **An analysis touches no other document**. -/
theorem get?_run_of_document (hdocument : a.intake.attribution = .document) {k : String}
    (hk : location.path? ≠ some k) (before : Ledger) (version : Option Int) :
    (run a h before location version).ledger.get? k = before.get? k := by
  rcases run_cases a h before location version with
    ⟨hledger, -⟩ | ⟨bytes, outcome, hbytes, -, hledger, -⟩
  · rw [hledger]
  · rw [hledger, get?_ofOutput_of_document hdocument]
    rintro rfl
    exact hk (by rw [Location.path?, hbytes, Option.map_some])

/-- **It publishes at the location of no other document.** -/
theorem ofPath?_of_mem_publications (hdocument : a.intake.attribution = .document)
    {before : Ledger} {version : Option Int} {p : Publication}
    (hp : p ∈ (run a h before location version).publications) :
    ∃ path, location.path? = some path ∧ Location.ofPath? path = some p.location := by
  rcases run_cases a h before location version with
    ⟨-, hnothing⟩ | ⟨bytes, outcome, hbytes, -, -, hpublications⟩
  · rw [hnothing] at hp
    exact absurd hp List.not_mem_nil
  · rw [hpublications] at hp
    obtain ⟨_, c, -, hc, rfl⟩ := (mem_publications_of_document hdocument).mp hp
    exact ⟨_, by rw [Location.path?, hbytes, Option.map_some], hc⟩

/-- **What it does is a matter of what was known about the document** and not of the rest of the
ledger. -/
theorem run_congr_of_document (hdocument : a.intake.attribution = .document)
    (hpath : location.path? = some path) {before before' : Ledger}
    (hentry : before'.get? path = before.get? path) (version : Option Int) :
    (run a h before' location version).ledger.get? path =
        (run a h before location version).ledger.get? path ∧
      (run a h before' location version).publications =
        (run a h before location version).publications := by
  obtain ⟨bytes, hbytes, rfl⟩ := Option.map_eq_some_iff.mp hpath
  cases hrun : h.run a.tool bytes with
  | error fault =>
    obtain ⟨hledger, hpublications⟩ := run_of_error hbytes hrun before version
    obtain ⟨hledger', hpublications'⟩ := run_of_error hbytes hrun before' version
    rw [hledger, hledger', hpublications, hpublications']
    exact ⟨hentry, rfl⟩
  | ok outcome =>
    obtain ⟨hledger, hpublications⟩ := run_of_ok hbytes hrun before version
    obtain ⟨hledger', hpublications'⟩ := run_of_ok hbytes hrun before' version
    have hafter : (ofOutput a before' location (Text.Utf8.decodeLossy bytes) version
          outcome.output).ledger.get? (Text.Utf8.decodeLossy bytes) =
        (ofOutput a before location (Text.Utf8.decodeLossy bytes) version
          outcome.output).ledger.get? (Text.Utf8.decodeLossy bytes) := by
      rw [get?_ofOutput, get?_ofOutput, hentry]
    rw [hledger, hledger', hpublications, hpublications', publications_of_document hdocument,
      publications_of_document hdocument, hafter]
    exact ⟨rfl, rfl⟩

end Document

end LintLedger.Analysis
