import LintLedger.Proofs.Location.Spelling
import LintLedger.Proofs.Session.Exchange
import LintLedger.Proofs.Session.Publications

/-!
# What is shown of the analysed document

Where stale findings are to go, the entry of the analysed document behind an analysis is what the output has
for it, and nothing of what was known before matters: a report without findings for the document clears it,
and so does an output without a report. One publication always is that of this entry, with the version.

It need not be the only one at its location. Documents are known by their paths as they are written, and one
location can be written as more than one path: `/a/` and `//a` lead to the location of `/a`. A report that
names the analysed document so has findings for what is another document, and this one is published too,
at the same location and without a version, if it is reported otherwise than it was known
(`LintLedger.Session.validate_of_clear`). Then what is published at the location does depend on what was
known before (`LintLedger.Session.not_published_alone`).
-/

namespace LintLedger

/-- The entry of a known document among all entries, of which the others are those of other documents. -/
theorem Ledger.exists_entries_eq {l : Ledger} {d : String} {fs : List Finding}
    (hget : l.get? d = some fs) :
    ∃ earlier later, l.entries = earlier ++ (d, fs) :: later ∧
      ∀ e, e ∈ earlier ++ later ↔ e ∈ l.entries ∧ e.1 ≠ d := by
  obtain ⟨earlier, later, hsplit⟩ := List.append_of_mem ((mem_entries_iff l d fs).mpr hget)
  -- The paths before it are smaller and those behind it are greater, so none of them is the path.
  have hascending : l.entries.Pairwise fun a b => a.1 < b.1 := l.documents.ascending
  rw [hsplit, List.pairwise_append, List.pairwise_cons] at hascending
  obtain ⟨-, ⟨hlater, -⟩, hearlier⟩ := hascending
  refine ⟨earlier, later, hsplit, fun e => ?_⟩
  rw [hsplit, List.mem_append, List.mem_append, List.mem_cons]
  constructor
  · rintro (he | he)
    · refine ⟨Or.inl he, fun heq => ?_⟩
      exact String.lt_irrefl d (heq ▸ hearlier e he (d, fs) List.mem_cons_self)
    · refine ⟨Or.inr (Or.inr he), fun heq => ?_⟩
      exact String.lt_irrefl d (heq ▸ hlater e he)
  · rintro ⟨he | rfl | he, hne⟩
    · exact Or.inl he
    · exact absurd rfl hne
    · exact Or.inr he

namespace Analysis

/-- What is shown of the analysed document behind an output: all that the output has for it. -/
def ownPublication (a : Analyser) (path output : String) (location : Location)
    (version : Option Int) : Publication :=
  ⟨location, (a.intake.found path output path).map Diagnostic.ofFinding, version⟩

/-- **The output names the analysed document otherwise**: it has findings for another path of the same
location. -/
def NamesOtherwise (a : Analyser) (path output k : String) : Prop :=
  k ≠ path ∧ Location.ofPath? k = Location.ofPath? path ∧ a.intake.found path output k ≠ []

/-- Where every line is about the analysed document, it is not named at all. -/
theorem not_namesOtherwise_of_document {a : Analyser} (hdocument : a.intake.attribution = .document)
    (path output k : String) : ¬NamesOtherwise a path output k :=
  fun h => h.2.2 (Intake.found_of_document hdocument h.1 output)

/-- **The publication of the analysed document among all publications**, of which the others are those of
other documents that are not what they were. -/
theorem exists_publications?_eq {path : String} {version : Option Int} {before after : Ledger}
    {fs : List Finding} {c : Location} (hget : after.get? path = some fs)
    (hc : Location.ofPath? path = some c) :
    ∃ earlier later, publications? path version before after =
        earlier ++ ⟨c, fs.map Diagnostic.ofFinding, version⟩ :: later ∧
      ∀ p, p ∈ earlier ++ later ↔ ∃ k gs d, k ≠ path ∧ after.get? k = some gs ∧
        before.get? k ≠ some gs ∧ Location.ofPath? k = some d ∧
        p = ⟨d, gs.map Diagnostic.ofFinding, none⟩ := by
  obtain ⟨earlier, later, hsplit, hothers⟩ := Ledger.exists_entries_eq hget
  have hown : publication? path version before (path, fs) =
      some ⟨c, fs.map Diagnostic.ofFinding, version⟩ := by
    unfold publication?
    rw [if_pos (Or.inl rfl), hc]
    simp
  refine ⟨earlier.filterMap (publication? path version before),
    later.filterMap (publication? path version before), ?_, fun p => ?_⟩
  · unfold publications?
    rw [hsplit, List.filterMap_append, List.filterMap_cons_some hown]
  · rw [← List.filterMap_append, List.mem_filterMap]
    constructor
    · rintro ⟨⟨k, gs⟩, he, hp⟩
      obtain ⟨hmem, hk⟩ := (hothers _).mp he
      obtain ⟨hshown, hp⟩ := Option.ite_none_right_eq_some.mp hp
      obtain ⟨d, hd, rfl⟩ := Option.map_eq_some_iff.mp hp
      refine ⟨k, gs, d, hk, (Ledger.mem_entries_iff after k gs).mp hmem, hshown.resolve_left hk, hd, ?_⟩
      rw [if_neg hk]
    · rintro ⟨k, gs, d, hk, hgs, hnew, hd, rfl⟩
      refine ⟨(k, gs), (hothers _).mpr ⟨(Ledger.mem_entries_iff after k gs).mpr hgs, hk⟩, ?_⟩
      unfold publication?
      rw [if_pos (Or.inr hnew), hd]
      simp [hk]

/-- Where stale findings are to go, the entry of the analysed document is what the output has for it. -/
theorem get?_ofOutput_of_clear {a : Analyser} (hclear : a.intake.stalePolicy = .clear)
    (before : Ledger) (location : Location) (path : String) (version : Option Int)
    (output : String) :
    (ofOutput a before location path version output).ledger.get? path =
      some (a.intake.found path output path) := by
  rw [get?_ofOutput_found]
  by_cases hfound : a.intake.found path output path = []
  · rw [if_neg (not_not_intro hfound), if_pos ⟨hclear, rfl⟩, hfound]
  · rw [if_pos hfound]

/-- **All that is published at the location of the analysed document**: its own publication, and those of
the other paths of this location that the output reports on otherwise than they were known. -/
theorem exists_filter_publications_eq {a : Analyser} (hclear : a.intake.stalePolicy = .clear)
    (before : Ledger) (location : Location) {path : String} {c : Location}
    (hc : Location.ofPath? path = some c) (version : Option Int) (output : String) :
    ∃ earlier later,
      (ofOutput a before location path version output).publications.filter
          (fun p => p.location.text = c.text) =
        earlier ++ ownPublication a path output c version :: later ∧
      ∀ p, p ∈ earlier ++ later ↔ ∃ k, NamesOtherwise a path output k ∧
        before.get? k ≠ some (a.intake.found path output k) ∧
        p = ⟨c, (a.intake.found path output k).map Diagnostic.ofFinding, none⟩ := by
  have hget := get?_ofOutput_of_clear hclear before location path version output
  obtain ⟨earlier, later, hsplit, hmem⟩ := @exists_publications?_eq path version before _ _ c hget hc
  refine ⟨earlier.filter fun p => p.location.text = c.text,
    later.filter fun p => p.location.text = c.text, ?_, fun p => ?_⟩
  · rw [publications_ofOutput, hsplit, List.filter_append, List.filter_cons_of_pos (by simp)]
    rfl
  · rw [← List.filter_append, List.mem_filter, hmem, decide_eq_true_iff]
    constructor
    · -- Locations of paths are told apart by their texts.
      rintro ⟨⟨k, gs, d, hk, hgs, hnew, hd, rfl⟩, htext⟩
      obtain rfl := Location.eq_of_text_eq (Location.legible_of_ofPath? hd) hc htext
      obtain ⟨rfl, hfound, hnew⟩ :=
        (changed_ofOutput_iff a before location version output hk gs).mp ⟨hgs, hnew⟩
      exact ⟨k, ⟨hk, hd.trans hc.symm, hfound⟩, hnew, rfl⟩
    · rintro ⟨k, ⟨hk, hsame, hfound⟩, hnew, rfl⟩
      obtain ⟨hgs, hnew⟩ :=
        (changed_ofOutput_iff a before location version output hk _).mpr ⟨rfl, hfound, hnew⟩
      exact ⟨⟨k, _, c, hk, hgs, hnew, hsame.trans hc, rfl⟩, rfl⟩

end Analysis

namespace Session

open Analysis (ownPublication NamesOtherwise)

/-- Among notices of publications for one location stand the publications for it. -/
theorem publicationsFor_map_publish (ps : List Publication) (url : String) :
    publicationsFor (ps.map .publish) url = ps.filter fun p => p.location.text = url := by
  have hall : Notice.publication? ∘ Notice.publish = some := rfl
  unfold publicationsFor
  rw [List.filterMap_map, hall, List.filterMap_some]

/-- **What is published for the analysed document does not depend on what was known** where stale findings
are to go. Let the document be the file at a path, and let the tool be started on it, whatever it prints.
Then, in every session with the same analyser, the entry of the path is what the output has for it; this is
published once, with the version; and nothing else is published at its location but the findings of other
paths that lead to the same location, as far as the output has some and they are not what they were. If
every line is about the analysed document, or the output does not name it otherwise, there are none. -/
theorem validate_of_clear {a : Analyser} (hclear : a.intake.stalePolicy = .clear) {u : Location}
    {bytes : List UInt8} (hbytes : u.pathBytes? = some bytes) {h : Host} {outcome : Tool.Outcome}
    (hrun : h.run a.tool bytes = .ok outcome) (version : Option Int) :
    let path := Text.Utf8.decodeLossy bytes
    ∃ c, Location.ofPath? path = some c ∧
      let own := ownPublication a path outcome.output c version
      ∀ s : Session, s.analyser = a →
        let published := publicationsFor (validate h s u version).2.notices c.text
        (validate h s u version).1.ledger.get? path = some (a.intake.found path outcome.output path) ∧
        (∃ earlier later, published = earlier ++ own :: later ∧
          ∀ p, p ∈ earlier ++ later ↔ ∃ k, NamesOtherwise a path outcome.output k ∧
            s.ledger.get? k ≠ some (a.intake.found path outcome.output k) ∧
            p = ⟨c, (a.intake.found path outcome.output k).map Diagnostic.ofFinding, none⟩) ∧
        ((a.intake.attribution = .document ∨ ∀ k, ¬NamesOtherwise a path outcome.output k) →
          published = [own]) := by
  intro path
  have hpath : u.path? = some path := by
    rw [Location.path?, hbytes]
    rfl
  obtain ⟨c, hc⟩ := Location.exists_ofPath?_of_path? hpath
  refine ⟨c, hc, ?_⟩
  rintro own s rfl published
  obtain ⟨hledger, hpublications⟩ := Analysis.run_of_ok hbytes hrun s.ledger version
  have hentry : (validate h s u version).1.ledger.get? path =
      some (s.analyser.intake.found path outcome.output path) := by
    change (Analysis.run s.analyser h s.ledger u version).ledger.get? path = _
    rw [hledger, Analysis.get?_ofOutput_of_clear hclear]
  have hpublished : published = (Analysis.ofOutput s.analyser s.ledger u path version
      outcome.output).publications.filter fun p => p.location.text = c.text := by
    change publicationsFor
      ((Analysis.run s.analyser h s.ledger u version).publications.map .publish) c.text = _
    rw [publicationsFor_map_publish, hpublications]
  obtain ⟨earlier, later, hsplit, hmem⟩ :=
    Analysis.exists_filter_publications_eq hclear s.ledger u hc version outcome.output
  rw [← hpublished] at hsplit
  refine ⟨hentry, ⟨earlier, later, hsplit, hmem⟩, fun hnone => ?_⟩
  have hnot : ∀ k, ¬NamesOtherwise s.analyser path outcome.output k :=
    hnone.elim (fun hdocument => Analysis.not_namesOtherwise_of_document hdocument _ _) id
  have hnil : earlier ++ later = [] := by
    refine List.eq_nil_iff_forall_not_mem.mpr fun p hp => ?_
    obtain ⟨k, hk, -⟩ := (hmem p).mp hp
    exact hnot k hk
  obtain ⟨rfl, rfl⟩ := List.append_eq_nil_iff.mp hnil
  exact hsplit

/-- A document with a stale finding, and a report that names another document alone. -/
theorem validate_of_clear_stale :
    let host : Host := { files := {}, run := fun _ _ => .ok ⟨.exited 1, "/b:1:1:y\n", ""⟩ }
    let s : Session :=
      { analyser := { intake := { attribution := .reported, stalePolicy := .clear } }
        ledger := Ledger.empty.replace "/a" [⟨"/a", 6, 6, .error, "old"⟩] }
    let u : Location := { scheme := "file", authority := some {}, path := .names ["a"] }
    (validate host s u (some 7)).1.ledger.get? "/a" = some [] ∧
      publicationsFor (validate host s u (some 7)).2.notices "file:///a" = [⟨u, [], some 7⟩] := by
  intro host s u
  have hbytes : u.pathBytes? = some (Text.Utf8.encode "/a") := by decide +kernel
  have hpath : Text.Utf8.decodeLossy (Text.Utf8.encode "/a") = "/a" := by decide +kernel
  have hother : ∀ k, ¬NamesOtherwise s.analyser "/a" "/b:1:1:y\n" k := by
    rintro k ⟨-, hsame, hfound⟩
    have hfindings : s.analyser.intake.findings "/a" "/b:1:1:y\n".toList =
        [⟨"/b", 0, 0, .warning, "y"⟩] := by
      decide +kernel
    obtain ⟨f, hf, rfl⟩ := Intake.found_ne_nil_iff.mp hfound
    rw [hfindings, List.mem_singleton] at hf
    rw [hf] at hsame
    exact absurd hsame (by decide +kernel)
  obtain ⟨c, hc, hall⟩ := @validate_of_clear s.analyser rfl u _ hbytes host _ rfl (some 7)
  obtain ⟨hentry, -, hpublished⟩ := hall s rfl
  rw [hpath] at hc hentry hpublished
  have hu : Location.ofPath? "/a" = some u := by decide +kernel
  obtain rfl := Option.some.inj (hu.symm.trans hc)
  refine ⟨hentry.trans (by decide +kernel), ?_⟩
  have htext : u.text = "file:///a" := by decide +kernel
  rw [htext] at hpublished
  exact (hpublished (Or.inr hother)).trans (by decide +kernel)

/-- **The publication of the analysed document can have company**: a report names the document `/a` as
`/a/`, and what it says is shown at the location of `/a` as well, though it is no finding of `/a`. A session
that knew it already shows it no more, so what is published at the location is a matter of what was known
before. -/
theorem not_published_alone :
    let host : Host := { files := {}, run := fun _ _ => .ok ⟨.exited 1, "/a/:1:1:error\n", ""⟩ }
    let a : Analyser := { intake := { attribution := .reported, stalePolicy := .clear } }
    let s : Session := { analyser := a }
    let t : Session :=
      { analyser := a, ledger := Ledger.empty.replace "/a/" [⟨"/a/", 0, 0, .error, "error"⟩] }
    let u : Location := { scheme := "file", authority := some {}, path := .names ["a"] }
    u.pathBytes? = some (Text.Utf8.encode "/a") ∧ Location.ofPath? "/a" = some u ∧
      a.intake.found "/a" "/a/:1:1:error\n" "/a" = [] ∧
      publicationsFor (validate host s u (some 1)).2.notices u.text =
        [⟨u, [], some 1⟩, ⟨u, [⟨0, 0, .error, "error"⟩], none⟩] ∧
      publicationsFor (validate host t u (some 1)).2.notices u.text = [⟨u, [], some 1⟩] := by
  decide +kernel

end Session
end LintLedger
