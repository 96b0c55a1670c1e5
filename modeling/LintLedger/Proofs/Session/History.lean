import LintLedger.Proofs.CommandLine.Check
import LintLedger.Proofs.Ledger.History
import LintLedger.Proofs.Session.Analysis
import LintLedger.Proofs.Session.Exchange

/-!
# What the program does to its ledgers

Whatever the editor says and whatever the tools print, the ledger of a session is one behind a history of
the three changes (`LintLedger.Session.exists_ofChanges`), and so are the ledgers of the commands that
check files and take in reports (`LintLedger.CommandLine.exists_ofChanges_lint` and its companion). What
holds behind every history thus holds of all that the program ever shows: no finding is shown for a
document other than its own (`LintLedger.Ledger.own_of_ofChanges`).
-/

namespace LintLedger

open Ledger (Change ofChanges)

/-! ### Sessions -/

namespace Analysis

/-- An analysis takes one output in, and perhaps clears the document, or does nothing at all. -/
theorem exists_changes_run (a : Analyser) (h : Host) (before : Ledger) (location : Location)
    (version : Option Int) :
    ∃ changes : List Change,
      (run a h before location version).ledger = changes.foldl Change.apply before := by
  rcases run_cases a h before location version with
    ⟨hledger, -⟩ | ⟨bytes, outcome, -, -, hledger, -⟩
  · exact ⟨[], hledger⟩
  · rw [hledger]
    unfold ofOutput
    dsimp only
    split
    · exact ⟨[.take a.intake (some outcome.output) (some location.text)
        (Text.Utf8.decodeLossy bytes), .clear (Text.Utf8.decodeLossy bytes)], rfl⟩
    · exact ⟨[.take a.intake (some outcome.output) (some location.text)
        (Text.Utf8.decodeLossy bytes)], rfl⟩

/-- What an analysis publishes stands in the ledger behind it. -/
theorem exists_entry_of_mem_publications {a : Analyser} {h : Host} {before : Ledger}
    {location : Location} {version : Option Int} {p : Publication}
    (hp : p ∈ (run a h before location version).publications) :
    ∃ k fs, (run a h before location version).ledger.get? k = some fs ∧
      Location.ofPath? k = some p.location ∧ p.diagnostics = fs.map Diagnostic.ofFinding := by
  rcases run_cases a h before location version with
    ⟨-, hnothing⟩ | ⟨bytes, outcome, -, -, hledger, hpublications⟩
  · rw [hnothing] at hp
    exact absurd hp List.not_mem_nil
  · rw [hpublications, publications_ofOutput] at hp
    obtain ⟨k, fs, c, hget, -, hc, rfl⟩ := mem_publications?_iff.mp hp
    exact ⟨k, fs, by rw [hledger, hget], hc, rfl⟩

end Analysis

namespace Session

/-- A message does some changes to the ledger. -/
theorem exists_changes_handle (h : Host) (s : Session) (m : Message) :
    ∃ changes : List Change, (s.handle h m).1.ledger = changes.foldl Change.apply s.ledger := by
  have heffect := effect_handle h s m
  generalize (s.handle h m).1 = s' at heffect
  generalize (s.handle h m).2.notices = notices at heffect
  cases heffect with
  | opened _ _ _ => exact Analysis.exists_changes_run ..
  | saved _ _ => exact Analysis.exists_changes_run ..
  | @closed l u _ _ =>
    unfold closeDocument
    dsimp only
    split
    · next path _ => exact ⟨[.remove path], rfl⟩
    · exact ⟨[], rfl⟩
  | other _ hledger _ => exact ⟨[], hledger⟩

/-- **The ledger of a session** is one behind a history. -/
theorem exists_ofChanges (turns : List Turn) :
    ∃ changes, (Exchange.ofTurns turns).session.ledger = ofChanges changes := by
  induction turns using List.reverseRecOn with
  | nil => exact ⟨[], rfl⟩
  | append_singleton turns t ih =>
    obtain ⟨changes, hchanges⟩ := ih
    obtain ⟨more, hmore⟩ :=
      exists_changes_handle t.host (Exchange.ofTurns turns).session t.message
    refine ⟨changes ++ more, ?_⟩
    rw [Exchange.ofTurns_append_singleton, Ledger.ofChanges_append, ← hchanges]
    exact hmore

/-- **What a message publishes** stands in the ledger behind it, unless it is nothing. -/
theorem exists_entry_of_publish {h : Host} {s : Session} {m : Message} {p : Publication}
    (hp : .publish p ∈ (s.handle h m).2.notices) (hne : p.diagnostics ≠ []) :
    ∃ k fs, (s.handle h m).1.ledger.get? k = some fs ∧ Location.ofPath? k = some p.location ∧
      p.diagnostics = fs.map Diagnostic.ofFinding := by
  have heffect := effect_handle h s m
  generalize (s.handle h m).1 = s' at heffect ⊢
  generalize (s.handle h m).2.notices = notices at heffect hp
  cases heffect with
  | opened _ _ _ => exact Analysis.exists_entry_of_mem_publications (publish_mem_map_iff.mp hp)
  | saved _ _ => exact Analysis.exists_entry_of_mem_publications (publish_mem_map_iff.mp hp)
  | closed _ _ =>
    obtain rfl : p = ⟨_, [], none⟩ := by simpa using hp
    exact absurd rfl hne
  | other _ _ hsilent => exact absurd hp (hsilent p)

/-- What is shown behind an exchange stood in the ledger of one of its turns. -/
theorem exists_turn_of_publish (turns : List Turn) {p : Publication}
    (hp : .publish p ∈ (Exchange.ofTurns turns).notices) (hne : p.diagnostics ≠ []) :
    ∃ earlier, earlier <+: turns ∧ ∃ k fs,
      (Exchange.ofTurns earlier).session.ledger.get? k = some fs ∧
        Location.ofPath? k = some p.location ∧ p.diagnostics = fs.map Diagnostic.ofFinding := by
  induction turns using List.reverseRecOn with
  | nil => exact absurd hp List.not_mem_nil
  | append_singleton turns t ih =>
    rw [Exchange.ofTurns_append_singleton, Exchange.next] at hp
    rcases List.mem_append.mp hp with hold | hnew
    · obtain ⟨earlier, hpre, hentry⟩ := ih hold
      exact ⟨earlier, hpre.trans (List.prefix_append turns [t]), hentry⟩
    · refine ⟨turns ++ [t], List.prefix_rfl, ?_⟩
      rw [Exchange.ofTurns_append_singleton]
      exact exists_entry_of_publish hnew hne

end Session

/-! ### Commands -/

namespace CommandLine

variable {tool : Tool} {intake : Intake}

/-- A visit takes one output in, or none. -/
theorem Visit.exists_changes_take (v : Visit) (l : Ledger) :
    ∃ changes : List Change, v.take tool intake l = changes.foldl Change.apply l := by
  cases houtput : v.output? tool with
  | none => exact ⟨[], take_of_none houtput l⟩
  | some output =>
    exact ⟨[.take intake (some output) (some v.file) v.file], take_of_some houtput l⟩

/-- Visits one behind the other do what is done at each of them. -/
theorem exists_changes_foldl (visits : List Visit) (l : Ledger) :
    ∃ changes : List Change,
      visits.foldl (Visit.take tool intake) l = changes.foldl Change.apply l := by
  induction visits generalizing l with
  | nil => exact ⟨[], rfl⟩
  | cons v visits ih =>
    obtain ⟨changes, hchanges⟩ := @Visit.exists_changes_take tool intake v l
    obtain ⟨more, hmore⟩ := ih (v.take tool intake l)
    refine ⟨changes ++ more, ?_⟩
    rw [List.foldl_cons, hmore, hchanges, List.foldl_append]

/-- **Checking files** leaves a ledger behind a history. -/
theorem exists_ofChanges_lint {h : Host} {s : Settings} {log : List Event} {files : List String}
    {p : Progress} (hok : lint h s log files = .ok p) :
    ∃ changes, p.ledger = ofChanges changes := by
  rw [lint_eq_lintEach] at hok
  unfold lintEach at hok
  split at hok
  · exact absurd hok (by simp)
  · rw [ledger_checkAll hok]
    exact exists_changes_foldl _ _

/-- **Taking in a captured report** leaves a ledger behind a history. -/
theorem exists_ofChanges_parse {h : Host} {s : Settings} {log : List Event} {document : String}
    {input : Option String} {bytes : List UInt8} {p : Progress}
    (hok : parse h s log document input bytes = .ok p) : ∃ changes, p.ledger = ofChanges changes := by
  unfold parse at hok
  split at hok
  · exact absurd hok (by simp)
  · next text _ =>
    split at hok
    · exact absurd hok (by simp)
    · next intake _ =>
      obtain rfl := Except.ok.inj hok
      exact ⟨[.take intake (some text) (some document) document], rfl⟩

end CommandLine

/-! ### What is ever shown -/

namespace Ledger

open Session (Exchange)

/-- **A finding is never shown for a document other than its own.** Behind any history, from nothing on,
every finding of an entry is about the document of the entry, which has a name; its message is not empty
and stands on one line; and it was read in a line that makes sense, of a report that was taken in. An entry
without a name holds nothing. The ledger of every session and of every command is one behind a history, so
that all that an editor is ever shown at the location of a document are findings about this document. -/
theorem own_of_ofChanges :
    (∀ changes k fs, (ofChanges changes).get? k = some fs →
      (k = "" → fs = []) ∧
        ∀ f ∈ fs, f.path = k ∧ k ≠ "" ∧ f.message ≠ "" ∧ '\n' ∉ f.message.toList ∧
          ∃ i s location path, Change.take i (some s) (some location) path ∈ changes ∧
            ∃ line ∈ Report.linesOf s.toList,
              (Candidate.ofLine i.attribution path line).isWellFormed = true ∧
                i.finding? path line = some f) ∧
    (∀ turns, ∃ changes, (Exchange.ofTurns turns).session.ledger = ofChanges changes) ∧
    (∀ turns p, .publish p ∈ (Exchange.ofTurns turns).notices → p.diagnostics ≠ [] →
      ∃ (k : String) (fs : List Finding), Location.ofPath? k = some p.location ∧
        p.diagnostics = fs.map Diagnostic.ofFinding ∧ ∀ f ∈ fs, f.path = k) ∧
    (∀ h s log files p, CommandLine.lint h s log files = .ok p →
      ∃ changes, p.ledger = ofChanges changes) ∧
    ∀ h s log document input bytes p, CommandLine.parse h s log document input bytes = .ok p →
      ∃ changes, p.ledger = ofChanges changes := by
  refine ⟨fun changes k fs hget => ?_, Session.exists_ofChanges, fun _ p hp hne => ?_,
    fun _ _ _ _ _ => CommandLine.exists_ofChanges_lint,
    fun _ _ _ _ _ _ _ => CommandLine.exists_ofChanges_parse⟩
  · have htold := fun f (hf : f ∈ fs) => exists_gives_of_ofChanges changes hget hf
    refine ⟨?_, fun f hf => ?_⟩
    · rintro rfl
      by_contra hne
      obtain ⟨f, hf⟩ := List.exists_mem_of_ne_nil fs hne
      obtain ⟨c, -, hgives⟩ := htold f hf
      exact hgives.told.2.1 rfl
    · obtain ⟨c, hc, hgives⟩ := htold f hf
      obtain ⟨i, s, location, path, rfl, hline⟩ := hgives.exists_line
      obtain ⟨hpath, hk, hmessage, hfeed⟩ := hgives.told
      exact ⟨hpath, hk, hmessage, hfeed, i, s, location, path, hc, hline⟩
  · obtain ⟨earlier, -, k, fs, hget, hlocation, hdiagnostics⟩ :=
      Session.exists_turn_of_publish _ hp hne
    obtain ⟨changes, hchanges⟩ := Session.exists_ofChanges earlier
    rw [hchanges] at hget
    refine ⟨k, fs, hlocation, hdiagnostics, fun f hf => ?_⟩
    obtain ⟨c, -, hgives⟩ := exists_gives_of_ofChanges changes hget hf
    exact hgives.told.1

/-- A history in which a document is reported on, cleared and reported on again, another one is forgotten,
and a line names no document while none is analysed; what it leaves, and what a session publishes. -/
theorem own_of_ofChanges_mixed :
    let i : Intake := { attribution := .reported, stalePolicy := .clear }
    let changes : List Change :=
      [.take i (some "/a:1:1:one\n/b:2:2:error: two\r\n") (some "file:///a") "/a", .clear "/a",
        .remove "/b", .take i (some "/a:3:1:x:y\n:1:1:nobody\n/a:0:1:none\n") (some "untitled:u") ""]
    let host : Host :=
      { files := {}, run := fun _ _ => .ok ⟨.exited 1, "a:2:1: error: x \n", ""⟩ }
    let turns : List Session.Turn :=
      [⟨host, .begin none⟩, ⟨host, .opened "file:///a" (some 1)⟩, ⟨host, .closed "file:///a"⟩]
    let f : Finding := ⟨"/a", 2, 0, .warning, "x:y"⟩
    let p : Publication :=
      ⟨{ scheme := "file", authority := some {}, path := .names ["a"] }, [⟨1, 0, .error, "error: x"⟩],
        some 1⟩
    (ofChanges changes).entries = [("", []), ("/a", [f])] ∧
      (f.path = "/a" ∧ f.message ≠ "" ∧ '\n' ∉ f.message.toList) ∧
      .publish p ∈ (Exchange.ofTurns turns).notices ∧
      ∃ (k : String) (fs : List Finding), Location.ofPath? k = some p.location ∧
        p.diagnostics = fs.map Diagnostic.ofFinding ∧ ∀ f ∈ fs, f.path = k := by
  intro i changes host turns f p
  have hentries : (ofChanges changes).entries = [("", []), ("/a", [f])] := by decide +kernel
  have hget : (ofChanges changes).get? "/a" = some [f] := by
    rw [← mem_entries_iff, hentries]
    simp
  obtain ⟨hpath, -, hmessage, hfeed, -⟩ :=
    (own_of_ofChanges.1 changes "/a" [f] hget).2 f List.mem_cons_self
  have hpublished : .publish p ∈ (Exchange.ofTurns turns).notices := by decide +kernel
  exact ⟨hentries, ⟨hpath, hmessage, hfeed⟩, hpublished,
    own_of_ofChanges.2.2.1 turns p hpublished (by simp [p])⟩

end Ledger
end LintLedger
