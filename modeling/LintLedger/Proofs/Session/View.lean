import LintLedger.Proofs.Location.Spelling
import LintLedger.Proofs.Session.Analysis
import LintLedger.Proofs.Session.Messages
import Mathlib.Data.List.Induction

/-!
# The editor shows what the ledger holds

The ledger knows documents by their paths, the editor knows them by the texts of their locations, and
only publications go from the one to the other. They agree as long as nothing is lost between paths and
locations: a location in a message has to be the one that is written for its path
(`LintLedger.Location.IsCanonical`), and a path that a tool names has to be read back from its location
(`LintLedger.Location.ReadsBack`). Then two documents of the ledger never share a location, and a
document that is closed is the one whose location is blanked.

`LintLedger.Session.Mirrored` is the invariant. An analysis keeps it because it publishes whatever is
not what it was, and never forgets a document (`Mirrored.publications`); a closing keeps it because it
forgets exactly the document at the location that it blanks (`Mirrored.close`).
-/

namespace LintLedger

namespace Location

/-- **The location is the one that is written for its path**, if it has one. -/
def IsCanonical (u : Location) : Prop := ∀ path ∈ u.path?, ∃ c ∈ ofPath? path, c.text = u.text

/-- **The path is read back from its location**, if it has one. -/
def ReadsBack (path : String) : Prop := ∀ c ∈ ofPath? path, c.path? = some path

instance : DecidablePred IsCanonical := fun u =>
  inferInstanceAs (Decidable (∀ path ∈ u.path?, ∃ c ∈ ofPath? path, c.text = u.text))

instance : DecidablePred ReadsBack := fun path =>
  inferInstanceAs (Decidable (∀ c ∈ ofPath? path, c.path? = some path))

variable {u c c' : Location} {path k k' : String}

theorem IsCanonical.ofPath?_eq (h : IsCanonical u) (hu : Legible u) (hpath : u.path? = some path) :
    ofPath? path = some u := by
  obtain ⟨c, hc, htext⟩ := h path hpath
  rw [hc, eq_of_text_eq hu hc htext.symm]

theorem IsCanonical.readsBack (h : IsCanonical u) (hu : Legible u) (hpath : u.path? = some path) :
    ReadsBack path := by
  intro c hc
  rw [h.ofPath?_eq hu hpath] at hc
  rw [← Option.some.inj hc]
  exact hpath

/-- **Paths that are read back are told apart by the texts of their locations.** -/
theorem ReadsBack.eq_of_text_eq (h : ReadsBack k) (h' : ReadsBack k') (hc : ofPath? k = some c)
    (hc' : ofPath? k' = some c') (htext : c.text = c'.text) : k = k' := by
  have hpath := h c hc
  rw [Location.eq_of_text_eq (legible_of_ofPath? hc) hc' htext, h' c' hc'] at hpath
  exact (Option.some.inj hpath).symm

end Location

namespace Session

open Location (IsCanonical ReadsBack Legible)

/-! ### The invariant -/

/-- **The editor shows what the ledger holds**, and the ledger holds only paths that are read back. -/
structure Mirrored (l : Ledger) (notices : List Notice) : Prop where
  /-- Known paths are read back from their locations. -/
  readsBack : ∀ k fs, l.get? k = some fs → ReadsBack k
  /-- What is known is shown. -/
  known : ∀ k fs c, l.get? k = some fs → Location.ofPath? k = some c →
    shown notices c.text = fs.map Diagnostic.ofFinding
  /-- Nothing else is shown. -/
  blank : ∀ url, (∀ k fs c, l.get? k = some fs → Location.ofPath? k = some c → c.text ≠ url) →
    shown notices url = []

variable {l before after : Ledger} {notices : List Notice}

theorem mirrored_empty : Mirrored .empty [] where
  readsBack k fs h := by simp at h
  known k fs c h := by simp at h
  blank url _ := rfl

theorem Mirrored.silent (h : Mirrored l notices) {more : List Notice}
    (hmore : ∀ p, .publish p ∉ more) : Mirrored l (notices ++ more) := by
  have hshown : ∀ url, shown (notices ++ more) url = shown notices url :=
    fun url => shown_append_of_not (fun p hp => absurd hp (hmore p)) notices
  refine ⟨h.readsBack, fun k fs c hget hc => ?_, fun url hurl => ?_⟩
  · rw [hshown]
    exact h.known k fs c hget hc
  · rw [hshown]
    exact h.blank url hurl

/-- What is published at the location of a known document is about this document: it is not what it
was, and this is what it is now. -/
theorem diagnostics_of_mem_publications? {path : String} {version : Option Int}
    (hback : ∀ k fs, after.get? k = some fs → ReadsBack k) {p : Publication}
    (hp : p ∈ Analysis.publications? path version before after) {k : String} {fs : List Finding}
    {c : Location} (hget : after.get? k = some fs) (hc : Location.ofPath? k = some c)
    (htext : p.location.text = c.text) :
    (k = path ∨ before.get? k ≠ some fs) ∧ p.diagnostics = fs.map Diagnostic.ofFinding := by
  obtain ⟨k', fs', c', hget', hnew, hc', rfl⟩ := Analysis.mem_publications?_iff.mp hp
  obtain rfl := (hback k' fs' hget').eq_of_text_eq (hback k fs hget) hc' hc htext
  obtain rfl := Option.some.inj (hget'.symm.trans hget)
  exact ⟨hnew, rfl⟩

/-- **Publishing whatever is not what it was** makes the editor show the new ledger, if it still knows
the old documents. -/
theorem Mirrored.publications (h : Mirrored before notices)
    (hback : ∀ k fs, after.get? k = some fs → ReadsBack k)
    (hkept : ∀ k, before.get? k ≠ none → after.get? k ≠ none) (path : String)
    (version : Option Int) :
    Mirrored after
      (notices ++ (Analysis.publications? path version before after).map Notice.publish) := by
  refine ⟨hback, fun k fs c hget hc => ?_, fun url hurl => ?_⟩
  · have hone : ∀ p, Notice.publish p ∈
        (Analysis.publications? path version before after).map Notice.publish →
        p.location.text = c.text →
        (k = path ∨ before.get? k ≠ some fs) ∧ p.diagnostics = fs.map Diagnostic.ofFinding :=
      fun p hp => diagnostics_of_mem_publications? hback (publish_mem_map_iff.mp hp) hget hc
    by_cases hnew : k = path ∨ before.get? k ≠ some fs
    · have hp : (⟨c, fs.map Diagnostic.ofFinding, if k = path then version else none⟩ : Publication) ∈
          Analysis.publications? path version before after :=
        Analysis.mem_publications?_iff.mpr ⟨k, fs, c, hget, hnew, hc, rfl⟩
      exact shown_append_of_forall ⟨_, publish_mem_map_iff.mpr hp, rfl⟩
        (fun p hp htext => (hone p hp htext).2) notices
    · rw [shown_append_of_not fun p hp htext => hnew (hone p hp htext).1]
      exact h.known k fs c (by simpa using (not_or.mp hnew).2) hc
  · rw [shown_append_of_not]
    · refine h.blank url fun k fs c hget hc => ?_
      obtain ⟨fs', hget'⟩ := Option.ne_none_iff_exists'.mp (hkept k (by simp [hget]))
      exact hurl k fs' c hget' hc
    · intro p hp
      obtain ⟨k, fs, c, hget, -, hc, rfl⟩ :=
        Analysis.mem_publications?_iff.mp (publish_mem_map_iff.mp hp)
      exact hurl k fs c hget hc

/-- **An analysis** of a canonical location keeps the editor and the ledger together. -/
theorem Mirrored.run (h : Mirrored before notices) {u : Location} (hu : Legible u)
    (hcanonical : IsCanonical u) {host : Host}
    (hnamed : ∀ tool bytes outcome, host.run tool bytes = .ok outcome →
      ∀ path ∈ Intake.namedPaths outcome.output.toList, ReadsBack path)
    (a : Analyser) (version : Option Int) :
    Mirrored (Analysis.run a host before u version).ledger
      (notices ++ (Analysis.run a host before u version).publications.map .publish) := by
  rcases Analysis.run_cases a host before u version with
    ⟨hledger, hnothing⟩ | ⟨bytes, outcome, hbytes, hrun, hledger, hpublications⟩
  · rw [hledger, hnothing, List.map_nil, List.append_nil]
    exact h
  · have hpath : u.path? = some (Text.Utf8.decodeLossy bytes) := by
      rw [Location.path?, hbytes]
      rfl
    rw [hledger, hpublications, Analysis.publications_ofOutput]
    refine h.publications (fun k fs hget => ?_) (fun k hk => ?_) _ version
    · rcases Analysis.known_of_ofOutput (by rw [hget]; simp) with hk | rfl | ⟨f, hf, rfl⟩
      · obtain ⟨fs', hget'⟩ := Option.ne_none_iff_exists'.mp hk
        exact h.readsBack k fs' hget'
      · exact hcanonical.readsBack hu hpath
      · rcases Intake.path_of_mem_findings hf with hpath' | hmem
        · rw [hpath']
          exact hcanonical.readsBack hu hpath
        · exact hnamed _ _ _ hrun _ hmem
    · exact Analysis.get?_ofOutput_ne_none a u _ version outcome.output hk

/-- **A closing** of a canonical location keeps the editor and the ledger together: what is blanked is
the location of the document that is forgotten, and of no other. -/
theorem Mirrored.close {s : Session} (h : Mirrored s.ledger notices) {u : Location} (hu : Legible u)
    (hcanonical : IsCanonical u) :
    Mirrored (closeDocument s u).1.ledger (notices ++ [.publish ⟨u, [], none⟩]) := by
  have hold : ∀ {k fs}, (closeDocument s u).1.ledger.get? k = some fs →
      u.path? ≠ some k ∧ s.ledger.get? k = some fs := by
    intro k fs hk
    rw [get?_closeDocument] at hk
    split at hk
    · simp at hk
    · next hne => exact ⟨hne, hk⟩
  refine ⟨fun k fs hk => h.readsBack k fs (hold hk).2, fun k fs c hk hc => ?_, fun url hurl => ?_⟩
  · -- Another document of the ledger is at another location.
    rw [shown_append_blank, if_neg]
    · exact h.known k fs c (hold hk).2 hc
    · intro htext
      obtain rfl := Location.eq_of_text_eq hu hc htext.symm
      exact (hold hk).1 (h.readsBack k fs (hold hk).2 u hc)
  · rw [shown_append_blank]
    split
    · rfl
    · next hut =>
      refine h.blank url fun k fs c hk hc htext => ?_
      by_cases hpath : u.path? = some k
      · rw [hcanonical.ofPath?_eq hu hpath] at hc
        rw [← htext, ← Option.some.inj hc] at hut
        exact hut rfl
      · refine hurl k fs c ?_ hc htext
        rw [get?_closeDocument, if_neg hpath]
        exact hk

/-! ### Whole exchanges -/

/-- **Nothing is lost between paths and locations in the turn.** -/
structure Turn.IsCanonical (t : Turn) : Prop where
  /-- The location in the message is the one that is written for its path. -/
  document : ∀ l, t.message.document? = some l → ∀ u, Location.read l = .ok u → u.IsCanonical
  /-- The paths that tools name are read back from their locations. -/
  named : ∀ tool bytes outcome, t.host.run tool bytes = .ok outcome →
    ∀ path ∈ Intake.namedPaths outcome.output.toList, ReadsBack path

/-- **A turn keeps the editor and the ledger together**, whatever it is. -/
theorem Mirrored.next {x : Exchange} (h : Mirrored x.session.ledger x.notices) {t : Turn}
    (ht : t.IsCanonical) : Mirrored (x.next t).session.ledger (x.next t).notices := by
  obtain ⟨host, message⟩ := t
  unfold Exchange.next
  dsimp only
  have heffect := effect_handle host x.session message
  generalize (x.session.handle host message).1 = s' at heffect
  generalize (x.session.handle host message).2.notices = more at heffect
  cases heffect with
  | opened _ hread _ =>
    exact h.run (Location.legible_of_read hread) (ht.document _ rfl _ hread) ht.named _ _
  | saved _ hread =>
    exact h.run (Location.legible_of_read hread) (ht.document _ rfl _ hread) ht.named _ _
  | closed _ hread =>
    exact h.close (Location.legible_of_read hread) (ht.document _ rfl _ hread)
  | other _ hledger hsilent =>
    rw [hledger]
    exact h.silent hsilent

theorem mirrored_ofTurns (turns : List Turn) (h : ∀ t ∈ turns, t.IsCanonical) :
    Mirrored (Exchange.ofTurns turns).session.ledger (Exchange.ofTurns turns).notices := by
  induction turns using List.reverseRecOn with
  | nil => exact mirrored_empty
  | append_singleton turns t ih =>
    rw [Exchange.ofTurns_append_singleton]
    exact (ih fun t' ht' => h t' (List.mem_append_left _ ht')).next (h t (by simp))

/-- **The editor shows what the ledger holds**, behind every turn of every exchange in which nothing is
lost between paths and locations: at the location of a known document its findings, and at every other
location nothing. -/
theorem shown_ofTurns (turns : List Turn) (h : ∀ t ∈ turns, t.IsCanonical) :
    (∀ k fs c, (Exchange.ofTurns turns).session.ledger.get? k = some fs →
      Location.ofPath? k = some c →
      shown (Exchange.ofTurns turns).notices c.text = fs.map Diagnostic.ofFinding) ∧
    ∀ url, (∀ k fs c, (Exchange.ofTurns turns).session.ledger.get? k = some fs →
        Location.ofPath? k = some c → c.text ≠ url) →
      shown (Exchange.ofTurns turns).notices url = [] :=
  ⟨(mirrored_ofTurns turns h).known, (mirrored_ofTurns turns h).blank⟩

/-- Two documents are opened, and the first is closed: the findings of the second are shown, and nothing
is shown for the first any more. -/
theorem shown_ofTurns_closed :
    let host : Host :=
      { files := {}, run := fun _ _ => .ok ⟨.exited 1, "a:2:1: error: x \n/c:1:1:y\n", ""⟩ }
    let turns : List Turn :=
      [⟨host, .begin none⟩, ⟨host, .opened "file:///a" (some 1)⟩, ⟨host, .opened "file:///b" (some 4)⟩,
        ⟨host, .closed "file:///a"⟩]
    (∀ t ∈ turns, t.IsCanonical) ∧
      shown (Exchange.ofTurns turns).notices "file:///b" =
        [⟨1, 0, .error, "error: x"⟩, ⟨0, 0, .warning, "y"⟩] ∧
      shown (Exchange.ofTurns turns).notices "file:///a" = [] := by
  intro host turns
  have hnamed : ∀ tool bytes outcome, host.run tool bytes = .ok outcome →
      ∀ path ∈ Intake.namedPaths outcome.output.toList, ReadsBack path := by
    intro tool bytes outcome houtcome
    rw [← Except.ok.inj houtcome]
    decide +kernel
  have hdocument : ∀ t ∈ turns, ∀ l ∈ t.message.document?, ∀ u ∈ (Location.read l).toOption,
      u.IsCanonical := by
    decide +kernel
  have hcanonical : ∀ t ∈ turns, t.IsCanonical := by
    intro t ht
    have hhost : t.host = host := by
      revert t
      simp [turns]
    refine ⟨fun l hl u hu => hdocument t ht l hl u (by rw [hu]; rfl), ?_⟩
    rw [hhost]
    exact hnamed
  have hledger : (Exchange.ofTurns turns).session.ledger.entries =
      [("/b", [⟨"/b", 1, 0, .error, " error: x "⟩, ⟨"/b", 0, 0, .warning, "y"⟩])] := by
    decide +kernel
  have h := shown_ofTurns turns hcanonical
  refine ⟨hcanonical, ?_, ?_⟩
  · exact h.1 "/b" [⟨"/b", 1, 0, .error, " error: x "⟩, ⟨"/b", 0, 0, .warning, "y"⟩]
      { scheme := "file", authority := some {}, path := .names ["b"] }
      (by decide +kernel) (by decide +kernel)
  · refine h.2 "file:///a" fun k fs c hget hc => ?_
    have hmem := (Ledger.mem_entries_iff _ k fs).mpr hget
    rw [hledger, List.mem_singleton] at hmem
    rw [(Prod.mk.inj hmem).1] at hc
    have hother : ∀ c ∈ Location.ofPath? "/b", c.text ≠ "file:///a" := by decide +kernel
    exact hother c hc

end Session
end LintLedger
