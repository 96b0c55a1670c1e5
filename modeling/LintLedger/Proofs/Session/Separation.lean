import LintLedger.Proofs.Session.View
import Mathlib.Data.List.Infix

/-!
# Documents do not disturb each other

All documents of an editor share one session, with one ledger, one map of versions and one analyser. As
long as every line of a report is about the analysed document and locations are written as they are for
their paths, a message about one document touches nothing that a message about another one looks at: the
entry under the path, and the version under the location. Sessions that differ in nothing else agree on
the document (`LintLedger.Session.AgreeOn`), and answer every message about it, and every message about no
document, alike (`LintLedger.Session.AgreeOn.handle`).

So a document is published as if it were the only one
(`LintLedger.Session.publicationsFor_filter_keepsTo`). What a tool prints may change from turn to turn, but
it does not depend on the session; and settings are read when the editor says so, in both exchanges at the
same turns.
-/

namespace LintLedger.Session

open Location (IsCanonical Legible)

variable {h : Host} {s s' : Session} {m : Message} {path : String} {u v : Location}

/-! ### Sessions that agree on a document -/

/-- **The sessions agree on a document**, which has a location and a path: they differ in what they know
about other documents only. -/
structure AgreeOn (u : Location) (path : String) (s s' : Session) : Prop where
  /-- The sessions have come equally far. -/
  phase : s'.phase = s.phase
  /-- They have one workspace. -/
  root : s'.root = s.root
  /-- They analyse documents alike. -/
  analyser : s'.analyser = s.analyser
  /-- They know the same version of the document. -/
  version : s'.versions.get? u.text = s.versions.get? u.text
  /-- They know the same findings in the document. -/
  entry : s'.ledger.get? path = s.ledger.get? path

theorem AgreeOn.refl (u : Location) (path : String) (s : Session) : AgreeOn u path s s :=
  ⟨rfl, rfl, rfl, rfl, rfl⟩

theorem AgreeOn.trans {s'' : Session} (h : AgreeOn u path s s') (h' : AgreeOn u path s' s'') :
    AgreeOn u path s s'' where
  phase := h'.phase.trans h.phase
  root := h'.root.trans h.root
  analyser := h'.analyser.trans h.analyser
  version := h'.version.trans h.version
  entry := h'.entry.trans h.entry

theorem AgreeOn.eq (hagree : AgreeOn u path s s') : s' = s.withDocuments s'.versions s'.ledger := by
  obtain ⟨phase, root, analyser, versions, ledger⟩ := s'
  obtain ⟨rfl, rfl, rfl, -, -⟩ := hagree
  rfl

/-- Does the message keep to the document at a location, or is about none? -/
def Message.keepsTo (u : Location) (m : Message) : Bool := m.location?.all (· = u)

theorem Message.keepsTo_iff : m.keepsTo u = true ↔ m.location? = none ∨ m.location? = some u := by
  unfold keepsTo
  cases m.location? with
  | none => simp
  | some v => simp

section Place

variable (hpath : u.path? = some path) (hplace : Location.ofPath? path = some u)

/-! ### Messages about other documents -/

section Other

variable (hv : Legible v) (hcanonical : v.IsCanonical) (hne : v ≠ u)

include hplace hv hne

theorem text_ne_of_ne : v.text ≠ u.text := fun htext => hne (Location.eq_of_text_eq hv hplace htext)

include hcanonical

theorem path?_ne_of_ne : v.path? ≠ some path := fun hvpath =>
  hne (Option.some.inj ((hcanonical.ofPath?_eq hv hvpath).symm.trans hplace))

/-- An analysis of another document leaves the entry, and publishes elsewhere. -/
theorem run_of_ne {a : Analyser} (hdocument : a.intake.attribution = .document) (before : Ledger)
    (version : Option Int) :
    (Analysis.run a h before v version).ledger.get? path = before.get? path ∧
      publicationsFor ((Analysis.run a h before v version).publications.map .publish) u.text = [] := by
  refine ⟨Analysis.get?_run_of_document hdocument
    (path?_ne_of_ne hplace hv hcanonical hne) before version, publicationsFor_eq_nil fun p hp => ?_⟩
  obtain ⟨k, hk, hlocation⟩ :=
    Analysis.ofPath?_of_mem_publications hdocument (publish_mem_map_iff.mp hp)
  -- The location that is written for the path of the other document is the one in the message.
  rw [hcanonical.ofPath?_eq hv hk] at hlocation
  rw [← Option.some.inj hlocation]
  exact text_ne_of_ne hplace hv hne

end Other

include hplace

/-- **A message about another document** changes nothing about this one, and publishes nothing for it. -/
theorem agreeOn_handle_of_ne (hm : m.location? = some v) (hcanonical : v.IsCanonical) (hne : v ≠ u)
    (hdocument : s.analyser.intake.attribution = .document) (h : Host) :
    AgreeOn u path s (s.handle h m).1 ∧ publicationsFor (s.handle h m).2.notices u.text = [] := by
  obtain ⟨l, -, hread⟩ := Message.read_of_location? hm
  have hv := Location.legible_of_read hread
  have htext : u.text ≠ v.text := (text_ne_of_ne hplace hv hne).symm
  have habout := Message.about_of_location? hm
  by_cases hs : s.phase = .serving
  · cases habout with
    | opened hread hversion =>
      obtain ⟨hentry, hnothing⟩ :=
        run_of_ne (h := h) hplace hv hcanonical hne hdocument s.ledger (some _)
      rw [handle_opened hs hread hversion]
      refine ⟨⟨rfl, rfl, rfl, ?_, hentry⟩, hnothing⟩
      exact (Keyed.get?_insert ..).trans (if_neg htext)
    | unversioned hread hversion =>
      rw [handle_unversioned hs hversion]
      exact ⟨.refl u path s, rfl⟩
    | saved hread =>
      obtain ⟨hentry, hnothing⟩ :=
        run_of_ne (h := h) hplace hv hcanonical hne hdocument s.ledger (s.versions.get? v.text)
      rw [handle_saved hs hread]
      exact ⟨⟨rfl, rfl, rfl, rfl, hentry⟩, hnothing⟩
    | closed hread =>
      rw [handle_closed hs hread]
      refine ⟨⟨rfl, rfl, rfl, ?_, ?_⟩, publicationsFor_eq_nil fun p hp => ?_⟩
      · exact (Keyed.get?_erase ..).trans (if_neg htext)
      · rw [get?_closeDocument, if_neg (path?_ne_of_ne hplace hv hcanonical hne)]
      · obtain rfl : p = ⟨v, [], none⟩ := by simpa [closeDocument] using hp
        exact htext.symm
  · rw [handle_of_not_serving hs habout]
    exact ⟨.refl u path s, rfl⟩

omit hplace

/-! ### Messages about the document -/

include hpath

/-- **A message about the document, or about none**, does the same in sessions that agree on the document,
and publishes the same. -/
theorem AgreeOn.handle (hagree : AgreeOn u path s s') (hm : m.keepsTo u = true)
    (hdocument : s.analyser.intake.attribution = .document) (h : Host) :
    AgreeOn u path (s.handle h m).1 (s'.handle h m).1 ∧
      (s'.handle h m).2.notices = (s.handle h m).2.notices := by
  rcases Message.keepsTo_iff.mp hm with hnone | hu
  · obtain ⟨hversions, hledger⟩ := handle_frame hnone h s
    rw [hagree.eq, handle_withDocuments h s s'.versions s'.ledger hnone]
    refine ⟨⟨rfl, rfl, rfl, ?_, ?_⟩, rfl⟩
    · rw [hversions]
      exact hagree.version
    · rw [hledger]
      exact hagree.entry
  · have habout := Message.about_of_location? hu
    by_cases hs : s.phase = .serving
    · have hs' : s'.phase = .serving := hagree.phase.trans hs
      cases habout with
      | opened hread hversion =>
        obtain ⟨hentry, hpublications⟩ :=
          Analysis.run_congr_of_document (h := h) hdocument hpath hagree.entry (some _)
        rw [handle_opened hs hread hversion, handle_opened hs' hread hversion]
        unfold openDocument validate
        dsimp only
        rw [hagree.analyser, hpublications]
        refine ⟨⟨hagree.phase, hagree.root, rfl, ?_, hentry⟩, rfl⟩
        dsimp only
        rw [Keyed.get?_insert, Keyed.get?_insert, hagree.version]
      | unversioned hread hversion =>
        rw [handle_unversioned hs hversion, handle_unversioned hs' hversion]
        exact ⟨hagree, rfl⟩
      | saved hread =>
        obtain ⟨hentry, hpublications⟩ :=
          Analysis.run_congr_of_document (h := h) hdocument hpath hagree.entry
            (s.versions.get? u.text)
        rw [handle_saved hs hread, handle_saved hs' hread]
        unfold saveDocument validate
        dsimp only
        rw [hagree.analyser, hagree.version, hpublications]
        exact ⟨⟨hagree.phase, hagree.root, rfl, hagree.version, hentry⟩, rfl⟩
      | closed hread =>
        rw [handle_closed hs hread, handle_closed hs' hread]
        refine ⟨⟨hagree.phase, hagree.root, hagree.analyser, ?_, ?_⟩, rfl⟩
        · change (s'.versions.erase u.text).get? u.text = (s.versions.erase u.text).get? u.text
          rw [Keyed.get?_erase, Keyed.get?_erase, hagree.version]
        · rw [get?_closeDocument, get?_closeDocument, hagree.entry]
    · have hs' : s'.phase ≠ .serving := fun hs' => hs (hagree.phase.symm.trans hs')
      rw [handle_of_not_serving hs habout, handle_of_not_serving hs' habout]
      exact ⟨hagree, rfl⟩

/-! ### Whole exchanges -/

include hplace

/-- **Messages about other documents can be left out of an exchange**: the sessions agree on this
document, and it is published alike. -/
theorem filter_keepsTo (turns : List Turn)
    (hcanonical : ∀ t ∈ turns, ∀ v, t.message.location? = some v → v.IsCanonical)
    (hdocument : ∀ earlier, earlier <+: turns →
      (Exchange.ofTurns earlier).session.analyser.intake.attribution = .document) :
    AgreeOn u path (Exchange.ofTurns (turns.filter fun t => t.message.keepsTo u)).session
        (Exchange.ofTurns turns).session ∧
      publicationsFor (Exchange.ofTurns (turns.filter fun t => t.message.keepsTo u)).notices u.text =
        publicationsFor (Exchange.ofTurns turns).notices u.text := by
  -- From the back: the sessions behind all turns but the last agree, and the last turn keeps that.
  induction turns using List.reverseRecOn with
  | nil => exact ⟨.refl u path _, rfl⟩
  | append_singleton turns t ih =>
    obtain ⟨hagree, hpublished⟩ := ih (fun t' ht' => hcanonical t' (List.mem_append_left _ ht'))
      fun earlier hpre => hdocument earlier (hpre.trans (List.prefix_append turns [t]))
    have hlast := hdocument turns (List.prefix_append turns [t])
    rw [List.filter_append, Exchange.ofTurns_append_singleton, Exchange.next,
      publicationsFor_append]
    by_cases hkeeps : t.message.keepsTo u = true
    · have hturn : [t].filter (fun t => t.message.keepsTo u) = [t] := by simp [hkeeps]
      obtain ⟨hkept, hnotices⟩ :=
        hagree.handle hpath hkeeps (by rw [← hagree.analyser]; exact hlast) t.host
      rw [hturn, Exchange.ofTurns_append_singleton, Exchange.next, publicationsFor_append,
        hpublished, hnotices]
      exact ⟨hkept, rfl⟩
    · have hturn : [t].filter (fun t => t.message.keepsTo u) = [] := by simp [hkeeps]
      rw [Message.keepsTo_iff, not_or] at hkeeps
      obtain ⟨v, hv⟩ := Option.ne_none_iff_exists'.mp hkeeps.1
      have hne : v ≠ u := fun heq => hkeeps.2 (heq ▸ hv)
      obtain ⟨hkept, hnothing⟩ :=
        agreeOn_handle_of_ne hplace hv (hcanonical t (by simp) v hv) hne hlast t.host
      rw [hturn, List.append_nil, hnothing, List.append_nil]
      exact ⟨hagree.trans hkept, hpublished⟩

end Place

/-- **A document is published as if it were the only one.** If every line of a report is about the
analysed document in every session of the exchange, and all documents have locations that are written as
for their paths, the messages about other documents can be left out: the same is published for this one,
with the same versions and in the same order. -/
theorem publicationsFor_filter_keepsTo {l : String} (hread : Location.read l = .ok u)
    (hfile : u.path? ≠ none) (hplain : u.IsCanonical) (turns : List Turn)
    (hcanonical : ∀ t ∈ turns, ∀ v, t.message.location? = some v → v.IsCanonical)
    (hdocument : ∀ earlier, earlier <+: turns →
      (Exchange.ofTurns earlier).session.analyser.intake.attribution = .document) :
    publicationsFor (Exchange.ofTurns (turns.filter fun t => t.message.keepsTo u)).notices u.text =
      publicationsFor (Exchange.ofTurns turns).notices u.text := by
  obtain ⟨path, hpath⟩ := Option.ne_none_iff_exists'.mp hfile
  have hplace := hplain.ofPath?_eq (Location.legible_of_read hread) hpath
  exact (filter_keepsTo hpath hplace turns hcanonical hdocument).2

/-- Two documents are opened, saved and closed in turn, while a settings file changes: the first is published
as if the second had never been opened. -/
theorem publicationsFor_filter_keepsTo_interleaved :
    let host : Host := { files := {}, run := fun _ _ => .ok ⟨.exited 1, "/b:2:1:error: x\n", ""⟩ }
    let silent : Host := { files := {}, run := fun _ _ => .ok ⟨.exited 0, "", ""⟩ }
    let a : Location := { scheme := "file", authority := some {}, path := .names ["a"] }
    let turns : List Turn :=
      [⟨host, .begin none⟩, ⟨host, .opened "file:///a" (some 1)⟩, ⟨host, .opened "file:///b" (some 4)⟩,
        ⟨host, .closed "file:///b"⟩, ⟨host, .changed ["file:///.lintbridge.json"]⟩,
        ⟨silent, .saved "file:///a"⟩, ⟨host, .opened "file:///b" (some 5)⟩, ⟨host, .closed "file:///a"⟩]
    let alone : List Turn :=
      [⟨host, .begin none⟩, ⟨host, .opened "file:///a" (some 1)⟩,
        ⟨host, .changed ["file:///.lintbridge.json"]⟩, ⟨silent, .saved "file:///a"⟩,
        ⟨host, .closed "file:///a"⟩]
    (∀ t ∈ turns, ∀ v, t.message.location? = some v → v.IsCanonical) ∧
      (∀ earlier, earlier <+: turns →
        (Exchange.ofTurns earlier).session.analyser.intake.attribution = .document) ∧
      publicationsFor (Exchange.ofTurns alone).notices "file:///a" =
        publicationsFor (Exchange.ofTurns turns).notices "file:///a" ∧
      publicationsFor (Exchange.ofTurns alone).notices "file:///a" =
        [⟨a, [⟨1, 0, .error, "error: x"⟩], some 1⟩, ⟨a, [⟨1, 0, .error, "error: x"⟩], some 1⟩,
          ⟨a, [], none⟩] := by
  intro host silent a turns alone
  have hread : Location.read "file:///a" = .ok a := by decide +kernel
  have hcanonical : ∀ t ∈ turns, ∀ v ∈ t.message.location?, v.IsCanonical := by decide +kernel
  have hdocument : ∀ earlier ∈ turns.inits,
      (Exchange.ofTurns earlier).session.analyser.intake.attribution = .document := by
    decide +kernel
  have hprefix : ∀ earlier, earlier <+: turns →
      (Exchange.ofTurns earlier).session.analyser.intake.attribution = .document :=
    fun earlier hpre => hdocument earlier ((List.mem_inits earlier turns).mpr hpre)
  have hkept : turns.map (fun t => t.message.keepsTo a) =
      [true, true, false, false, true, true, false, true] := by
    decide +kernel
  have halone : turns.filter (fun t => t.message.keepsTo a) = alone := by
    simp only [turns, List.map_cons, List.map_nil, List.cons.injEq] at hkept
    simp [turns, alone, hkept]
  have h := publicationsFor_filter_keepsTo hread (by decide +kernel) (by decide +kernel) turns
    (fun t ht v hv => hcanonical t ht v hv) hprefix
  have htext : a.text = "file:///a" := by decide +kernel
  rw [halone, htext] at h
  exact ⟨fun t ht v hv => hcanonical t ht v hv, hprefix, h, by decide +kernel⟩

end LintLedger.Session
