import LintLedger.Proofs.Session.History
import LintLedger.Proofs.Session.View

/-!
# Documents that are no files

An editor also opens documents that are kept in no file: drafts, old revisions, pages. Their locations
have other schemes than that of files, and messages about them should be inert (`Session.Inert`). Whether
they are is not a matter of the scheme, though. The server asks a location for a path and never for its
scheme, so that a message about a foreign document is inert exactly as long as its location has no path,
and otherwise acts on the file at this path (`LintLedger.Analysis.toolStarted_mem_run`). A closing is inert
also if nothing is known about that file. `LintLedger.Session.inert_iff` is the exact condition.

Inert messages about foreign documents leave a trace in the versions only, at texts that no location of a
file has (`AgreeOnFiles`). So the server answers all other messages as if they had never been said, and a
whole exchange can be read without them (`filter_foreign`).
-/

namespace LintLedger

/-! ### What an analysis takes from a location -/

namespace Analysis

variable {a : Analyser} {h : Host} {location : Location}

/-- Where there is no path, there is nothing to analyse. -/
theorem run_of_path?_eq_none (hpath : location.path? = none) (before : Ledger)
    (version : Option Int) :
    run a h before location version = { ledger := before, log := [.notAFile location.text] } := by
  rw [Location.path?, Option.map_eq_none_iff] at hpath
  unfold run
  rw [hpath]

/-- Where there is a path, the tool is started. -/
theorem toolStarted_mem_run {path : String} (hpath : location.path? = some path) (before : Ledger)
    (version : Option Int) :
    Event.toolStarted a.tool.program path ∈ (run a h before location version).log := by
  obtain ⟨bytes, hbytes, rfl⟩ := Option.map_eq_some_iff.mp hpath
  unfold run
  rw [hbytes]
  dsimp only
  split <;> exact List.mem_cons_self

/-- Whatever location is analysed, files are what is shown. -/
theorem scheme_of_mem_publications {before : Ledger} {version : Option Int} {p : Publication}
    (hp : p ∈ (run a h before location version).publications) : p.location.scheme = "file" := by
  obtain ⟨k, _, -, hk, -⟩ := exists_entry_of_mem_publications hp
  exact (Location.isFile_of_ofPath? hk).scheme

end Analysis

namespace Session

open Location (Legible)

/-! ### Messages about foreign documents -/

/-- Is the message about a document of another scheme than that of files? -/
def Message.isForeign (m : Message) : Bool := m.location?.any fun u => u.scheme ≠ "file"

/-- Is it shown for a document of another scheme than that of files? -/
def Notice.isForeign : Notice → Bool
  | .publish p => p.location.scheme ≠ "file"
  | .say _ => false

variable {h : Host} {s s' : Session} {m : Message} {l : String} {u : Location}

theorem Message.exists_location_of_isForeign (hm : m.isForeign = true) :
    ∃ u, m.location? = some u ∧ u.scheme ≠ "file" := by
  cases hu : m.location? with
  | none => simp [isForeign, hu] at hm
  | some u => exact ⟨u, rfl, by simpa [isForeign, hu] using hm⟩

theorem Message.scheme_of_location? (hm : m.isForeign = false) (hu : m.location? = some u) :
    u.scheme = "file" := by
  simpa [isForeign, hu] using hm

/-! ### Inert messages -/

/-- **The message is inert** in the session: no tool runs, the ledger stays as it is, and nothing is
shown, except that a document which is closed is blanked at its own location. -/
structure Inert (h : Host) (s : Session) (m : Message) : Prop where
  /-- All is the same whatever a tool would answer. -/
  blind : ∀ run, s.handle { h with run := run } m = s.handle h m
  /-- No tool is started. -/
  idle : ∀ program path, Event.toolStarted program path ∉ (s.handle h m).2.log
  /-- Nothing is shown, but for the blanking of a closed document. -/
  silent : ∀ p, .publish p ∈ (s.handle h m).2.notices →
    ∃ l u, m = .closed l ∧ Location.read l = .ok u ∧ p = ⟨u, [], none⟩
  /-- The ledger stays. -/
  ledger : (s.handle h m).1.ledger = s.ledger

/-- A message that is left out is inert. -/
theorem inert_of_handle_eq (hm : ∀ h, s.handle h m = (s, {})) : Inert h s m where
  blind run := by rw [hm, hm]
  idle program path := by rw [hm]; exact List.not_mem_nil
  silent p hp := by rw [hm] at hp; exact absurd hp List.not_mem_nil
  ledger := by rw [hm]

/-- **A message that asks for an analysis** is inert exactly if there is no path. -/
theorem inert_iff_of_validate {versions : Keyed Int} {version : Option Int} {e : Event}
    (he : ∀ program path, e ≠ .toolStarted program path)
    (hm : ∀ h, s.handle h m =
      let a := Analysis.run s.analyser h s.ledger u version
      ({ s with versions := versions, ledger := a.ledger },
        { notices := a.publications.map .publish, log := e :: .validating u.text :: a.log })) :
    Inert h s m ↔ u.path? = none := by
  dsimp only at hm
  constructor
  · intro hinert
    by_contra hpath
    obtain ⟨path, hpath⟩ := Option.ne_none_iff_exists'.mp hpath
    refine hinert.idle s.analyser.tool.program path ?_
    rw [hm]
    exact List.mem_cons_of_mem _ (List.mem_cons_of_mem _ (Analysis.toolStarted_mem_run hpath _ _))
  · intro hpath
    simp only [Analysis.run_of_path?_eq_none hpath] at hm
    refine ⟨fun run => by rw [hm, hm], fun program path => ?_, fun p hp => ?_, by rw [hm]⟩
    · rw [hm]
      simpa using (he program path).symm
    · rw [hm] at hp
      exact absurd hp List.not_mem_nil

theorem inert_opened_iff (hread : Location.read l = .ok u) {v : Int} (hv : isVersion v = true) :
    Inert h s (.opened l (some v)) ↔ (s.phase = .serving → u.path? = none) := by
  by_cases hs : s.phase = .serving
  · rw [inert_iff_of_validate (e := .opened u.text) (by simp)
      fun h => handle_opened (h := h) hs hread hv]
    simp [hs]
  · exact iff_of_true (inert_of_handle_eq (handle_of_not_serving hs (.opened hread hv)))
      fun h => absurd h hs

theorem inert_saved_iff (hread : Location.read l = .ok u) :
    Inert h s (.saved l) ↔ (s.phase = .serving → u.path? = none) := by
  by_cases hs : s.phase = .serving
  · rw [inert_iff_of_validate (e := .saved u.text) (by simp) (handle_saved hs hread)]
    simp [hs]
  · exact iff_of_true (inert_of_handle_eq (handle_of_not_serving hs (.saved hread)))
      fun h => absurd h hs

/-- A closing that forgets nothing leaves the ledger as it is. -/
theorem ledger_closeDocument_eq_iff :
    (closeDocument s u).1.ledger = s.ledger ↔ ∀ k ∈ u.path?, s.ledger.get? k = none := by
  constructor
  · intro hledger k hk
    rw [← hledger, get?_closeDocument, if_pos (Option.mem_def.mp hk)]
  · intro hnone
    refine Ledger.ext_get? fun k => ?_
    rw [get?_closeDocument]
    split
    · next hk => exact (hnone k hk).symm
    · rfl

theorem inert_closed_iff (hread : Location.read l = .ok u) :
    Inert h s (.closed l) ↔
      (s.phase = .serving → ∀ k ∈ u.path?, s.ledger.get? k = none) := by
  by_cases hs : s.phase = .serving
  · have hm : ∀ h, s.handle h (.closed l) = closeDocument s u :=
      fun h => handle_closed hs hread
    rw [← ledger_closeDocument_eq_iff]
    refine ⟨fun hinert _ => ?_, fun hledger => ⟨fun run => by rw [hm, hm], fun _ _ => ?_, ?_, ?_⟩⟩
    · rw [← hm h]
      exact hinert.ledger
    · rw [hm]
      simp [closeDocument]
    · intro p hp
      rw [hm] at hp
      exact ⟨l, u, rfl, hread, by simpa [closeDocument] using hp⟩
    · rw [hm]
      exact hledger hs
  · exact iff_of_true (inert_of_handle_eq (handle_of_not_serving hs (.closed hread)))
      fun h => absurd h hs

/-- **A message about a document without a path** is inert. -/
theorem inert_of_path?_eq_none (hu : m.location? = some u) (hpath : u.path? = none) :
    Inert h s m := by
  cases Message.about_of_location? hu with
  | opened hread hv => exact (inert_opened_iff hread hv).mpr fun _ => hpath
  | unversioned hread hversion =>
    refine inert_of_handle_eq fun h => ?_
    by_cases hs : s.phase = .serving
    · exact handle_unversioned hs hversion h
    · exact handle_of_not_serving hs (.unversioned hread hversion) h
  | saved hread => exact (inert_saved_iff hread).mpr fun _ => hpath
  | closed hread => exact (inert_closed_iff hread).mpr fun _ => by simp [hpath]

/-! ### Sessions that agree on files -/

/-- **The sessions agree on files**: they differ in the versions of foreign documents only. -/
structure AgreeOnFiles (s s' : Session) : Prop where
  /-- The sessions have come equally far. -/
  phase : s'.phase = s.phase
  /-- They have one workspace. -/
  root : s'.root = s.root
  /-- They analyse documents alike. -/
  analyser : s'.analyser = s.analyser
  /-- They know the same about documents. -/
  ledger : s'.ledger = s.ledger
  /-- They know the same versions of files. -/
  versions : ∀ u : Location, Legible u → u.scheme = "file" →
    s'.versions.get? u.text = s.versions.get? u.text

theorem AgreeOnFiles.refl (s : Session) : AgreeOnFiles s s :=
  ⟨rfl, rfl, rfl, rfl, fun _ _ _ => rfl⟩

theorem AgreeOnFiles.trans {s'' : Session} (h : AgreeOnFiles s s') (h' : AgreeOnFiles s' s'') :
    AgreeOnFiles s s'' where
  phase := h'.phase.trans h.phase
  root := h'.root.trans h.root
  analyser := h'.analyser.trans h.analyser
  ledger := h'.ledger.trans h.ledger
  versions u hu hfile := (h'.versions u hu hfile).trans (h.versions u hu hfile)

/-- The text of a foreign location is that of no location of a file. -/
theorem text_ne_of_scheme_ne {v : Location} (hu : Legible u) (hv : Legible v)
    (hfile : u.scheme = "file") (hforeign : v.scheme ≠ "file") : u.text ≠ v.text :=
  fun htext => hforeign (Location.scheme_eq_of_text_eq hu hv htext ▸ hfile)

/-- **An inert message about a foreign document** changes nothing about files, and whatever is sent for
it is about the foreign document. -/
theorem Inert.agreeOnFiles (hinert : Inert h s m) (hforeign : m.isForeign = true) :
    AgreeOnFiles s (s.handle h m).1 ∧ ∀ n ∈ (s.handle h m).2.notices, n.isForeign = true := by
  obtain ⟨u, hu, hscheme⟩ := Message.exists_location_of_isForeign hforeign
  obtain ⟨l, -, hread⟩ := Message.read_of_location? hu
  -- The one version that may change is at a text that no location of a file has.
  have hother : ∀ w : Location, Legible w → w.scheme = "file" → w.text ≠ u.text :=
    fun w hw hfile => text_ne_of_scheme_ne hw (Location.legible_of_read hread) hfile hscheme
  have hledger := hinert.ledger
  have hsilent := hinert.silent
  have habout := Message.about_of_location? hu
  by_cases hs : s.phase = .serving
  · cases habout with
    | opened hread hv =>
      rw [handle_opened hs hread hv] at hledger hsilent ⊢
      refine ⟨⟨rfl, rfl, rfl, hledger, fun w hw hfile => ?_⟩, fun n hn => ?_⟩
      · exact (Keyed.get?_insert ..).trans (if_neg (hother w hw hfile))
      · obtain ⟨p, -, rfl⟩ := List.mem_map.mp hn
        obtain ⟨_, _, hm, -⟩ := hsilent p hn
        exact absurd hm (by simp)
    | unversioned hread hversion =>
      rw [handle_unversioned hs hversion]
      exact ⟨.refl s, by simp⟩
    | saved hread =>
      rw [handle_saved hs hread] at hledger hsilent ⊢
      refine ⟨⟨rfl, rfl, rfl, hledger, fun _ _ _ => rfl⟩, fun n hn => ?_⟩
      obtain ⟨p, -, rfl⟩ := List.mem_map.mp hn
      obtain ⟨_, _, hm, -⟩ := hsilent p hn
      exact absurd hm (by simp)
    | closed hread =>
      rw [handle_closed hs hread] at hledger ⊢
      refine ⟨⟨rfl, rfl, rfl, hledger, fun w hw hfile => ?_⟩, fun n hn => ?_⟩
      · exact (Keyed.get?_erase ..).trans (if_neg (hother w hw hfile))
      · obtain rfl := List.mem_singleton.mp hn
        exact decide_eq_true hscheme
  · rw [handle_of_not_serving hs habout]
    exact ⟨.refl s, by simp⟩

theorem AgreeOnFiles.eq (hagree : AgreeOnFiles s s') : s' = s.withDocuments s'.versions s.ledger := by
  obtain ⟨phase, root, analyser, versions, ledger⟩ := s'
  obtain ⟨rfl, rfl, rfl, rfl, -⟩ := hagree
  rfl

/-- **A message about files, or about no document**, does the same in sessions that agree on files, and is
answered alike. -/
theorem AgreeOnFiles.handle (hagree : AgreeOnFiles s s') (hm : m.isForeign = false) (h : Host) :
    AgreeOnFiles (s.handle h m).1 (s'.handle h m).1 ∧ (s'.handle h m).2 = (s.handle h m).2 := by
  cases hu : m.location? with
  | none =>
    obtain ⟨hversions, hledger⟩ := handle_frame hu h s
    rw [hagree.eq, handle_withDocuments h s s'.versions s.ledger hu]
    refine ⟨⟨rfl, rfl, rfl, hledger.symm, fun w hw hfile => ?_⟩, rfl⟩
    rw [hversions]
    exact hagree.versions w hw hfile
  | some u =>
    obtain ⟨l, -, hread⟩ := Message.read_of_location? hu
    have habout := Message.about_of_location? hu
    by_cases hs : s.phase = .serving
    · have hs' : s'.phase = .serving := hagree.phase.trans hs
      cases habout with
      | opened hread hv =>
        rw [handle_opened hs hread hv, handle_opened hs' hread hv]
        unfold openDocument validate
        dsimp only
        rw [hagree.analyser, hagree.ledger]
        refine ⟨⟨hagree.phase, hagree.root, rfl, rfl, fun w hw hfile => ?_⟩, rfl⟩
        dsimp only
        rw [Keyed.get?_insert, Keyed.get?_insert, hagree.versions w hw hfile]
      | unversioned hread hversion =>
        rw [handle_unversioned hs hversion, handle_unversioned hs' hversion]
        exact ⟨hagree, rfl⟩
      | saved hread =>
        have hversion := hagree.versions u (Location.legible_of_read hread)
          (Message.scheme_of_location? hm hu)
        rw [handle_saved hs hread, handle_saved hs' hread]
        unfold saveDocument validate
        dsimp only
        rw [hagree.analyser, hagree.ledger, hversion]
        exact ⟨⟨hagree.phase, hagree.root, rfl, rfl, hagree.versions⟩, rfl⟩
      | closed hread =>
        rw [handle_closed hs hread, handle_closed hs' hread]
        unfold closeDocument
        dsimp only
        rw [hagree.ledger]
        refine ⟨⟨hagree.phase, hagree.root, hagree.analyser, rfl, fun w hw hfile => ?_⟩, rfl⟩
        dsimp only
        rw [Keyed.get?_erase, Keyed.get?_erase, hagree.versions w hw hfile]
    · have hs' : s'.phase ≠ .serving := fun hs' => hs (hagree.phase.symm.trans hs')
      rw [handle_of_not_serving hs habout, handle_of_not_serving hs' habout]
      exact ⟨hagree, rfl⟩

/-- What is sent for a message about files, or about no document, is about no foreign document. -/
theorem isForeign_of_mem_notices (hm : m.isForeign = false) {n : Notice}
    (hn : n ∈ (s.handle h m).2.notices) : n.isForeign = false := by
  cases n with
  | say text => rfl
  | publish p =>
    have hfile : p.location.scheme = "file" := by
      have heffect := effect_handle h s m
      generalize (s.handle h m).1 = s' at heffect
      generalize (s.handle h m).2.notices = notices at heffect hn
      cases heffect with
      | opened _ _ _ => exact Analysis.scheme_of_mem_publications (publish_mem_map_iff.mp hn)
      | saved _ _ => exact Analysis.scheme_of_mem_publications (publish_mem_map_iff.mp hn)
      | @closed l u _ hread =>
        obtain rfl : p = ⟨u, [], none⟩ := by simpa using hn
        refine Message.scheme_of_location? hm ?_
        simp [Message.location?, Message.document?, hread, Except.toOption]
      | other _ _ hsilent => exact absurd hn (hsilent p)
    simp [Notice.isForeign, hfile]

/-! ### Whole exchanges -/

/-- **Inert messages about foreign documents can be left out of an exchange**: the sessions agree on files,
and all that is sent besides what is shown for foreign documents is sent without them. -/
theorem filter_foreign (turns : List Turn)
    (hinert : ∀ earlier t, earlier ++ [t] <+: turns → t.message.isForeign = true →
      Inert t.host (Exchange.ofTurns earlier).session t.message) :
    AgreeOnFiles (Exchange.ofTurns (turns.filter fun t => !t.message.isForeign)).session
        (Exchange.ofTurns turns).session ∧
      (Exchange.ofTurns (turns.filter fun t => !t.message.isForeign)).notices =
        (Exchange.ofTurns turns).notices.filter fun n => !n.isForeign := by
  -- From the back: the session that meets the last turn is the one behind all turns before it.
  induction turns using List.reverseRecOn with
  | nil => exact ⟨.refl _, rfl⟩
  | append_singleton turns t ih =>
    obtain ⟨hagree, hnotices⟩ := ih fun earlier t' hpre =>
      hinert earlier t' (hpre.trans (List.prefix_append turns [t]))
    rw [List.filter_append, Exchange.ofTurns_append_singleton, Exchange.next, List.filter_append]
    cases hm : t.message.isForeign with
    | true =>
      obtain ⟨hkept, hforeign⟩ := (hinert turns t List.prefix_rfl hm).agreeOnFiles hm
      have hturn : [t].filter (fun t => !t.message.isForeign) = [] := by simp [hm]
      have hnothing : ((Exchange.ofTurns turns).session.handle t.host t.message).2.notices.filter
          (fun n => !n.isForeign) = [] := by
        rw [List.filter_eq_nil_iff]
        intro n hn
        simp [hforeign n hn]
      rw [hturn, hnothing, List.append_nil, List.append_nil]
      exact ⟨hagree.trans hkept, hnotices⟩
    | false =>
      obtain ⟨hkept, hreply⟩ := hagree.handle hm t.host
      have hturn : [t].filter (fun t => !t.message.isForeign) = [t] := by simp [hm]
      have hall : ((Exchange.ofTurns turns).session.handle t.host t.message).2.notices.filter
          (fun n => !n.isForeign) =
            ((Exchange.ofTurns turns).session.handle t.host t.message).2.notices := by
        rw [List.filter_eq_self]
        intro n hn
        simp [isForeign_of_mem_notices hm hn]
      rw [hturn, hall, Exchange.ofTurns_append_singleton, Exchange.next, hnotices, hreply]
      exact ⟨hkept, rfl⟩

/-- **Whether a message about a document is inert is a matter of the path of its location**, and never of
its scheme. In a session that is served, an opening and a saving are inert exactly if there is no path; a
closing blanks its own location whatever it is, and is inert exactly if nothing is known at its path. And
if the messages about foreign documents in an exchange are inert, the exchange without them comes to the
same: the sessions agree on files, and the same is sent besides what is shown for foreign documents. -/
theorem inert_iff (h : Host) (s : Session) (turns : List Turn) :
    (∀ l u, Location.read l = .ok u →
      (∀ v, isVersion v = true →
        (Inert h s (.opened l (some v)) ↔ (s.phase = .serving → u.path? = none))) ∧
      (Inert h s (.saved l) ↔ (s.phase = .serving → u.path? = none)) ∧
      (Inert h s (.closed l) ↔ (s.phase = .serving → ∀ k ∈ u.path?, s.ledger.get? k = none)) ∧
      (s.phase = .serving → (s.handle h (.closed l)).2.notices = [.publish ⟨u, [], none⟩])) ∧
    ((∀ earlier t, earlier ++ [t] <+: turns → t.message.isForeign = true →
        Inert t.host (Exchange.ofTurns earlier).session t.message) →
      AgreeOnFiles (Exchange.ofTurns (turns.filter fun t => !t.message.isForeign)).session
          (Exchange.ofTurns turns).session ∧
        (Exchange.ofTurns (turns.filter fun t => !t.message.isForeign)).notices =
          (Exchange.ofTurns turns).notices.filter fun n => !n.isForeign) := by
  refine ⟨fun l u hread => ⟨fun v hv => inert_opened_iff hread hv, inert_saved_iff hread,
    inert_closed_iff hread, fun hs => ?_⟩, filter_foreign turns⟩
  rw [handle_closed hs hread]
  rfl

/-- An exchange about a file, a draft without a path and a revision on another host, as if it were about
the file alone; behind it, a draft at a path where nothing is known can be closed. -/
theorem inert_iff_draft :
    let host : Host := { files := {}, run := fun _ _ => .ok ⟨.exited 1, "a:2:1:error: x\n", ""⟩ }
    let plain : List Message := [.begin none, .opened "file:///a" (some 1), .saved "file:///a"]
    let said : List Message :=
      [.begin none, .opened "untitled:a" (some 3), .opened "file:///a" (some 1),
        .opened "git://pages/a" (some 1), .saved "untitled:a", .saved "file:///a",
        .closed "git://pages/a", .closed "untitled:a"]
    let x := Exchange.ofTurns (said.map (Turn.mk host))
    let y := Exchange.ofTurns (plain.map (Turn.mk host))
    (∀ earlier t, earlier ++ [t] <+: said.map (Turn.mk host) → t.message.isForeign = true →
        Inert t.host (Exchange.ofTurns earlier).session t.message) ∧
      AgreeOnFiles y.session x.session ∧ y.notices = x.notices.filter (fun n => !n.isForeign) ∧
      Inert host x.session (.closed "untitled:/b") := by
  intro host plain said x y
  have hpathless : ∀ m ∈ said, ∀ u ∈ m.location?, m.isForeign = true → u.path? = none := by
    decide +kernel
  have hinert : ∀ earlier t, earlier ++ [t] <+: said.map (Turn.mk host) →
      t.message.isForeign = true → Inert t.host (Exchange.ofTurns earlier).session t.message := by
    intro earlier t hpre hforeign
    obtain ⟨m, hm, rfl⟩ := List.mem_map.mp (hpre.subset (a := t) (by simp))
    obtain ⟨u, hu, -⟩ := Message.exists_location_of_isForeign hforeign
    exact inert_of_path?_eq_none hu (hpathless m hm u hu hforeign)
  have hplain : (said.map (Turn.mk host)).filter (fun t => !t.message.isForeign) =
      plain.map (Turn.mk host) := by
    have hsaid : said.filter (fun m => !m.isForeign) = plain := by decide +kernel
    rw [List.filter_map, ← hsaid]
    rfl
  obtain ⟨hagree, hnotices⟩ := (inert_iff host x.session _).2 hinert
  rw [hplain] at hagree hnotices
  refine ⟨hinert, hagree, hnotices, ?_⟩
  have hread : Location.read "untitled:/b" =
      .ok { scheme := "untitled", authority := none, path := .names ["b"] } := by
    decide +kernel
  have hunknown : x.session.ledger.get? "/b" = none := by decide +kernel
  refine ((inert_iff host x.session []).1 "untitled:/b" _ hread).2.2.1.mpr fun _ k hk => ?_
  have hpath : Location.path? { scheme := "untitled", authority := none, path := .names ["b"] } =
      some "/b" := by
    decide +kernel
  rw [hpath] at hk
  obtain rfl := Option.some.inj hk
  exact hunknown

/-- **A message about a draft can act on a file**: the location of the draft has a path, so the tool runs on
the file there when the draft is opened or saved, the findings are shown for the file, and when the draft
is closed those of the file are forgotten. -/
theorem not_inert_draft :
    let host : Host := { files := {}, run := fun _ _ => .ok ⟨.exited 1, "a:2:1:error: x\n", ""⟩ }
    let file : Location :=
      { scheme := "file", authority := some {}, path := .names ["tmp", "a.sv"] }
    let x := Exchange.ofTurns [⟨host, .begin none⟩]
    let y := x.next ⟨host, .opened "file:///tmp/a.sv" (some 1)⟩
    (∃ u, Location.read "untitled:/tmp/a.sv" = .ok u ∧ u.scheme ≠ "file") ∧
      (.publish ⟨file, [⟨1, 0, .error, "error: x"⟩], some 1⟩ ∈
          (x.session.handle host (.opened "untitled:/tmp/a.sv" (some 1))).2.notices ∧
        ¬Inert host x.session (.opened "untitled:/tmp/a.sv" (some 1))) ∧
      ¬Inert host x.session (.saved "untitled:/tmp/a.sv") ∧
      (y.session.ledger.get? "/tmp/a.sv" ≠ none ∧
        (y.next ⟨host, .closed "untitled:/tmp/a.sv"⟩).session.ledger.get? "/tmp/a.sv" = none ∧
        ¬Inert host y.session (.closed "untitled:/tmp/a.sv")) := by
  intro host file x y
  have hread : Location.read "untitled:/tmp/a.sv" =
      .ok { scheme := "untitled", authority := none, path := .names ["tmp", "a.sv"] } := by
    decide +kernel
  have hpath : Location.path?
      { scheme := "untitled", authority := none, path := .names ["tmp", "a.sv"] } =
      some "/tmp/a.sv" := by
    decide +kernel
  have hknown : y.session.ledger.get? "/tmp/a.sv" ≠ none := by decide +kernel
  refine ⟨⟨_, hread, by decide⟩, ⟨by decide +kernel, fun hinert => ?_⟩, fun hinert => ?_, hknown,
    by decide +kernel, fun hinert => hknown ?_⟩
  · rw [inert_opened_iff hread rfl, hpath] at hinert
    exact absurd (hinert rfl) (by simp)
  · rw [inert_saved_iff hread, hpath] at hinert
    exact absurd (hinert rfl) (by simp)
  · exact (inert_closed_iff hread).mp hinert rfl "/tmp/a.sv" hpath

end Session
end LintLedger
