import LintLedger.Proofs.Session.Messages
import LintLedger.Proofs.Settings.Loading
import LintLedger.Proofs.Text.Utf8
import Mathlib.Data.List.Induction

/-!
# Reading settings anew

The settings of a workspace are read when a session begins in its folder and when a settings file
changes (`LintLedger.Session.Asks`), and never else. A reading puts in the analyser that was loaded, as a
whole, or changes nothing, whatever the stage at which the loading failed; documents and what is known
about them stay as they are in any case. So whatever an exchange comes to, its analyser is the default
one or one that was once loaded from a settings file (`LintLedger.Session.reload_atomic`).
-/

namespace LintLedger.Session

variable {h : Host} {s r : Session} {m : Message} {root path : List UInt8}

/-! ### One reading -/

theorem reload_of_discover?_eq_none
    (hnone : ∀ root, r.root = some root → Settings.discover? h.files root = none) :
    (reload h r).1 = r := by
  unfold reload
  split
  · rfl
  · next root hroot => rw [hnone root hroot]

theorem reload_of_loads_ok (hroot : r.root = some root)
    (hpath : Settings.discover? h.files root = some path) {a : Analyser}
    (hloads : Analyser.Loads h.files path (.ok a)) :
    (reload h r).1 = { r with analyser := a } := by
  simp only [reload, hroot, hpath, Analyser.loads_iff.mp hloads]

theorem reload_of_loads_error (hroot : r.root = some root)
    (hpath : Settings.discover? h.files root = some path) {fault : Settings.LoadFault}
    (hloads : Analyser.Loads h.files path (.error fault)) : (reload h r).1 = r := by
  simp only [reload, hroot, hpath, Analyser.loads_iff.mp hloads]

/-- A reading changes nothing, or puts in the analyser that was loaded. -/
theorem reload_cases (h : Host) (r : Session) :
    (reload h r).1 = r ∨
      ∃ root path a, r.root = some root ∧ Settings.discover? h.files root = some path ∧
        Analyser.Loads h.files path (.ok a) ∧ (reload h r).1 = { r with analyser := a } := by
  by_cases hnone : ∀ root, r.root = some root → Settings.discover? h.files root = none
  · exact Or.inl (reload_of_discover?_eq_none hnone)
  · push Not at hnone
    obtain ⟨root, hroot, hpath⟩ := hnone
    obtain ⟨path, hpath⟩ := Option.ne_none_iff_exists'.mp hpath
    obtain ⟨outcome, hloads, -⟩ := Analyser.existsUnique_loads h.files path
    cases outcome with
    | error fault => exact Or.inl (reload_of_loads_error hroot hpath hloads)
    | ok a =>
      exact Or.inr ⟨root, path, a, hroot, hpath, hloads, reload_of_loads_ok hroot hpath hloads⟩

/-! ### When settings are read -/

/-- **When settings are read**, and in which session. -/
inductive Asks (s : Session) : Message → Session → Prop where
  /-- The session begins in a folder whose path is known, and this now is its root. -/
  | begin {l : String} {u : Location} {root : List UInt8} (fresh : s.phase = .fresh)
      (read : Location.read l = .ok u) (folder : u.pathBytes? = some root) :
      Asks s (.begin (some l)) { s with phase := .serving, root := some root }
  /-- Files have changed, and one of them has the name of a settings file. -/
  | changed {ls : List String} {us : List Location} (serving : s.phase = .serving)
      (read : ls.mapM Location.read = .ok us) (named : ∃ u ∈ us, isSettingsFile u = true) :
      Asks s (.changed ls) s

theorem Asks.frame (hasks : s.Asks m r) :
    r.analyser = s.analyser ∧ r.versions = s.versions ∧ r.ledger = s.ledger := by
  cases hasks <;> exact ⟨rfl, rfl, rfl⟩

/-- Reading settings does not look at how far the session has come. -/
theorem reload_phase (h : Host) (s : Session) (phase : Phase) :
    (reload h { s with phase := phase }).1 = { (reload h s).1 with phase := phase } := by
  unfold reload
  dsimp only
  split
  · rfl
  · split
    · rfl
    · split <;> rfl

/-- **A message on which settings are read** does this and nothing else. -/
theorem handle_of_asks (hasks : s.Asks m r) (h : Host) :
    (s.handle h m).1 = (reload h r).1 ∧ (s.handle h m).2.notices = [] := by
  cases hasks with
  | begin hfresh hread hfolder =>
    simp only [handle, hfresh, await, hread, begin, Option.bind_some, hfolder, and_true]
    exact (reload_phase h _ .serving).symm
  | changed hserving hread hnamed =>
    simp only [handle, hserving, serve, hread, changeFiles, List.any_eq_true.mpr hnamed, if_true,
      and_self]

theorem phase_root_of_asks (hasks : s.Asks m r) (h : Host) :
    (s.handle h m).1.phase = r.phase ∧ (s.handle h m).1.root = r.root := by
  rw [(handle_of_asks hasks h).1]
  rcases reload_cases h r with hsame | ⟨root, path, a, hroot, hpath, hloads, hreload⟩
  · rw [hsame]
    exact ⟨rfl, rfl⟩
  · rw [hreload]
    exact ⟨rfl, rfl⟩

/-! ### When settings are not read -/

theorem await_of_not_asks (hfresh : s.phase = .fresh) (hnot : ∀ r, ¬s.Asks m r) (h : Host) :
    (await h s m).1.analyser = s.analyser ∧ (await h s m).1.root = s.root := by
  cases m with
  | begin root =>
    cases root with
    | none => exact ⟨rfl, rfl⟩
    | some l =>
      unfold await
      dsimp only
      cases hread : Location.read l with
      | error fault => exact ⟨rfl, rfl⟩
      | ok u =>
        cases hfolder : u.pathBytes? with
        | none => simp only [begin, Option.bind_some, hfolder, and_self]
        | some root => exact absurd (.begin hfresh hread hfolder) (hnot _)
  | _ => exact ⟨rfl, rfl⟩

theorem serve_of_not_asks (hserving : s.phase = .serving) (hnot : ∀ r, ¬s.Asks m r) (h : Host) :
    (serve h s m).1.analyser = s.analyser ∧ (serve h s m).1.root = s.root := by
  unfold serve
  cases m with
  | opened l version =>
    dsimp only
    split <;> exact ⟨rfl, rfl⟩
  | saved l =>
    dsimp only
    split <;> exact ⟨rfl, rfl⟩
  | closed l =>
    dsimp only
    split <;> exact ⟨rfl, rfl⟩
  | changed ls =>
    dsimp only
    cases hread : ls.mapM Location.read with
    | error fault => exact ⟨rfl, rfl⟩
    | ok us =>
      dsimp only
      unfold changeFiles
      split
      · next hnamed => exact absurd (.changed hserving hread (List.any_eq_true.mp hnamed)) (hnot s)
      · exact ⟨rfl, rfl⟩
  | _ => exact ⟨rfl, rfl⟩

/-- On any other message neither the analyser nor the root changes. -/
theorem handle_of_not_asks (hnot : ∀ r, ¬s.Asks m r) (h : Host) :
    (s.handle h m).1.analyser = s.analyser ∧ (s.handle h m).1.root = s.root := by
  unfold handle
  split
  · next hfresh => exact await_of_not_asks hfresh hnot h
  · next hserving => exact serve_of_not_asks hserving hnot h
  · exact ⟨rfl, rfl⟩

/-- **What one message does to the analyser**: nothing, or it puts in the one that is loaded from the
settings file of the root. -/
theorem analyser_handle_cases (h : Host) (s : Session) (m : Message) :
    (s.handle h m).1.analyser = s.analyser ∨
      ∃ r root path, s.Asks m r ∧ r.root = some root ∧
        Settings.discover? h.files root = some path ∧
        Analyser.Loads h.files path (.ok (s.handle h m).1.analyser) := by
  by_cases hasks : ∃ r, s.Asks m r
  · obtain ⟨r, hr⟩ := hasks
    rw [(handle_of_asks hr h).1]
    rcases reload_cases h r with hsame | ⟨root, path, a, hroot, hpath, hloads, hreload⟩
    · rw [hsame]
      exact Or.inl hr.frame.1
    · rw [hreload]
      exact Or.inr ⟨r, root, path, hr, hroot, hpath, hloads⟩
  · push Not at hasks
    exact Or.inl (handle_of_not_asks hasks h).1

/-! ### Whole exchanges -/

/-- **Where the analyser of an exchange comes from**: it is the default one, or it was loaded from the
settings file of the root at one of the turns on which settings are read. -/
theorem analyser_ofTurns (turns : List Turn) :
    (Exchange.ofTurns turns).session.analyser = {} ∨
      ∃ earlier t r root path, earlier ++ [t] <+: turns ∧
        (Exchange.ofTurns earlier).session.Asks t.message r ∧ r.root = some root ∧
        Settings.discover? t.host.files root = some path ∧
        Analyser.Loads t.host.files path (.ok (Exchange.ofTurns turns).session.analyser) := by
  induction turns using List.reverseRecOn with
  | nil => exact Or.inl rfl
  | append_singleton turns t ih =>
    rw [Exchange.ofTurns_append_singleton]
    rcases analyser_handle_cases t.host (Exchange.ofTurns turns).session t.message with
      hsame | ⟨r, root, path, hasks, hroot, hpath, hloads⟩
    · rw [Exchange.next, hsame]
      refine ih.imp id ?_
      rintro ⟨earlier, t', r, root, path, hpre, hread⟩
      exact ⟨earlier, t', r, root, path, hpre.trans (List.prefix_append turns [t]), hread⟩
    · exact Or.inr ⟨turns, t, r, root, path, List.prefix_rfl, hasks, hroot, hpath, hloads⟩

/-- **Settings are read anew as a whole or not at all.** On a message on which they are read, nothing is
shown, and neither the versions nor the ledger change. If the root has a settings file, its loading has one
end: either the analyser of that file is put in and nothing else changes, or it fails at one of the stages
and nothing changes; without a settings file nothing changes either. On any other message the analyser and
the root stay as they are. So the analyser of an exchange is the default one, or it was loaded from one
settings file as a whole. -/
theorem reload_atomic :
    (∀ (h : Host) (s r : Session) (m : Message), s.Asks m r →
      (s.handle h m).1.versions = s.versions ∧ (s.handle h m).1.ledger = s.ledger ∧
        (s.handle h m).2.notices = [] ∧
        (∀ root path, r.root = some root → Settings.discover? h.files root = some path →
          (∃! outcome, Analyser.Loads h.files path outcome) ∧
            (∀ a, Analyser.Loads h.files path (.ok a) →
              (s.handle h m).1 = { r with analyser := a }) ∧
            ∀ fault, Analyser.Loads h.files path (.error fault) → (s.handle h m).1 = r) ∧
        ((∀ root, r.root = some root → Settings.discover? h.files root = none) →
          (s.handle h m).1 = r)) ∧
    (∀ (h : Host) (s : Session) (m : Message), (∀ r, ¬s.Asks m r) →
      (s.handle h m).1.analyser = s.analyser ∧ (s.handle h m).1.root = s.root) ∧
    ∀ turns, (Exchange.ofTurns turns).session.analyser = {} ∨
      ∃ earlier t r root path, earlier ++ [t] <+: turns ∧
        (Exchange.ofTurns earlier).session.Asks t.message r ∧ r.root = some root ∧
        Settings.discover? t.host.files root = some path ∧
        Analyser.Loads t.host.files path (.ok (Exchange.ofTurns turns).session.analyser) := by
  refine ⟨fun h s r m hasks => ?_, fun h s m hnot => handle_of_not_asks hnot h, analyser_ofTurns⟩
  obtain ⟨hreload, hnotices⟩ := handle_of_asks hasks h
  obtain ⟨hversions, hledger⟩ := reload_frame h r
  rw [hreload]
  refine ⟨hversions.trans hasks.frame.2.1, hledger.trans hasks.frame.2.2, hnotices,
    fun root path hroot hpath => ⟨Analyser.existsUnique_loads h.files path, ?_, ?_⟩,
    reload_of_discover?_eq_none⟩
  · exact fun a hloads => reload_of_loads_ok hroot hpath hloads
  · exact fun fault hloads => reload_of_loads_error hroot hpath hloads

/-- A session begins with settings in a folder whose path is no text. Then a file comes in which the pattern
of the second rule cannot be read, and later one that may not be read at all, and the session stays as it is
each time, as it does on a message that has nothing to do with settings. -/
theorem reload_atomic_kept :
    let folder := Path.nameOfBytes [0xFF]
    let place := [folder, ".lintbridge.json"]
    let host (text : String) (faults : List (List String × Files.Fault)) : Host :=
      { files :=
          { entries := [([folder], .folder), (place, .file (Text.Utf8.encode text))], faults := faults }
        run := fun _ _ => .error .notFound }
    let first := "\x7b\"tool\": \x7b\"program\": \"echo\"\x7d, \"stalePolicy\": \"clear\"\x7d"
    let second := "\x7b\"severity\": \x7b\"rules\": [" ++
      "\x7b\"pattern\": \"a\", \"severity\": \"error\"\x7d, " ++
      "\x7b\"pattern\": \"(\", \"severity\": \"error\"\x7d]\x7d\x7d"
    let barred := host "" [(place, .notPermitted)]
    let s : Session :=
      { phase := .serving
        root := some [0x2F, 0xFF]
        analyser := ⟨{ program := "echo" }, ⟨.ofKeyword "error", .document, .clear⟩⟩ }
    let m : Message := .changed ["file:///%FF/.lintbridge.json"]
    (handle (host first []) {} (.begin (some "file:///%FF"))).1 = s ∧ s.Asks m s ∧
      (s.handle (host second []) m).1 = s ∧ (s.handle barred m).1 = s ∧
      (s.handle (host second []) .initialized).1.analyser = s.analyser := by
  intro folder place host first second barred s m
  let path := Path.joinBytes [0x2F, 0xFF] ".lintbridge.json"
  have hdirect : ∀ h ∈ [host first [], host second [], barred], ∀ name ∈ Settings.fileNames,
      h.files.IsDirect (Path.Form.join ([0x2F, 0xFF] : List UInt8) name) ([folder] ++ [name]) := by
    decide +kernel
  have hdiscover : ∀ h ∈ [host first [], host second [], barred],
      Settings.discover? h.files ([0x2F, 0xFF] : List UInt8) = some path := by
    intro h hh
    rw [Settings.discover?_of_isDirect (hdirect h hh)]
    revert h
    decide +kernel
  have hbegin : Asks {} (.begin (some "file:///%FF")) { phase := .serving, root := some [0x2F, 0xFF] } :=
    @Asks.begin {} _ { scheme := "file", authority := some {}, path := .names ["%FF"] } _ rfl
      (by decide +kernel) (by decide +kernel)
  have hchanged : s.Asks m s :=
    @Asks.changed s _
      [{ scheme := "file", authority := some {}, path := .names ["%FF", ".lintbridge.json"] }] rfl
      (by decide +kernel) (by decide +kernel)
  have hholds : ∀ text ∈ [first, second], (host text []).files.Holds place (Text.Utf8.encode text) := by
    decide +kernel
  have hfirst : Analyser.Loads (host first []).files path (.ok s.analyser) :=
    @Analyser.loads_of_isDirect _ _ _ _ _ _ { tool := { program := "echo" }, stalePolicy := .clear } _
      (hdirect (host first []) (by simp) _ (by decide)) (hholds first (by simp)) (by decide +kernel) rfl
  have hsecond : ∃ fault, Analyser.Loads (host second []).files path
      (.error (.badPattern ⟨"(", fault⟩)) := by
    have hread : (host second []).files.readText path = .ok second :=
      Files.readText_of_isDirect (hdirect (host second []) (by simp) _ (by decide))
        (hholds second (by simp)) (Text.Utf8.decode?_encode second)
    have htext : (Settings.ofText second).toOption =
        some { severity := { rules := [⟨"a", .error⟩] ++ ⟨"(", .error⟩ :: [] } } := by
      decide +kernel
    obtain ⟨hwritten, hvalid⟩ :=
      Settings.isWritten_of_ofText hread (Settings.toOption_ofText_eq_some_iff.mp htext)
    have hgood : ∃ p, Pattern.compile "a" = .ok p := by
      have hok : (Pattern.compile "a").isOk = true := by decide +kernel
      cases hcompile : Pattern.compile "a" with
      | ok p => exact ⟨p, rfl⟩
      | error fault => simp [hcompile, Except.isOk, Except.toBool] at hok
    have hbad : (Pattern.compile "(").isOk = false := by decide +kernel
    cases hcompile : Pattern.compile "(" with
    | ok p => simp [hcompile, Except.isOk, Except.toBool] at hbad
    | error fault =>
      exact ⟨fault, .badPattern hwritten hvalid rfl (List.forall_mem_singleton.mpr hgood) hcompile⟩
  have hbarred : barred.files.readText path = .error .notPermitted := by
    have hentry : barred.files.entry? place = some (.file (Text.Utf8.encode "")) := by decide +kernel
    exact Files.readText_of_fault (hdirect barred (by simp) _ (by decide)) hentry (by decide +kernel)
  refine ⟨?_, hchanged, ?_, ?_, ?_⟩
  · exact ((reload_atomic.1 (host first []) _ _ _ hbegin).2.2.2.1 _ _ rfl
      (hdiscover (host first []) (by simp))).2.1 _ hfirst
  · obtain ⟨fault, hloads⟩ := hsecond
    exact ((reload_atomic.1 (host second []) s s m hchanged).2.2.2.1 _ _ rfl
      (hdiscover (host second []) (by simp))).2.2 _ hloads
  · exact ((reload_atomic.1 barred s s m hchanged).2.2.2.1 _ _ rfl (hdiscover barred (by simp))).2.2 _
      (.unreadable hbarred)
  · exact (reload_atomic.2.1 (host second []) s .initialized (by rintro r ⟨⟩)).1

end LintLedger.Session
