import LintLedger.Proofs.CommandLine.Status
import LintLedger.Proofs.Session.Reload

/-!
# Going on and beginning anew

When a settings file changes, a session reads its settings anew, and one would think that it goes on as
a session would that begins now in the same folder. Where there is a settings file, and it can be loaded,
it does. Where the settings file is gone, it does not: a reading that finds none changes nothing, so the
old settings stay in force, and only a new session has the default ones.
`LintLedger.Session.agreesWithNew_iff` is the exact condition. A command in the folder is always like a new
session (`LintLedger.Session.analyser_new_of_follows`).
-/

namespace LintLedger.Session

/-- **Going on agrees with beginning anew**: behind the change of files, documents are analysed as in a
session that begins now at the location. -/
def Exchange.AgreesWithNew (x : Exchange) (h : Host) (ls : List String) (l : String) : Prop :=
  (x.next ⟨h, .changed ls⟩).session.analyser =
    (Exchange.ofTurns [⟨h, .begin (some l)⟩]).session.analyser

variable {h : Host} {s : Session} {x : Exchange} {ls : List String} {us : List Location} {l : String}
  {u : Location} {root path : List UInt8}

/-! ### A new session -/

section New

variable (hread : Location.read l = .ok u) (hfolder : u.pathBytes? = some root)

include hread hfolder

/-- A new session has read the settings of its folder. -/
theorem session_new (h : Host) :
    (Exchange.ofTurns [⟨h, .begin (some l)⟩]).session =
      (reload h { phase := .serving, root := some root }).1 :=
  (handle_of_asks (.begin rfl hread hfolder : Asks {} _ _) h).1

theorem analyser_new_of_loads (hpath : Settings.discover? h.files root = some path) {a : Analyser}
    (hloads : Analyser.Loads h.files path (.ok a)) :
    (Exchange.ofTurns [⟨h, .begin (some l)⟩]).session.analyser = a := by
  rw [session_new hread hfolder, reload_of_loads_ok rfl hpath hloads]

/-- In a folder without settings a new session has the default ones. -/
theorem analyser_new_of_none (hnone : Settings.discover? h.files root = none) :
    (Exchange.ofTurns [⟨h, .begin (some l)⟩]).session.analyser = {} := by
  rw [session_new hread hfolder, reload_of_discover?_eq_none]
  intro root' hroot'
  rwa [← Option.some.inj hroot']

/-- A new session whose settings cannot be loaded has the default ones too. -/
theorem analyser_new_of_fault (hpath : Settings.discover? h.files root = some path)
    {fault : Settings.LoadFault} (hloads : Analyser.Loads h.files path (.error fault)) :
    (Exchange.ofTurns [⟨h, .begin (some l)⟩]).session.analyser = {} := by
  rw [session_new hread hfolder, reload_of_loads_error rfl hpath hloads]

end New

/-! ### A command in the same folder -/

section Command

open CommandLine (Follows Unsettled herePath settingsFile?)

variable (hread : Location.read l = .ok u)
  (hfolder : u.pathBytes? = some (Text.Utf8.encode (herePath h.files)))

include hread hfolder

/-- **A new session in the folder of a command** analyses documents as the command does, if no settings file
is given to the command. -/
theorem analyser_new_of_follows {a : Analyser} (hfollows : Follows h.files none a) :
    (Exchange.ofTurns [⟨h, .begin (some l)⟩]).session.analyser = a := by
  cases hfollows with
  | @written path a hfile hloads =>
    have hpath : Settings.discover? h.files (Text.Utf8.encode (herePath h.files)) =
        some (Text.Utf8.encode path) := by
      rw [settingsFile?, Option.none_or] at hfile
      rw [Settings.discover?_encode, hfile, Option.map_some]
    exact analyser_new_of_loads hread hfolder hpath (Analyser.loads_encode_iff.mpr hloads)
  | default hnone =>
    rw [settingsFile?, Option.none_or] at hnone
    refine analyser_new_of_none hread hfolder ?_
    rw [Settings.discover?_encode, hnone, Option.map_none]

/-- Where the command fails for want of an analyser, the session has the default one. -/
theorem analyser_new_of_unsettled (hunsettled : Unsettled h.files none) :
    (Exchange.ofTurns [⟨h, .begin (some l)⟩]).session.analyser = {} := by
  obtain ⟨path, fault, hfile, hloads⟩ := hunsettled
  rw [settingsFile?, Option.none_or] at hfile
  refine analyser_new_of_fault hread hfolder ?_ (Analyser.loads_encode_iff.mpr hloads)
  rw [Settings.discover?_encode, hfile, Option.map_some]

end Command

/-! ### A change of files -/

section Changed

variable (hreads : ls.mapM Location.read = .ok us)

include hreads

/-- If no settings file is named, the analyser stays. -/
theorem analyser_changed_of_not_named (hnot : ¬∃ u ∈ us, isSettingsFile u = true) (h : Host) :
    (s.handle h (.changed ls)).1.analyser = s.analyser := by
  refine (handle_of_not_asks (fun r hasks => hnot ?_) h).1
  cases hasks with
  | changed _ hreads' hnamed =>
    obtain rfl := Except.ok.inj (hreads.symm.trans hreads')
    exact hnamed

variable (hserving : s.phase = .serving) (hroot : s.root = some root)

include hserving hroot

/-- If the folder has settings, they are those of the session or are read now. -/
theorem analyser_changed_eq_iff (hpath : Settings.discover? h.files root = some path) {a : Analyser}
    (hloads : Analyser.Loads h.files path (.ok a)) :
    (s.handle h (.changed ls)).1.analyser = a ↔
      (∃ u ∈ us, isSettingsFile u = true) ∨ s.analyser = a := by
  by_cases hnamed : ∃ u ∈ us, isSettingsFile u = true
  · refine iff_of_true ?_ (Or.inl hnamed)
    rw [(handle_of_asks (.changed hserving hreads hnamed) h).1,
      reload_of_loads_ok hroot hpath hloads]
  · rw [analyser_changed_of_not_named hreads hnamed h, or_iff_right hnamed]

/-- If the folder has no settings, the analyser stays. -/
theorem analyser_changed_of_none (hnone : Settings.discover? h.files root = none) :
    (s.handle h (.changed ls)).1.analyser = s.analyser := by
  by_cases hnamed : ∃ u ∈ us, isSettingsFile u = true
  · rw [(handle_of_asks (.changed hserving hreads hnamed) h).1, reload_of_discover?_eq_none]
    intro root' hroot'
    rwa [← Option.some.inj (hroot.symm.trans hroot')]
  · exact analyser_changed_of_not_named hreads hnamed h

end Changed

/-- **Going on agrees with beginning anew exactly if** the folder has settings, and they are read now or
were in force before, or it has none, and the default ones were in force before. -/
theorem agreesWithNew_iff (hserving : x.session.phase = .serving) (hroot : x.session.root = some root)
    (hreads : ls.mapM Location.read = .ok us) (hread : Location.read l = .ok u)
    (hfolder : u.pathBytes? = some root)
    (hloads : ∀ path, Settings.discover? h.files root = some path →
      ∃ a, Analyser.Loads h.files path (.ok a)) :
    x.AgreesWithNew h ls l ↔
      (∃ path, Settings.discover? h.files root = some path ∧
        ((∃ u ∈ us, isSettingsFile u = true) ∨
          Analyser.Loads h.files path (.ok x.session.analyser))) ∨
        (Settings.discover? h.files root = none ∧ x.session.analyser = {}) := by
  unfold Exchange.AgreesWithNew Exchange.next
  dsimp only
  cases hpath : Settings.discover? h.files root with
  | none =>
    rw [analyser_new_of_none hread hfolder hpath,
      analyser_changed_of_none hreads hserving hroot hpath]
    simp
  | some path =>
    obtain ⟨a, ha⟩ := hloads path hpath
    have hsame : Analyser.Loads h.files path (.ok x.session.analyser) ↔ x.session.analyser = a := by
      rw [Analyser.loads_iff, Analyser.loads_iff.mp ha, Except.ok.injEq, eq_comm]
    rw [analyser_new_of_loads hread hfolder hpath ha,
      analyser_changed_eq_iff hreads hserving hroot hpath ha, ← hsame]
    simp

/-- A settings file is written into the folder of a session that began without one. -/
theorem agreesWithNew_iff_written :
    let host (entries : List (List String × Entry)) : Host :=
      { files := { entries := entries }, run := fun _ _ => .error .notFound }
    let written := host [([".lintbridge.json"],
      .file (Text.Utf8.encode "\x7b\"tool\": \x7b\"program\": \"echo\"\x7d\x7d"))]
    let x := Exchange.ofTurns [⟨host [], .begin (some "file:///")⟩]
    x.AgreesWithNew written ["file:///.lintbridge.json"] "file:///" := by
  intro host written x
  have hread : Location.read "file:///" =
      .ok { scheme := "file", authority := some {}, path := .names [""] } := by
    decide +kernel
  have hreads : ["file:///.lintbridge.json"].mapM Location.read =
      .ok [{ scheme := "file", authority := some {}, path := .names [".lintbridge.json"] }] := by
    decide +kernel
  have hdirect : ∀ name ∈ Settings.fileNames,
      written.files.IsDirect (Path.Form.join ([0x2F] : List UInt8) name) ([] ++ [name]) := by
    decide +kernel
  have hdiscover : Settings.discover? written.files ([0x2F] : List UInt8) =
      some (Path.joinBytes [0x2F] ".lintbridge.json") := by
    rw [Settings.discover?_of_isDirect hdirect]
    decide +kernel
  have hloads : Analyser.Loads written.files (Path.joinBytes [0x2F] ".lintbridge.json") (.ok _) :=
    @Analyser.loads_of_isDirect _ _ _ _ _ _ { tool := { program := "echo" } } _
      (hdirect _ (by decide)) ⟨rfl, rfl⟩ (by decide +kernel) rfl
  obtain ⟨hphase, hroot⟩ := phase_root_of_asks
    (.begin rfl hread (by decide +kernel) : Asks {} _ { phase := .serving, root := some [0x2F] })
    (host [])
  refine (agreesWithNew_iff hphase hroot hreads hread (by decide +kernel) ?_).mpr
    (Or.inl ⟨_, hdiscover, Or.inl ⟨_, List.mem_singleton_self _, by decide +kernel⟩⟩)
  intro path hpath
  obtain rfl := Option.some.inj (hdiscover.symm.trans hpath)
  exact ⟨_, hloads⟩

/-- **A session can go on with settings that are gone**: it begins in a folder whose settings choose
another program, the settings file is removed and named as changed, and that program still is the one of
the session, though a new session would have the default one. -/
theorem not_agreesWithNew_removed :
    let host (entries : List (List String × Entry)) : Host :=
      { files := { entries := entries }, run := fun _ _ => .error .notFound }
    let written := host [([".lintbridge.json"],
      .file (Text.Utf8.encode "\x7b\"tool\": \x7b\"program\": \"echo\"\x7d\x7d"))]
    let x := Exchange.ofTurns [⟨written, .begin (some "file:///")⟩]
    x.session.phase = .serving ∧ x.session.root = some [0x2F] ∧
      Settings.discover? (host []).files ([0x2F] : List UInt8) = none ∧
      (∃ u, Location.read "file:///.lintbridge.json" = .ok u ∧
        u.path? = some "/.lintbridge.json" ∧ isSettingsFile u = true) ∧
      ¬x.AgreesWithNew (host []) ["file:///.lintbridge.json"] "file:///" := by
  intro host written x
  have hread : Location.read "file:///" =
      .ok { scheme := "file", authority := some {}, path := .names [""] } := by
    decide +kernel
  have hreads : ["file:///.lintbridge.json"].mapM Location.read =
      .ok [{ scheme := "file", authority := some {}, path := .names [".lintbridge.json"] }] := by
    decide +kernel
  have hdirect : ∀ host' ∈ [written, host []], ∀ name ∈ Settings.fileNames,
      host'.files.IsDirect (Path.Form.join ([0x2F] : List UInt8) name) ([] ++ [name]) := by
    decide +kernel
  have hdiscover : Settings.discover? written.files ([0x2F] : List UInt8) =
      some (Path.joinBytes [0x2F] ".lintbridge.json") := by
    rw [Settings.discover?_of_isDirect (hdirect written (by simp))]
    decide +kernel
  have hnone : Settings.discover? (host []).files ([0x2F] : List UInt8) = none := by
    rw [Settings.discover?_of_isDirect (hdirect (host []) (by simp))]
    decide +kernel
  have hloads : Analyser.Loads written.files (Path.joinBytes [0x2F] ".lintbridge.json") (.ok _) :=
    @Analyser.loads_of_isDirect _ _ _ _ _ _ { tool := { program := "echo" } } _
      (hdirect written (by simp) _ (by decide)) ⟨rfl, rfl⟩ (by decide +kernel) rfl
  obtain ⟨hphase, hroot⟩ := phase_root_of_asks
    (.begin rfl hread (by decide +kernel) : Asks {} _ { phase := .serving, root := some [0x2F] }) written
  have hanalyser : x.session.analyser = ⟨{ program := "echo" }, {}⟩ :=
    analyser_new_of_loads hread (by decide +kernel) hdiscover hloads
  refine ⟨hphase, hroot, hnone,
    ⟨{ scheme := "file", authority := some {}, path := .names [".lintbridge.json"] },
      by decide +kernel, by decide +kernel, by decide +kernel⟩, fun hagrees => ?_⟩
  -- The session still has the other program, a new one has the default one.
  have hdefault : (⟨{ program := "echo" }, {}⟩ : Analyser) = {} :=
    calc (⟨{ program := "echo" }, {}⟩ : Analyser)
      _ = x.session.analyser := hanalyser.symm
      _ = (x.next ⟨host [], .changed ["file:///.lintbridge.json"]⟩).session.analyser :=
        (analyser_changed_of_none hreads hphase hroot hnone).symm
      _ = (Exchange.ofTurns [⟨host [], .begin (some "file:///")⟩]).session.analyser := hagrees
      _ = {} := analyser_new_of_none hread (by decide +kernel) hnone
  exact absurd (congrArg (fun a => a.tool.program) hdefault) (by decide)

end LintLedger.Session
