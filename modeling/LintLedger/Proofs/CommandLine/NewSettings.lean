import LintLedger.Proofs.CommandLine.Check
import LintLedger.Proofs.Text.Split
import LintLedger.Proofs.Text.Utf8

/-!
# A settings file to start with

The command that writes a settings file first makes room, by force only, and then writes a new file. Neither
step touches anything but the entry of that one name, and the second one refuses whatever stands there
(`LintLedger.CommandLine.init_cases`): so a file, a link and a folder are in the way without force, a folder
is in the way with it, and what a link leads to is never written to. A command that is refused has not
removed anything before.

What is written is read again as the default settings (`LintLedger.Settings.ofText_template`), and it is what
a command in the same folder finds (`LintLedger.CommandLine.settings_of_template`), whatever else lies there:
the name is the first one that is looked for. All this together is `LintLedger.CommandLine.run_init`.
-/

namespace LintLedger

/-! ### The settings to start with -/

namespace Settings

/-- A text is read by its characters. -/
theorem ofText_ofList {text : String} {cs : List Char} (htext : text = String.ofList cs) {s : Settings}
    (hread : ((Json.Commented.readChars cs).toOption.bind fun value =>
      (ofJson (value.getD (.object []))).toOption) = some s) :
    ofText text = .ok s := by
  subst htext
  unfold ofText Json.Commented.read
  rw [String.toList_ofList]
  cases hchars : Json.Commented.readChars cs with
  | error fault => simp [hchars, Except.toOption] at hread
  | ok value =>
    cases hvalue : ofJson (value.getD (.object [])) with
    | error fault => simp [hchars, hvalue, Except.toOption] at hread
    | ok t =>
      have hts : t = s := by simpa [hchars, hvalue, Except.toOption] using hread
      simp [hvalue, hts]

theorem load_of_readText {f : Files} {path text : String} {s : Settings} (hread : f.readText path = .ok text)
    (htext : ofText text = .ok s) : load f path = .ok { s with folder := some (Path.folder path) } := by
  simp only [load, hread, htext, Path.Form.shown_text]

set_option maxRecDepth 4000 in
/-- **The settings file to start with holds the default settings.** -/
theorem ofText_template : ofText template = .ok {} := by
  unfold template
  -- The characters of the text as it stands here; to take them off its bytes again is much more work.
  refine ofText_ofList rfl ?_
  decide +kernel

end Settings

/-! ### Paths of files in the current folder -/

namespace Path

/-- A name that is neither empty nor a dot, and holds no slash. -/
def IsName (name : List Char) : Prop := name ≠ [] ∧ name ≠ ['.'] ∧ '/' ∉ name

instance : DecidablePred IsName := fun _ => inferInstanceAs (Decidable (_ ∧ _ ∧ _))

theorem dropIdle_of_isName {names : List (List Char)} (h : ∀ n ∈ names, IsName n) :
    dropIdle names = names := by
  unfold dropIdle
  have hlast : (names.reverse.dropWhile fun n => n = [] || n = ['.']) = names.reverse := by
    cases hrev : names.reverse with
    | nil => rfl
    | cons n ns =>
      have hn : IsName n := h n (List.mem_reverse.mp (hrev ▸ List.mem_cons_self))
      exact List.dropWhile_cons_of_neg (by simp [hn.1, hn.2.1])
  rw [hlast, List.reverse_reverse]

/-- The text of the path from the root on along some names. -/
def fromRoot (names : List String) : List Char := '/' :: Text.join '/' (names.map String.toList)

variable {names : List String} {name : String}

/-- **The folder of such a path** is the path along all names but the last one. -/
theorem folder_fromRoot (hnames : ∀ n ∈ names, IsName n.toList) (hname : IsName name.toList) :
    folder (String.ofList (fromRoot (names ++ [name]))) = String.ofList (fromRoot names) := by
  have hall : ∀ p ∈ (names ++ [name]).map String.toList, IsName p := by
    simpa [or_imp, forall_and, hname] using hnames
  have hsplit : Text.split '/' (Text.join '/' ((names ++ [name]).map String.toList)) =
      (names ++ [name]).map String.toList :=
    Text.split_join (by simp) fun p hp => (hall p hp).2.2
  have hhere : ∀ p ∈ names.map String.toList, IsName p := by
    simpa using hnames
  unfold folder
  rw [String.toList_ofList, fromRoot, cutHead]
  dsimp only
  rw [hsplit, dropIdle_of_isName hall, List.map_append, List.map_singleton, List.dropLast_concat,
    dropIdle_of_isName hhere]
  rfl

/-- The names of such a path. -/
theorem names_fromRoot (hne : names ≠ []) (hnames : ∀ n ∈ names, IsName n.toList) :
    Path.names (String.ofList (fromRoot names)) = "" :: names := by
  have hsplit : Text.split '/' (Text.join '/' (names.map String.toList)) = names.map String.toList :=
    Text.split_join (by simpa using hne) (by simpa using fun n hn => (hnames n hn).2.2)
  have hfirst : Text.split '/' (fromRoot names) = [] :: names.map String.toList := by
    rw [← hsplit]
    exact Text.split_append_sep List.not_mem_nil _
  unfold Path.names
  rw [String.toList_ofList, hfirst]
  simp

/-- What such a path is made of. -/
theorem mem_fromRoot {c : Char} (h : c ∈ fromRoot names) : c = '/' ∨ ∃ n ∈ names, c ∈ n.toList := by
  cases names with
  | nil => simpa [fromRoot, Text.join] using h
  | cons n ns =>
    rw [fromRoot, List.map_cons, Text.join_cons_eq] at h
    simp at h
    grind

theorem fromRoot_concat (hne : names ≠ []) (name : String) :
    fromRoot (names ++ [name]) = fromRoot names ++ '/' :: name.toList := by
  obtain ⟨n, ns, rfl⟩ := List.exists_cons_of_ne_nil hne
  simp [fromRoot, Text.join_cons_eq]

/-- Such a path does not end in a slash. -/
theorem getLast?_fromRoot (hne : names ≠ []) (hnames : ∀ n ∈ names, IsName n.toList) :
    (fromRoot names).getLast? ≠ some '/' := by
  obtain ⟨ns, n, rfl⟩ : ∃ ns n, names = ns ++ [n] :=
    ⟨_, _, (List.dropLast_append_getLast hne).symm⟩
  obtain ⟨hn, -, hslash⟩ := hnames n (by simp)
  have hlast : (fromRoot (ns ++ [n])).getLast? = n.toList.getLast? := by
    by_cases hns : ns = []
    · subst hns
      exact List.getLast?_append_of_ne_nil ['/'] hn
    · rw [fromRoot_concat hns, ← List.singleton_append, ← List.append_assoc,
        List.getLast?_append_of_ne_nil _ hn]
  rw [hlast]
  exact fun h => hslash (List.mem_of_getLast? h)

/-- **A name in the folder of such a path** stands behind the names of the path. -/
theorem join_fromRoot (hnames : ∀ n ∈ names, IsName n.toList) (hname : isAbsolute name = false) :
    join (String.ofList (fromRoot names)) name = String.ofList (fromRoot (names ++ [name])) := by
  have hempty : (String.ofList (fromRoot names)).isEmpty = false := by simp [fromRoot]
  unfold join
  rw [hname, hempty, Bool.or_false, if_neg Bool.false_ne_true, String.toList_ofList,
    ← String.toList_inj]
  by_cases hne : names = []
  · subst hne
    simp [fromRoot, Text.join]
  · rw [if_neg (getLast?_fromRoot hne hnames), fromRoot_concat hne]
    simp

end Path

namespace CommandLine

open LintLedger.Files (IsPlain)
open LintLedger.Path (IsName fromRoot)

/-- **The tree knows its current folder**: its names stand for folders, one in the other, and the path of a
settings file in it can be followed. -/
structure KnowsHere (f : Files) : Prop where
  /-- Every name can be followed, and is one name. -/
  plain : ∀ n ∈ f.here, IsPlain n ∧ '/' ∉ n.toList ∧ '\x00' ∉ n.toList
  /-- On the way there are folders. -/
  folders : ∀ n ≤ f.here.length, f.entry? (f.here.take n) = some .folder
  /-- The path is not too long. -/
  short : ¬Files.longestPath < (Path.join (herePath f) Settings.newFileName).utf8ByteSize

variable {f : Files}

theorem herePath_eq (f : Files) : herePath f = String.ofList (fromRoot f.here) := by
  have hjoin : ∀ ps : List (List Char), Text.join '/' ps = ['/'].intercalate ps := by
    intro ps
    induction ps with
    | nil => rfl
    | cons p ps ih =>
      cases ps with
      | nil => simp [Text.join]
      | cons q ps => simp_all [Text.join, List.intercalate]
  rw [← String.toList_inj, String.toList_ofList, herePath, String.toList_append,
    String.toList_intercalate, fromRoot, hjoin]
  rfl

/-- The path of a new settings file. -/
def settingsPath (f : Files) : String := Path.join (herePath f) Settings.newFileName

theorem isName_newFileName : IsName Settings.newFileName.toList := by decide

section Here

variable (hhere : KnowsHere f)

include hhere

theorem KnowsHere.isName : ∀ n ∈ f.here, IsName n.toList := by
  intro n hn
  obtain ⟨⟨hidle, -⟩, hslash, -⟩ := hhere.plain n hn
  simp only [Path.isIdle, Bool.or_eq_false_iff, decide_eq_false_iff_not] at hidle
  refine ⟨?_, ?_, hslash⟩
  · simpa using hidle.1
  · exact fun hdot => hidle.2 (String.toList_inj.mp hdot)

theorem KnowsHere.settingsPath_eq : settingsPath f = String.ofList (fromRoot (settingsPlace f)) := by
  unfold settingsPath settingsPlace
  rw [herePath_eq, Path.join_fromRoot hhere.isName (by decide)]

/-- The current folder is the folder of a new settings file. -/
theorem KnowsHere.folder_settingsPath : Path.folder (settingsPath f) = herePath f := by
  rw [hhere.settingsPath_eq, herePath_eq]
  exact Path.folder_fromRoot hhere.isName isName_newFileName

theorem KnowsHere.isName_settingsPlace : ∀ n ∈ settingsPlace f, IsName n.toList := by
  unfold settingsPlace
  simpa [or_imp, forall_and, isName_newFileName] using hhere.isName

/-- **A file that stands in the place of the settings file is found by its path.** -/
theorem KnowsHere.isDirect {content : List UInt8}
    (hfile : f.entry? (settingsPlace f) = some (.file content)) :
    f.IsDirect (settingsPath f) (settingsPlace f) where
  names_eq := by
    rw [hhere.settingsPath_eq]
    exact Path.names_fromRoot (by simp [settingsPlace]) hhere.isName_settingsPlace
  readable := by
    refine ⟨?_, ?_, hhere.short, ?_⟩
    · rw [hhere.settingsPath_eq, Path.Form.hasZero_text, String.toList_ofList, ← Bool.not_eq_true, List.contains_iff_mem]
      -- A zero character would have to stand in one of the names.
      intro hzero
      obtain ⟨n, hn, hzero⟩ := (Path.mem_fromRoot hzero).resolve_left (by decide)
      rcases List.mem_append.mp hn with hn | hn
      · exact (hhere.plain n hn).2.2 hzero
      · rw [List.mem_singleton.mp hn] at hzero
        exact absurd hzero (by decide)
    · rw [hhere.settingsPath_eq]
      simp [fromRoot]
    · rw [hhere.settingsPath_eq]
      simp [fromRoot, Path.isAbsolute]
  plain := by
    intro n hn
    rcases List.mem_append.mp hn with hn | hn
    · exact (hhere.plain n hn).1
    · rw [List.mem_singleton.mp hn]
      decide
  folders := by
    -- On the way to the file are the current folder and the folders that it lies in.
    intro n hn
    have hle : n ≤ f.here.length := by
      rw [settingsPlace, List.length_append, List.length_singleton] at hn
      exact Nat.le_of_lt_succ hn
    rw [settingsPlace, List.take_append_of_le_length hle]
    exact hhere.folders n hle
  noLink := by
    rw [hfile]
    rfl

/-- **A command finds the settings file to start with**, whatever else lies in the folder. -/
theorem settings_of_template
    (hfile : f.Holds (settingsPlace f) (Text.Utf8.encode Settings.template)) :
    settings f none = .ok ({ folder := some (herePath f) }, [.settingsUsed (settingsPath f)]) := by
  have hdirect := hhere.isDirect hfile.1
  have hdiscover : Settings.discover? f (herePath f) = some (settingsPath f) :=
    List.find?_cons_of_pos (Files.isFile_of_file hdirect hfile.1)
  have hread : f.readText (settingsPath f) = .ok Settings.template :=
    Files.readText_of_isDirect hdirect hfile (Text.Utf8.decode?_encode _)
  have hload := Settings.load_of_readText hread Settings.ofText_template
  rw [hhere.folder_settingsPath] at hload
  unfold settings
  simp only [hdiscover, hload]

end Here

/-! ### Writing the file -/

theorem settingsPlace_ne_nil (f : Files) : settingsPlace f ≠ [] := by simp [settingsPlace]

/-- **Making room** fails by force where a folder would have to go. Else nothing stands in the place of the
settings file if room was made by force, and all other entries are as they were; without force nothing is
done. -/
theorem makeRoom_cases (f : Files) (force : Bool) :
    (force = true ∧ f.entry? (settingsPlace f) = some .folder ∧
        ∃ fault, makeRoom f force = .error fault) ∨
      ∃ room log, makeRoom f force = .ok (room, log) ∧ room.here = f.here ∧
        (force = false → room = f) ∧
        (force = true → f.entry? (settingsPlace f) ≠ some .folder) ∧
        ∀ q, room.entry? q = if force = true ∧ q = settingsPlace f then none else f.entry? q := by
  cases force with
  | false => exact Or.inr ⟨f, [], rfl, rfl, by simp, by simp, by simp⟩
  | true =>
    cases hentry : f.entry? (settingsPlace f) with
    | none =>
      have hmake : makeRoom f true = .ok (f, []) := by
        simp only [makeRoom, if_true, Files.unlink_of_none hentry]
      refine Or.inr ⟨f, [], hmake, rfl, by simp, by simp, fun q => ?_⟩
      split
      · next hq => rw [hq.2, hentry]
      · rfl
    | some e =>
      by_cases he : e = .folder
      · subst he
        have hmake : makeRoom f true = .error .isAFolder := by
          simp only [makeRoom, if_true, Files.unlink_of_folder hentry]
        exact Or.inl ⟨rfl, rfl, _, hmake⟩
      · obtain ⟨room, hunlink, hhere, hroom⟩ := Files.exists_unlink hentry he
        have hmake : makeRoom f true = .ok (room, [.fileReplaced Settings.newFileName]) := by
          simp only [makeRoom, if_true, hunlink]
        exact Or.inr ⟨room, _, hmake, hhere, by simp, by simpa using he, by simpa using hroom⟩

/-- **What becomes of the settings file.** If nothing is in the way, it is written, and nothing else is
changed; if there is, nothing at all is changed. What is in the way is an entry of any kind, or by force a
folder. -/
theorem init_cases (f : Files) (force : Bool) :
    (¬(f.entry? (settingsPlace f) = none ∨ force = true ∧ f.entry? (settingsPlace f) ≠ some .folder) ∧
        ∃ e, init f force = (f, .error e)) ∨
      (f.entry? (settingsPlace f) = none ∨ force = true ∧ f.entry? (settingsPlace f) ≠ some .folder) ∧
        ∃ files log, init f force = (files, .ok log) ∧ files.here = f.here ∧
          files.fault? (settingsPlace f) = none ∧
          ∀ q, files.entry? q = if q = settingsPlace f then some (.file (Text.Utf8.encode Settings.template))
            else f.entry? q := by
  rcases makeRoom_cases f force with
    ⟨hforce, hfolder, fault, hmake⟩ | ⟨room, log, hmake, hhere, hgentle, hfolder, hroom⟩
  · refine Or.inl ⟨?_, ⟨[], fault.message⟩, ?_⟩
    · rintro (hnone | ⟨-, hne⟩)
      · exact absurd (hnone.symm.trans hfolder) (by simp)
      · exact hne hfolder
    · simp only [init, hmake]
  -- Room was made where the entry is gone now, and this is what the writing looks at.
  have hfree : room.entry? (settingsPlace f) = none ↔
      f.entry? (settingsPlace f) = none ∨ force = true ∧ f.entry? (settingsPlace f) ≠ some .folder := by
    rw [hroom]
    cases force <;> simp_all
  cases hcreate : room.create? (settingsPlace f) (Text.Utf8.encode Settings.template) with
  | some files =>
    obtain ⟨hempty, hfiles⟩ := Files.create?_eq_some_iff.mp hcreate
    refine Or.inr
      ⟨hfree.mp hempty, files, log ++ [.fileCreated Settings.newFileName], ?_, ?_, ?_, fun q => ?_⟩
    · simp only [init, hmake, hcreate]
    · rw [hfiles]
      exact hhere
    · rw [hfiles, Files.fault?_put]
    · rw [hfiles, Files.entry?_put room (settingsPlace_ne_nil f)]
      split
      · rfl
      · next hq => rw [hroom, if_neg fun h => hq h.2]
  | none =>
    have hblocked : room.entry? (settingsPlace f) ≠ none := Files.create?_eq_none_iff.mp hcreate
    -- By force nothing would stand in the way any more.
    have hroomf : room = f := by
      cases force with
      | false => exact hgentle rfl
      | true => exact absurd (by simp [hroom]) hblocked
    refine Or.inl ⟨fun h => hblocked (hfree.mpr h), ?_⟩
    subst hroomf
    let reason := s!"{Settings.newFileName} already exists. Use --force to overwrite."
    exact ⟨⟨log, reason⟩, by simp only [init, hmake, hcreate, reason]⟩

/-- The knowledge of the current folder outlives a change in the place of the settings file. -/
theorem KnowsHere.of_entry?_eq {g : Files} (hhere : KnowsHere f) (hsame : g.here = f.here)
    (hentry : ∀ q, q ≠ settingsPlace f → g.entry? q = f.entry? q) : KnowsHere g where
  plain := hsame ▸ hhere.plain
  folders := by
    -- The place of the settings file has more names than any of these.
    intro n hn
    rw [hsame] at hn ⊢
    rw [hentry _ fun heq => ?_, hhere.folders n hn]
    have hlength := congrArg List.length heq
    simp [settingsPlace] at hlength
    omega
  short := by
    have hpath : herePath g = herePath f := by rw [herePath, herePath, hsame]
    rw [hpath]
    exact hhere.short

/-- **A settings file to start with is written in one piece or not at all.** The command succeeds without
force if nothing stands in the place of the file, not even a link that leads nowhere, and by force if no
folder stands there. Then there is a file with the settings to start with, and the next command in this
folder finds it and has the default settings, whatever was there before and whatever else is there. If the
command fails, the files are as they were before. In each case all other entries are as they were, and so is
the file that a link in this place led to. -/
theorem run_init (h : Host) (bytes : List UInt8) (config : Option String) (verbose force : Bool) :
    let place := settingsPlace h.files
    let o := run h bytes ⟨config, verbose, .init force⟩
    (o.status = 0 ∨ o.status = 2) ∧
      (force = false → (o.status = 0 ↔ h.files.entry? place = none)) ∧
      (force = true → (o.status = 0 ↔ h.files.entry? place ≠ some .folder)) ∧
      (o.status ≠ 0 → o.files = h.files) ∧
      (o.status = 0 →
        o.files.entry? place = some (.file (Text.Utf8.encode Settings.template)) ∧
          (KnowsHere h.files → settings o.files none =
            .ok ({ folder := some (herePath h.files) }, [.settingsUsed (settingsPath h.files)]))) ∧
      o.files.here = h.files.here ∧
      (∀ names, names ≠ place → o.files.entry? names = h.files.entry? names) ∧
      ∀ target names content, h.files.entry? place = some (.link target) →
        h.files.resolve Settings.newFileName = .ok (names, .file content) →
        o.files.entry? names = some (.file content) := by
  intro place o
  -- A link is no file, so what it leads to stands elsewhere.
  have hlinked : (∀ names, names ≠ place → o.files.entry? names = h.files.entry? names) →
      ∀ target names content, h.files.entry? place = some (.link target) →
        h.files.resolve Settings.newFileName = .ok (names, .file content) →
        o.files.entry? names = some (.file content) := by
    intro hframe target names content hlink hresolve
    have hfile := Files.entry?_of_resolve hresolve
    rw [hframe names, hfile]
    rintro rfl
    exact absurd (hlink.symm.trans hfile) (by simp)
  rcases init_cases h.files force with ⟨hway, e, hinit⟩ | ⟨hfree, files, log, hinit, hhere, hfault, hentry⟩
  · have hstatus : o.status = 2 := by simp only [o, run, hinit, failed]
    have hfiles : o.files = h.files := by simp only [o, run, hinit]
    refine ⟨Or.inr hstatus, ?_, ?_, fun _ => hfiles, ?_, by rw [hfiles], fun _ _ => by rw [hfiles],
      hlinked fun _ _ => by rw [hfiles]⟩
    · grind
    · grind
    · exact fun hzero => absurd (hzero.symm.trans hstatus) (by decide)
  · have hstatus : o.status = 0 := by simp only [o, run, hinit]
    have hfiles : o.files = files := by simp only [o, run, hinit]
    have hframe : ∀ names, names ≠ place → o.files.entry? names = h.files.entry? names := by
      intro names hne
      rw [hfiles, hentry, if_neg hne]
    have hwritten : o.files.entry? place = some (.file (Text.Utf8.encode Settings.template)) := by
      rw [hfiles, hentry, if_pos rfl]
    have hsame : o.files.here = h.files.here := by rw [hfiles, hhere]
    refine ⟨Or.inl hstatus, ?_, ?_, fun hne => absurd hstatus hne, fun _ => ⟨hwritten, fun hknows => ?_⟩,
      hsame, hframe, hlinked hframe⟩
    · grind
    · grind
    · have hplace : settingsPlace o.files = place := by simp only [place, settingsPlace, hsame]
      have hpath : herePath o.files = herePath h.files := by rw [herePath, herePath, hsame]
      have hholds : o.files.Holds (settingsPlace o.files) (Text.Utf8.encode Settings.template) := by
        rw [hplace]
        exact ⟨hwritten, hfiles.symm ▸ hfault⟩
      have hfound := settings_of_template (hknows.of_entry?_eq hsame hframe) hholds
      rwa [settingsPath, hpath] at hfound

/-- A folder with a link in the place of the settings file and a file that nobody can read beside it. -/
theorem run_init_link :
    let link := (["w", ".lintbridge.jsonc"], Entry.link "old.jsonc")
    let old := (["w", "old.jsonc"], Entry.file [0x5B])
    let broken := (["w", ".lintbridge.json"], Entry.file [0x21])
    let h : Host :=
      { files := { entries := [(["w"], .folder), link, old, broken], here := ["w"] }
        run := fun _ _ => .error .notFound }
    let gentle := run h [] ⟨none, false, .init false⟩
    let o := run h [] ⟨none, false, .init true⟩
    gentle.status = 2 ∧ gentle.files = h.files ∧ o.status = 0 ∧
      o.files.entry? ["w", "old.jsonc"] = some (.file [0x5B]) ∧
      settings o.files none = .ok ({ folder := some "/w" }, [.settingsUsed "/w/.lintbridge.jsonc"]) := by
  intro link old broken h gentle o
  obtain ⟨hends, hgentle, -, hrefused, -⟩ := run_init h [] none false false
  obtain ⟨-, -, hforced, -, hwritten, -, -, hlinked⟩ := run_init h [] none false true
  have hstatus : gentle.status ≠ 0 := fun hzero => absurd ((hgentle rfl).mp hzero) (by decide +kernel)
  have hzero : o.status = 0 := (hforced rfl).mpr (by decide +kernel)
  have hknows : KnowsHere h.files :=
    { plain := by decide +kernel
      folders := by decide +kernel
      short := by decide +kernel }
  have hpath : settingsPath h.files = "/w/.lintbridge.jsonc" := by decide +kernel
  -- The link leads to the other file of the folder.
  have hlast : h.files.follow 39 ["w"] ["old.jsonc"] = .ok (["w", "old.jsonc"], .file [0x5B]) :=
    Files.follow_of_forall (by decide +kernel) (by decide +kernel) (by decide +kernel)
  have hlink : h.files.entry? (["w"] ++ [Settings.newFileName]) = some (.link "old.jsonc") := by
    decide +kernel
  have hresolve : h.files.resolve Settings.newFileName = .ok (["w", "old.jsonc"], .file [0x5B]) := by
    have hnames : Path.names Settings.newFileName = [Settings.newFileName] := by decide +kernel
    have htarget : Path.names "old.jsonc" ++ [] = ["old.jsonc"] := by decide +kernel
    rw [Files.resolve, if_neg (by decide), if_neg (by decide), if_neg (by decide), if_neg (by decide),
      Path.Form.names_text, hnames, Files.follow, if_neg (by decide), if_neg (by decide), if_neg (by decide), if_neg (by decide), hlink]
    dsimp only [Files.linkLimit]
    rw [htarget]
    exact hlast
  refine ⟨hends.resolve_left hstatus, hrefused hstatus, hzero,
    hlinked "old.jsonc" _ _ (by decide +kernel) hresolve, ?_⟩
  rw [← hpath]
  exact (hwritten hzero).2 hknows

end CommandLine
end LintLedger
