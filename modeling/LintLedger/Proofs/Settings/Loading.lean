import LintLedger.Proofs.Files
import LintLedger.Session
import Mathlib.Data.List.Find

/-!
# Loading settings

The loading of a settings file can end at each of its stages (`LintLedger.Analyser.Loads`): the file,
its text, the shape of the value, the sense of the settings and the patterns of the rules are looked at in
this order, and the first fault is the end. Only behind all of them there is an analyser, and it is made
of that one file. Every loading has one end, and it is the one that is computed
(`LintLedger.Analyser.loads_iff`).
-/

namespace LintLedger

namespace Settings

variable {π : Type} [Path.Form π]

/-! ### The settings file of a folder -/

/-- In a folder to which the way is straight, the settings file is what stands under the first of the
names that is a file. -/
theorem discover?_of_isDirect {f : Files} {folder : π} {names : List String}
    (hdirect : ∀ name ∈ fileNames, f.IsDirect (Path.Form.join folder name) (names ++ [name])) :
    discover? f folder =
      (fileNames.find? fun name => (f.entry? (names ++ [name])).any Entry.isFile).map
        (Path.Form.join folder) := by
  unfold discover?
  rw [List.find?_map]
  congr 1
  refine List.find?_congr fun name hname => ?_
  exact Files.isFile_of_isDirect (hdirect name hname)

/-- A folder has the same settings file, be its path given as a text or byte by byte. -/
theorem discover?_encode (f : Files) (folder : String) :
    discover? f (Text.Utf8.encode folder) = (discover? f folder).map Text.Utf8.encode := by
  have hpaths : fileNames.map (Path.Form.join (Text.Utf8.encode folder)) =
      (fileNames.map (Path.Form.join folder)).map Text.Utf8.encode := by
    rw [List.map_map]
    exact List.map_congr_left fun name _ => Path.joinBytes_encode folder name
  unfold discover?
  rw [hpaths, List.find?_map]
  congr 2
  exact funext fun path => Files.isFile_encode f path

/-- A file holds the same settings, be its path given as a text or byte by byte. -/
theorem load_encode (f : Files) (path : String) : load f (Text.Utf8.encode path) = load f path := by
  have hshown : Path.Form.shown (Text.Utf8.encode path) = path := Text.Utf8.decodeLossy_encode path
  unfold load
  rw [Files.readText_encode, hshown, Path.Form.shown_text]

/-! ### Rules -/

theorem Rule.compile_eq_error_iff {r : Rule} {bad : BadPattern} :
    r.compile = .error bad ↔
      ∃ fault, Pattern.compile r.pattern = .error fault ∧ bad = ⟨r.pattern, fault⟩ := by
  unfold compile
  cases Pattern.compile r.pattern with
  | error fault => simp [eq_comm]
  | ok p => simp

theorem Rule.exists_compile_iff {r : Rule} :
    (∃ compiled, r.compile = .ok compiled) ↔ ∃ p, Pattern.compile r.pattern = .ok p := by
  unfold compile
  cases Pattern.compile r.pattern <;> simp

/-- The pattern that cannot be read is the first such one. -/
theorem mapM_compile_eq_error_iff {rules : List Rule} {bad : BadPattern} :
    rules.mapM Rule.compile = .error bad ↔
      ∃ before r after, rules = before ++ r :: after ∧
        (∀ b ∈ before, ∃ compiled, b.compile = .ok compiled) ∧ r.compile = .error bad := by
  induction rules with
  | nil => simp [pure, Except.pure]
  | cons r rules ih =>
    rw [List.mapM_cons]
    cases hr : r.compile with
    | error fault =>
      constructor
      · intro hbad
        obtain rfl : fault = bad := Except.error.inj hbad
        exact ⟨[], r, rules, rfl, by simp, hr⟩
      · rintro ⟨before, x, after, hsplit, hbefore, hx⟩
        cases before with
        | nil =>
          obtain ⟨rfl, rfl⟩ := List.cons.inj hsplit
          obtain rfl := Except.error.inj (hr.symm.trans hx)
          rfl
        | cons b before =>
          obtain ⟨rfl, rfl⟩ := List.cons.inj hsplit
          obtain ⟨compiled, hcompiled⟩ := hbefore r List.mem_cons_self
          exact absurd (hr.symm.trans hcompiled) (by simp)
    | ok compiled =>
      have hrest : (do let more ← rules.mapM Rule.compile; pure (compiled :: more)) = .error bad ↔
          rules.mapM Rule.compile = .error bad := by
        cases rules.mapM Rule.compile <;> simp [bind, Except.bind, pure, Except.pure]
      refine (Iff.trans hrest ih).trans ⟨?_, ?_⟩
      · rintro ⟨before, x, after, rfl, hbefore, hx⟩
        exact ⟨r :: before, x, after, rfl, List.forall_mem_cons.mpr ⟨⟨compiled, hr⟩, hbefore⟩, hx⟩
      · rintro ⟨before, x, after, hsplit, hbefore, hx⟩
        cases before with
        | nil =>
          obtain ⟨rfl, rfl⟩ := List.cons.inj hsplit
          exact absurd (hr.symm.trans hx) (by simp)
        | cons b before =>
          obtain ⟨rfl, rfl⟩ := List.cons.inj hsplit
          exact ⟨before, x, after, rfl, (List.forall_mem_cons.mp hbefore).2, hx⟩

/-- One pattern that cannot be read is enough. -/
theorem exists_mapM_compile_eq_error {rules : List Rule} {r : Rule} (hr : r ∈ rules)
    {bad : BadPattern} (hbad : r.compile = .error bad) :
    ∃ first, rules.mapM Rule.compile = .error first := by
  induction rules with
  | nil => simp at hr
  | cons x rules ih =>
    rw [List.mapM_cons]
    cases hx : x.compile with
    | error first => exact ⟨first, rfl⟩
    | ok compiled =>
      have htail : r ∈ rules := by
        rcases List.mem_cons.mp hr with rfl | htail
        · exact absurd (hx.symm.trans hbad) (by simp)
        · exact htail
      obtain ⟨first, hfirst⟩ := ih htail
      rw [hfirst]
      exact ⟨first, rfl⟩

theorem Severities.classifier_eq_error_iff {s : Severities} {bad : BadPattern} :
    s.classifier = .error bad ↔ s.rules.mapM Rule.compile = .error bad := by
  unfold classifier
  split
  · next hempty =>
    rw [List.isEmpty_iff.mp hempty]
    simp [pure, Except.pure]
  · cases s.rules.mapM Rule.compile <;> simp [bind, Except.bind, pure, Except.pure]

/-! ### Settings and what is made of them -/

/-- The intake that settings ask for has their attribution and their stale policy. -/
theorem fields_of_intake {s : Settings} {i : Intake} (h : s.intake = .ok i) :
    i.attribution = s.attribution ∧ i.stalePolicy = s.stalePolicy := by
  unfold intake at h
  cases hclassifier : s.severity.classifier with
  | error pattern => simp [hclassifier, bind, Except.bind] at h
  | ok classifier =>
    simp only [hclassifier, bind, Except.bind, pure, Except.pure, Except.ok.injEq] at h
    subst h
    exact ⟨rfl, rfl⟩

/-- Settings with a rule whose pattern cannot be read ask for no intake. -/
theorem exists_intake_eq_error {s : Settings} {r : Rule} (hr : r ∈ s.severity.rules)
    {fault : Pattern.Fault} (hfault : Pattern.compile r.pattern = .error fault) :
    ∃ bad, s.intake = .error bad := by
  obtain ⟨bad, hbad⟩ :=
    exists_mapM_compile_eq_error hr (Rule.compile_eq_error_iff.mpr ⟨fault, hfault, rfl⟩)
  have hclassifier : s.severity.classifier = .error bad := Severities.classifier_eq_error_iff.mpr hbad
  unfold intake
  rw [hclassifier]
  exact ⟨bad, rfl⟩

/-- **The settings are written in the file at a path**: it can be read, its text is commented JSON, and
the value has the shape of settings. -/
def IsWritten (f : Files) (path : π) (s : Settings) : Prop :=
  ∃ text value, f.readText path = .ok text ∧ Json.Commented.read text = .ok value ∧
    decode (value.getD (.object [])) = .ok s

/-- A text holds settings if it is commented JSON, the value has their shape, and they are valid. -/
theorem ofText_eq_ok_iff {text : String} {s : Settings} :
    ofText text = .ok s ↔
      (∃ value, Json.Commented.read text = .ok value ∧
        decode (value.getD (.object [])) = .ok s) ∧ s.fault? = none := by
  constructor
  · intro hs
    unfold ofText at hs
    split at hs
    · exact absurd hs (by simp)
    · next value hparse =>
      unfold ofJson at hs
      split at hs
      · exact absurd hs (by simp)
      · next s' hdecode =>
        split at hs
        · exact absurd hs (by simp)
        · next hvalid =>
          obtain rfl := Except.ok.inj hs
          exact ⟨⟨value, hparse, hdecode⟩, hvalid⟩
  · rintro ⟨⟨value, hparse, hdecode⟩, hvalid⟩
    simp only [ofText, hparse, ofJson, hdecode, hvalid]

theorem toOption_ofText_eq_some_iff {text : String} {s : Settings} :
    (ofText text).toOption = some s ↔ ofText text = .ok s := by
  cases ofText text <;> simp [Except.toOption]

theorem isWritten_of_ofText {f : Files} {path : π} {text : String} (hread : f.readText path = .ok text)
    {s : Settings} (hs : ofText text = .ok s) : s.IsWritten f path ∧ s.fault? = none := by
  obtain ⟨⟨value, hparse, hdecode⟩, hvalid⟩ := ofText_eq_ok_iff.mp hs
  exact ⟨⟨text, value, hread, hparse, hdecode⟩, hvalid⟩

end Settings

namespace Analyser

variable {π : Type} [Path.Form π]

/-- **Every end of the loading** of a settings file, stage by stage. -/
inductive Loads (f : Files) (path : π) : Except Settings.LoadFault Analyser → Prop where
  /-- The file cannot be read, or is no text. -/
  | unreadable {fault : Files.Fault} (read : f.readText path = .error fault) :
      Loads f path (.error (.unreadable (Path.Form.shown path) fault))
  /-- The text is no commented JSON. -/
  | malformed {text : String} {fault : Json.Commented.Fault} (read : f.readText path = .ok text)
      (parse : Json.Commented.read text = .error fault) :
      Loads f path (.error (.unusable (.unreadable fault)))
  /-- The value has not the shape of settings. -/
  | misshapen {text : String} {value : Option Json} {fault : Json.Decode.Fault}
      (read : f.readText path = .ok text) (parse : Json.Commented.read text = .ok value)
      (decode : Settings.decode (value.getD (.object [])) = .error fault) :
      Loads f path (.error (.unusable (.misshapen fault)))
  /-- The settings are not valid. -/
  | invalid {s : Settings} {fault : Settings.Invalid} (written : s.IsWritten f path)
      (invalid : s.fault? = some fault) : Loads f path (.error (.unusable (.invalid fault)))
  /-- The pattern of a rule cannot be read, and those of the rules before it can. -/
  | badPattern {s : Settings} {before after : List Settings.Rule} {r : Settings.Rule}
      {fault : Pattern.Fault} (written : s.IsWritten f path) (valid : s.fault? = none)
      (rules : s.severity.rules = before ++ r :: after)
      (first : ∀ b ∈ before, ∃ p, Pattern.compile b.pattern = .ok p)
      (bad : Pattern.compile r.pattern = .error fault) :
      Loads f path (.error (.badPattern ⟨r.pattern, fault⟩))
  /-- The analyser is made, of these settings alone. -/
  | made {s : Settings} {c : Classifier} (written : s.IsWritten f path) (valid : s.fault? = none)
      (classifier : s.severity.classifier = .ok c) :
      Loads f path (.ok ⟨s.tool, ⟨c, s.attribution, s.stalePolicy⟩⟩)

section Loading

variable {f : Files} {path : π} {outcome : Except Settings.LoadFault Analyser}

theorem load_of_isWritten {s : Settings} (hs : s.IsWritten f path) (hvalid : s.fault? = none) :
    load f path =
      match s.severity.classifier with
      | .error bad => .error (.badPattern bad)
      | .ok c => .ok ⟨s.tool, ⟨c, s.attribution, s.stalePolicy⟩⟩ := by
  obtain ⟨text, value, hread, hparse, hdecode⟩ := hs
  have htext : Settings.ofText text = .ok s :=
    Settings.ofText_eq_ok_iff.mpr ⟨⟨value, hparse, hdecode⟩, hvalid⟩
  simp only [load, Settings.load, hread, htext, Settings.intake]
  cases s.severity.classifier <;> rfl

theorem loads_load (f : Files) (path : π) : Loads f path (load f path) := by
  cases hread : f.readText path with
  | error fault =>
    simp only [load, Settings.load, hread]
    exact .unreadable hread
  | ok text =>
    cases hparse : Json.Commented.read text with
    | error fault =>
      simp only [load, Settings.load, hread, Settings.ofText, hparse]
      exact .malformed hread hparse
    | ok value =>
      cases hdecode : Settings.decode (value.getD (.object [])) with
      | error fault =>
        simp only [load, Settings.load, hread, Settings.ofText, hparse, Settings.ofJson, hdecode]
        exact .misshapen hread hparse hdecode
      | ok s =>
        have hs : s.IsWritten f path := ⟨text, value, hread, hparse, hdecode⟩
        cases hfault : s.fault? with
        | some fault =>
          simp only [load, Settings.load, hread, Settings.ofText, hparse, Settings.ofJson, hdecode,
            hfault]
          exact .invalid hs hfault
        | none =>
          rw [load_of_isWritten hs hfault]
          cases hclassifier : s.severity.classifier with
          | ok c => exact .made hs hfault hclassifier
          | error bad =>
            obtain ⟨before, r, after, hrules, hbefore, hbad⟩ :=
              Settings.mapM_compile_eq_error_iff.mp
                (Settings.Severities.classifier_eq_error_iff.mp hclassifier)
            obtain ⟨fault, hcompile, rfl⟩ := Settings.Rule.compile_eq_error_iff.mp hbad
            exact .badPattern hs hfault hrules
              (fun b hb => Settings.Rule.exists_compile_iff.mp (hbefore b hb)) hcompile

/-- **Loading has one end**, the one that it computes. -/
theorem loads_iff : Loads f path outcome ↔ load f path = outcome := by
  refine ⟨fun hloads => ?_, fun heq => heq ▸ loads_load f path⟩
  cases hloads with
  | unreadable hread => simp only [load, Settings.load, hread]
  | malformed hread hparse => simp only [load, Settings.load, hread, Settings.ofText, hparse]
  | misshapen hread hparse hdecode =>
    simp only [load, Settings.load, hread, Settings.ofText, hparse, Settings.ofJson, hdecode]
  | invalid hs hfault =>
    obtain ⟨text, value, hread, hparse, hdecode⟩ := hs
    simp only [load, Settings.load, hread, Settings.ofText, hparse, Settings.ofJson, hdecode, hfault]
  | badPattern hs hvalid hrules hbefore hbad =>
    have hclassifier := Settings.Severities.classifier_eq_error_iff.mpr
      (Settings.mapM_compile_eq_error_iff.mpr ⟨_, _, _, hrules,
        fun b hb => Settings.Rule.exists_compile_iff.mpr (hbefore b hb),
        Settings.Rule.compile_eq_error_iff.mpr ⟨_, hbad, rfl⟩⟩)
    rw [load_of_isWritten hs hvalid, hclassifier]
  | made hs hvalid hclassifier => rw [load_of_isWritten hs hvalid, hclassifier]

/-- **The loading of a file ends alike**, be its path given as a text or byte by byte. -/
theorem loads_encode_iff {path : String} : Loads f (Text.Utf8.encode path) outcome ↔ Loads f path outcome := by
  rw [loads_iff, loads_iff, load, load, Settings.load_encode]

theorem existsUnique_loads (f : Files) (path : π) : ∃! outcome, Loads f path outcome :=
  ⟨load f path, loads_load f path, fun _ hloads => (loads_iff.mp hloads).symm⟩

/-- A file at the end of a straight way is loaded if its bytes hold settings and all patterns can be
read. -/
theorem loads_of_isDirect {names : List String} {content : List UInt8} {s : Settings} {c : Classifier}
    (hpath : f.IsDirect path names) (hfile : f.Holds names content)
    (hs : ((Text.Utf8.decode? content).bind fun text => (Settings.ofText text).toOption) = some s)
    (hclassifier : s.severity.classifier = .ok c) :
    Loads f path (.ok ⟨s.tool, ⟨c, s.attribution, s.stalePolicy⟩⟩) := by
  obtain ⟨text, htext, hs⟩ := Option.bind_eq_some_iff.mp hs
  obtain ⟨hwritten, hvalid⟩ :=
    Settings.isWritten_of_ofText (Files.readText_of_isDirect hpath hfile htext)
      (Settings.toOption_ofText_eq_some_iff.mp hs)
  exact .made hwritten hvalid hclassifier

end Loading

end Analyser

end LintLedger
