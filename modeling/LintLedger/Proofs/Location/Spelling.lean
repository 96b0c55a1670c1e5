import LintLedger.Location.Reader
import LintLedger.Proofs.Location.Host
import LintLedger.Proofs.Location.Percent
import LintLedger.Proofs.Text.Split
import Mathlib.Data.List.TakeWhile

/-!
# One text, one file location

An editor knows a location by its text, the server takes it apart. This module is the bridge between
the two: the text of the location that is written for the path of a file is written by no other
location, read or made (`LintLedger.Location.eq_of_text_eq`). The parts can be told apart because none
of them holds the sign that ends it: a scheme has no colon, a host does not start with a slash, a name
has no slash, and a name of a file has neither a question mark nor a number sign.
-/

namespace LintLedger.Location

/-- **The location is that of a file**, on this host or another: this is the shape in which such a
location is read and made. -/
structure IsFile (u : Location) : Prop where
  /-- The scheme. -/
  scheme : u.scheme = "file"
  /-- There is an authority of a host alone, and the host does not start with a slash. -/
  authority : ∃ host : String, u.authority = some { host := host } ∧ host.toList.head? ≠ some '/'
  /-- The path is made of names without slashes. -/
  path : ∃ ns : List String, u.path = .names ns ∧ ns ≠ [] ∧ ∀ n ∈ ns, '/' ∉ n.toList

/-- **The parts of the location can be read off its text**, as far as it is that of a file. -/
structure Legible (u : Location) : Prop where
  /-- The scheme has no colon. -/
  scheme : ':' ∉ u.scheme.toList
  /-- A location of the scheme of files has the shape of one. -/
  isFile : u.scheme = "file" → IsFile u

/-! ### Locations of paths -/

/-- The names of the location of a path. -/
def fileNames (path : String) : List String :=
  let names := (Path.steps path).map fun n => String.ofList (escape .fileName n.toList)
  if names.isEmpty then [""] else names

/-- **There is a location of every absolute path, and of no other.** -/
theorem ofPath?_eq_some_iff {path : String} {c : Location} :
    ofPath? path = some c ↔ Path.isAbsolute path = true ∧
      { scheme := "file", authority := some {}, path := .names (fileNames path) } = c := by
  unfold ofPath?
  rw [Option.ite_none_right_eq_some, Option.some.injEq]
  rfl

theorem fileNames_ne_nil (path : String) : fileNames path ≠ [] := by
  unfold fileNames
  dsimp only
  split
  · simp
  · next h => exact fun hnil => h (List.isEmpty_iff.mpr hnil)

/-- A name of a file shows none of the signs that end the parts of a URL. -/
theorem not_mem_fileNames {path : String} {sign : Char} (hmark : sign ∉ escapeMarks)
    (hshows : ¬Part.fileName.shows sign = true) : ∀ n ∈ fileNames path, sign ∉ n.toList := by
  intro n hn
  unfold fileNames at hn
  dsimp only at hn
  split at hn
  · rw [List.mem_singleton.mp hn]
    exact List.not_mem_nil
  · obtain ⟨m, -, rfl⟩ := List.mem_map.mp hn
    rw [String.toList_ofList]
    exact not_mem_escape_of_not_shows hmark hshows m.toList

theorem isFile_of_ofPath? {path : String} {c : Location} (h : ofPath? path = some c) : IsFile c := by
  obtain ⟨-, rfl⟩ := ofPath?_eq_some_iff.mp h
  exact ⟨rfl, ⟨"", rfl, by simp⟩, _, rfl, fileNames_ne_nil path,
    not_mem_fileNames (by decide) (by decide)⟩

/-- **What is made for a path is legible.** -/
theorem legible_of_ofPath? {path : String} {c : Location} (h : ofPath? path = some c) :
    Legible c := by
  have hfile := isFile_of_ofPath? h
  refine ⟨?_, fun _ => hfile⟩
  rw [hfile.scheme]
  decide

/-- **The path of a location is absolute**: its names stand behind slashes. -/
theorem isAbsolute_of_path? {u : Location} {path : String} (h : u.path? = some path) :
    Path.isAbsolute path = true := by
  have hslash : ∀ bytes, Path.isAbsolute (Text.Utf8.decodeLossy (47 :: bytes)) = true := by
    intro bytes
    have hpiece : Text.Utf8.piece 47 bytes = (.char '/', bytes) := if_pos (by decide)
    unfold Path.isAbsolute Text.Utf8.decodeLossy
    rw [Text.Utf8.pieces, hpiece, String.toList_ofList]
    rfl
  obtain ⟨bytes, hbytes, rfl⟩ := Option.map_eq_some_iff.mp h
  unfold pathBytes? at hbytes
  split at hbytes
  · split at hbytes
    · rw [← Option.some.inj hbytes]
      split
      · exact hslash _
      · exact hslash _
    · simp at hbytes
  · simp at hbytes

theorem exists_ofPath?_of_path? {u : Location} {path : String} (h : u.path? = some path) :
    ∃ c, ofPath? path = some c :=
  ⟨_, ofPath?_eq_some_iff.mpr ⟨isAbsolute_of_path? h, rfl⟩⟩

/-! ### Locations that are read -/

theorem toLower_ne_colon {c : Char} (h : isSchemeChar c = true) : c.toLower ≠ ':' := by
  intro hc
  unfold Char.toLower at hc
  split at hc
  · next hupper =>
    have hlow : 65 ≤ c.toNat := hupper.1
    have hhigh : c.toNat ≤ 90 := hupper.2
    have hval : (c.val + 32).toNat = 58 := congrArg Char.toNat hc
    have hsum : (c.val + 32).toNat = c.toNat + 32 := by
      rw [UInt32.toNat_add]
      exact Nat.mod_eq_of_lt (show c.toNat + 32 < 2 ^ 32 by omega)
    omega
  · rw [hc] at h
    exact absurd h (by decide)

/-- No scheme holds a colon. -/
theorem colon_not_mem_readScheme {cs rest : List Char} {scheme : String}
    (h : readScheme? cs = some (scheme, rest)) : ':' ∉ scheme.toList := by
  unfold readScheme? at h
  split at h
  · split at h
    · split at h
      · obtain ⟨rfl, -⟩ := Prod.mk.inj (Option.some.inj h)
        rw [String.toList_ofList]
        intro hcolon
        obtain ⟨c, hc, hlower⟩ := List.mem_map.mp hcolon
        exact toLower_ne_colon (List.mem_takeWhile_imp hc) hlower
      · simp at h
    · simp at h
  · simp at h

/-- A value that was computed from another one that was read. -/
theorem exists_of_map_eq_ok {ε α β : Type} {f : α → β} {r : Except ε α} {b : β}
    (h : r.map f = .ok b) : ∃ a, r = .ok a ∧ f a = b := by
  cases r with
  | error _ => exact absurd h (by simp [Except.map])
  | ok a => exact ⟨a, rfl, Except.ok.inj h⟩

theorem head_readFileHost {cs : List Char} {host : String} (h : readFileHost cs = .ok host) :
    host.toList.head? ≠ some '/' := by
  unfold readFileHost at h
  split at h
  · rw [← Except.ok.inj h]
    simp
  · obtain ⟨known, hknown, hhost⟩ := exists_of_map_eq_ok h
    split at hhost
    · rw [← hhost]
      simp
    · rw [← hhost]
      exact Host.head_readKnown hknown

/-- Resolving the dots of a path makes no slash. -/
theorem slash_not_mem_addNames (isFile : Bool) {before ns : List (List Char)}
    (hbefore : ∀ n ∈ before, '/' ∉ n) (hns : ∀ n ∈ ns, '/' ∉ n) :
    ∀ n ∈ addNames isFile before ns, '/' ∉ n := by
  induction ns generalizing before with
  | nil => exact hbefore
  | cons n rest ih =>
    obtain ⟨hn, hrest⟩ := List.forall_mem_cons.mp hns
    have hclose : ∀ ms : List (List Char), (∀ m ∈ ms, '/' ∉ m) →
        ∀ m ∈ (if rest.isEmpty then ms ++ [[]] else ms), '/' ∉ m := by
      intro ms hms m hm
      split at hm
      · rcases List.mem_append.mp hm with hm | hm
        · exact hms m hm
        · rw [List.mem_singleton.mp hm]
          exact List.not_mem_nil
      · exact hms m hm
    have hshort : ∀ m ∈ shorten before, '/' ∉ m := by
      intro m hm
      unfold shorten at hm
      split at hm
      · split at hm
        · exact hbefore m hm
        · exact hbefore m (List.dropLast_subset _ hm)
      · exact hbefore m hm
    unfold addNames
    dsimp only
    split
    · exact ih (hclose _ hshort) hrest
    · split
      · exact ih (hclose _ hbefore) hrest
      · refine ih (fun m hm => ?_) hrest
        rcases List.mem_append.mp hm with hm | hm
        · exact hbefore m hm
        · rw [List.mem_singleton.mp hm]
          have hescape : '/' ∉ escape .name n := not_mem_escape_of_not_mem (by decide) hn
          split
          · intro hslash
            rcases List.mem_append.mp hslash with hslash | hslash
            · exact hescape (List.mem_of_mem_take hslash)
            · exact absurd hslash (by decide)
          · exact hescape

theorem slash_not_mem_readNames (isFile known : Bool) (cs : List Char) :
    ∀ n ∈ readNames isFile known cs, '/' ∉ n :=
  slash_not_mem_addNames isFile (by simp) fun _ hn => Text.not_mem_of_mem_split hn

/-- A path of names without slashes. -/
theorem exists_names_pathOf (isFile : Bool) {names : List (List Char)} (h : ∀ n ∈ names, '/' ∉ n) :
    ∃ ns : List String, pathOf isFile names = .names ns ∧ ns ≠ [] ∧ ∀ n ∈ ns, '/' ∉ n.toList := by
  have hkept : ∀ n ∈ (if isFile then names.dropWhile (· = []) else names), '/' ∉ n := by
    intro n hn
    split at hn
    · exact h n ((List.dropWhile_suffix _).mem hn)
    · exact h n hn
  unfold pathOf
  dsimp only
  generalize (if isFile then names.dropWhile (· = []) else names) = kept at hkept
  refine ⟨_, rfl, ?_, ?_⟩
  · split
    · simp
    · next hne => simpa using hne
  · intro n hn
    obtain ⟨m, hm, rfl⟩ := List.mem_map.mp hn
    rw [String.toList_ofList]
    split at hm
    · rw [List.mem_singleton.mp hm]
      exact List.not_mem_nil
    · exact hkept m hm

/-- What is read behind the scheme of a file: an authority of a host alone, and a path of names. -/
theorem shape_readFile {cs : List Char} {authority : Option Authority} {path : Path}
    (h : readFile cs = .ok (authority, path)) :
    (∃ host : String, authority = some { host := host } ∧ host.toList.head? ≠ some '/') ∧
      ∃ ns : List String, path = .names ns ∧ ns ≠ [] ∧ ∀ n ∈ ns, '/' ∉ n.toList := by
  have hpath (known : Bool) (rest : List Char) :=
    exists_names_pathOf true (slash_not_mem_readNames true known rest)
  have halone : ∃ host : String, some ({} : Authority) = some { host := host } ∧
      host.toList.head? ≠ some '/' := ⟨"", rfl, by simp⟩
  unfold readFile at h
  dsimp only at h
  split at h
  · split at h
    · split at h
      · obtain ⟨rfl, rfl⟩ := Prod.mk.inj (Except.ok.inj h)
        exact ⟨halone, hpath true _⟩
      · obtain ⟨host, hhost, h⟩ := exists_of_map_eq_ok h
        split at h
        · obtain ⟨rfl, rfl⟩ := Prod.mk.inj h
          exact ⟨halone, hpath true _⟩
        · split at h
          · obtain ⟨rfl, rfl⟩ := Prod.mk.inj h
            exact ⟨halone, hpath true _⟩
          · obtain ⟨rfl, rfl⟩ := Prod.mk.inj h
            exact ⟨⟨host, rfl, head_readFileHost hhost⟩, hpath true _⟩
    · obtain ⟨rfl, rfl⟩ := Prod.mk.inj (Except.ok.inj h)
      exact ⟨halone, hpath true _⟩
  · obtain ⟨rfl, rfl⟩ := Prod.mk.inj (Except.ok.inj h)
    exact ⟨halone, hpath true _⟩

/-- **What is read is legible.** -/
theorem legible_of_read {s : String} {u : Location} (h : read s = .ok u) : Legible u := by
  unfold read at h
  split at h
  · simp at h
  · next scheme rest hscheme =>
    generalize cutTail rest = cut at h
    obtain ⟨before, tail⟩ := cut
    dsimp only at h
    obtain ⟨⟨authority, path⟩, hrest, rfl⟩ := exists_of_map_eq_ok h
    refine ⟨colon_not_mem_readScheme hscheme, fun hfile => ?_⟩
    change scheme = "file" at hfile
    unfold readRest at hrest
    rw [if_pos hfile] at hrest
    obtain ⟨hauthority, hpath⟩ := shape_readFile hrest
    exact ⟨hfile, hauthority, hpath⟩

/-! ### The text part by part -/

/-- What is written behind the path: the query and the fragment. -/
def tailText (u : Location) : List Char :=
  (u.query.map fun q => '?' :: q.toList).getD [] ++ (u.fragment.map fun f => '#' :: f.toList).getD []

theorem toList_namesText (ns : List String) :
    (Path.names ns).text.toList = (ns.map String.toList).flatMap fun n => '/' :: n := by
  change (String.join (ns.map ("/" ++ ·))).toList = _
  induction ns with
  | nil => rfl
  | cons n ns ih =>
    rw [List.map_cons, String.join_cons, String.toList_append, ih, String.toList_append]
    rfl

/-- The names of a path can be read off its text. -/
theorem names_eq_of_text_eq {ns ms : List String} (hns : ∀ n ∈ ns, '/' ∉ n.toList)
    (hms : ∀ m ∈ ms, '/' ∉ m.toList)
    (h : (Path.names ns).text.toList = (Path.names ms).text.toList) : ns = ms := by
  rw [toList_namesText, toList_namesText] at h
  have hmap := Text.flatMap_sep_injective (by simpa using hns) (by simpa using hms) h
  exact List.map_injective_iff.mpr (fun _ _ => String.toList_inj.mp) hmap

/-- The path of a file shows none of the signs that a name of a file does not show, but for slashes. -/
theorem not_mem_fileText {path : String} {sign : Char} (hslash : sign ≠ '/')
    (hmark : sign ∉ escapeMarks) (hshows : ¬Part.fileName.shows sign = true) :
    sign ∉ (Path.names (fileNames path)).text.toList := by
  intro hmem
  rw [toList_namesText] at hmem
  obtain ⟨n, hn, hin⟩ := List.mem_flatMap.mp hmem
  obtain ⟨m, hm, rfl⟩ := List.mem_map.mp hn
  rcases List.mem_cons.mp hin with hin | hin
  · exact hslash hin
  · exact not_mem_fileNames hmark hshows m hm hin

theorem head_namesText {ns : List String} (h : ns ≠ []) :
    (Path.names ns).text.toList.head? = some '/' := by
  obtain ⟨n, ns, rfl⟩ := List.exists_cons_of_ne_nil h
  rw [toList_namesText]
  rfl

/-- What stands before the text of some names and is seen in the text of others has to start with a
slash, unless it is empty. -/
theorem eq_nil_of_append_eq_namesText {host rest : List Char} {ns : List String}
    (hhead : host.head? ≠ some '/') (hns : ns ≠ [])
    (h : host ++ rest = (Path.names ns).text.toList) : host = [] := by
  cases host with
  | nil => rfl
  | cons c cs =>
    have hfirst := congrArg List.head? h
    rw [head_namesText hns] at hfirst
    exact absurd hfirst hhead

/-- A query shows its sign. -/
theorem query_eq_none {u : Location} (h : '?' ∉ tailText u) : u.query = none := by
  cases hq : u.query with
  | none => rfl
  | some q => exact absurd (by simp [tailText, hq]) h

/-- A fragment shows its sign. -/
theorem fragment_eq_none {u : Location} (h : '#' ∉ tailText u) : u.fragment = none := by
  cases hf : u.fragment with
  | none => rfl
  | some f => exact absurd (by simp [tailText, hf]) h

/-- The text of a location of a file, part by part. -/
theorem toList_text_of_authority {u : Location} {host : String}
    (h : u.authority = some { host := host }) :
    u.text.toList = u.scheme.toList ++ ':' :: '/' :: '/' ::
      (host.toList ++ (u.path.text.toList ++ tailText u)) := by
  obtain ⟨scheme, authority, path, query, fragment⟩ := u
  change authority = _ at h
  subst h
  cases query <;> cases fragment <;>
    simp [text, Authority.text, tailText, String.toList_append]

/-- The scheme stands before the first colon. -/
theorem scheme_eq_of_text_eq {u v : Location} (hu : Legible u) (hv : Legible v)
    (h : u.text = v.text) : u.scheme = v.scheme := by
  have htext : ∀ w : Location, ∃ rest, w.text.toList = w.scheme.toList ++ ':' :: rest := by
    intro w
    unfold text
    simp only [String.toList_append, List.append_assoc]
    exact ⟨_, rfl⟩
  obtain ⟨rest, hrest⟩ := htext u
  obtain ⟨rest', hrest'⟩ := htext v
  have hsplit := congrArg (Text.split ':' ·.toList) h
  rw [hrest, hrest', Text.split_append_sep hu.scheme, Text.split_append_sep hv.scheme] at hsplit
  exact String.toList_inj.mp (List.cons.inj hsplit).1

/-! ### One text, one location -/

/-- **The text of the location of a path is written by no other location.** -/
theorem eq_of_text_eq {u c : Location} {path : String} (hu : Legible u) (hc : ofPath? path = some c)
    (h : u.text = c.text) : u = c := by
  have hscheme := scheme_eq_of_text_eq hu (legible_of_ofPath? hc) h
  obtain ⟨-, rfl⟩ := ofPath?_eq_some_iff.mp hc
  obtain ⟨-, ⟨host, hauthority, hhead⟩, ns, hpath, -, hns⟩ := hu.isFile hscheme
  -- Behind the scheme, what the one writes is what the other writes for the names of the file.
  have hrest : host.toList ++ ((Path.names ns).text.toList ++ tailText u) =
      (Path.names (fileNames path)).text.toList := by
    have htext := congrArg String.toList h
    rw [toList_text_of_authority hauthority, toList_text_of_authority rfl, hscheme, hpath] at htext
    have hcut := List.append_cancel_left htext
    simpa only [List.cons.injEq, true_and, tailText, Option.map_none, Option.getD_none,
      List.append_nil, String.toList_empty, List.nil_append] using hcut
  have hhost : host.toList = [] :=
    eq_nil_of_append_eq_namesText hhead (fileNames_ne_nil path) hrest
  have htail : ∀ sign ∈ tailText u, sign ∈ (Path.names (fileNames path)).text.toList := by
    intro sign hmem
    rw [← hrest]
    exact List.mem_append_right _ (List.mem_append_right _ hmem)
  have hquery : u.query = none :=
    query_eq_none fun hmem => not_mem_fileText (by decide) (by decide) (by decide) (htail _ hmem)
  have hfragment : u.fragment = none :=
    fragment_eq_none fun hmem => not_mem_fileText (by decide) (by decide) (by decide) (htail _ hmem)
  have hnames : ns = fileNames path := by
    have hnil : tailText u = [] := by simp [tailText, hquery, hfragment]
    rw [hhost, hnil, List.nil_append, List.append_nil] at hrest
    exact names_eq_of_text_eq hns (not_mem_fileNames (by decide) (by decide)) hrest
  obtain ⟨scheme, authority, p, query, fragment⟩ := u
  have hempty : host = "" := String.toList_eq_nil_iff.mp hhost
  dsimp only at hscheme hauthority hpath hquery hfragment
  rw [hscheme, hauthority, hpath, hquery, hfragment, hempty, hnames]

end LintLedger.Location
