import LintLedger.Files
import LintLedger.Proofs.Path
import Mathlib.Data.List.Find

/-!
# Where paths lead

A path from the root on that meets neither links nor dots leads to what stands under its names
(`LintLedger.Files.resolve_of_isDirect`): the names are followed one by one, each folder before the next,
and the limit for links is never touched. Whether such a path leads to a file is then a matter of one
lookup. A path leads where its bytes lead (`LintLedger.Files.resolve_encode`).

What is done to a file tree is told by the lookups behind it (`LintLedger.Files.entry?_put`,
`LintLedger.Files.exists_unlink`): it is done under the names that are given, and nowhere else.
-/

namespace LintLedger

/-- Is it a file? -/
def Entry.isFile : Entry → Bool
  | .file _ => true
  | _ => false

/-- Is it a link? -/
def Entry.isLink : Entry → Bool
  | .link _ => true
  | _ => false

namespace Files

variable {f : Files} {links : Nat} {place names : List String} {π : Type} [Path.Form π] {path : π}

open LintLedger.Path (Form)

/-! ### Names -/

/-- A name that stands for an entry of a folder: it leads somewhere, not to the folder above, and is not
too long. -/
def IsPlain (name : String) : Prop :=
  Path.isIdle name = false ∧ name ≠ ".." ∧ ¬longestName < (Path.nameBytes name).length

instance : DecidablePred IsPlain := fun _ => inferInstanceAs (Decidable (_ ∧ _ ∧ _))

theorem follow_cons {name : String} (hname : IsPlain name) (hplace : f.entry? place = some .folder)
    (hlink : (f.entry? (place ++ [name])).any Entry.isLink = false) :
    f.follow links place (name :: names) =
      if f.entry? (place ++ [name]) = none then .error .notFound
      else f.follow links (place ++ [name]) names := by
  obtain ⟨hidle, hup, hlong⟩ := hname
  rw [follow, if_neg (by simp [hplace]), if_neg (by simp [hidle]), if_neg hup, if_neg hlong]
  cases hentry : f.entry? (place ++ [name]) with
  | none => rfl
  | some e =>
    cases e with
    | link target => simp [hentry, Entry.isLink] at hlink
    | file content => rfl
    | folder => rfl

/-- **Plain names are followed** through folders to what stands under all of them. -/
theorem follow_of_forall (hplain : ∀ n ∈ names, IsPlain n)
    (hfolders : ∀ n < names.length, f.entry? (place ++ names.take n) = some .folder)
    (hlink : (f.entry? (place ++ names)).any Entry.isLink = false) :
    f.follow links place names =
      match f.entry? (place ++ names) with
      | some e => .ok (place ++ names, e)
      | none => .error .notFound := by
  induction names generalizing place with
  | nil =>
    cases hentry : f.entry? place with
    | some e => simp [follow, hentry]
    | none => simp [follow, hentry]
  | cons name names ih =>
    have hplace : f.entry? place = some .folder := by
      simpa using hfolders 0 (Nat.zero_lt_succ _)
    rw [List.forall_mem_cons] at hplain
    rw [List.append_cons place name names] at hlink ⊢
    have hrest : ∀ n < names.length,
        f.entry? ((place ++ [name]) ++ names.take n) = some .folder := by
      intro n hn
      rw [← List.append_cons]
      exact hfolders (n + 1) (Nat.succ_lt_succ hn)
    -- The first name stands for a folder, unless it is the last one.
    have hfirst : names = [] ∨ f.entry? (place ++ [name]) = some .folder := by
      cases names with
      | nil => exact Or.inl rfl
      | cons next names => exact Or.inr (by simpa using hrest 0 (Nat.zero_lt_succ _))
    have hfirstLink : (f.entry? (place ++ [name])).any Entry.isLink = false := by
      rcases hfirst with rfl | hfolder
      · simpa using hlink
      · simp [hfolder, Entry.isLink]
    rw [follow_cons hplain.1 hplace hfirstLink]
    split
    · next hnone =>
      obtain rfl := hfirst.resolve_right (by simp [hnone])
      rw [List.append_nil, hnone]
    · exact ih hplain.2 hrest hlink

/-! ### Paths -/

/-- **A path leads straight to names**: it starts at the root, and neither a link nor a dot stands in the
way. -/
structure IsDirect (f : Files) (path : π) (names : List String) : Prop where
  /-- The names are those of the path. -/
  names_eq : Form.names path = "" :: names
  /-- The path can be followed at all. -/
  readable : Form.hasZero path = false ∧ Form.size path ≠ 0 ∧ ¬longestPath < Form.size path ∧
    Form.isAbsolute path = true
  /-- Every name stands for an entry. -/
  plain : ∀ n ∈ names, IsPlain n
  /-- On the way there are folders. -/
  folders : ∀ n < names.length, f.entry? (names.take n) = some .folder
  /-- At the end there is no link. -/
  noLink : (f.entry? names).any Entry.isLink = false

instance : Decidable (f.IsDirect path names) :=
  decidable_of_iff
    (Form.names path = "" :: names ∧
      (Form.hasZero path = false ∧ Form.size path ≠ 0 ∧ ¬longestPath < Form.size path ∧
        Form.isAbsolute path = true) ∧
      (∀ n ∈ names, IsPlain n) ∧ (∀ n < names.length, f.entry? (names.take n) = some .folder) ∧
      (f.entry? names).any Entry.isLink = false)
    ⟨fun h => ⟨h.1, h.2.1, h.2.2.1, h.2.2.2.1, h.2.2.2.2⟩,
      fun h => ⟨h.names_eq, h.readable, h.plain, h.folders, h.noLink⟩⟩

/-- **Such a path leads to what stands under its names.** -/
theorem resolve_of_isDirect (hpath : f.IsDirect path names) :
    f.resolve path =
      match f.entry? names with
      | some e => .ok (names, e)
      | none => .error .notFound := by
  obtain ⟨hnames, ⟨hzero, hempty, hlong, habsolute⟩, hplain, hfolders, hlink⟩ := hpath
  have hroot : f.entry? [] = some .folder := rfl
  rw [resolve, if_neg (Bool.eq_false_iff.mp hzero), if_neg hempty, if_neg hlong, if_pos habsolute, hnames,
    follow, if_neg (not_not_intro hroot), if_pos (by simp [Path.isIdle])]
  exact @follow_of_forall f linkLimit [] names hplain hfolders hlink

theorem isFile_of_isDirect (hpath : f.IsDirect path names) :
    f.isFile path = (f.entry? names).any Entry.isFile := by
  unfold isFile
  rw [resolve_of_isDirect hpath]
  cases f.entry? names with
  | none => rfl
  | some e => cases e <;> rfl

/-- Such a path leads to a file if there is one under its names. -/
theorem isFile_of_file (hpath : f.IsDirect path names) {content : List UInt8}
    (hfile : f.entry? names = some (.file content)) : f.isFile path = true := by
  rw [isFile_of_isDirect hpath, hfile]
  rfl

/-- **Under the names there is a file that can be read.** -/
def Holds (f : Files) (names : List String) (content : List UInt8) : Prop :=
  f.entry? names = some (.file content) ∧ f.fault? names = none

instance {content : List UInt8} : Decidable (f.Holds names content) :=
  inferInstanceAs (Decidable (_ ∧ _))

/-- The text of the file at such a path. -/
theorem readText_of_isDirect (hpath : f.IsDirect path names) {content : List UInt8}
    (hfile : f.Holds names content) {text : String}
    (htext : Text.Utf8.decode? content = some text) : f.readText path = .ok text := by
  obtain ⟨hentry, hfault⟩ := hfile
  simp only [readText, read, resolve_of_isDirect hpath, hentry, hfault, htext]

/-- A file that is there and cannot be read. -/
theorem readText_of_fault (hpath : f.IsDirect path names) {content : List UInt8}
    (hentry : f.entry? names = some (.file content)) {fault : Fault}
    (hfault : f.fault? names = some fault) : f.readText path = .error fault := by
  simp only [readText, read, resolve_of_isDirect hpath, hentry, hfault]

/-! ### A text and its bytes -/

/-- **A path leads where its bytes lead.** -/
theorem resolve_encode (f : Files) (path : String) :
    f.resolve (Text.Utf8.encode path) = f.resolve path := by
  have hnames : Form.names (Text.Utf8.encode path) = Form.names path := Path.namesOfBytes_encode path
  unfold resolve
  rw [Path.hasZero_encode, Path.size_encode, Path.isAbsolute_encode, hnames]

theorem isFile_encode (f : Files) (path : String) :
    f.isFile (Text.Utf8.encode path) = f.isFile path := by
  unfold isFile
  rw [resolve_encode]

theorem readText_encode (f : Files) (path : String) :
    f.readText (Text.Utf8.encode path) = f.readText path := by
  unfold readText read
  rw [resolve_encode]

/-! ### Where a path ends -/

/-- Following names ends at an entry of the tree. -/
theorem entry?_of_follow {found : List String × Entry} (h : f.follow links place names = .ok found) :
    f.entry? found.1 = some found.2 := by
  induction links, place, names using follow.induct f with
  | case1 links place e hentry =>
    rw [follow, hentry] at h
    obtain rfl := Except.ok.inj h
    exact hentry
  | _ => grind [follow]

theorem entry?_of_resolve {found : List String × Entry} (h : f.resolve path = .ok found) :
    f.entry? found.1 = some found.2 := by
  unfold resolve at h
  split_ifs at h
  · exact entry?_of_follow h
  · exact entry?_of_follow h

/-! ### Writing and removing -/

theorem entry?_of_ne_nil (hnames : names ≠ []) :
    f.entry? names = (f.entries.find? fun e => e.1 = names).map (·.2) :=
  if_neg hnames

/-- Behind the leaving out of all that is kept under some names, the rest is found as before. -/
theorem find?_filter_ne {α : Type} (es : List (List String × α)) (names q : List String) :
    (es.filter fun e => e.1 ≠ names).find? (fun e => e.1 = q) =
      if q = names then none else es.find? fun e => e.1 = q := by
  rw [List.find?_filter]
  split
  · next hq =>
    subst hq
    simp
  · next hq =>
    refine List.find?_congr fun e _ => ?_
    by_cases he : e.1 = q
    · simp [he, hq]
    · simp [he]

/-- **Writing an entry** is seen under its names, and nowhere else. -/
theorem entry?_put (f : Files) (hnames : names ≠ []) (e : Entry) (q : List String) :
    Files.entry? (f.put names e) q = if q = names then some e else f.entry? q := by
  by_cases hroot : q = []
  · rw [hroot, if_neg hnames.symm]
    rfl
  rw [entry?_of_ne_nil hroot, entry?_of_ne_nil hroot]
  unfold put
  rw [List.find?_append, find?_filter_ne]
  split
  · next hq => simp [hq]
  · next hq => simp [Ne.symm hq]

/-- What was written can be read. -/
theorem fault?_put (f : Files) (names : List String) (e : Entry) :
    Files.fault? (f.put names e) names = none := by
  unfold fault? put
  rw [find?_filter_ne, if_pos rfl, Option.map_none]

theorem unlink_of_none (h : f.entry? names = none) : f.unlink names = .error .notFound := by
  rw [unlink, h]

theorem unlink_of_folder (h : f.entry? names = some .folder) :
    f.unlink names = .error .isAFolder := by
  rw [unlink, h]

/-- **A file or a link is removed**, and the removal is seen under its names, and nowhere else. -/
theorem exists_unlink {e : Entry} (h : f.entry? names = some e) (he : e ≠ .folder) :
    ∃ g, f.unlink names = .ok g ∧ g.here = f.here ∧
      ∀ q, g.entry? q = if q = names then none else f.entry? q := by
  have hnames : names ≠ [] := by
    rintro rfl
    exact he (Option.some.inj h).symm
  let g : Files := { f with
    entries := f.entries.filter fun old => old.1 ≠ names
    faults := f.faults.filter fun old => old.1 ≠ names }
  have hg : f.unlink names = .ok g := by
    rw [unlink, h]
    cases e with
    | folder => exact absurd rfl he
    | file content => rfl
    | link target => rfl
  refine ⟨g, hg, rfl, fun q => ?_⟩
  by_cases hroot : q = []
  · rw [hroot, if_neg hnames.symm]
    rfl
  rw [entry?_of_ne_nil hroot, entry?_of_ne_nil hroot, find?_filter_ne]
  split <;> rfl

theorem create?_eq_some_iff {g : Files} {content : List UInt8} :
    f.create? names content = some g ↔ f.entry? names = none ∧ g = f.put names (.file content) := by
  unfold create?
  cases f.entry? names <;> simp [eq_comm]

theorem create?_eq_none_iff {content : List UInt8} :
    f.create? names content = none ↔ f.entry? names ≠ none := by
  unfold create?
  cases f.entry? names <;> simp

end Files
end LintLedger
