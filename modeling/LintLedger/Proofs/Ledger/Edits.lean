import LintLedger.Ledger.Listing
import LintLedger.Ledger.Written
import LintLedger.Proofs.Keyed
import LintLedger.Proofs.Text.Order
import Mathlib.Algebra.BigOperators.Group.Finset.Basic
import Mathlib.Data.List.Induction

/-!
# Ledgers as finite maps

The entry of a document is replaced, added to, emptied or removed. What stands under the documents behind any
such edits can be said without a ledger: each edit changes what is recorded under one path by what was
recorded there (`LintLedger.Ledger.Edit.record`), from nothing on. The ledger has just these lookups
(`LintLedger.Ledger.get?_ofEdits`), and since it is no more than a finite map kept in the order of its keys,
everything else about it follows: its entries, its counts, whether it holds an error, and what is printed of
it (`LintLedger.Ledger.ofEdits_canonical`).

So nothing of the way that led to a ledger is left in it. Edits of different documents can be made in any
order (`LintLedger.Ledger.ofEdits_eq_of_filter_eq`), for what is recorded under a document is a matter of its
own edits. And there is no ledger that edits do not lead to (`LintLedger.Ledger.ofEdits_replace_entries`).
-/

namespace LintLedger.Ledger

/-! ### Edits -/

/-- What can be done to the entry of a document. -/
inductive Edit where
  /-- The findings of the document are written in place of the old ones. -/
  | replace (document : String) (findings : List Finding)
  /-- A finding is added behind those of the document. -/
  | append (document : String) (finding : Finding)
  /-- The document is made known and clean. -/
  | clear (document : String)
  /-- The document is forgotten. -/
  | remove (document : String)
deriving DecidableEq

namespace Edit

/-- The ledger behind an edit. -/
def apply (l : Ledger) : Edit → Ledger
  | replace document findings => l.replace document findings
  | append document finding => l.append document finding
  | clear document => l.clear document
  | remove document => l.remove document

/-- The document that is edited. -/
def document : Edit → String
  | replace document _ => document
  | append document _ => document
  | clear document => document
  | remove document => document

/-- What is recorded under the document behind the edit, by what was recorded there before. -/
def entry : Edit → Option (List Finding) → Option (List Finding)
  | replace _ findings, _ => some findings
  | append _ finding, some findings => some (findings ++ [finding])
  | append _ finding, none => some [finding]
  | clear _, _ => some []
  | remove _, _ => none

/-- **An edit of a partial map** from paths to lists of findings. -/
def record (m : String → Option (List Finding)) (e : Edit) : String → Option (List Finding) :=
  Function.update m e.document (e.entry (m e.document))

end Edit

/-- The ledger behind some edits, from nothing on. -/
def ofEdits (edits : List Edit) : Ledger := edits.foldl Edit.apply .empty

/-- What is recorded under the paths behind some edits, from nothing on. -/
def recorded (edits : List Edit) : String → Option (List Finding) :=
  edits.foldl Edit.record fun _ => none

/-- **One edit** does to the lookups of a ledger what it does to a partial map. -/
theorem get?_apply (l : Ledger) (e : Edit) : (e.apply l).get? = e.record l.get? := by
  funext k
  rw [Edit.record, Function.update_apply]
  cases e with
  | replace d fs => exact get?_replace l d k fs
  | append d f =>
    refine (get?_append l d k f).trans (if_congr Iff.rfl ?_ rfl)
    unfold Edit.document
    cases l.get? d <;> rfl
  | clear d => exact get?_clear l d k
  | remove d => exact get?_remove l d k

/-- **Any edits**: the lookups of the ledger are what is recorded. -/
theorem get?_ofEdits (edits : List Edit) : (ofEdits edits).get? = recorded edits := by
  induction edits using List.reverseRecOn with
  | nil => rfl
  | append_singleton edits e ih =>
    unfold ofEdits recorded at ih ⊢
    rw [List.foldl_append, List.foldl_append, ← ih]
    exact get?_apply ..

/-! ### The way that led to a ledger -/

/-- **Ledgers are equal** exactly if the same is recorded on the ways to them. -/
theorem ofEdits_eq_iff {edits others : List Edit} :
    ofEdits edits = ofEdits others ↔ recorded edits = recorded others := by
  rw [← get?_ofEdits, ← get?_ofEdits]
  exact ⟨congrArg get?, fun h => ext_get? (congrFun h)⟩

/-- **What is recorded under a document** is a matter of its own edits. -/
theorem recorded_eq_foldl_entry (edits : List Edit) (d : String) :
    recorded edits d =
      (edits.filter fun e => e.document = d).foldl (fun held e => e.entry held) none := by
  induction edits using List.reverseRecOn with
  | nil => rfl
  | append_singleton edits e ih =>
    unfold recorded at ih ⊢
    rw [List.foldl_append, List.filter_append, List.foldl_append, ← ih]
    change Edit.record _ e d = _
    -- The last edit is one of the document's own, or it leaves alone what is recorded under it.
    by_cases hd : e.document = d
    · subst hd
      rw [Edit.record, Function.update_self, List.filter_cons_of_pos (by simp)]
      rfl
    · rw [Edit.record, Function.update_of_ne (Ne.symm hd), List.filter_cons_of_neg (by simp [hd])]
      rfl

/-- **Edits of different documents** can be made in any order: it is enough that each document is edited in
the same way. -/
theorem ofEdits_eq_of_filter_eq {edits others : List Edit}
    (h : ∀ d, (edits.filter fun e => e.document = d) = others.filter fun e => e.document = d) :
    ofEdits edits = ofEdits others := by
  rw [ofEdits_eq_iff]
  funext d
  rw [recorded_eq_foldl_entry, recorded_eq_foldl_entry, h]

/-- **Every ledger** is one behind some edits: those that write its entries, one by one. -/
theorem ofEdits_replace_entries (l : Ledger) :
    ofEdits (l.entries.map fun e => .replace e.1 e.2) = l := by
  refine ext_get? fun d => ?_
  -- Of the edits one at most is the document's own, as one entry at most is.
  have hown : ((l.entries.map fun e => Edit.replace e.1 e.2).filter fun e => e.document = d) =
      ((l.get? d).map fun fs => Edit.replace d fs).toList := by
    rw [List.filter_map]
    refine (congrArg _ (l.documents.filter_entries d)).trans ?_
    rw [← get?]
    cases l.get? d <;> rfl
  rw [get?_ofEdits, recorded_eq_foldl_entry, hown]
  cases l.get? d <;> rfl

/-! ### The ledger as a whole -/

/-- The paths of the known documents. -/
def known (l : Ledger) : Finset String := l.documents.keys.toFinset

theorem mem_known_iff {l : Ledger} {d : String} : d ∈ l.known ↔ (l.get? d).isSome :=
  List.mem_toFinset.trans Keyed.mem_keys_iff

theorem size_eq_card_known (l : Ledger) : l.size = l.known.card := by
  rw [known, List.toFinset_card_of_nodup l.documents.nodup_keys, Keyed.keys, List.length_map]
  rfl

/-- The findings are those of the known documents together. -/
theorem findingCount_eq_sum_known (l : Ledger) :
    l.findingCount = ∑ d ∈ l.known, ((l.get? d).getD []).length := by
  have hentry : ∀ e ∈ l.entries, e.2.length = ((l.get? e.1).getD []).length := by
    intro e he
    rw [(mem_entries_iff l e.1 e.2).mp he, Option.getD_some]
  calc l.findingCount
    _ = (l.entries.map fun e => e.2.length).sum := List.length_flatMap
    _ = (l.entries.map fun e => ((l.get? e.1).getD []).length).sum := by
      rw [List.map_congr_left hentry]
    _ = (l.documents.keys.map fun d => ((l.get? d).getD []).length).sum := by
      rw [Keyed.keys, List.map_map]
      rfl
    _ = ∑ d ∈ l.known, ((l.get? d).getD []).length :=
      (List.sum_toFinset _ l.documents.nodup_keys).symm

/-- **The entries of a ledger** come in the order of the bytes of the paths. -/
theorem pairwise_entries (l : Ledger) :
    l.entries.Pairwise fun a b => Text.Utf8.encode a.1 < Text.Utf8.encode b.1 :=
  l.documents.ascending.imp Text.Utf8.encode_lt_encode_iff.mpr

/-- **A ledger is a finite map, in one way only.** Behind any edits, a lookup finds what is recorded under the
path. The entries come in the strict order of the bytes of their paths, and each path under which something is
recorded, even an empty list, stands in one entry, with what is recorded, and any other path in none. The size
is the number of these paths, and the number of findings the length of all their lists together; the ledger is
empty exactly if its size is zero, and has errors exactly if an error is recorded somewhere. Whatever other
edits record the same lead to the same ledger, to the same JSON and to the same listing. -/
theorem ofEdits_canonical (edits : List Edit) :
    let l := ofEdits edits
    let m := recorded edits
    (∀ d, l.get? d = m d) ∧
      l.entries.Pairwise (fun a b => Text.Utf8.encode a.1 < Text.Utf8.encode b.1) ∧
      (∀ d, l.entries.filter (fun e => e.1 = d) = ((m d).map fun fs => (d, fs)).toList) ∧
      (∃ paths : Finset String, (∀ d, d ∈ paths ↔ (m d).isSome) ∧ l.size = paths.card ∧
        l.findingCount = ∑ d ∈ paths, ((m d).getD []).length) ∧
      (l.isEmpty = true ↔ l.size = 0) ∧
      (l.hasErrors = true ↔ ∃ d fs, m d = some fs ∧ ∃ f ∈ fs, f.severity = .error) ∧
      ∀ others, recorded others = m →
        ofEdits others = l ∧ (ofEdits others).pretty = l.pretty ∧
          ∀ checked, (ofEdits others).listing checked = l.listing checked := by
  intro l m
  have hget : l.get? = m := get?_ofEdits edits
  refine ⟨congrFun hget, l.pairwise_entries, ?_, ⟨l.known, ?_, l.size_eq_card_known, ?_⟩, l.isEmpty_iff,
    ?_, fun others hothers => ?_⟩
  · rw [← hget]
    exact l.documents.filter_entries
  · rw [← hget]
    exact fun d => mem_known_iff
  · rw [← hget]
    exact l.findingCount_eq_sum_known
  · rw [← hget]
    exact l.hasErrors_iff
  · have hequal : ofEdits others = l := ofEdits_eq_iff.mpr hothers
    exact ⟨hequal, congrArg pretty hequal, fun checked => congrArg (listing · checked) hequal⟩

/-- Two ways to one ledger. On the first one a document is forgotten and found again, one is cleared that had a
finding, and one is forgotten that was never known; on the second one the documents come in another order. The
last two paths are in the order of their bytes, which is not that of their UTF-16 units. -/
theorem ofEdits_canonical_rearranged :
    let f (line : UInt32) (s : Severity) : Finding := ⟨"/a", line, 0, s, "x"⟩
    let edits : List Edit := [.append "😀" (f 1 .warning), .replace "z" [f 2 .warning], .remove "z",
      .append "\uFFFF" (f 3 .error), .append "z" (f 4 .warning), .clear "\uFFFF", .append "z" (f 5 .error),
      .remove "y"]
    let others : List Edit := [.clear "\uFFFF", .replace "z" [f 4 .warning, f 5 .error],
      .replace "😀" [f 1 .warning]]
    recorded others = recorded edits ∧ ofEdits others = ofEdits edits ∧
      (ofEdits others).pretty = (ofEdits edits).pretty ∧
      (ofEdits others).listing 3 = (ofEdits edits).listing 3 ∧
      (ofEdits edits).entries.map (·.1) = ["z", "\uFFFF", "😀"] ∧
      (ofEdits edits).entries.Pairwise fun a b => Text.Utf8.encode a.1 < Text.Utf8.encode b.1 := by
  intro f edits others
  have hrecorded : recorded others = recorded edits := by
    funext d
    rw [recorded_eq_foldl_entry, recorded_eq_foldl_entry]
    by_cases hz : "z" = d
    · subst hz
      decide +kernel
    by_cases hlast : "\uFFFF" = d
    · subst hlast
      decide +kernel
    by_cases hface : "😀" = d
    · subst hface
      decide +kernel
    by_cases hy : "y" = d
    · subst hy
      decide +kernel
    -- Under any other path nothing is recorded on either way.
    · simp [edits, others, Edit.document, hz, hlast, hface, hy]
  obtain ⟨-, hascending, -, -, -, -, hsame⟩ := ofEdits_canonical edits
  obtain ⟨hequal, hpretty, hlisting⟩ := hsame others hrecorded
  exact ⟨hrecorded, hequal, hpretty, hlisting 3, by decide +kernel, hascending⟩

end LintLedger.Ledger
