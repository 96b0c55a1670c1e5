import LintLedger.Proofs.Json.Abridged
import LintLedger.Proofs.Settings.Schema

/-!
# Written settings are read

Settings that are written as JSON are read from it again, and so they are if members are left out that say
what the default ones say (`LintLedger.Settings.ofText_compact`). There is one lemma for each record. What
it is decoded to is told part by part: the member of the part was kept, and says in its abridged form what it
said before, or it was dropped, and the part has its default
(`LintLedger.Json.Decode.Shape.Tells.eq_of_abridged`).
-/

namespace LintLedger

open Json Json.Decode

/-! ### Dropping defaults -/

/-- **What is dropped of a value** is as in another one. -/
def Json.DropsEqual (drop : List String → Bool) (j k : Json) : Prop :=
  ∀ path, drop path = true → j.at? path = k.at? path

/-- A part of a record is decoded from an abridged object to what its member is decoded to, if it has its
default wherever the member is dropped. -/
theorem Json.Decode.Shape.Tells.eq_of_abridged {σ α : Type} {s : Shape σ} {name : String}
    {decode : Json → Except Json.Decode.Fault α} {get : σ → α} (ht : s.Tells name decode get)
    (hs : s.IsSound) {drop : List String → Bool} {ms : List (String × Json)} {start r : σ}
    (hr : s.decode start (abridged drop (.object ms)) = .ok r) {j : Json} {a : α}
    (hmember : Keyed.valueAt name ms.reverse = some j) (hdrop : drop [name] = true → a = get start)
    (hkeep : decode (abridged (fun path => drop (name :: path)) j) = .ok a) : get r = a := by
  have htold := ht.isTold_bind hs (show IsTold (s.decode start) start (some _) r from hr)
  rw [Option.bind_some, field?_abridged, hmember, Option.map_some] at htold
  cases hdropped : drop [name] with
  | true =>
    rw [hdropped] at htold
    exact (show get r = get start from htold).trans (hdrop hdropped).symm
  | false =>
    rw [hdropped] at htold
    exact Except.ok.inj ((show decode _ = .ok (get r) from htold).symm.trans hkeep)

theorem Json.Decode.list_texts (ss : List String) : list text (.array (ss.map .text)) = .ok ss := by
  refine list_eq_ok_iff.mpr ⟨_, rfl, ?_⟩
  rw [List.forall₂_map_left_iff, List.forall₂_same]
  exact fun _ _ => rfl

@[simp] theorem Json.map_sorted_texts (ss : List String) :
    (ss.map Json.text).map sorted = ss.map Json.text := by
  rw [List.map_map]
  rfl

variable {drop : List String → Bool}

/-! ### Tools -/

namespace Tool

theorem isTextual_toJson (t : Tool) : t.toJson.IsTextual := by
  simp [toJson]

theorem hasForm_abridged (drop : List String → Bool) (t : Tool) :
    HasForm true true (t.toJson.abridged drop) := by
  refine isRecord_abridged (by simp) (by simp) ?_
  simp [IsText, IsList]

/-- A tool is decoded from what is left of it when defaults are dropped. -/
theorem decode_abridged {t : Tool} (hdrop : DropsEqual drop t.toJson (toJson {})) :
    decode (t.toJson.abridged drop) = .ok t := by
  obtain ⟨r, hr⟩ := exists_decode_iff.mpr (t.hasForm_abridged drop)
  have hprogram : r.program = t.program := by
    refine tells_program.eq_of_abridged isSound_shape hr rfl (fun hd => ?_) rfl
    simpa [toJson, at?, member?, Keyed.valueAt] using hdrop _ hd
  have hargs : r.args = t.args := by
    refine tells_args.eq_of_abridged isSound_shape hr rfl (fun hd => ?_) ?_
    · simpa [toJson, at?, member?, Keyed.valueAt] using hdrop _ hd
    · rw [abridged_array, map_sorted_texts, list_texts]
  obtain ⟨program, args⟩ := r
  obtain rfl : program = t.program := hprogram
  obtain rfl : args = t.args := hargs
  exact hr

theorem toJson_injective : Function.Injective toJson := by
  intro t u heq
  have hkept : ∀ t : Tool, decode (t.toJson.abridged fun _ => false) = .ok t := fun t =>
    decode_abridged (fun _ hd => absurd hd (by simp))
  exact Except.ok.inj ((hkept t).symm.trans (heq ▸ hkept u))

end Tool

namespace Settings

/-! ### Rules and severities -/

theorem Rule.isTextual_toJson (r : Rule) : r.toJson.IsTextual := by
  simp [Rule.toJson, Severity.toJson]

/-- The members of a rule are written in order. -/
theorem Rule.sorted_toJson (r : Rule) : r.toJson.sorted = r.toJson := by
  have hlt : "pattern" < "severity" := by decide
  simp [Rule.toJson, Severity.toJson, sorted, sortedMembers, ofMembers, Keyed.ofList, Keyed.insert,
    Keyed.insertEntry, Keyed.empty, String.lt_asymm hlt]

theorem Rule.decode_sorted (r : Rule) : Rule.decode r.toJson.sorted = .ok r := by
  rw [Rule.sorted_toJson]
  obtain ⟨pattern, severity⟩ := r
  cases severity <;> rfl

theorem Severities.isTextual_toJson (s : Severities) : s.toJson.IsTextual := by
  simp [Severities.toJson, Severity.toJson, Rule.isTextual_toJson]

theorem Severities.list_rules (rules : List Rule) :
    list Rule.decode (.array ((rules.map Rule.toJson).map sorted)) = .ok rules := by
  refine list_eq_ok_iff.mpr ⟨_, rfl, ?_⟩
  rw [List.map_map, List.forall₂_map_left_iff, List.forall₂_same]
  exact fun r _ => r.decode_sorted

theorem Severities.hasForm_abridged (drop : List String → Bool) (s : Severities) :
    HasForm true (s.toJson.abridged drop) := by
  have hrules : ∀ r ∈ s.rules, Rule.HasForm true (sorted r.toJson) := fun r _ =>
    Rule.exists_decode_iff.mp ⟨r, r.decode_sorted⟩
  have hfallback : Severity.HasForm true s.fallback.toJson :=
    Severity.exists_decode_iff.mp ⟨s.fallback, by cases s.fallback <;> rfl⟩
  refine isRecord_abridged (by simp) (by simp) ?_
  simpa [IsText, IsList, Severity.toJson] using ⟨hrules, hfallback⟩

theorem Severities.decode_abridged {s : Severities} (hdrop : DropsEqual drop s.toJson (toJson {})) :
    Severities.decode (s.toJson.abridged drop) = .ok s := by
  obtain ⟨r, hr⟩ := exists_decode_iff.mpr (s.hasForm_abridged drop)
  have hkeyword : r.keyword = s.keyword := by
    refine tells_keyword.eq_of_abridged isSound_shape hr rfl (fun hd => ?_) rfl
    simpa [toJson, at?, member?, Keyed.valueAt] using hdrop _ hd
  have hrules : r.rules = s.rules := by
    refine tells_rules.eq_of_abridged isSound_shape hr rfl (fun hd => ?_) ?_
    · simpa [toJson, at?, member?, Keyed.valueAt] using hdrop _ hd
    · rw [abridged_array, list_rules]
  have hfallback : r.fallback = s.fallback := by
    refine tells_fallback.eq_of_abridged isSound_shape hr rfl (fun hd => ?_) ?_
    · refine Severity.name_injective ?_
      simpa [toJson, at?, member?, Keyed.valueAt, Severity.toJson] using hdrop _ hd
    · cases s.fallback <;> rfl
  obtain ⟨keyword, rules, fallback⟩ := r
  obtain rfl : keyword = s.keyword := hkeyword
  obtain rfl : rules = s.rules := hrules
  obtain rfl : fallback = s.fallback := hfallback
  exact hr

theorem Severities.toJson_injective : Function.Injective Severities.toJson := by
  intro s u heq
  have hkept : ∀ s : Severities, Severities.decode (s.toJson.abridged fun _ => false) = .ok s := fun s =>
    decode_abridged (fun _ hd => absurd hd (by simp))
  exact Except.ok.inj ((hkept s).symm.trans (heq ▸ hkept u))

/-! ### Settings -/

theorem isTextual_toJson (s : Settings) : s.toJson.IsTextual := by
  simp [toJson, Tool.isTextual_toJson, Severities.isTextual_toJson, Attribution.toJson,
    StalePolicy.toJson]

theorem hasForm_abridged (drop : List String → Bool) (s : Settings) :
    HasForm true true (s.toJson.abridged drop) := by
  have hattribution : Attribution.HasForm true s.attribution.toJson :=
    Attribution.exists_decode_iff.mp ⟨s.attribution, by cases s.attribution <;> rfl⟩
  have hpolicy : StalePolicy.HasForm true s.stalePolicy.toJson :=
    StalePolicy.exists_decode_iff.mp ⟨s.stalePolicy, by cases s.stalePolicy <;> rfl⟩
  refine isRecord_abridged (by simp) (by simp) ?_
  simpa [Attribution.toJson, StalePolicy.toJson] using
    ⟨s.tool.hasForm_abridged _, hattribution, hpolicy, s.severity.hasForm_abridged _⟩

/-- Decoded settings come from no file. -/
theorem folder_of_decode {j : Json} {s : Settings} (h : decode j = .ok s) : s.folder = none := by
  refine Shape.decode_induction (P := fun s => s.folder = none) ?_ rfl h
  simp +contextual [shape]

/-- **Settings are decoded from what is left of them when defaults are dropped.** -/
theorem decode_abridged {s : Settings} (hdrop : DropsEqual drop s.toJson (toJson {})) :
    decode (s.toJson.abridged drop) = .ok { s with folder := none } := by
  obtain ⟨r, hr⟩ := exists_decode_iff.mpr (s.hasForm_abridged drop)
  -- Each part was kept, and what is dropped below it was dropped there too, or it was dropped as a whole.
  have htool : r.tool = s.tool := by
    refine tells_tool.eq_of_abridged isSound_shape hr rfl (fun hd => ?_)
      (Tool.decode_abridged fun path hd => ?_)
    · refine Tool.toJson_injective ?_
      simpa [toJson, at?, member?, Keyed.valueAt] using hdrop _ hd
    · simpa [toJson, at?, member?, Keyed.valueAt] using hdrop _ hd
  have hattribution : r.attribution = s.attribution := by
    refine tells_attribution.eq_of_abridged isSound_shape hr rfl (fun hd => ?_) ?_
    · refine Attribution.name_injective ?_
      simpa [toJson, at?, member?, Keyed.valueAt, Attribution.toJson] using hdrop _ hd
    · cases s.attribution <;> rfl
  have hpolicy : r.stalePolicy = s.stalePolicy := by
    refine tells_stalePolicy.eq_of_abridged isSound_shape hr rfl (fun hd => ?_) ?_
    · refine StalePolicy.name_injective ?_
      simpa [toJson, at?, member?, Keyed.valueAt, StalePolicy.toJson] using hdrop _ hd
    · cases s.stalePolicy <;> rfl
  have hseverity : r.severity = s.severity := by
    refine tells_severity.eq_of_abridged isSound_shape hr rfl (fun hd => ?_)
      (Severities.decode_abridged fun path hd => ?_)
    · refine Severities.toJson_injective ?_
      simpa [toJson, at?, member?, Keyed.valueAt] using hdrop _ hd
    · simpa [toJson, at?, member?, Keyed.valueAt] using hdrop _ hd
  rw [hr, ← htool, ← hattribution, ← hpolicy, ← hseverity, ← folder_of_decode hr]

/-- Settings are read from every text in which their members stand, abridged and in any order. -/
theorem ofText_compact_of_sorted {s : Settings} (hvalid : s.fault? = none)
    (hdrop : DropsEqual drop s.toJson (toJson {})) {j : Json} (hj : j.IsTextual)
    (hsorted : j.sorted = s.toJson.abridged drop) :
    ofText j.compact = .ok { s with folder := none } := by
  refine ofText_eq_ok_iff.mpr ⟨⟨_, Json.Commented.read_compact hj, ?_⟩, hvalid⟩
  rw [Option.getD_some, hsorted]
  exact decode_abridged hdrop

/-- **Settings are read as they were written.** Valid settings are read from what is written of them, if any
members are left out that have the values of the default ones, in whatever order the others stand; in
particular they are read from what is written of them in full. Settings that were read once are read again.
The folder is not written. -/
theorem ofText_compact (s : Settings) :
    (s.fault? = none → ∀ drop, DropsEqual drop s.toJson (toJson {}) →
      ofText (s.toJson.without drop).compact = .ok { s with folder := none } ∧
        ∀ j : Json, j.IsTextual → j.sorted = (s.toJson.without drop).sorted →
          ofText j.compact = .ok { s with folder := none }) ∧
      (s.fault? = none → ofText s.toJson.compact = .ok { s with folder := none }) ∧
      ∀ t, ofText t = .ok s → ofText s.toJson.compact = .ok s := by
  have hnone : DropsEqual (fun _ => false) s.toJson (toJson {}) := fun _ hd => absurd hd (by simp)
  have hfull : s.fault? = none → ofText s.toJson.compact = .ok { s with folder := none } :=
    fun hvalid => ofText_compact_of_sorted hvalid hnone s.isTextual_toJson rfl
  refine ⟨fun hvalid drop hdrop => ⟨?_, fun j hj hsorted => ?_⟩, hfull, fun t ht => ?_⟩
  · exact ofText_compact_of_sorted hvalid hdrop s.isTextual_toJson.without rfl
  · exact ofText_compact_of_sorted hvalid hdrop hj hsorted
  · obtain ⟨⟨value, -, hdecode⟩, hvalid⟩ := ofText_eq_ok_iff.mp ht
    rw [hfull hvalid, ← folder_of_decode hdecode]

/-- Settings with signs that have to be escaped, of which defaults at several depths are left out, and one is
kept. -/
theorem ofText_compact_escaped :
    let s : Settings :=
      { tool := { program := "a \"b\"\\\n\x01é" }, stalePolicy := .clear
        severity := { keyword := "", rules := [⟨"\tx", .warning⟩] }, folder := some "/w" }
    let dropped := [["tool", "args"], ["pathSource"], ["severity", "fallback"]]
    let text := "\x7b\"tool\":\x7b\"program\":\"a \\\"b\\\"\\\\\\n\\u0001é\"\x7d,\"stalePolicy\":\"clear\"," ++
      "\"severity\":\x7b\"keyword\":\"\",\"rules\":[\x7b\"pattern\":\"\\tx\",\"severity\":\"warning\"\x7d]\x7d\x7d"
    (s.toJson.without fun path => decide (path ∈ dropped)).compact = text ∧
      ofText text = .ok { s with folder := none } := by
  intro s dropped text
  have htext : (s.toJson.without fun path => decide (path ∈ dropped)).compact = text := by decide +kernel
  have hdrop : DropsEqual (fun path => decide (path ∈ dropped)) s.toJson (toJson {}) := by
    intro path hd
    have hpath : path = ["tool", "args"] ∨ path = ["pathSource"] ∨ path = ["severity", "fallback"] := by
      simpa [dropped] using hd
    rcases hpath with rfl | rfl | rfl <;> rfl
  exact ⟨htext, htext ▸ ((ofText_compact s).1 (by decide +kernel) _ hdrop).1⟩

end Settings

end LintLedger
