import LintLedger.Proofs.Json.Commented
import LintLedger.Proofs.Json.Decode
import LintLedger.Proofs.Settings.Loading
import LintLedger.Proofs.Text.Blank

/-!
# The schema of settings

The values that hold settings are told here as a schema, without decoding any of them
(`LintLedger.Settings.HasForm`). The schema leaves two things open, which are parameters: whether there are
second ways of writing (arrays for records, objects with one name for choices), and whether the object of
the tool may have other members than its own.

A text holds settings only if its value has the form that allows both, and only if it is sensible: a program
that it gives is not blank, and it has a rule if the keyword that it gives is empty. If it is sensible, and
the object of the tool has no other members, it does hold settings, with or without the second ways
(`LintLedger.Settings.ofText_schema`).
-/

namespace LintLedger

open Json Json.Decode

/-! ### The forms of the parts -/

/-- The form of a severity. -/
def Severity.HasForm (second : Bool) : Json → Prop := IsChoice second ["error", "warning"]

/-- The form of an attribution. -/
def Attribution.HasForm (second : Bool) : Json → Prop := IsChoice second ["document", "reported"]

/-- The form of a stale policy. -/
def StalePolicy.HasForm (second : Bool) : Json → Prop := IsChoice second ["retain", "clear"]

/-- The form of a tool. -/
def Tool.HasForm (second others : Bool) : Json → Prop :=
  IsRecord second others [⟨"program", true, IsText⟩, ⟨"args", true, IsList IsText⟩]

namespace Settings

/-- The form of a rule. -/
def Rule.HasForm (second : Bool) : Json → Prop :=
  IsRecord second false [⟨"pattern", false, IsText⟩, ⟨"severity", false, Severity.HasForm second⟩]

/-- The form of the telling of severities. -/
def Severities.HasForm (second : Bool) : Json → Prop :=
  IsRecord second false
    [⟨"keyword", true, IsText⟩, ⟨"rules", true, IsList (Rule.HasForm second)⟩,
      ⟨"fallback", true, Severity.HasForm second⟩]

/-- **The form of settings.** -/
def HasForm (second others : Bool) : Json → Prop :=
  IsRecord second false
    [⟨"tool", true, Tool.HasForm second others⟩, ⟨"pathSource", true, Attribution.HasForm second⟩,
      ⟨"stalePolicy", true, StalePolicy.HasForm second⟩,
      ⟨"severity", true, Severities.HasForm second⟩]

end Settings

/-! ### What can be decoded -/

theorem Attribution.name_injective : Function.Injective Attribution.name := by
  intro a b
  cases a <;> cases b <;> simp [Attribution.name]

theorem StalePolicy.name_injective : Function.Injective StalePolicy.name := by
  intro a b
  cases a <;> cases b <;> simp [StalePolicy.name]

theorem Severity.exists_decode_iff {j : Json} : (∃ s, Severity.decode j = .ok s) ↔ HasForm true j :=
  exists_choice_iff (fun _ _ => Severity.name_injective)

theorem Attribution.exists_decode_iff {j : Json} :
    (∃ a, Attribution.decode j = .ok a) ↔ HasForm true j :=
  exists_choice_iff Attribution.name_injective

theorem StalePolicy.exists_decode_iff {j : Json} :
    (∃ p, StalePolicy.decode j = .ok p) ↔ HasForm true j :=
  exists_choice_iff StalePolicy.name_injective

theorem Tool.fits_shape : List.Forall₂ Field.Fits shape.fields
    [⟨"program", true, IsText⟩, ⟨"args", true, IsList IsText⟩] :=
  .cons ⟨rfl, rfl, fun _ _ => exists_set_iff.trans exists_text_iff⟩
    (.cons ⟨rfl, rfl, fun _ _ => exists_set_iff.trans (exists_list_iff fun _ => exists_text_iff)⟩ .nil)

theorem Tool.isSound_shape : shape.IsSound := .of_fits fits_shape (by decide)

theorem Tool.exists_decode_iff {j : Json} : (∃ t, Tool.decode j = .ok t) ↔ HasForm true true j :=
  Shape.exists_decode_iff_of_fits fits_shape isSound_shape.names

namespace Settings

theorem Rule.fits_shape : List.Forall₂ Field.Fits Rule.shape.fields
    [⟨"pattern", false, IsText⟩, ⟨"severity", false, Severity.HasForm true⟩] :=
  .cons ⟨rfl, rfl, fun _ _ => exists_set_iff.trans exists_text_iff⟩
    (.cons ⟨rfl, rfl, fun _ _ => exists_set_iff.trans Severity.exists_decode_iff⟩ .nil)

theorem Rule.isSound_shape : Rule.shape.IsSound := .of_fits fits_shape (by decide)

theorem Rule.exists_decode_iff {j : Json} : (∃ r, Rule.decode j = .ok r) ↔ Rule.HasForm true j :=
  Shape.exists_decode_iff_of_fits fits_shape isSound_shape.names

theorem Severities.fits_shape : List.Forall₂ Field.Fits Severities.shape.fields
    [⟨"keyword", true, IsText⟩, ⟨"rules", true, IsList (Rule.HasForm true)⟩,
      ⟨"fallback", true, Severity.HasForm true⟩] :=
  .cons ⟨rfl, rfl, fun _ _ => exists_set_iff.trans exists_text_iff⟩
    (.cons ⟨rfl, rfl, fun _ _ => exists_set_iff.trans (exists_list_iff fun _ => Rule.exists_decode_iff)⟩
      (.cons ⟨rfl, rfl, fun _ _ => exists_set_iff.trans Severity.exists_decode_iff⟩ .nil))

theorem Severities.isSound_shape : Severities.shape.IsSound := .of_fits fits_shape (by decide)

theorem Severities.exists_decode_iff {j : Json} :
    (∃ s, Severities.decode j = .ok s) ↔ Severities.HasForm true j :=
  Shape.exists_decode_iff_of_fits fits_shape isSound_shape.names

theorem fits_shape : List.Forall₂ Field.Fits shape.fields
    [⟨"tool", true, Tool.HasForm true true⟩, ⟨"pathSource", true, Attribution.HasForm true⟩,
      ⟨"stalePolicy", true, StalePolicy.HasForm true⟩,
      ⟨"severity", true, Severities.HasForm true⟩] :=
  .cons ⟨rfl, rfl, fun _ _ => exists_set_iff.trans Tool.exists_decode_iff⟩
    (.cons ⟨rfl, rfl, fun _ _ => exists_set_iff.trans Attribution.exists_decode_iff⟩
      (.cons ⟨rfl, rfl, fun _ _ => exists_set_iff.trans StalePolicy.exists_decode_iff⟩
        (.cons ⟨rfl, rfl, fun _ _ => exists_set_iff.trans Severities.exists_decode_iff⟩ .nil)))

theorem isSound_shape : shape.IsSound := .of_fits fits_shape (by decide)

/-- **Settings can be decoded exactly from what has their form**, in the freest sense. -/
theorem exists_decode_iff {j : Json} : (∃ s, decode j = .ok s) ↔ HasForm true true j :=
  Shape.exists_decode_iff_of_fits fits_shape isSound_shape.names

end Settings

/-! ### What decoded settings say -/

theorem Tool.tells_program : Tool.shape.Tells "program" text Tool.program := by
  constructor <;> simp +contextual [Tool.shape, Shape.fieldNames]

theorem Tool.tells_args : Tool.shape.Tells "args" (list text) Tool.args := by
  constructor <;> simp +contextual [Tool.shape, Shape.fieldNames]

namespace Settings

theorem Severities.tells_keyword : Severities.shape.Tells "keyword" text Severities.keyword := by
  constructor <;> simp +contextual [Severities.shape, Shape.fieldNames]

theorem Severities.tells_rules :
    Severities.shape.Tells "rules" (list Rule.decode) Severities.rules := by
  constructor <;> simp +contextual [Severities.shape, Shape.fieldNames]

theorem Severities.tells_fallback :
    Severities.shape.Tells "fallback" Severity.decode Severities.fallback := by
  constructor <;> simp +contextual [Severities.shape, Shape.fieldNames]

theorem tells_tool : shape.Tells "tool" Tool.decode Settings.tool := by
  constructor <;> simp +contextual [shape, Shape.fieldNames]

theorem tells_attribution : shape.Tells "pathSource" Attribution.decode Settings.attribution := by
  constructor <;> simp +contextual [shape, Shape.fieldNames]

theorem tells_stalePolicy : shape.Tells "stalePolicy" StalePolicy.decode Settings.stalePolicy := by
  constructor <;> simp +contextual [shape, Shape.fieldNames]

theorem tells_severity : shape.Tells "severity" Severities.decode Settings.severity := by
  constructor <;> simp +contextual [shape, Shape.fieldNames]

/-! ### Settings that make sense -/

/-- What a value gives for the tool. -/
def tool? (v : Json) : Option Json := field? ["tool", "pathSource", "stalePolicy", "severity"] "tool" v

/-- What a value gives for the telling of severities. -/
def severity? (v : Json) : Option Json :=
  field? ["tool", "pathSource", "stalePolicy", "severity"] "severity" v

/-- What a value gives for the program. -/
def program? (v : Json) : Option Json := (tool? v).bind (field? ["program", "args"] "program")

/-- What a value gives for the keyword. -/
def keyword? (v : Json) : Option Json :=
  (severity? v).bind (field? ["keyword", "rules", "fallback"] "keyword")

/-- What a value gives for the rules. -/
def rules? (v : Json) : Option Json :=
  (severity? v).bind (field? ["keyword", "rules", "fallback"] "rules")

/-- **The value makes sense** as far as it gives what may be empty. -/
structure IsSensible (v : Json) : Prop where
  /-- A program is not blank. -/
  program : ∀ p, program? v = some (.text p) → ∃ c ∈ p.toList, Text.isBlank c = false
  /-- Beside an empty keyword there is a rule. -/
  keyword : keyword? v = some (.text "") → ∃ r rs, rules? v = some (.array (r :: rs))

theorem fault?_eq_none_iff {s : Settings} :
    s.fault? = none ↔ (∃ c ∈ s.tool.program.toList, Text.isBlank c = false) ∧
      (s.severity.keyword = "" → s.severity.rules ≠ []) := by
  have hblank : (Text.trimChars s.tool.program.toList).isEmpty = false ↔
      ∃ c ∈ s.tool.program.toList, Text.isBlank c = false := by
    rw [← Bool.not_eq_true, List.isEmpty_iff, Text.trimChars_eq_nil_iff]
    push Not
    simp
  rw [← hblank]
  unfold fault?
  cases (Text.trimChars s.tool.program.toList).isEmpty with
  | true => simp
  | false =>
    by_cases hkeyword : s.severity.keyword = ""
    · by_cases hrules : s.severity.rules = [] <;> simp [hkeyword, hrules]
    · simp [hkeyword]

section Told

variable {v : Json} {s : Settings}

theorem isTold_program (hs : decode v = .ok s) :
    IsTold text (Tool.program {}) (program? v) s.tool.program :=
  Tool.tells_program.isTold_bind Tool.isSound_shape
    (tells_tool.isTold_bind isSound_shape (show IsTold decode {} (some v) s from hs))

theorem isTold_keyword (hs : decode v = .ok s) :
    IsTold text (Severities.keyword {}) (keyword? v) s.severity.keyword :=
  Severities.tells_keyword.isTold_bind Severities.isSound_shape
    (tells_severity.isTold_bind isSound_shape (show IsTold decode {} (some v) s from hs))

theorem isTold_rules (hs : decode v = .ok s) :
    IsTold (list Rule.decode) (Severities.rules {}) (rules? v) s.severity.rules :=
  Severities.tells_rules.isTold_bind Severities.isSound_shape
    (tells_severity.isTold_bind isSound_shape (show IsTold decode {} (some v) s from hs))

/-- A text that is told, and is not the default, was given. -/
theorem eq_text_iff_of_isTold {default a t : String} {given : Option Json}
    (htold : IsTold text default given a) (hne : t ≠ default) : a = t ↔ given = some (.text t) := by
  cases given with
  | none =>
    obtain rfl : a = default := htold
    exact iff_of_false (Ne.symm hne) (by simp)
  | some j =>
    obtain rfl := text_eq_ok_iff.mp htold
    simp

/-- A list that is told, and is not empty, was given. -/
theorem ne_nil_iff_of_isTold {α : Type} {item : Json → Except Json.Decode.Fault α} {as : List α}
    {given : Option Json} (htold : IsTold (list item) [] given as) :
    as ≠ [] ↔ ∃ j js, given = some (.array (j :: js)) := by
  cases given with
  | none =>
    obtain rfl : as = [] := htold
    simp
  | some j =>
    obtain ⟨items, rfl, hitems⟩ := list_eq_ok_iff.mp htold
    cases hitems <;> simp

/-- Decoded settings are valid exactly if the value made sense. -/
theorem fault?_eq_none_iff_of_decode (hs : decode v = .ok s) : s.fault? = none ↔ IsSensible v := by
  rw [fault?_eq_none_iff]
  have hkeyword : s.severity.keyword = "" ↔ keyword? v = some (.text "") :=
    eq_text_iff_of_isTold (isTold_keyword hs) (by decide)
  have hrules : s.severity.rules ≠ [] ↔ ∃ r rs, rules? v = some (.array (r :: rs)) :=
    ne_nil_iff_of_isTold (isTold_rules hs)
  have hprogram : (∃ c ∈ s.tool.program.toList, Text.isBlank c = false) ↔
      ∀ p, program? v = some (.text p) → ∃ c ∈ p.toList, Text.isBlank c = false := by
    have htold := isTold_program hs
    cases hgiven : program? v with
    | none =>
      -- The default program is not blank.
      rw [hgiven] at htold
      rw [show s.tool.program = Tool.program {} from htold]
      refine iff_of_true ⟨'v', by decide, by decide⟩ (by simp)
    | some j =>
      rw [hgiven] at htold
      rw [text_eq_ok_iff.mp htold]
      simp
  rw [hprogram, hkeyword, hrules]
  exact ⟨fun h => ⟨h.1, h.2⟩, fun h => ⟨h.program, h.keyword⟩⟩

end Told

/-! ### The schema -/

end Settings

section Free

variable {second : Bool} {j : Json}

theorem Severity.HasForm.free : Severity.HasForm second j → Severity.HasForm true j :=
  IsChoice.imp fun _ => rfl

theorem Tool.HasForm.free : Tool.HasForm second false j → Tool.HasForm true true j :=
  IsRecord.imp (fun _ => rfl) (fun _ => rfl) (List.forall₂_same.mpr fun _ _ => ⟨rfl, rfl, fun _ => id⟩)

theorem Settings.Rule.HasForm.free : Rule.HasForm second j → Rule.HasForm true j := by
  refine IsRecord.imp (fun _ => rfl) id ?_
  exact .cons ⟨rfl, rfl, fun _ => id⟩ (.cons ⟨rfl, rfl, fun _ => Severity.HasForm.free⟩ .nil)

theorem Settings.Severities.HasForm.free : Severities.HasForm second j → Severities.HasForm true j := by
  refine IsRecord.imp (fun _ => rfl) id ?_
  exact .cons ⟨rfl, rfl, fun _ => id⟩
    (.cons ⟨rfl, rfl, fun _ => IsList.imp fun _ => Rule.HasForm.free⟩
      (.cons ⟨rfl, rfl, fun _ => Severity.HasForm.free⟩ .nil))

/-- What has the form in a stricter sense has it in the freest one. -/
theorem Settings.HasForm.free : Settings.HasForm second false j → Settings.HasForm true true j := by
  refine IsRecord.imp (fun _ => rfl) id ?_
  exact .cons ⟨rfl, rfl, fun _ => Tool.HasForm.free⟩
    (.cons ⟨rfl, rfl, fun _ => IsChoice.imp fun _ => rfl⟩
      (.cons ⟨rfl, rfl, fun _ => IsChoice.imp fun _ => rfl⟩
        (.cons ⟨rfl, rfl, fun _ => Severities.HasForm.free⟩ .nil)))

end Free

namespace Settings

/-- **Which texts hold settings.** Only those whose value has the form of settings and makes sense; and,
written in the first way or in any, all of those, if the object of the tool has no further members. -/
theorem ofText_schema {t : String} {v : Json} (hread : Json.Commented.read t = .ok (some v)) :
    (∀ s, ofText t = .ok s → HasForm true true v ∧ IsSensible v) ∧
      ∀ second, HasForm second false v → IsSensible v → ∃ s, ofText t = .ok s := by
  have htext : ∀ s, ofText t = .ok s ↔ decode v = .ok s ∧ s.fault? = none := by
    intro s
    rw [ofText_eq_ok_iff, hread]
    simp
  constructor
  · intro s hs
    obtain ⟨hdecode, hvalid⟩ := (htext s).mp hs
    exact ⟨exists_decode_iff.mp ⟨s, hdecode⟩, (fault?_eq_none_iff_of_decode hdecode).mp hvalid⟩
  · intro second hform hsensible
    obtain ⟨s, hdecode⟩ := exists_decode_iff.mpr hform.free
    exact ⟨s, (htext s).mpr ⟨hdecode, (fault?_eq_none_iff_of_decode hdecode).mpr hsensible⟩⟩

/-- A keyword under a wrong name is refused. In an array of arrays nothing has a name, and an empty keyword may
stand beside two rules. -/
theorem ofText_schema_rules :
    (¬∃ s, ofText "\x7b\"severity\":\x7b\"keywords\":\"fatal\"\x7d\x7d" = .ok s) ∧
      ∃ s, ofText "\x7b\"severity\":[\"\",[[\"a+\",\"warning\"],[\"b\",\"error\"]]]\x7d" = .ok s := by
  constructor
  · let v : Json := .object [("severity", .object [("keywords", .text "fatal")])]
    have hread : Json.Commented.read v.compact = .ok (some v) :=
      Json.Commented.read_compact (by simp [v])
    have htext : v.compact = "\x7b\"severity\":\x7b\"keywords\":\"fatal\"\x7d\x7d" := by decide +kernel
    rintro ⟨s, hs⟩
    have hform : HasForm true true (.object [("severity", .object [("keywords", .text "fatal")])]) :=
      ((ofText_schema (htext ▸ hread)).1 s hs).1
    rcases hform with ⟨-, hformed, -⟩ | _
    have hseverity : Severities.HasForm true (.object [("keywords", .text "fatal")]) :=
      hformed _ List.mem_cons_self ⟨"severity", true, Severities.HasForm true⟩ (by simp) rfl
    rcases hseverity with ⟨hknown, -, -⟩ | _
    simpa using hknown rfl _ List.mem_cons_self
  · let rules : List Json := [.array [.text "a+", .text "warning"], .array [.text "b", .text "error"]]
    let v : Json := .object [("severity", .array [.text "", .array rules])]
    have hread : Json.Commented.read v.compact = .ok (some v) :=
      Json.Commented.read_compact (by simp [v, rules])
    have htext : v.compact = "\x7b\"severity\":[\"\",[[\"a+\",\"warning\"],[\"b\",\"error\"]]]\x7d" := by
      decide +kernel
    have hrule : ∀ p s, s = "warning" ∨ s = "error" → Rule.HasForm true (.array [.text p, .text s]) := by
      rintro p s (rfl | rfl) <;>
        exact .array rfl (by simp) (by simp [IsText, Severity.HasForm]) (by simp)
    have hseverities : Severities.HasForm true (.array [.text "", .array rules]) :=
      .array rfl (by simp) (by simp [IsText, IsList, rules, hrule]) (by simp)
    have hform : HasForm true false v :=
      .object (by simp) (by simpa using hseverities) (by simp)
    have hsensible : IsSensible v := by
      refine ⟨fun p hp => ?_, fun _ => ⟨_, _, rfl⟩⟩
      cases hp
    exact (ofText_schema (htext ▸ hread)).2 true hform hsensible

/-- An array holds settings, though it is no object, and so has not the form without second ways. -/
theorem ofText_array :
    Json.Commented.read "[]" = .ok (some (.array [])) ∧ ofText "[]" = .ok {} ∧
      ¬HasForm false false (.array []) := by
  have hread : Json.Commented.read (Json.array []).compact = .ok (some (.array [])) :=
    Json.Commented.read_compact (.array (by simp))
  have htext : (Json.array []).compact = "[]" := by decide +kernel
  rw [htext] at hread
  refine ⟨hread, ofText_eq_ok_iff.mpr ⟨⟨_, hread, rfl⟩, by decide +kernel⟩, ?_⟩
  rintro (_ | ⟨hallowed, -, -, -⟩)
  exact absurd hallowed (by simp)

end Settings

end LintLedger
