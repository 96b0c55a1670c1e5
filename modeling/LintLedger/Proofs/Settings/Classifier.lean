import LintLedger.Proofs.Json.Decode
import LintLedger.Proofs.Pattern.Literal
import LintLedger.Proofs.Settings.Written
import Mathlib.Data.List.Forall2

/-!
# The classifier of settings

What settings say about severities is a list of rules and a fallback, or a keyword. What their classifier does
to a message is told from the settings as they are written (`LintLedger.Settings.Severities.IsFollowedBy`),
with a rule deciding a message if its pattern can be read and occurs there (`LintLedger.Settings.Rule.decides`).

A classifier looks for the first rule that decides. Since the rules are compiled one by one, that is the
first among the rules as they are written (`LintLedger.Settings.Severities.classifier_apply`), and what
becomes of a message when rules are added or change places is a matter of what comes first in a list.
-/

namespace LintLedger

/-- **A text occurs in another** if it is a contiguous part of it. -/
theorem Text.occursIn_iff {part text : List Char} : occursIn part text = true ↔ part <:+: text := by
  induction text with
  | nil => rw [occursIn, List.isEmpty_iff, List.infix_nil]
  | cons c cs ih => rw [occursIn, Bool.or_eq_true, List.isPrefixOf_iff_prefix, ih, List.infix_cons_iff]

theorem Classifier.ofKeyword_apply (keyword : String) {m : String} (hm : m ≠ "") :
    ofKeyword keyword m = if keyword.toList <:+: m.toList then .error else .warning := by
  have hempty : m.isEmpty = false := by simpa using hm
  simp only [ofKeyword, hempty, Bool.false_or, Text.occursIn_iff]

namespace Settings

/-! ### Rules -/

namespace Rule

/-- The pattern of the rule can be read. -/
def IsReadable (r : Rule) : Prop := ∃ p, Pattern.compile r.pattern = .ok p

/-- **Does the rule decide the message?** It does if its pattern can be read and occurs there. -/
def decides (r : Rule) (message : String) : Bool :=
  match Pattern.compile r.pattern with
  | .ok p => p.occursIn message
  | .error _ => false

variable {r : Rule} {compiled : Classifier.Rule}

theorem severity_of_compile (h : r.compile = .ok compiled) : compiled.severity = r.severity := by
  rw [compile] at h
  split at h
  · obtain rfl := Except.ok.inj h
    rfl
  · exact absurd h (by simp)

theorem matches_of_compile (h : r.compile = .ok compiled) (m : String) : compiled.matches m = r.decides m := by
  rw [compile] at h
  split at h
  · next p hp =>
    obtain rfl := Except.ok.inj h
    simp only [decides, hp]
    rfl
  · exact absurd h (by simp)

end Rule

variable {rules : List Rule} {compiled : List Classifier.Rule}

/-- Of compiled rules the first that matches is the first that decides. -/
theorem find?_compiled (h : List.Forall₂ (fun r c => Rule.compile r = .ok c) rules compiled) (m : String) :
    (compiled.find? (·.matches m)).map (·.severity) = (rules.find? (·.decides m)).map (·.severity) := by
  induction h with
  | nil => rfl
  | @cons r c rules compiled hr _ ih =>
    rw [List.find?_cons, List.find?_cons, Rule.matches_of_compile hr]
    cases r.decides m with
    | true => exact congrArg some (Rule.severity_of_compile hr)
    | false => exact ih

/-! ### Classifiers -/

namespace Severities

variable {s : Severities} {c : Classifier}

theorem exists_classifier_iff : (∃ c, s.classifier = .ok c) ↔ ∀ r ∈ s.rules, r.IsReadable := by
  have hcompile : (∃ compiled, s.rules.mapM Rule.compile = .ok compiled) ↔ ∀ r ∈ s.rules, r.IsReadable := by
    simp only [Json.Decode.exists_mapM_iff, Rule.exists_compile_iff, Rule.IsReadable]
  rw [← hcompile, classifier]
  split
  · next hempty =>
    rw [List.isEmpty_iff.mp hempty]
    exact ⟨fun _ => ⟨[], rfl⟩, fun _ => ⟨_, rfl⟩⟩
  · simp

/-- There is no classifier if a pattern cannot be read, and the fault is the first such one. -/
theorem classifier_eq_error_iff_first {bad : BadPattern} :
    s.classifier = .error bad ↔
      ∃ before r after, s.rules = before ++ r :: after ∧ (∀ b ∈ before, b.IsReadable) ∧
        bad.source = r.pattern ∧ Pattern.compile r.pattern = .error bad.fault := by
  rw [classifier_eq_error_iff, mapM_compile_eq_error_iff]
  simp only [Rule.exists_compile_iff, Rule.compile_eq_error_iff, Rule.IsReadable]
  constructor
  · rintro ⟨before, r, after, hsplit, hbefore, fault, hfault, rfl⟩
    exact ⟨before, r, after, hsplit, hbefore, rfl, hfault⟩
  · rintro ⟨before, r, after, hsplit, hbefore, hsource, hfault⟩
    exact ⟨before, r, after, hsplit, hbefore, bad.fault, hfault, hsource ▸ rfl⟩

/-- **The classifier of settings with rules** gives a message the severity of the first rule that decides. -/
theorem classifier_apply (h : s.classifier = .ok c) (hrules : s.rules ≠ []) {m : String} (hm : m ≠ "") :
    c m = ((s.rules.find? (·.decides m)).map (·.severity)).getD s.fallback := by
  have hsome : s.rules.isEmpty = false := List.isEmpty_eq_false_iff.mpr hrules
  have hempty : m.isEmpty = false := by simpa using hm
  rw [classifier, hsome, if_neg Bool.false_ne_true, Json.Decode.bind_eq_ok_iff] at h
  obtain ⟨compiled, hcompiled, hc⟩ := h
  obtain rfl := Except.ok.inj hc
  rw [← find?_compiled (Json.Decode.mapM_eq_ok_iff.mp hcompiled) m, Classifier.ofRules, hempty,
    if_neg Bool.false_ne_true]
  cases compiled.find? (·.matches m) <;> rfl

theorem classifier_of_nil (h : s.classifier = .ok c) (hrules : s.rules = []) :
    c = Classifier.ofKeyword s.keyword := by
  rw [classifier, hrules] at h
  exact (Except.ok.inj h).symm

/-- An empty message is an error. -/
theorem classifier_empty (h : s.classifier = .ok c) : c "" = .error := by
  rw [classifier] at h
  split at h
  · obtain rfl := Except.ok.inj h
    rfl
  · obtain ⟨compiled, -, hc⟩ := Json.Decode.bind_eq_ok_iff.mp h
    obtain rfl := Except.ok.inj hc
    rfl

/-- **The classifier does what the settings say.** -/
structure IsFollowedBy (s : Severities) (c : Classifier) : Prop where
  /-- An empty message is an error. -/
  empty : c "" = .error
  /-- Without rules a message is an error if the keyword is a contiguous part of it. -/
  keyword : s.rules = [] → ∀ m ≠ "", s.keyword.toList <:+: m.toList → c m = .error
  /-- Without rules any other message is a warning. -/
  noKeyword : s.rules = [] → ∀ m ≠ "", ¬s.keyword.toList <:+: m.toList → c m = .warning
  /-- The first rule that decides a message gives its severity. -/
  first : ∀ before r after, s.rules = before ++ r :: after → ∀ m ≠ "",
    (∀ b ∈ before, b.decides m = false) → r.decides m = true → c m = r.severity
  /-- Where there are rules and none of them decides, the fallback does. -/
  fallback : s.rules ≠ [] → ∀ m ≠ "", (∀ r ∈ s.rules, r.decides m = false) → c m = s.fallback

theorem isFollowedBy_classifier (h : s.classifier = .ok c) : s.IsFollowedBy c where
  empty := classifier_empty h
  keyword := by
    intro hrules m hm hoccurs
    rw [classifier_of_nil h hrules, Classifier.ofKeyword_apply s.keyword hm, if_pos hoccurs]
  noKeyword := by
    intro hrules m hm hnot
    rw [classifier_of_nil h hrules, Classifier.ofKeyword_apply s.keyword hm, if_neg hnot]
  first := by
    intro before r after hsplit m hm hbefore hr
    have hrules : s.rules ≠ [] := by simp [hsplit]
    have hfind : s.rules.find? (·.decides m) = some r := by
      rw [List.find?_eq_some_iff_append]
      exact ⟨hr, before, after, hsplit, by simpa using hbefore⟩
    rw [classifier_apply h hrules hm, hfind]
    rfl
  fallback := by
    intro hrules m hm hnone
    have hfind : s.rules.find? (·.decides m) = none := by
      rw [List.find?_eq_none]
      simpa using hnone
    rw [classifier_apply h hrules hm, hfind]
    rfl

/-- With rules the keyword has no influence. -/
theorem classifier_keyword (hrules : s.rules ≠ []) (keyword : String) :
    { s with keyword := keyword }.classifier = s.classifier := by
  have hsome : s.rules.isEmpty = false := List.isEmpty_eq_false_iff.mpr hrules
  simp only [classifier, hsome, Bool.false_eq_true, if_false]

/-! ### Changing the rules -/

/-- Settings with other rules for which the same rule is the first that decides a message give it the same
severity. -/
theorem classifier_congr_find? {others : List Rule} {c' : Classifier} (h : s.classifier = .ok c)
    (h' : { s with rules := others }.classifier = .ok c') (hrules : s.rules ≠ []) (hothers : others ≠ [])
    {m : String} (hfind : others.find? (·.decides m) = s.rules.find? (·.decides m)) : c' m = c m := by
  rcases eq_or_ne m "" with rfl | hm
  · rw [classifier_empty h, classifier_empty h']
  · rw [classifier_apply h hrules hm, classifier_apply h' hothers hm, hfind]

/-- **A rule that is put behind others** can only change messages that none of them decides. -/
theorem classifier_insert {before after : List Rule} {r : Rule} (h : s.classifier = .ok c)
    (hsplit : s.rules = before ++ after) (hr : r.IsReadable) :
    ∃ c', { s with rules := before ++ r :: after }.classifier = .ok c' ∧
      ∀ m, (∃ b ∈ before, b.decides m = true) → c' m = c m := by
  have hreadable := exists_classifier_iff.mp ⟨c, h⟩
  rw [hsplit, List.forall_mem_append] at hreadable
  obtain ⟨c', hc'⟩ := (exists_classifier_iff (s := { s with rules := before ++ r :: after })).mpr
    (List.forall_mem_append.mpr ⟨hreadable.1, List.forall_mem_cons.mpr ⟨hr, hreadable.2⟩⟩)
  refine ⟨c', hc', ?_⟩
  rintro m ⟨b, hb, hdecides⟩
  have hrules : s.rules ≠ [] := by
    rw [hsplit]
    exact List.append_ne_nil_of_left_ne_nil (List.ne_nil_of_mem hb) after
  refine classifier_congr_find? h hc' hrules (by simp) ?_
  -- The first rule that decides is one of those in front.
  have hfront : (before.find? (·.decides m)).isSome = true := by
    rw [List.find?_isSome]
    exact ⟨b, hb, hdecides⟩
  rw [hsplit, List.find?_append, List.find?_append, Option.or_of_isSome hfront, Option.or_of_isSome hfront]

/-- Two neighbours may change places if not both of them are wanted. -/
theorem find?_swap {α : Type} {p : α → Bool} {a b : α} (h : ¬(p a = true ∧ p b = true)) (xs ys : List α) :
    (xs ++ b :: a :: ys).find? p = (xs ++ a :: b :: ys).find? p := by
  rw [List.find?_append, List.find?_append]
  congr 1
  cases ha : p a <;> cases hb : p b <;> simp_all

/-- **Neighbouring rules that change places** can only change messages that both of them decide. -/
theorem classifier_swap {before after : List Rule} {x y : Rule} (h : s.classifier = .ok c)
    (hsplit : s.rules = before ++ x :: y :: after) :
    ∃ c', { s with rules := before ++ y :: x :: after }.classifier = .ok c' ∧
      ∀ m, c' m ≠ c m → x.decides m = true ∧ y.decides m = true := by
  have hperm : (before ++ y :: x :: after).Perm s.rules := by
    rw [hsplit]
    exact (List.Perm.swap x y after).append_left before
  obtain ⟨c', hc'⟩ := (exists_classifier_iff (s := { s with rules := before ++ y :: x :: after })).mpr
    fun r hr => exists_classifier_iff.mp ⟨c, h⟩ r (hperm.mem_iff.mp hr)
  refine ⟨c', hc', fun m hchanged => ?_⟩
  by_contra hnot
  refine hchanged (classifier_congr_find? h hc' (by simp [hsplit]) (by simp) ?_)
  rw [hsplit]
  exact find?_swap hnot before after

end Severities

/-- **What becomes of messages** under the settings that a text holds. There is a classifier unless a pattern
cannot be read, and then the first such pattern is named. The classifier does what the settings say, of which
the keyword says nothing where there are rules, and is not empty where there are none. A rule that is put
behind others changes no message that one of them decides, and two neighbours that change places change only
messages that both decide. -/
theorem classifier_ofText {text : String} {s : Settings} (h : ofText text = .ok s) :
    (∀ bad, s.severity.classifier = .error bad ↔
        ∃ before r after, s.severity.rules = before ++ r :: after ∧ (∀ b ∈ before, b.IsReadable) ∧
          bad.source = r.pattern ∧ Pattern.compile r.pattern = .error bad.fault) ∧
      ((∃ c, s.severity.classifier = .ok c) ↔ ∀ r ∈ s.severity.rules, r.IsReadable) ∧
      (s.severity.rules = [] → s.severity.keyword ≠ "") ∧
      ∀ c, s.severity.classifier = .ok c →
        s.severity.IsFollowedBy c ∧
          (s.severity.rules ≠ [] → ∀ keyword, { s.severity with keyword := keyword }.classifier = .ok c) ∧
          (∀ before r after, s.severity.rules = before ++ after → r.IsReadable →
            ∃ c', { s.severity with rules := before ++ r :: after }.classifier = .ok c' ∧
              ∀ m, (∃ b ∈ before, b.decides m = true) → c' m = c m) ∧
          ∀ before x y after, s.severity.rules = before ++ x :: y :: after →
            ∃ c', { s.severity with rules := before ++ y :: x :: after }.classifier = .ok c' ∧
              ∀ m, c' m ≠ c m → x.decides m = true ∧ y.decides m = true := by
  obtain ⟨-, hvalid⟩ := ofText_eq_ok_iff.mp h
  obtain ⟨-, hkeyword⟩ := fault?_eq_none_iff.mp hvalid
  refine ⟨fun bad => Severities.classifier_eq_error_iff_first, Severities.exists_classifier_iff, ?_, ?_⟩
  · intro hrules hempty
    exact hkeyword hempty hrules
  · intro c hc
    refine ⟨Severities.isFollowedBy_classifier hc, ?_, ?_, ?_⟩
    · intro hrules keyword
      rw [Severities.classifier_keyword hrules, hc]
    · intro before r after hsplit hr
      exact Severities.classifier_insert hc hsplit hr
    · intro before x y after hsplit
      exact Severities.classifier_swap hc hsplit

/-- Of two rules the first decides a message in which both patterns occur. -/
theorem classifier_ofText_both :
    let text := "\x7b\"severity\":\x7b\"keyword\":\"\",\"rules\":[" ++
      "\x7b\"pattern\":\"a\",\"severity\":\"error\"\x7d,\x7b\"pattern\":\"b\",\"severity\":\"warning\"\x7d]\x7d\x7d"
    let s : Settings := { severity := { keyword := "", rules := [⟨"a", .error⟩, ⟨"b", .warning⟩] } }
    ofText text = .ok s ∧
      ∃ c, s.severity.classifier = .ok c ∧ c "" = .error ∧ c "xba" = .error ∧ c "xb" = .warning := by
  intro text s
  have hs : ofText text = .ok s := toOption_ofText_eq_some_iff.mp (by decide +kernel)
  obtain ⟨-, hreadable, -, hdoes⟩ := classifier_ofText hs
  have hrules : ∀ r ∈ s.severity.rules, r.IsReadable := by
    have ha : Rule.IsReadable ⟨"a", .error⟩ :=
      (Pattern.exists_compile_iff (by decide) (List.all_eq_true.mp (by decide))).mpr (by decide)
    have hb : Rule.IsReadable ⟨"b", .warning⟩ :=
      (Pattern.exists_compile_iff (by decide) (List.all_eq_true.mp (by decide))).mpr (by decide)
    exact List.forall_mem_cons.mpr ⟨ha, List.forall_mem_singleton.mpr hb⟩
  obtain ⟨c, hc⟩ := hreadable.mpr hrules
  obtain ⟨hfollowed, -⟩ := hdoes c hc
  refine ⟨hs, c, hc, hfollowed.empty, ?_, ?_⟩
  · exact hfollowed.first [] _ _ rfl "xba" (by decide) (by simp) (by decide +kernel)
  · exact hfollowed.first [⟨"a", .error⟩] _ _ rfl "xb" (by decide)
      (List.forall_mem_singleton.mpr (by decide +kernel)) (by decide +kernel)

end Settings
end LintLedger
