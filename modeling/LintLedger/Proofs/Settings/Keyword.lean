import LintLedger.Proofs.Settings.Classifier

/-!
# A keyword and a rule

Settings may mark errors by a keyword, or by a table of rules. A keyword of letters and digits is a pattern
as well, and occurs as a pattern where it occurs as a text (`LintLedger.Pattern.occursIn_of_plain`). So the
settings may give it up for a rule with the keyword as its pattern and warnings for the other messages: the
classifier is the same function (`LintLedger.Classifier.ofRules_literal`), and the intake is the same
(`LintLedger.Settings.intake_byRule`).

The rule needs a pattern that can be read. With letters and digits nothing but a lack of room can stand in the
way, and there is room for more than three hundred thousand of them
(`LintLedger.Pattern.exists_compile_iff`).
-/

namespace LintLedger

/-- **The rule of a literal pattern is the keyword**: their classifiers agree on every message. -/
theorem Classifier.ofRules_literal {k : String} (hplain : ∀ c ∈ k.toList, Pattern.Reader.isSpecial c = false)
    {p : Pattern} (hp : Pattern.compile k = .ok p) :
    ofRules [⟨p, .error⟩] .warning = ofKeyword k := by
  funext m
  rcases eq_or_ne m "" with rfl | hm
  · rfl
  · have hempty : m.isEmpty = false := by simpa using hm
    have hoccurs : Rule.matches ⟨p, .error⟩ m = true ↔ k.toList <:+: m.toList :=
      Pattern.occursIn_of_plain hplain hp m
    rw [ofKeyword_apply k hm, ofRules, hempty, if_neg Bool.false_ne_true, List.find?_singleton]
    by_cases hk : k.toList <:+: m.toList
    · rw [if_pos hk, if_pos (hoccurs.mpr hk)]
    · rw [if_neg hk, if_neg fun hmatches => hk (hoccurs.mp hmatches)]

namespace Settings

/-- The settings with a keyword and no rules; the fallback has no say then. -/
def byKeyword (s : Settings) (k : String) (fallback : Severity) : Settings :=
  { s with severity := ⟨k, [], fallback⟩ }

/-- The settings with a rule in the place of the keyword; a keyword that is left over has no say. -/
def byRule (s : Settings) (k unused : String) : Settings :=
  { s with severity := ⟨unused, [⟨k, .error⟩], .warning⟩ }

/-- **A keyword may be given up for a rule.** Take any settings, and a keyword of letters and digits that is
taken for a pattern. With the keyword and with the rule they ask for the same intake, which does the same to
every output about every document and over every ledger, whatever the attribution and the policy; and the two
classifiers agree on every message. -/
theorem intake_byRule {k : String} (hk : ∀ c ∈ k.toList, c.isAlphanum = true)
    (hread : ∃ p, Pattern.compile k = .ok p) (s : Settings) (fallback : Severity) (unused : String) :
    (∃ i, (s.byKeyword k fallback).intake = .ok i ∧ (s.byRule k unused).intake = .ok i ∧
        i.attribution = s.attribution ∧ i.stalePolicy = s.stalePolicy) ∧
      ∀ p, Pattern.compile k = .ok p → ∀ m,
        Classifier.ofRules [⟨p, .error⟩] .warning m = Classifier.ofKeyword k m := by
  have hplain : ∀ c ∈ k.toList, Pattern.Reader.isSpecial c = false :=
    fun c hc => Pattern.Reader.isSpecial_of_isAlphanum (hk c hc)
  have hsame : ∀ p, Pattern.compile k = .ok p →
      Classifier.ofRules [⟨p, .error⟩] .warning = Classifier.ofKeyword k :=
    fun p hp => Classifier.ofRules_literal hplain hp
  refine ⟨?_, fun p hp m => congrFun (hsame p hp) m⟩
  obtain ⟨p, hp⟩ := hread
  have hclassifier : (s.byRule k unused).severity.classifier = .ok (Classifier.ofKeyword k) := by
    have hcompile : Rule.compile ⟨k, .error⟩ = .ok ⟨p, .error⟩ := by rw [Rule.compile, hp]
    simp [byRule, Severities.classifier, hcompile, hsame p hp, bind, Except.bind, pure, Except.pure]
  refine ⟨⟨Classifier.ofKeyword k, s.attribution, s.stalePolicy⟩, rfl, ?_, rfl, rfl⟩
  rw [intake, hclassifier]
  rfl

/-- A code of the tool as the keyword, in a message that is not ASCII. -/
theorem intake_byRule_code :
    let s : Settings := { attribution := .reported, stalePolicy := .clear }
    ∃ i, (s.byKeyword "E42" .warning).intake = .ok i ∧ (s.byRule "E42" "unused").intake = .ok i ∧
      i.classifier "répété (E42)" = .error ∧ i.classifier "répété (e42)" = .warning := by
  intro s
  have hk : ∀ c ∈ "E42".toList, c.isAlphanum = true := List.all_eq_true.mp (by decide)
  have hread : ∃ p, Pattern.compile "E42" = .ok p :=
    (Pattern.exists_compile_iff (by decide) hk).mpr (by decide)
  obtain ⟨⟨i, hkeyword, hrule, -⟩, -⟩ := intake_byRule hk hread s .warning "unused"
  refine ⟨i, hkeyword, hrule, ?_⟩
  obtain rfl := Except.ok.inj hkeyword
  decide +kernel

end Settings
end LintLedger
