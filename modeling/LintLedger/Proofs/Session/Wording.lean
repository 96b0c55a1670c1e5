import LintLedger.Proofs.Session.History
import LintLedger.Proofs.Session.Messages
import LintLedger.Proofs.Text.Blank

/-!
# What diagnostics say

A line of a report without a message is no finding, so one would think that every diagnostic an editor is
shown says something. But whether a line has a message is asked before the blanks around it are dropped,
and they are dropped when it is shown: a message of nothing but blanks makes a finding, and a diagnostic
that says nothing. `LintLedger.Session.isWorded_iff` is the exact condition for all diagnostics of an
exchange to say something.

It takes both directions between what a tool reports and what is published: what stands in a ledger was
found at some turn (`LintLedger.Session.exists_turn_of_entry`), and it was published at some turn if the
document has a location (`LintLedger.Session.exists_publish_of_entry`).
-/

namespace LintLedger

/-! ### Texts that say something -/

/-- **The text says something**, and stands without blanks around it. -/
structure Text.IsWorded (s : String) : Prop where
  /-- There is a text. -/
  ne_empty : s ≠ ""
  /-- It does not start with a blank. -/
  head : ∀ c ∈ s.toList.head?, Text.isBlank c = false
  /-- It does not end with a blank. -/
  last : ∀ c ∈ s.toList.getLast?, Text.isBlank c = false

/-- What is left of a text without the blanks around it says something exactly if the text does not
consist of blanks. -/
theorem Text.isWorded_trim_iff {s : String} :
    IsWorded (trim s) ↔ ∃ c ∈ s.toList, isBlank c = false := by
  have htrims := trims_trimChars s.toList
  have hempty : trim s = "" ↔ ∀ c ∈ s.toList, isBlank c = true := by
    rw [← trimChars_eq_nil_iff, trim, ← String.toList_eq_nil_iff, String.toList_ofList]
  constructor
  · intro hworded
    by_contra hblank
    push Not at hblank
    exact hworded.ne_empty (hempty.mpr fun c hc => by simpa using hblank c hc)
  · rintro ⟨c, hc, hnot⟩
    refine ⟨fun hnil => ?_, ?_, ?_⟩
    · rw [hempty.mp hnil c hc] at hnot
      exact absurd hnot (by simp)
    · rw [trim, String.toList_ofList]
      exact htrims.head
    · rw [trim, String.toList_ofList]
      exact htrims.last

/-! ### Analyses -/

namespace Analysis

variable {a : Analyser} {h : Host} {before : Ledger} {u : Location} {version : Option Int}
  {k : String} {fs : List Finding} {f : Finding}

/-- **The tool finds something** when the document at a location is analysed. -/
def Finds (a : Analyser) (h : Host) (u : Location) (f : Finding) : Prop :=
  ∃ bytes outcome, u.pathBytes? = some bytes ∧ h.run a.tool bytes = .ok outcome ∧
    f ∈ a.intake.findings (Text.Utf8.decodeLossy bytes) outcome.output.toList

/-- What stands in the ledger behind an analysis stood there before, or was found now. -/
theorem known_or_finds (hget : (run a h before u version).ledger.get? k = some fs) :
    before.get? k = some fs ∨ ∀ f ∈ fs, f.path = k ∧ Finds a h u f := by
  rcases run_cases a h before u version with
    ⟨hledger, -⟩ | ⟨bytes, outcome, hbytes, hrun, hledger, -⟩
  · rw [hledger] at hget
    exact Or.inl hget
  · rw [hledger, get?_ofOutput] at hget
    split at hget
    · obtain rfl := Option.some.inj hget
      refine Or.inr fun f hf => ?_
      obtain ⟨hfound, hk⟩ := List.mem_filter.mp hf
      exact ⟨of_decide_eq_true hk, bytes, outcome, hbytes, hrun, hfound⟩
    · split at hget
      · obtain rfl := Option.some.inj hget
        exact Or.inr fun f hf => absurd hf List.not_mem_nil
      · exact Or.inl hget

/-- What is found stands in the ledger behind the analysis. -/
theorem Finds.exists_entry (hf : Finds a h u f) (before : Ledger) (version : Option Int) :
    ∃ fs, (run a h before u version).ledger.get? f.path = some fs ∧ f ∈ fs := by
  obtain ⟨bytes, outcome, hbytes, hrun, hfound⟩ := hf
  rw [(run_of_ok hbytes hrun before version).1, get?_ofOutput, if_pos ⟨f, hfound, rfl⟩]
  exact ⟨_, rfl, List.mem_filter.mpr ⟨hfound, decide_eq_true rfl⟩⟩

/-- What stands in the ledger behind an analysis stood there before, or is published now, if the document
has a location. -/
theorem known_or_published (hget : (run a h before u version).ledger.get? k = some fs)
    (hplace : (Location.ofPath? k).isSome) :
    before.get? k = some fs ∨
      ∃ p ∈ (run a h before u version).publications, p.diagnostics = fs.map Diagnostic.ofFinding := by
  obtain ⟨c, hc⟩ := Option.isSome_iff_exists.mp hplace
  rcases run_cases a h before u version with
    ⟨hledger, -⟩ | ⟨bytes, outcome, -, -, hledger, hpublications⟩
  · rw [hledger] at hget
    exact Or.inl hget
  · rw [hledger] at hget
    by_cases hold : before.get? k = some fs
    · exact Or.inl hold
    · rw [hpublications, publications_ofOutput]
      exact Or.inr ⟨_, mem_publications?_iff.mpr ⟨k, fs, c, hget, Or.inr hold, hc, rfl⟩, rfl⟩

end Analysis

/-! ### Messages -/

namespace Session

variable {h : Host} {s : Session} {m : Message} {u : Location} {k : String} {fs : List Finding}
  {f : Finding}

/-- **The message has the document at a location analysed.** -/
inductive Analyses (s : Session) : Message → Location → Prop where
  /-- The document is opened. -/
  | opened {l : String} {u : Location} {v : Int} (serving : s.phase = .serving)
      (read : Location.read l = .ok u) (version : isVersion v = true) :
      Analyses s (.opened l (some v)) u
  /-- The document is saved. -/
  | saved {l : String} {u : Location} (serving : s.phase = .serving)
      (read : Location.read l = .ok u) : Analyses s (.saved l) u

/-- **Something is found at a turn** of a session. -/
def Turn.Finds (t : Turn) (s : Session) (f : Finding) : Prop :=
  ∃ u, Analyses s t.message u ∧ Analysis.Finds s.analyser t.host u f

/-- Where a document is analysed, the analysis is all that is done to the ledger and all that is sent. -/
theorem Analyses.exists_handle_eq (hanalyses : Analyses s m u) (h : Host) :
    ∃ version,
      (s.handle h m).1.ledger = (Analysis.run s.analyser h s.ledger u version).ledger ∧
        (s.handle h m).2.notices =
          (Analysis.run s.analyser h s.ledger u version).publications.map .publish := by
  cases hanalyses with
  | opened serving read version =>
    rw [handle_opened serving read version]
    exact ⟨_, rfl, rfl⟩
  | saved serving read =>
    rw [handle_saved serving read]
    exact ⟨_, rfl, rfl⟩

/-- **What stands in the ledger behind a message** stood there before, or a document is analysed. -/
theorem known_or_analysed (hget : (s.handle h m).1.ledger.get? k = some fs) :
    s.ledger.get? k = some fs ∨ ∃ u, Analyses s m u := by
  have heffect := effect_handle h s m
  generalize (s.handle h m).1 = s' at heffect hget
  generalize (s.handle h m).2.notices = notices at heffect
  cases heffect with
  | opened serving read version => exact Or.inr ⟨_, .opened serving read version⟩
  | saved serving read => exact Or.inr ⟨_, .saved serving read⟩
  | closed serving read =>
    rw [get?_closeDocument] at hget
    exact Or.inl (Option.ite_none_left_eq_some.mp hget).2
  | other _ hledger _ =>
    rw [hledger] at hget
    exact Or.inl hget

/-- What stands in the ledger behind a message stood there before, or was found at the message. -/
theorem known_or_finds_handle (hget : (s.handle h m).1.ledger.get? k = some fs) :
    s.ledger.get? k = some fs ∨ ∀ f ∈ fs, f.path = k ∧ (Turn.mk h m).Finds s f := by
  rcases known_or_analysed hget with hold | ⟨u, hanalyses⟩
  · exact Or.inl hold
  · obtain ⟨version, hledger, -⟩ := hanalyses.exists_handle_eq h
    rw [hledger] at hget
    refine (Analysis.known_or_finds hget).imp_right fun hfinds f hf => ?_
    obtain ⟨hk, hfound⟩ := hfinds f hf
    exact ⟨hk, u, hanalyses, hfound⟩

/-- What stands in the ledger behind a message stood there before, or is published at the message, if the
document has a location. -/
theorem known_or_published_handle (hget : (s.handle h m).1.ledger.get? k = some fs)
    (hplace : (Location.ofPath? k).isSome) :
    s.ledger.get? k = some fs ∨
      ∃ p, .publish p ∈ (s.handle h m).2.notices ∧ p.diagnostics = fs.map Diagnostic.ofFinding := by
  rcases known_or_analysed hget with hold | ⟨u, hanalyses⟩
  · exact Or.inl hold
  · obtain ⟨version, hledger, hnotices⟩ := hanalyses.exists_handle_eq h
    rw [hledger] at hget
    rw [hnotices]
    refine (Analysis.known_or_published hget hplace).imp_right ?_
    rintro ⟨p, hp, hdiagnostics⟩
    exact ⟨p, publish_mem_map_iff.mpr hp, hdiagnostics⟩

/-! ### Exchanges -/

/-- What was sent stays sent. -/
theorem notices_subset {earlier turns : List Turn} (hpre : earlier <+: turns) :
    (Exchange.ofTurns earlier).notices ⊆ (Exchange.ofTurns turns).notices := by
  obtain ⟨later, rfl⟩ := hpre
  induction later using List.reverseRecOn with
  | nil =>
    rw [List.append_nil]
    exact List.Subset.refl _
  | append_singleton later t ih =>
    rw [← List.append_assoc, Exchange.ofTurns_append_singleton]
    exact fun n hn => List.mem_append_left _ (ih hn)

/-- **What stands in the ledger of a session was found** at one of its turns. -/
theorem exists_turn_of_entry (turns : List Turn)
    (hget : (Exchange.ofTurns turns).session.ledger.get? k = some fs) (hf : f ∈ fs) :
    f.path = k ∧ ∃ earlier t, earlier ++ [t] <+: turns ∧ t.Finds (Exchange.ofTurns earlier).session f := by
  induction turns using List.reverseRecOn with
  | nil => exact absurd hget (by simp [Exchange.ofTurns])
  | append_singleton turns t ih =>
    rw [Exchange.ofTurns_append_singleton] at hget
    rcases known_or_finds_handle hget with hold | hfinds
    · obtain ⟨hk, earlier, t', hpre, hfound⟩ := ih hold
      exact ⟨hk, earlier, t', hpre.trans (List.prefix_append turns [t]), hfound⟩
    · exact ⟨(hfinds f hf).1, turns, t, List.prefix_rfl, (hfinds f hf).2⟩

/-- **What stands in the ledger of a session was published** at one of its turns, if the document has a
location. -/
theorem exists_publish_of_entry (turns : List Turn)
    (hget : (Exchange.ofTurns turns).session.ledger.get? k = some fs)
    (hplace : (Location.ofPath? k).isSome) :
    ∃ p, .publish p ∈ (Exchange.ofTurns turns).notices ∧
      p.diagnostics = fs.map Diagnostic.ofFinding := by
  induction turns using List.reverseRecOn with
  | nil => exact absurd hget (by simp [Exchange.ofTurns])
  | append_singleton turns t ih =>
    rw [Exchange.ofTurns_append_singleton] at hget ⊢
    rcases known_or_published_handle hget hplace with hold | ⟨p, hp, hdiagnostics⟩
    · obtain ⟨p, hp, hdiagnostics⟩ := ih hold
      exact ⟨p, List.mem_append_left _ hp, hdiagnostics⟩
    · exact ⟨p, List.mem_append_right _ hp, hdiagnostics⟩

/-- **All diagnostics say something**: every diagnostic that was ever published has a message, without
blanks around it. -/
def Exchange.IsWorded (x : Exchange) : Prop :=
  ∀ p, .publish p ∈ x.notices → ∀ d ∈ p.diagnostics, Text.IsWorded d.message

/-- **All diagnostics of an exchange say something exactly if** no tool ever reported a message of nothing but
blanks about a document that has a location. -/
theorem isWorded_iff (turns : List Turn) :
    (Exchange.ofTurns turns).IsWorded ↔
      ∀ earlier t, earlier ++ [t] <+: turns → ∀ f, t.Finds (Exchange.ofTurns earlier).session f →
        (Location.ofPath? f.path).isSome → ∃ c ∈ f.message.toList, Text.isBlank c = false := by
  constructor
  · rintro hworded earlier t hpre f ⟨u, hanalyses, hfinds⟩ hplace
    -- The finding stands in the ledger behind the turn, so it was published then or before.
    obtain ⟨version, hledger, -⟩ := hanalyses.exists_handle_eq t.host
    obtain ⟨fs, hget, hf⟩ := hfinds.exists_entry (Exchange.ofTurns earlier).session.ledger version
    rw [← hledger] at hget
    have hbehind : (Exchange.ofTurns (earlier ++ [t])).session.ledger.get? f.path = some fs := by
      rw [Exchange.ofTurns_append_singleton]
      exact hget
    obtain ⟨p, hp, hdiagnostics⟩ := exists_publish_of_entry _ hbehind hplace
    refine Text.isWorded_trim_iff.mp
      (hworded p (notices_subset hpre hp) (Diagnostic.ofFinding f) ?_)
    rw [hdiagnostics]
    exact List.mem_map_of_mem hf
  · intro hfound p hp d hd
    obtain ⟨earlier, hpre, k, fs, hget, hplace, hdiagnostics⟩ :=
      exists_turn_of_publish turns hp (List.ne_nil_of_mem hd)
    rw [hdiagnostics] at hd
    obtain ⟨f, hf, rfl⟩ := List.mem_map.mp hd
    obtain ⟨rfl, before, t, hbefore, hfinds⟩ := exists_turn_of_entry earlier hget hf
    refine Text.isWorded_trim_iff.mpr (hfound before t (hbefore.trans hpre) f hfinds ?_)
    rw [hplace]
    rfl

/-- **A diagnostic can say nothing**: the tool reports a message of one blank. -/
theorem not_isWorded_blank :
    let host : Host := { files := {}, run := fun _ _ => .ok ⟨.exited 1, "x:1:1: \n", ""⟩ }
    let turns : List Turn := [⟨host, .begin none⟩, ⟨host, .opened "file:///a" (some 1)⟩]
    .publish ⟨{ scheme := "file", authority := some {}, path := .names ["a"] },
        [⟨0, 0, .warning, ""⟩], some 1⟩ ∈ (Exchange.ofTurns turns).notices ∧
      ¬(Exchange.ofTurns turns).IsWorded := by
  intro host turns
  have hpublished : .publish ⟨{ scheme := "file", authority := some {}, path := .names ["a"] },
      [⟨0, 0, .warning, ""⟩], some 1⟩ ∈ (Exchange.ofTurns turns).notices := by
    decide +kernel
  exact ⟨hpublished, fun hworded => (hworded _ hpublished _ List.mem_cons_self).ne_empty rfl⟩

end Session
end LintLedger
