import LintLedger.Proofs.Finding
import LintLedger.Proofs.Text.Blank
import LintLedger.Proofs.Text.Digits
import LintLedger.Proofs.Text.Split
import LintLedger.Report

/-!
# The grammar of report lines

A report line is `location:line:column:message`. This module says which lines those are without saying
how they are read: a line is *cut* at its first three colons (`LintLedger.Report.Cut`), a field *writes*
a number if it is a numeral but for the blanks around it (`LintLedger.Report.Writes`), and a line is
*attributed* to a document by its location (`LintLedger.Report.Attributed`).

The main statement, `LintLedger.Report.toFinding?_ofLine`, is that reading accepts exactly the lines of
the grammar whose numbers lie from one to two to the thirty-second. The two ranges that the reader
checks on its way, sixty-four bits for the field and thirty-two for the position, come to this one range
of the number as it is written.
-/

namespace LintLedger.Report

open LintLedger.Text (Trims Numeral split join)

/-- A line in four parts. -/
structure Cut where
  /-- What stands before the first colon. -/
  location : List Char
  /-- What stands between the first two colons. -/
  line : List Char
  /-- What stands between the second colon and the third. -/
  column : List Char
  /-- All that stands behind the third colon. -/
  message : List Char

/-- **The line is cut at its first three colons**: they separate the parts, and only the last part may
hold further ones. -/
structure Cut.IsOf (x : Cut) (line : List Char) : Prop where
  /-- The parts make up the line. -/
  text : line = x.location ++ ':' :: (x.line ++ ':' :: (x.column ++ ':' :: x.message))
  /-- The first colon is the first. -/
  location : ':' ∉ x.location
  /-- The second colon is the second. -/
  line : ':' ∉ x.line
  /-- The third colon is the third. -/
  column : ':' ∉ x.column

/-- **The field writes the number**: without the blanks around it, it is a numeral of the number. -/
def Writes (field : List Char) (n : ℤ) : Prop := ∃ t, Trims field t ∧ Numeral t n

/-- **A line with the location is about the document at `path`**, when `document` is analysed. -/
inductive Attributed (document : String) : Attribution → List Char → String → Prop
  /-- Locations may count for nothing. -/
  | analysed (location : List Char) : Attributed document .document location document
  /-- A location may name the document. -/
  | named {location name : List Char} : Trims location name → name ≠ [] →
      Attributed document .reported location (String.ofList name)
  /-- A blank location names none. -/
  | unnamed {location : List Char} : Trims location [] →
      Attributed document .reported location document

/-! ### The parts of a line -/

theorem split_of_isOf {x : Cut} {line : List Char} (h : x.IsOf line) :
    split ':' line = x.location :: x.line :: x.column :: split ':' x.message := by
  rw [h.text, Text.split_append_sep h.location, Text.split_append_sep h.line,
    Text.split_append_sep h.column]

/-- **A line is cut in one way only.** -/
theorem isOf_unique {x y : Cut} {line : List Char} (hx : x.IsOf line) (hy : y.IsOf line) : x = y := by
  have h := (split_of_isOf hx).symm.trans (split_of_isOf hy)
  rw [List.cons.injEq, List.cons.injEq, List.cons.injEq] at h
  obtain ⟨hlocation, hline, hcolumn, hmessage⟩ := h
  have hjoin := congrArg (join ':') hmessage
  rw [Text.join_split, Text.join_split] at hjoin
  obtain ⟨_, _, _, _⟩ := x
  obtain ⟨_, _, _, _⟩ := y
  exact (Cut.mk.injEq ..).mpr ⟨hlocation, hline, hcolumn, hjoin⟩

/-- Three pieces and more are a cut. -/
theorem isOf_of_split {line location l c : List Char} {ms : List (List Char)} (hms : ms ≠ [])
    (h : split ':' line = location :: l :: c :: ms) :
    Cut.IsOf ⟨location, l, c, join ':' ms⟩ line := by
  have hno : ∀ p ∈ location :: l :: c :: ms, ':' ∉ p := by
    intro p hp
    rw [← h] at hp
    exact Text.not_mem_of_mem_split hp
  refine ⟨?_, hno _ (by simp), hno _ (by simp), hno _ (by simp)⟩
  rw [← Text.join_split ':' line, h, Text.join_cons _ _ (by simp), Text.join_cons _ _ (by simp),
    Text.join_cons _ _ hms]

/-- The candidate of a line is read off its cut. -/
theorem ofLine_of_isOf {x : Cut} {line : List Char} (h : x.IsOf line) (a : Attribution)
    (document : String) :
    Candidate.ofLine a document line =
      ⟨a.path document x.location, Candidate.ofField? x.line, Candidate.ofField? x.column, default,
        String.ofList x.message⟩ := by
  unfold Candidate.ofLine
  rw [split_of_isOf h]
  cases hm : split ':' x.message with
  | nil => exact absurd hm (Text.split_ne_nil ':' x.message)
  | cons m ms =>
    change (⟨_, _, _, _, String.ofList (join ':' (m :: ms))⟩ : Candidate) = _
    rw [← hm, Text.join_split]

/-- **A line with a message is a cut line.** Fewer than four parts leave no message. -/
theorem exists_isOf_of_message {a : Attribution} {document : String} {line : List Char}
    (h : (Candidate.ofLine a document line).message ≠ "") : ∃ x : Cut, x.IsOf line := by
  unfold Candidate.ofLine at h
  cases hs : split ':' line with
  | nil => exact absurd hs (Text.split_ne_nil ':' line)
  | cons location ps =>
    rcases ps with _ | ⟨l, _ | ⟨c, ms⟩⟩
    · exact absurd (by rw [hs]; rfl) h
    · exact absurd (by rw [hs]; rfl) h
    · have hms : ms ≠ [] := by
        rintro rfl
        exact h (by rw [hs]; rfl)
      exact ⟨_, isOf_of_split hms hs⟩

/-! ### The position that a field gives -/

theorem writes_iff {field : List Char} {n : ℤ} :
    Writes field n ↔ Text.integer? (Text.trimChars field) = some n := by
  constructor
  · rintro ⟨t, ht, hn⟩
    rw [ht.trimChars_eq]
    exact Text.integer?_eq_some_iff.mpr hn
  · intro h
    exact ⟨_, Text.trims_trimChars field, Text.integer?_eq_some_iff.mp h⟩

/-- A field writes one number at most. -/
theorem Writes.unique {field : List Char} {m n : ℤ} (hm : Writes field m) (hn : Writes field n) :
    m = n :=
  Option.some.inj ((writes_iff.mp hm).symm.trans (writes_iff.mp hn))

/-- **A field gives the position before its number**, and none at all where the number or the position
takes more than sixty-four bits. -/
theorem ofField?_eq_some_iff {field : List Char} {p : ℤ} :
    Candidate.ofField? field = some p ↔ Writes field (p + 1) ∧ -2 ^ 63 ≤ p ∧ p + 1 < 2 ^ 63 := by
  rw [writes_iff]
  unfold Candidate.ofField?
  cases h : Text.integer? (Text.trimChars field) with
  | none => simp
  | some n =>
    simp only [Candidate.inFieldRange, Bool.and_eq_true, decide_eq_true_eq,
      Option.ite_none_right_eq_some, Option.some.injEq]
    omega

/-- **The two ranges in one**: a field gives a position of thirty-two bits exactly when its number lies
from one to two to the thirty-second, and then the position is one less. -/
theorem ofField?_eq_position_iff {field : List Char} {p : UInt32} :
    Candidate.ofField? field = some (p.toNat : ℤ) ↔ Writes field (p.toNat + 1) := by
  rw [ofField?_eq_some_iff]
  have hp : p.toNat < 2 ^ 32 := p.toNat_lt
  refine ⟨And.left, fun h => ⟨h, ?_, ?_⟩⟩
  · omega
  · omega

/-! ### The document that a line is about -/

/-- A line is about one document, whichever attribution is followed. -/
theorem attributed_iff {document path : String} {a : Attribution} {location : List Char} :
    Attributed document a location path ↔ a.path document location = path := by
  constructor
  · intro h
    cases h with
    | analysed => rfl
    | named ht hne =>
      obtain ⟨c, cs, rfl⟩ := List.exists_cons_of_ne_nil hne
      unfold Attribution.path
      rw [ht.trimChars_eq]
    | unnamed ht =>
      unfold Attribution.path
      rw [ht.trimChars_eq]
  · rintro rfl
    cases a with
    | document => exact .analysed location
    | reported =>
      have ht := Text.trims_trimChars location
      unfold Attribution.path
      cases h : Text.trimChars location with
      | nil => exact .unnamed (h ▸ ht)
      | cons c cs => exact .named (h ▸ ht) (List.cons_ne_nil c cs)

/-! ### Reading and the grammar -/

/-- **A line is a finding part by part**: its cut gives the document, both positions and the message. -/
theorem toFinding?_ofLine_iff {a : Attribution} {document : String} {line : List Char} {x : Cut}
    (h : x.IsOf line) {f : Finding} :
    (Candidate.ofLine a document line).toFinding? = some f ↔
      x.message ≠ [] ∧ f.path ≠ "" ∧ Attributed document a x.location f.path ∧
        Writes x.line (f.line.toNat + 1) ∧ Writes x.column (f.column.toNat + 1) ∧
        f.message = String.ofList x.message ∧ f.severity = .error := by
  have hmessage : String.ofList x.message ≠ "" ↔ x.message ≠ [] :=
    not_congr String.ofList_eq_empty_iff
  rw [ofLine_of_isOf h, Candidate.toFinding?_eq_some_iff, ofField?_eq_position_iff,
    ofField?_eq_position_iff, attributed_iff, hmessage]
  constructor
  · rintro ⟨⟨hne, hm⟩, hpath, hl, hc, hs, hm'⟩
    exact ⟨hm, fun hempty => hne (hpath.trans hempty), hpath, hl, hc, hm'.symm, hs.symm⟩
  · rintro ⟨hm, hne, hpath, hl, hc, hm', hs⟩
    exact ⟨⟨fun hempty => hne (hpath.symm.trans hempty), hm⟩, hpath, hl, hc, hs.symm, hm'.symm⟩

/-- Every number from one to two to the thirty-second is one more than a position. -/
theorem exists_position {n : ℤ} (hlow : 1 ≤ n) (hhigh : n ≤ 2 ^ 32) :
    ∃ p : UInt32, (p.toNat : ℤ) + 1 = n := by
  refine ⟨UInt32.ofNat (n - 1).toNat, ?_⟩
  rw [UInt32.toNat_ofNat_of_lt' (by rw [UInt32.size]; omega)]
  omega

/-- **Reading accepts exactly the grammar.** A line is a finding exactly when it can be cut so that the
message is not empty, both fields write a number from one to two to the thirty-second, and the document
that the line is about has a name. A line is cut in one way only, and its finding is what the cut says:
the positions count from zero, the message is verbatim. A field is read exactly whatever its length is –
what it gives is the number before the one it writes, unless that leaves sixty-four bits. -/
theorem toFinding?_ofLine (a : Attribution) (document : String) (line : List Char) :
    ((Candidate.ofLine a document line).toFinding?.isSome = true ↔
      ∃ x : Cut, x.IsOf line ∧ x.message ≠ [] ∧
        (∃ n, Writes x.line n ∧ 1 ≤ n ∧ n ≤ 2 ^ 32) ∧
        (∃ n, Writes x.column n ∧ 1 ≤ n ∧ n ≤ 2 ^ 32) ∧
        ∃ path, Attributed document a x.location path ∧ path ≠ "") ∧
    (∀ x y : Cut, x.IsOf line → y.IsOf line → x = y) ∧
    (∀ (x : Cut) (f : Finding), x.IsOf line →
      (Candidate.ofLine a document line).toFinding? = some f →
        Attributed document a x.location f.path ∧
          Writes x.line (f.line.toNat + 1) ∧ Writes x.column (f.column.toNat + 1) ∧
          f.message = String.ofList x.message ∧ f.severity = .error) ∧
    ∀ field p, Candidate.ofField? field = some p ↔
      Writes field (p + 1) ∧ -2 ^ 63 ≤ p ∧ p + 1 < 2 ^ 63 := by
  refine ⟨⟨fun h => ?_, ?_⟩, fun x y hx hy => isOf_unique hx hy, fun x f hx hf => ?_,
    fun field p => ofField?_eq_some_iff⟩
  · obtain ⟨f, hf⟩ := Option.isSome_iff_exists.mp h
    obtain ⟨x, hx⟩ := exists_isOf_of_message (Candidate.toFinding?_eq_some_iff.mp hf).1.2
    obtain ⟨hm, hne, ha, hl, hc, -, -⟩ := (toFinding?_ofLine_iff hx).mp hf
    have hline : f.line.toNat < 2 ^ 32 := f.line.toNat_lt
    have hcolumn : f.column.toNat < 2 ^ 32 := f.column.toNat_lt
    exact ⟨x, hx, hm, ⟨_, hl, by omega, by omega⟩, ⟨_, hc, by omega, by omega⟩, f.path, ha, hne⟩
  · rintro ⟨x, hx, hm, ⟨n, hl, hn, hn'⟩, ⟨k, hc, hk, hk'⟩, path, ha, hne⟩
    obtain ⟨p, rfl⟩ := exists_position hn hn'
    obtain ⟨q, rfl⟩ := exists_position hk hk'
    refine Option.isSome_iff_exists.mpr ⟨⟨path, p, q, .error, String.ofList x.message⟩, ?_⟩
    exact (toFinding?_ofLine_iff hx).mpr ⟨hm, hne, ha, hl, hc, rfl, rfl⟩
  · obtain ⟨-, -, ha, hl, hc, hm, hs⟩ := (toFinding?_ofLine_iff hx).mp hf
    exact ⟨ha, hl, hc, hm, hs⟩

/-- A line with blanks of several kinds, a sign, zeros in front and the greatest number: its cut, and
what it reports. -/
theorem toFinding?_ofLine_padded :
    let line := "\u3000a.sv :+0042\u00a0: 4294967296: x:y".toList
    let x : Cut :=
      ⟨"\u3000a.sv ".toList, "+0042\u00a0".toList, " 4294967296".toList, " x:y".toList⟩
    let f : Finding := ⟨"a.sv", 41, 4294967295, .error, " x:y"⟩
    x.IsOf line ∧ (Candidate.ofLine .reported "d" line).toFinding? = some f ∧
      Attributed "d" .reported x.location "a.sv" ∧ Writes x.line 42 ∧ Writes x.column 4294967296 := by
  intro line x f
  have hx : x.IsOf line := ⟨by decide, by decide, by decide, by decide⟩
  have hf : (Candidate.ofLine .reported "d" line).toFinding? = some f := by decide +kernel
  obtain ⟨ha, hl, hc, -, -⟩ := (toFinding?_ofLine .reported "d" line).2.2.1 x f hx hf
  exact ⟨hx, hf, ha, hl, hc⟩

end LintLedger.Report
