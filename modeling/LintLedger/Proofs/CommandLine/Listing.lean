import LintLedger.Proofs.CommandLine.Agreement
import LintLedger.Proofs.CommandLine.Status
import LintLedger.Proofs.Intake.Accounts
import LintLedger.Proofs.Report.Grammar
import LintLedger.Proofs.Text.Order

/-!
# What the listing of a report shows

The positions of a finding count from zero and take thirty-two bits, those of a report line count from one
and are written with as many digits as one likes, and those of a listing count from one again. Here the two
outer ends are tied to each other. A *row* of a listing is what it shows of one line of the report: the two
numbers that the line writes, and its message without the blanks around it (`LintLedger.Report.Row.Shows`).
Nothing is said of the numbers between.

A line of the report *tells of* a document if the grammar makes sense of it and it is attributed to the
document (`LintLedger.Report.Tells`), and an intake finds something in just these lines
(`LintLedger.Report.tells_iff`). So the rows of a document go along with the lines that tell of it, one by
one and in the same order (`LintLedger.Report.forall₂_rows`); and since the entries of a ledger have nothing
else in them, they make up the listing (`LintLedger.CommandLine.run_parse_listing`).
-/

namespace LintLedger

namespace Report

/-! ### Lines that tell of a document -/

/-- **The line tells of the document at `k`**: it is a line of the grammar with something in its message,
its numbers lie from one to two to the thirty-second, and it is attributed to the document, which has a
name. -/
def Tells (a : Attribution) (document : String) (line : List Char) (k : String) : Prop :=
  ∃ x : Cut, x.IsOf line ∧ x.message ≠ [] ∧
    (∃ n : ℤ, Writes x.line n ∧ 1 ≤ n ∧ n ≤ 2 ^ 32) ∧
    (∃ n : ℤ, Writes x.column n ∧ 1 ≤ n ∧ n ≤ 2 ^ 32) ∧
    Attributed document a x.location k ∧ k ≠ ""

variable {a : Attribution} {document k : String} {line : List Char}

/-- **A line tells of the document of its finding**, and of none if it has no finding. -/
theorem tells_iff :
    Tells a document line k ↔ ∃ f, (Candidate.ofLine a document line).toFinding? = some f ∧ f.path = k := by
  constructor
  · rintro ⟨x, hx, hm, ⟨n, hl, hn, hn'⟩, ⟨m, hc, hm', hm''⟩, ha, hne⟩
    obtain ⟨p, rfl⟩ := exists_position hn hn'
    obtain ⟨q, rfl⟩ := exists_position hm' hm''
    exact ⟨⟨k, p, q, .error, String.ofList x.message⟩,
      (toFinding?_ofLine_iff hx).mpr ⟨hm, hne, ha, hl, hc, rfl, rfl⟩, rfl⟩
  · rintro ⟨f, hf, rfl⟩
    obtain ⟨x, hx⟩ := exists_isOf_of_message (Candidate.toFinding?_eq_some_iff.mp hf).1.2
    obtain ⟨hm, hne, ha, hl, hc, -, -⟩ := (toFinding?_ofLine_iff hx).mp hf
    have hline : f.line.toNat < 2 ^ 32 := f.line.toNat_lt
    have hcolumn : f.column.toNat < 2 ^ 32 := f.column.toNat_lt
    exact ⟨x, hx, hm, ⟨_, hl, by omega, by omega⟩, ⟨_, hc, by omega, by omega⟩, ha, hne⟩

/-- A line tells of a document if it makes sense. -/
theorem exists_tells_iff :
    (∃ k, Tells a document line k) ↔ (Candidate.ofLine a document line).isWellFormed = true := by
  rw [← Candidate.toFinding?_isSome, Option.isSome_iff_exists]
  simp only [tells_iff]
  exact ⟨fun ⟨_, f, hf, _⟩ => ⟨f, hf⟩, fun ⟨f, hf⟩ => ⟨f.path, f, hf, rfl⟩⟩

/-- An intake finds something in a line for the document that the line tells of. -/
theorem tells_iff_finding? {i : Intake} :
    Tells i.attribution document line k ↔ ∃ f, i.finding? document line = some f ∧ f.path = k := by
  rw [tells_iff]
  unfold Intake.finding?
  cases (Candidate.ofLine i.attribution document line).toFinding? <;> simp

instance : DecidablePred (Tells a document line) := fun k =>
  decidable_of_iff
    ((Candidate.ofLine a document line).toFinding?.any fun f => f.path = k)
    (by rw [tells_iff, Option.any_eq_true]; simp)

instance : Decidable (∃ k, Tells a document line k) := decidable_of_iff _ exists_tells_iff.symm

/-! ### Rows -/

/-- A row of a listing. -/
structure Row where
  /-- The line, counted from one. -/
  line : ℕ
  /-- The column, counted from one. -/
  column : ℕ
  /-- How serious it is. -/
  severity : Severity
  /-- What the tool says. -/
  message : List Char

/-- A row as it is printed. -/
def Row.text (r : Row) : String :=
  s!"  {r.line}:{r.column} {r.severity.name}: {String.ofList r.message}\n"

/-- **The row shows what the line says**: the numbers that it writes, its message without the blanks around
it, and the severity that the whole message has. -/
def Row.Shows (classifier : Classifier) (line : List Char) (r : Row) : Prop :=
  ∃ x : Cut, x.IsOf line ∧ Writes x.line r.line ∧ Writes x.column r.column ∧
    (1 ≤ r.line ∧ r.line ≤ 2 ^ 32) ∧ (1 ≤ r.column ∧ r.column ≤ 2 ^ 32) ∧
    Text.Trims x.message r.message ∧ r.severity = classifier (String.ofList x.message)

/-- The row of a finding. -/
def Row.ofFinding (f : Finding) : Row :=
  ⟨f.line.toNat + 1, f.column.toNat + 1, f.severity, Text.trimChars f.message.toList⟩

theorem Row.text_ofFinding (f : Finding) : (Row.ofFinding f).text = s!"  {f.listed}\n" := by
  simp only [Row.text, Row.ofFinding, Finding.listed, Text.trim, String.append_assoc, toString]

/-- **The row of a finding shows its line.** -/
theorem Row.shows_ofFinding {i : Intake} {f : Finding} (hf : i.finding? document line = some f) :
    (Row.ofFinding f).Shows i.classifier line := by
  obtain ⟨g, hg, rfl⟩ := Option.map_eq_some_iff.mp hf
  obtain ⟨x, hx⟩ := exists_isOf_of_message (Candidate.toFinding?_eq_some_iff.mp hg).1.2
  obtain ⟨-, -, -, hl, hc, hmessage, -⟩ := (toFinding?_ofLine_iff hx).mp hg
  have hline : g.line.toNat < 2 ^ 32 := g.line.toNat_lt
  have hcolumn : g.column.toNat < 2 ^ 32 := g.column.toNat_lt
  refine ⟨x, hx, hl, hc, ⟨Nat.le_add_left .., hline⟩, ⟨Nat.le_add_left .., hcolumn⟩, ?_, ?_⟩
  · have htrims := Text.trims_trimChars x.message
    simpa [Row.ofFinding, hmessage] using htrims
  · simp [Row.ofFinding, hmessage]

/-- **The rows of a document** go along with the lines that tell of it. -/
theorem forall₂_rows (i : Intake) (document k : String) (lines : List (List Char)) :
    List.Forall₂ (fun line r => Row.Shows i.classifier line r)
      (lines.filter fun line => Tells i.attribution document line k)
      (((lines.filterMap (i.finding? document)).filter fun f => f.path = k).map Row.ofFinding) := by
  induction lines with
  | nil => exact .nil
  | cons line lines ih =>
    cases hf : i.finding? document line with
    | none =>
      rw [List.filterMap_cons_none hf, List.filter_cons_of_neg (by simp [tells_iff_finding?, hf])]
      exact ih
    | some f =>
      -- The line and its finding are both about the document, or neither is.
      rw [List.filterMap_cons_some hf]
      by_cases hk : f.path = k
      · rw [List.filter_cons_of_pos (by simp [tells_iff_finding?, hf, hk]),
          List.filter_cons_of_pos (by simp [hk])]
        exact .cons (Row.shows_ofFinding hf) ih
      · rw [List.filter_cons_of_neg (by simp [tells_iff_finding?, hf, hk]),
          List.filter_cons_of_neg (by simp [hk])]
        exact ih

end Report

/-! ### Blocks -/

namespace Ledger

open Report (Row)

/-- A block of a listing. -/
structure Block where
  /-- The path of the document. -/
  path : String
  /-- Its rows. -/
  rows : List Row

/-- A block as it is printed. -/
def Block.text (b : Block) : String := s!"\n{b.path}:\n" ++ String.join (b.rows.map Row.text)

/-- The block of an entry. -/
def Block.ofEntry (e : String × List Finding) : Block := ⟨e.1, e.2.map Row.ofFinding⟩

/-- The blocks of a ledger: those of the entries that hold findings. -/
def blocks (l : Ledger) : List Block := (l.entries.filter fun e => e.2 ≠ []).map Block.ofEntry

/-- An entry is printed as its block, if it holds findings. -/
theorem block_eq (e : String × List Finding) :
    block e.1 e.2 = if e.2 ≠ [] then (Block.ofEntry e).text else "" := by
  obtain ⟨d, fs⟩ := e
  cases fs with
  | nil => rfl
  | cons f fs =>
    rw [if_pos (List.cons_ne_nil f fs)]
    unfold block Block.text Block.ofEntry
    rw [List.map_map]
    exact congrArg (fun texts => s!"\n{d}:\n" ++ String.join texts)
      (List.map_congr_left fun g _ => (Row.text_ofFinding g).symm)

/-- What prints nothing makes no difference to what is printed. -/
theorem join_map_ite {α : Type} (p : α → Prop) [DecidablePred p] (text : α → String) (xs : List α) :
    String.join (xs.map fun x => if p x then text x else "") =
      String.join ((xs.filter fun x => p x).map text) := by
  induction xs with
  | nil => rfl
  | cons x xs ih =>
    by_cases hx : p x
    · simp [hx, ih]
    · simp [hx, ih]

/-- **A listing** is made up of the blocks of its ledger and of the last line. -/
theorem listing_eq (l : Ledger) (checked : ℕ) :
    l.listing checked = String.join (l.blocks.map Block.text) ++ l.summary checked := by
  have hblocks : l.entries.map (fun e => block e.1 e.2) =
      l.entries.map fun e => if e.2 ≠ [] then (Block.ofEntry e).text else "" :=
    List.map_congr_left fun e _ => block_eq e
  change String.join (l.entries.map fun e => block e.1 e.2) ++ l.summary checked = _
  unfold blocks
  rw [hblocks, join_map_ite, List.map_map]
  rfl

/-- The findings of a ledger are as many as its blocks have rows. -/
theorem findingCount_eq (l : Ledger) :
    l.findingCount = (l.blocks.map fun b => b.rows.length).sum := by
  unfold findingCount findings blocks
  induction l.entries with
  | nil => rfl
  | cons e es ih =>
    obtain ⟨d, fs⟩ := e
    cases fs with
    | nil => simpa using ih
    | cons f fs =>
      rw [List.flatMap_cons, List.length_append, ih]
      simp [Block.ofEntry]

theorem mem_blocks_iff {l : Ledger} {b : Block} :
    b ∈ l.blocks ↔ ∃ fs, l.get? b.path = some fs ∧ fs ≠ [] ∧ b.rows = fs.map Row.ofFinding := by
  unfold blocks
  rw [List.mem_map]
  constructor
  · rintro ⟨⟨k, fs⟩, he, rfl⟩
    obtain ⟨hmem, hne⟩ := List.mem_filter.mp he
    exact ⟨fs, (mem_entries_iff ..).mp hmem, of_decide_eq_true hne, rfl⟩
  · rintro ⟨fs, hget, hne, hrows⟩
    refine ⟨(b.path, fs), List.mem_filter.mpr ⟨(mem_entries_iff ..).mpr hget, decide_eq_true hne⟩, ?_⟩
    rw [Block.ofEntry, ← hrows]

/-- **The blocks come in the order of the bytes of their paths.** -/
theorem pairwise_blocks (l : Ledger) :
    l.blocks.Pairwise fun b c => Text.Utf8.encode b.path < Text.Utf8.encode c.path := by
  unfold blocks
  rw [List.pairwise_map]
  exact (l.documents.ascending.filter _).imp Text.Utf8.encode_lt_encode_iff.mpr

end Ledger

namespace CommandLine

open Report (Tells Row linesOf)
open Ledger (Block)

/-! ### The listing of a report -/

/-- The command prints the listing of what it collects. -/
theorem output_run_parse {h : Host} {config : Option String} {document : String} {input : Option String}
    {bytes : List UInt8} {a : Analyser} {t : String} (hfollows : Follows h.files config a)
    (hread : captured h input bytes = .ok t) (verbose : Bool) (format : Format) :
    (run h bytes ⟨config, verbose, .parse document input format⟩).output =
      printed (a.intake.take (some t) (some document) document .empty).1 1 format := by
  -- No step of the command can fail, so it gathers what the rule for reports says.
  have hgathers : (Work.report document input bytes).Gathers h config _ 1 := .report hfollows hread
  rcases Work.gathers_or_fails h config (.report document input bytes) with
    ⟨l, n, hgathers', -, hends⟩ | ⟨hfails, -⟩
  · obtain ⟨rfl, rfl⟩ := hgathers.unique hgathers'
    exact (hends verbose format).1
  · exact absurd hfails hgathers.not_fails

/-- The blocks of a collected report are those of the documents for which something was found. -/
theorem mem_blocks_take_iff {i : Intake} {t document : String} {b : Block} :
    b ∈ (i.take (some t) (some document) document .empty).1.blocks ↔
      i.found document t b.path ≠ [] ∧ b.rows = (i.found document t b.path).map Row.ofFinding := by
  rw [Ledger.mem_blocks_iff, Intake.get?_take_found]
  split
  · next hfound => simp [hfound]
  · next hfound =>
    -- Nothing was found: the entry was cleared or never there, and makes no block in either case.
    rw [not_not] at hfound
    rw [hfound]
    split <;> simp

theorem exists_block_take_iff {i : Intake} {t document k : String} :
    (∃ b ∈ (i.take (some t) (some document) document .empty).1.blocks, b.path = k) ↔
      i.found document t k ≠ [] := by
  constructor
  · rintro ⟨b, hb, rfl⟩
    exact (mem_blocks_take_iff.mp hb).1
  · intro hfound
    let b : Block := ⟨k, (i.found document t k).map Row.ofFinding⟩
    exact ⟨b, mem_blocks_take_iff.mpr ⟨hfound, rfl⟩, rfl⟩

/-- **All findings of a report are in the rows of its blocks.** -/
theorem sum_rows_take (i : Intake) (t document : String) :
    (((i.take (some t) (some document) document .empty).1.blocks).map fun b => b.rows.length).sum =
      (i.findings document t.toList).length := by
  set l := (i.take (some t) (some document) document .empty).1
  -- No path heads two blocks, so the rows can be counted path by path, and so can the findings.
  have hnodup : (l.blocks.map Block.path).Nodup := by
    rw [List.Nodup, List.pairwise_map]
    refine (Ledger.pairwise_blocks l).imp fun {b c} hlt heq => ?_
    have hpath := Text.Utf8.encode_lt_encode_iff.mp hlt
    rw [heq] at hpath
    exact String.lt_irrefl _ hpath
  have hpaths : (l.blocks.map Block.path).toFinset =
      ((i.findings document t.toList).map Finding.path).toFinset := by
    ext k
    rw [Intake.mem_toFinset_path_iff, ← Intake.found_ne_nil_iff, List.mem_toFinset, List.mem_map]
    exact exists_block_take_iff
  have hrows : l.blocks.map (fun b => b.rows.length) =
      (l.blocks.map Block.path).map fun k => (i.found document t k).length := by
    rw [List.map_map]
    refine List.map_congr_left fun b hb => ?_
    rw [(mem_blocks_take_iff.mp hb).2, List.length_map]
    rfl
  rw [hrows, ← List.sum_toFinset _ hnodup, hpaths]
  exact Intake.sum_length_filter_path _

/-- **A text report shows the numbers of the tool and counts its lines.** A report that is captured, by a
command with an analyser, is listed block by block, in the order of the bytes of the paths. There is a block
for each document for which findings have been collected, with as many rows as there are findings, and this is
each document that a line of the report tells of; a document with an empty entry has none. A block has one row
for each line that tells of its document, in the order of the report, and the row shows the two numbers that
the line writes, as they are, up to two to the thirty-second, and the message without the blanks around it.
The last line counts the rows of all blocks, and these are as many as there are lines that make sense. -/
theorem run_parse_listing (h : Host) (bytes : List UInt8) (config : Option String) (verbose : Bool)
    (document : String) (input : Option String) {a : Analyser} {t : String}
    (hfollows : Follows h.files config a) (hread : captured h input bytes = .ok t) :
    let o := run h bytes ⟨config, verbose, .parse document input .text⟩
    let tells := Tells a.intake.attribution document
    let collected := (a.intake.take (some t) (some document) document .empty).1
    ∃ (blocks : List Block) (n : ℕ),
      o.output = String.join (blocks.map Block.text) ++ s!"\nChecked 1 files, found {n} issues\n" ∧
      (blocks.Pairwise fun b c => Text.Utf8.encode b.path < Text.Utf8.encode c.path) ∧
      (∀ k m, (∃ b ∈ blocks, b.path = k ∧ b.rows.length = m) ↔
        ∃ fs, collected.get? k = some fs ∧ fs ≠ [] ∧ fs.length = m) ∧
      (∀ k, (∃ b ∈ blocks, b.path = k) ↔ ∃ line ∈ linesOf t.toList, tells line k) ∧
      (∀ b ∈ blocks, List.Forall₂ (fun line r => Row.Shows a.intake.classifier line r)
        ((linesOf t.toList).filter fun line => tells line b.path) b.rows) ∧
      n = (blocks.map fun b => b.rows.length).sum ∧
      n = (linesOf t.toList).countP fun line => ∃ k, tells line k := by
  intro o tells collected
  have hsum : (collected.blocks.map fun b => b.rows.length).sum =
      (a.intake.findings document t.toList).length := sum_rows_take a.intake t document
  refine ⟨collected.blocks, _, ?_, Ledger.pairwise_blocks collected, fun k m => ?_, fun k => ?_,
    fun b hb => ?_, rfl, ?_⟩
  · rw [output_run_parse hfollows hread]
    have hlast : "\nChecked " ++ toString 1 ++ " files, found " = "\nChecked 1 files, found " := by decide
    rw [printed, Ledger.listing_eq, Ledger.summary, Ledger.findingCount_eq]
    exact congrArg (fun last => String.join (collected.blocks.map Block.text) ++ (last ++ _ ++ " issues\n"))
      hlast
  · simp only [Ledger.mem_blocks_iff]
    constructor
    · rintro ⟨b, ⟨fs, hget, hne, hrows⟩, rfl, rfl⟩
      exact ⟨fs, hget, hne, by rw [hrows, List.length_map]⟩
    · rintro ⟨fs, hget, hne, rfl⟩
      exact ⟨Block.ofEntry (k, fs), ⟨fs, hget, hne, rfl⟩, rfl, List.length_map ..⟩
  · rw [exists_block_take_iff, Intake.found_ne_nil_iff]
    simp only [tells, Report.tells_iff_finding?, Intake.findings, List.mem_filterMap]
    exact ⟨fun ⟨f, ⟨line, hline, hf⟩, hk⟩ => ⟨line, hline, f, hf, hk⟩,
      fun ⟨line, hline, f, hf, hk⟩ => ⟨f, ⟨line, hline, hf⟩, hk⟩⟩
  · rw [(mem_blocks_take_iff.mp hb).2]
    exact Report.forall₂_rows a.intake document b.path (linesOf t.toList)
  · rw [hsum, Intake.findings, List.length_filterMap_eq_countP]
    refine List.countP_congr fun line _ => ?_
    simp [tells, Report.tells_iff_finding?, Option.isSome_iff_exists]

/-- Settings by which the lines name their documents and stale findings go. Two documents are reported on in
turn; the numbers have blanks, a sign and zeros, one of them is the greatest, and one line makes no sense. The
analysed document has an empty entry, and no block. -/
theorem run_parse_listing_named :
    let content := Text.Utf8.encode "\x7b\"pathSource\":\"reported\",\"stalePolicy\":\"clear\"\x7d"
    let h : Host :=
      { files := { entries := [(["s"], .file content)] }
        run := fun _ _ => .error .notFound }
    let t := "/b:+007:4294967296: error: x \n/a: 1 :02:y:z\n/b:0:1:none\n/b:3:4:w\n"
    let o := run h (Text.Utf8.encode t) ⟨some "/s", false, .parse "/d" none .text⟩
    let a : Analyser := ⟨{}, { attribution := .reported, stalePolicy := .clear }⟩
    let last := "\nChecked 1 files, found 3 issues\n"
    Follows h.files (some "/s") a ∧ captured h none (Text.Utf8.encode t) = .ok t ∧
      o.output =
        "\n/a:\n  1:2 warning: y:z\n\n/b:\n  7:4294967296 error: error: x\n  3:4 warning: w\n" ++ last ∧
      ∃ blocks : List Block, o.output = String.join (blocks.map Block.text) ++ last ∧
        (∃ b ∈ blocks, b.path = "/a") ∧ (∃ b ∈ blocks, b.path = "/b") ∧
        ¬∃ b ∈ blocks, b.path = "/d" := by
  intro content h t o a last
  have hdirect : h.files.IsDirect "/s" ["s"] := by decide +kernel
  have hfollows : Follows h.files (some "/s") a :=
    .written rfl (@Analyser.loads_of_isDirect _ _ _ _ _ _
      { attribution := .reported, stalePolicy := .clear } _ hdirect ⟨rfl, rfl⟩ (by decide +kernel) rfl)
  have hread : captured h none (Text.Utf8.encode t) = .ok t := captured_encode h t
  obtain ⟨blocks, n, houtput, -, -, htells, -, -, hcount⟩ :=
    run_parse_listing h (Text.Utf8.encode t) (some "/s") false "/d" none hfollows hread
  have hn : n = 3 := hcount.trans (by decide +kernel)
  subst hn
  refine ⟨hfollows, hread, (output_run_parse hfollows hread false .text).trans (by decide +kernel), ?_⟩
  exact ⟨blocks, houtput, (htells "/a").mpr (by decide +kernel), (htells "/b").mpr (by decide +kernel),
    mt (htells "/d").mp (by decide +kernel)⟩

end CommandLine
end LintLedger
