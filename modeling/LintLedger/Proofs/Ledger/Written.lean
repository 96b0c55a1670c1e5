import LintLedger.CommandLine
import LintLedger.Proofs.Json.Decode
import LintLedger.Proofs.Json.Spread

/-!
# Printed ledgers lose nothing

A command prints a ledger as JSON, spread over lines. Read and decoded again it is the same ledger
(`LintLedger.Ledger.read_printed`): whatever signs stand in paths and messages, with every position, in the
order of the findings, and with documents that are known and clean. So different ledgers are printed
differently.

The reader gives the members of an object in the order of their names. The documents of a ledger are in this
order anyway; the fields of a finding are not, and it is decoded from them in any order.
-/

namespace LintLedger

open Json Json.Decode

theorem Severity.decode_toJson (s : Severity) : Severity.decode s.toJson = .ok s := by
  cases s <;> rfl

theorem Json.Decode.word_ofNat (n : UInt32) : word (.ofNat n.toNat) = .ok n := by
  have hn : (n.toNat : Int) < 0x100000000 := by exact_mod_cast n.toNat_lt
  simp [word, Json.ofNat, hn, pure, Except.pure]

namespace Finding

theorem isWhole_toJson (f : Finding) : f.toJson.IsWhole := by
  have hword : ∀ n : UInt32, (Json.ofNat n.toNat).IsWhole := fun n =>
    .integer (by omega) (by have := n.toNat_lt; omega)
  refine .object ?_
  simp [hword, IsWhole.text, Severity.toJson]

/-- The fields of a finding in the order of their names. -/
theorem sorted_toJson (f : Finding) :
    f.toJson.sorted = .object [("column", .ofNat f.column.toNat), ("filePath", .text f.path),
      ("line", .ofNat f.line.toNat), ("message", .text f.message), ("severity", f.severity.toJson)] := by
  -- The comparisons that put each field in its place, in the order in which the fields are written.
  have hline : ¬"line" < "filePath" := by decide
  have hcolumn : "column" < "filePath" := by decide
  have hseverity : ¬"severity" < "column" ∧ ¬"severity" < "filePath" ∧ ¬"severity" < "line" := by decide
  have hmessage : ¬"message" < "column" ∧ ¬"message" < "filePath" ∧ ¬"message" < "line" ∧
      "message" < "severity" := by
    decide
  simp [toJson, Severity.toJson, Json.ofNat, sorted, sortedMembers, ofMembers, Keyed.ofList, Keyed.insert,
    Keyed.insertEntry, Keyed.empty, hline, hcolumn, hseverity, hmessage]

/-- A finding is decoded from values of its fields in the order of their names. -/
theorem decode_object {f : Finding} {column path line message severity : Json}
    (hcolumn : word column = .ok f.column) (hpath : Decode.text path = .ok f.path)
    (hline : word line = .ok f.line) (hmessage : Decode.text message = .ok f.message)
    (hseverity : Severity.decode severity = .ok f.severity) :
    decode (.object [("column", column), ("filePath", path), ("line", line), ("message", message),
      ("severity", severity)]) = .ok f := by
  simp [decode, shape, Shape.decode, Shape.storeMember, Shape.missing?, hcolumn, hpath, hline, hmessage,
    hseverity, bind, Except.bind, pure, Except.pure]

/-- **A finding is decoded from what is written of it.** -/
theorem decode_sorted (f : Finding) : Finding.decode f.toJson.sorted = .ok f := by
  rw [sorted_toJson]
  exact decode_object (word_ofNat _) rfl (word_ofNat _) rfl f.severity.decode_toJson

end Finding

namespace Ledger

theorem isWhole_toJson (l : Ledger) : l.toJson.IsWhole := by
  refine .object fun m hm => ?_
  obtain ⟨⟨d, fs⟩, -, rfl⟩ := List.mem_map.mp hm
  refine .array fun j hj => ?_
  obtain ⟨f, -, rfl⟩ := List.mem_map.mp hj
  exact f.isWhole_toJson

/-- The documents of a ledger are written in order. -/
theorem sorted_toJson (l : Ledger) :
    l.toJson.sorted =
      .object (l.entries.map fun e => (e.1, .array (e.2.map fun f => f.toJson.sorted))) := by
  have hmembers : sortedMembers (l.entries.map fun e => (e.1, .array (e.2.map Finding.toJson))) =
      l.entries.map fun e => (e.1, .array (e.2.map fun f => f.toJson.sorted)) := by
    rw [sortedMembers_eq_map, List.map_map]
    refine List.map_congr_left fun e _ => ?_
    simp [sorted, sortedItems_eq_map]
  have hascending : (l.entries.map fun e =>
      (e.1, Json.array (e.2.map fun f => f.toJson.sorted))).Pairwise fun a b => a.1 < b.1 := by
    rw [List.pairwise_map]
    exact l.documents.ascending
  rw [toJson, sorted, hmembers, ofMembers, Keyed.entries_ofList hascending]

/-- **A ledger is decoded from what is written of it.** -/
theorem decode_sorted (l : Ledger) : decode l.toJson.sorted = .ok l := by
  have hfindings : ∀ fs : List Finding,
      list Finding.decode (.array (fs.map fun f => f.toJson.sorted)) = .ok fs := by
    intro fs
    refine list_eq_ok_iff.mpr ⟨_, rfl, ?_⟩
    rw [List.forall₂_map_left_iff, List.forall₂_same]
    exact fun f _ => f.decode_sorted
  have hentries : (l.entries.map fun e =>
        (e.1, Json.array (e.2.map fun f => f.toJson.sorted))).mapM
      (fun (m : String × Json) => do pure (m.1, ← list Finding.decode m.2)) = .ok l.entries := by
    rw [mapM_eq_ok_iff, List.forall₂_map_left_iff, List.forall₂_same]
    intro e _
    rw [hfindings]
    rfl
  rw [sorted_toJson, decode, keyed, hentries]
  exact congrArg (fun documents => Except.ok (Ledger.mk documents)) (Keyed.ofList_entries l.documents)

/-- **A printed ledger loses nothing**: read and decoded, what a command prints as JSON is the ledger again, and
so different ledgers are printed differently. -/
theorem read_printed (l : Ledger) (checked : ℕ) :
    (Json.read? (CommandLine.printed l checked .json)).map decode = some (.ok l) ∧
      ∀ m checked', CommandLine.printed m checked' .json = CommandLine.printed l checked .json →
        m = l := by
  have hread : ∀ (m : Ledger) checked,
      (Json.read? (CommandLine.printed m checked .json)).map decode = some (.ok m) := by
    intro m checked
    have hjson : Json.read? (m.toJson.pretty ++ "\n") = some m.toJson.sorted :=
      Json.read?_pretty m.isWhole_toJson (by simp [isJsonBlank])
    rw [CommandLine.printed, pretty, hjson, Option.map_some, m.decode_sorted]
  refine ⟨hread l checked, fun m checked' hprinted => ?_⟩
  have hm := hread m checked'
  rw [hprinted, hread l checked] at hm
  exact (Except.ok.inj (Option.some.inj hm)).symm

-- A document that is known and clean, and one whose path and finding have signs that are escaped.
example :
    CommandLine.printed ((empty.replace "b" []).replace "a\"\\"
        [⟨"é", 0, 4294967295, .warning, "\t\x01/"⟩]) 2 .json =
      "\x7b\n  \"a\\\"\\\\\": [\n    \x7b\n      \"filePath\": \"é\",\n      \"line\": 0,\n" ++
        "      \"column\": 4294967295,\n      \"severity\": \"warning\",\n" ++
        "      \"message\": \"\\t\\u0001/\"\n    \x7d\n  ],\n  \"b\": []\n\x7d\n" := by
  decide +kernel

end Ledger
end LintLedger
