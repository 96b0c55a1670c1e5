import LintLedger.Proofs.Session.View

/-!
# What a closing leaves behind

An analysis publishes at the location that is written for the path of the document, a closing blanks the
location that the editor wrote. Where every line of a report is about the analysed document, an opening
publishes at one location only (`publish_mem_opened_iff`), and whether the closing blanks it is a matter
of the spelling: the findings of the document go if the editor wrote its location as it is written for
its path, and stay if it wrote it in any other way – with an escape for a character that needs none, or
with a query, or with a slash at the end. `LintLedger.Session.leavesNothing_iff` is the exact condition.
-/

namespace LintLedger.Session

/-- **Opening and closing a document leaves nothing behind**: wherever the opening published, nothing is
shown any more behind the closing. -/
def Exchange.LeavesNothing (x : Exchange) (opening closing : Host) (l : String) (v : Int) : Prop :=
  ∀ p, .publish p ∈ (x.session.handle opening (.opened l (some v))).2.notices →
    shown ((x.next ⟨opening, .opened l (some v)⟩).next ⟨closing, .closed l⟩).notices
      p.location.text = []

variable {x : Exchange} {l : String} {u : Location} {v : Int}

/-- What is shown behind the closing, in terms of the opening alone. -/
theorem shown_next_closed (hserving : x.session.phase = .serving)
    (hread : Location.read l = .ok u) (hv : isVersion v = true) (opening closing : Host)
    (url : String) :
    shown ((x.next ⟨opening, .opened l (some v)⟩).next ⟨closing, .closed l⟩).notices url =
      if url = u.text then []
      else shown (x.next ⟨opening, .opened l (some v)⟩).notices url := by
  have hstill : (x.next ⟨opening, .opened l (some v)⟩).session.phase = .serving := by
    unfold Exchange.next
    rw [handle_opened hserving hread hv]
    exact hserving
  rw [← shown_append_blank, Exchange.next, handle_closed hstill hread]
  rfl

section Opened

variable (hserving : x.session.phase = .serving)
  (hdocument : x.session.analyser.intake.attribution = .document)
  (hread : Location.read l = .ok u) (hv : isVersion v = true)

include hserving hread hv

/-- An opening is an analysis. -/
theorem next_opened (opening : Host) :
    (x.next ⟨opening, .opened l (some v)⟩).session.ledger =
        (Analysis.run x.session.analyser opening x.session.ledger u (some v)).ledger ∧
      (x.session.handle opening (.opened l (some v))).2.notices =
        (Analysis.run x.session.analyser opening x.session.ledger u (some v)).publications.map
          .publish := by
  unfold Exchange.next
  rw [handle_opened hserving hread hv]
  exact ⟨rfl, rfl⟩

include hdocument

/-- What is published when a document is opened, if the tool can be started: all that is known about
the document, and nothing about any other one. -/
theorem publish_mem_opened_iff {bytes : List UInt8} (hbytes : u.pathBytes? = some bytes)
    {opening : Host} {outcome : Tool.Outcome}
    (hrun : opening.run x.session.analyser.tool bytes = .ok outcome) {p : Publication} :
    .publish p ∈ (x.session.handle opening (.opened l (some v))).2.notices ↔
      ∃ fs c, (x.next ⟨opening, .opened l (some v)⟩).session.ledger.get?
          (Text.Utf8.decodeLossy bytes) = some fs ∧
        Location.ofPath? (Text.Utf8.decodeLossy bytes) = some c ∧
        p = ⟨c, fs.map Diagnostic.ofFinding, some v⟩ := by
  obtain ⟨hledger, hnotices⟩ := next_opened hserving hread hv opening
  obtain ⟨hafter, hpublications⟩ :=
    Analysis.run_of_ok hbytes hrun x.session.ledger (some v)
  rw [hledger, hnotices, hafter, hpublications, publish_mem_map_iff,
    ← Analysis.mem_publications_of_document hdocument]

/-- If the tool could be started, what is left is a matter of the spelling and of the findings. -/
theorem leavesNothing_iff_of_ok {bytes : List UInt8} (hbytes : u.pathBytes? = some bytes)
    {opening : Host} {outcome : Tool.Outcome}
    (hrun : opening.run x.session.analyser.tool bytes = .ok outcome) (closing : Host) {c : Location}
    (hc : Location.ofPath? (Text.Utf8.decodeLossy bytes) = some c) :
    x.LeavesNothing opening closing l v ↔
      c.text = u.text ∨
        ((x.next ⟨opening, .opened l (some v)⟩).session.ledger.get?
          (Text.Utf8.decodeLossy bytes)).getD [] = [] := by
  have hmem := fun p => publish_mem_opened_iff hserving hdocument hread hv hbytes hrun (p := p)
  -- What was published is shown until the closing.
  have hshown : ∀ fs, (x.next ⟨opening, .opened l (some v)⟩).session.ledger.get?
      (Text.Utf8.decodeLossy bytes) = some fs →
      shown (x.next ⟨opening, .opened l (some v)⟩).notices c.text =
        fs.map Diagnostic.ofFinding := by
    intro fs hfs
    refine shown_append_of_forall ⟨_, (hmem _).mpr ⟨fs, c, hfs, hc, rfl⟩, rfl⟩ ?_ x.notices
    intro p hp _
    obtain ⟨fs', c', hfs', -, rfl⟩ := (hmem p).mp hp
    rw [Option.some.inj (hfs'.symm.trans hfs)]
  unfold Exchange.LeavesNothing
  simp only [shown_next_closed hserving hread hv]
  constructor
  · intro hnothing
    cases hfs : (x.next ⟨opening, .opened l (some v)⟩).session.ledger.get?
        (Text.Utf8.decodeLossy bytes) with
    | none => exact Or.inr rfl
    | some fs =>
      have hblank := hnothing _ ((hmem _).mpr ⟨fs, c, hfs, hc, rfl⟩)
      dsimp only at hblank
      split at hblank
      · next htext => exact Or.inl htext
      · rw [hshown fs hfs, List.map_eq_nil_iff] at hblank
        exact Or.inr hblank
  · intro h p hp
    obtain ⟨fs, c', hfs, hc', rfl⟩ := (hmem p).mp hp
    obtain rfl := Option.some.inj (hc'.symm.trans hc)
    dsimp only
    split
    · rfl
    · next htext =>
      have hclean := h.resolve_left htext
      rw [hfs, Option.getD_some] at hclean
      rw [hshown fs hfs, hclean]
      rfl

/-- **A closing leaves nothing behind exactly if** the tool could not be started at the opening, or the
editor wrote the location as it is written for the path, or there were no findings anyway. -/
theorem leavesNothing_iff {bytes : List UInt8} (hbytes : u.pathBytes? = some bytes)
    (opening closing : Host) :
    x.LeavesNothing opening closing l v ↔
      (∃ fault, opening.run x.session.analyser.tool bytes = .error fault) ∨
        u.IsCanonical ∨
        ((x.next ⟨opening, .opened l (some v)⟩).session.ledger.get?
          (Text.Utf8.decodeLossy bytes)).getD [] = [] := by
  have hpath : u.path? = some (Text.Utf8.decodeLossy bytes) := by
    rw [Location.path?, hbytes]
    rfl
  cases hrun : opening.run x.session.analyser.tool bytes with
  | error fault =>
    -- Nothing was published, so nothing can be left.
    refine iff_of_true (fun p hp => absurd hp ?_) (Or.inl ⟨fault, rfl⟩)
    rw [(next_opened hserving hread hv opening).2,
      (Analysis.run_of_error hbytes hrun x.session.ledger (some v)).2]
    exact List.not_mem_nil
  | ok outcome =>
    obtain ⟨c, hc⟩ := Location.exists_ofPath?_of_path? hpath
    have hcanonical : u.IsCanonical ↔ c.text = u.text := by
      unfold Location.IsCanonical
      simp [hpath, hc]
    rw [leavesNothing_iff_of_ok hserving hdocument hread hv hbytes hrun closing hc, hcanonical]
    simp

end Opened

/-- A document whose location is written as for its path is gone behind the closing. -/
theorem leavesNothing_iff_plain :
    let host : Host := { files := {}, run := fun _ _ => .ok ⟨.exited 1, "x:1:1:error\n", ""⟩ }
    let x := Exchange.ofTurns [⟨host, .begin none⟩]
    x.session.phase = .serving ∧ x.session.analyser.intake.attribution = .document ∧
      isVersion 1 = true ∧ x.LeavesNothing host host "file:///tmp/a.sv" 1 := by
  intro host x
  have hread : Location.read "file:///tmp/a.sv" =
      .ok { scheme := "file", authority := some {}, path := .names ["tmp", "a.sv"] } := by
    decide +kernel
  have hbytes : Location.pathBytes?
      { scheme := "file", authority := some {}, path := .names ["tmp", "a.sv"] } =
      some (Text.Utf8.encode "/tmp/a.sv") := by
    decide +kernel
  refine ⟨rfl, rfl, rfl, ?_⟩
  exact (leavesNothing_iff rfl rfl hread rfl hbytes host host).mpr
    (Or.inr (Or.inl (by decide +kernel)))

/-- **A closing can leave findings behind**: the editor writes an escape for a letter, the finding is
shown at the location without it, and the closing blanks the one with it. -/
theorem not_leavesNothing_escaped :
    let host : Host := { files := {}, run := fun _ _ => .ok ⟨.exited 1, "x:1:1:error\n", ""⟩ }
    let x := Exchange.ofTurns [⟨host, .begin none⟩]
    x.session.phase = .serving ∧ x.session.analyser.intake.attribution = .document ∧
      (∃ u, Location.read "file:///tmp/%61.sv" = .ok u ∧ u.scheme = "file" ∧
        u.path? = some "/tmp/a.sv") ∧
      isVersion 1 = true ∧ ¬x.LeavesNothing host host "file:///tmp/%61.sv" 1 := by
  intro host x
  refine ⟨rfl, rfl, ⟨{ scheme := "file", authority := some {}, path := .names ["tmp", "%61.sv"] },
    by decide +kernel, rfl, by decide +kernel⟩, rfl, fun hnothing => ?_⟩
  have hpublished : Notice.publish
      ⟨{ scheme := "file", authority := some {}, path := .names ["tmp", "a.sv"] },
        [⟨0, 0, .error, "error"⟩], some 1⟩ ∈
      (x.session.handle host (.opened "file:///tmp/%61.sv" (some 1))).2.notices := by
    decide +kernel
  have hblank := hnothing _ hpublished
  revert hblank
  decide +kernel

end LintLedger.Session
