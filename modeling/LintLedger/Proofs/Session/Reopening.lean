import LintLedger.Proofs.Session.Analysis
import LintLedger.Proofs.Session.Messages
import Mathlib.Data.List.Induction

/-!
# Closing and opening again

A document that is closed is forgotten: neither its version nor what was found in it is kept. So the
opening that comes next finds what a server finds that was never told of a document, and where every line
of a report is about the analysed document, nothing else that is known matters: the editor is sent the
same (`LintLedger.Session.notices_reopened`). This holds behind any exchange, of which only the analyser
in force at the end counts, and for every location, however it is written.

A server that was never told of a document knows none (`LintLedger.Session.Untouched.session_empty`). Such
a server with the same analyser can always be had: leave out of an exchange all that is said about
documents (`LintLedger.Session.session_filter_documentless`).
-/

namespace LintLedger.Session

variable {s s' : Session} {h h' : Host} {l : String} {v : Option Int}

/-! ### Servers that were never told of a document -/

/-- **No message of the exchange is about a document.** -/
def Untouched (turns : List Turn) : Prop := ∀ t ∈ turns, t.message.document? = none

/-- Behind an exchange without documents none is known. -/
theorem Untouched.session_empty {turns : List Turn} (huntouched : Untouched turns) :
    (Exchange.ofTurns turns).session.versions = .empty ∧
      (Exchange.ofTurns turns).session.ledger = .empty := by
  induction turns using List.reverseRecOn with
  | nil => exact ⟨rfl, rfl⟩
  | append_singleton turns t ih =>
    obtain ⟨hversions, hledger⟩ := ih fun t' ht' => huntouched t' (List.mem_append_left _ ht')
    have hnone : t.message.location? = none := by
      rw [Message.location?, huntouched t (by simp), Option.bind_none]
    obtain ⟨hversions', hledger'⟩ := handle_frame hnone t.host (Exchange.ofTurns turns).session
    rw [Exchange.ofTurns_append_singleton]
    exact ⟨hversions'.trans hversions, hledger'.trans hledger⟩

/-- A message about a document whose location cannot be read is left out. -/
theorem handle_of_location?_eq_none {m : Message} (hm : m.document? ≠ none)
    (hlocation : m.location? = none) (h : Host) (s : Session) : s.handle h m = (s, {}) := by
  obtain ⟨l, hl⟩ := Option.ne_none_iff_exists'.mp hm
  obtain ⟨fault, hread⟩ := Message.exists_fault_of_location?_eq_none hlocation hl
  obtain ⟨phase, root, analyser, versions, ledger⟩ := s
  cases m with
  | opened l' version | saved l' | closed l' =>
    obtain rfl := Option.some.inj hl
    cases phase <;> simp [handle, await, serve, refuse, hread]
  | _ => exact absurd hl (by simp [Message.document?])

/-- **A message about a document** changes nothing but what is known about documents. -/
theorem handle_eq_withDocuments {m : Message} (hm : m.document? ≠ none) (h : Host) (s : Session) :
    (s.handle h m).1 = s.withDocuments (s.handle h m).1.versions (s.handle h m).1.ledger := by
  cases hu : m.location? with
  | none =>
    rw [handle_of_location?_eq_none hm hu]
    rfl
  | some u =>
    have habout := Message.about_of_location? hu
    by_cases hs : s.phase = .serving
    · cases habout with
      | opened hread hversion =>
        rw [handle_opened hs hread hversion]
        rfl
      | unversioned hread hversion =>
        rw [handle_unversioned hs hversion]
        rfl
      | saved hread =>
        rw [handle_saved hs hread]
        rfl
      | closed hread =>
        rw [handle_closed hs hread]
        rfl
    · rw [handle_of_not_serving hs habout]
      rfl

/-- **What is said about documents can be left out of an exchange**: the session is the same but for what
is known about documents. -/
theorem session_filter_documentless (turns : List Turn) :
    (Exchange.ofTurns (turns.filter fun t => t.message.document?.isNone)).session =
      (Exchange.ofTurns turns).session.withDocuments .empty .empty := by
  induction turns using List.reverseRecOn with
  | nil => rfl
  | append_singleton turns t ih =>
    rw [List.filter_append, Exchange.ofTurns_append_singleton, Exchange.next]
    dsimp only
    cases hm : t.message.document? with
    | none =>
      have hturn : [t].filter (fun t => t.message.document?.isNone) = [t] := by simp [hm]
      have hnone : t.message.location? = none := by rw [Message.location?, hm, Option.bind_none]
      rw [hturn, Exchange.ofTurns_append_singleton, Exchange.next, ih]
      dsimp only
      rw [handle_withDocuments t.host _ .empty .empty hnone]
    | some l =>
      have hturn : [t].filter (fun t => t.message.document?.isNone) = [] := by simp [hm]
      have hsome : t.message.document? ≠ none := by simp [hm]
      rw [hturn, List.append_nil, ih, handle_eq_withDocuments hsome t.host]
      rfl

/-! ### Openings of a document -/

/-- **The sessions serve alike**: they have come equally far, and analyse documents alike. -/
structure Alike (s s' : Session) : Prop where
  /-- The sessions have come equally far. -/
  phase : s'.phase = s.phase
  /-- They have one analyser. -/
  analyser : s'.analyser = s.analyser

/-- An analysis looks at nothing of a host but what the tool does. -/
theorem run_congr_host {a : Analyser} (hrun : h'.run a.tool = h.run a.tool) (before : Ledger)
    (u : Location) (version : Option Int) :
    Analysis.run a h' before u version = Analysis.run a h before u version := by
  unfold Analysis.run
  rw [hrun]

/-- What is published behind an analysis is a matter of what was known about the document, where every
line of a report is about it. -/
theorem publications_congr {a : Analyser} (hdocument : a.intake.attribution = .document)
    {before before' : Ledger} {u : Location}
    (hentry : ∀ path, u.path? = some path → before'.get? path = before.get? path)
    (version : Option Int) :
    (Analysis.run a h before' u version).publications =
      (Analysis.run a h before u version).publications := by
  cases hbytes : u.pathBytes? with
  | none =>
    rw [(Analysis.run_of_none hbytes before' version).2,
      (Analysis.run_of_none hbytes before version).2]
  | some bytes =>
    have hpath : u.path? = some (Text.Utf8.decodeLossy bytes) := by
      rw [Location.path?, hbytes, Option.map_some]
    exact (Analysis.run_congr_of_document hdocument hpath (hentry _ hpath) version).2

/-- **What is sent at an opening** is the same in sessions that serve alike and know the same about the
document. -/
theorem Alike.notices_opened (halike : Alike s s')
    (hdocument : s.analyser.intake.attribution = .document)
    (hrun : h'.run s.analyser.tool = h.run s.analyser.tool)
    (hentry : s.phase = .serving → ∀ u path, Location.read l = .ok u → u.path? = some path →
      s'.ledger.get? path = s.ledger.get? path) :
    (s'.handle h' (.opened l v)).2.notices = (s.handle h (.opened l v)).2.notices := by
  have hm : (Message.opened l v).document? ≠ none := by simp [Message.document?]
  cases hu : (Message.opened l v).location? with
  | none => rw [handle_of_location?_eq_none hm hu, handle_of_location?_eq_none hm hu]
  | some u =>
    have habout := Message.about_of_location? hu
    by_cases hs : s.phase = .serving
    · have hs' : s'.phase = .serving := halike.phase.trans hs
      cases habout with
      | unversioned hread hversion =>
        rw [handle_unversioned hs hversion, handle_unversioned hs' hversion]
      | opened hread hversion =>
        rw [handle_opened hs hread hversion, handle_opened hs' hread hversion]
        unfold openDocument validate
        dsimp only
        rw [halike.analyser, run_congr_host hrun, publications_congr hdocument (hentry hs _ · hread)]
    · have hs' : s'.phase ≠ .serving := fun hs' => hs (halike.phase.symm.trans hs')
      rw [handle_of_not_serving hs habout, handle_of_not_serving hs' habout]

/-! ### Closing and opening again -/

/-- Behind its closing nothing is known about a document. -/
theorem get?_handle_closed (hs : s.phase = .serving) {u : Location} (hread : Location.read l = .ok u)
    {path : String} (hpath : u.path? = some path) :
    (s.handle h (.closed l)).1.ledger.get? path = none := by
  rw [handle_closed hs hread, get?_closeDocument, if_pos hpath]

/-- A closing keeps how far the session has come and how it analyses documents. -/
theorem alike_handle_closed (s : Session) (h : Host) (l : String) :
    Alike s (s.handle h (.closed l)).1 := by
  rw [handle_eq_withDocuments (by simp [Message.document?])]
  exact ⟨rfl, rfl⟩

/-- **Closing a document resets it.** Whatever was said before, with any settings, files and tools: if
every line of a report is about the analysed document in the end, then a document that is closed and opened
again at once is published exactly as at its first opening by any server that was never told of a document,
has come equally far and has the same analyser – and there is such a server. The tool may print anything or
fail to start, as long as it does the same for both. -/
theorem notices_reopened (turns : List Turn)
    (hdocument : (Exchange.ofTurns turns).session.analyser.intake.attribution = .document)
    (closing : Host) (l : String) (v : Option Int) :
    (∃ anew, Untouched anew ∧
        Alike (Exchange.ofTurns turns).session (Exchange.ofTurns anew).session) ∧
      ∀ anew, Untouched anew →
        Alike (Exchange.ofTurns turns).session (Exchange.ofTurns anew).session →
        ∀ opening opening' : Host,
          opening'.run (Exchange.ofTurns turns).session.analyser.tool =
              opening.run (Exchange.ofTurns turns).session.analyser.tool →
            (((Exchange.ofTurns turns).next ⟨closing, .closed l⟩).session.handle opening
                (.opened l v)).2.notices =
              ((Exchange.ofTurns anew).session.handle opening' (.opened l v)).2.notices := by
  refine ⟨⟨turns.filter fun t => t.message.document?.isNone, ?_, ?_⟩, ?_⟩
  · intro t ht
    exact Option.isNone_iff_eq_none.mp (List.mem_filter.mp ht).2
  · rw [session_filter_documentless]
    exact ⟨rfl, rfl⟩
  · intro anew huntouched halike opening opening' hrun
    have hempty := huntouched.session_empty.2
    generalize (Exchange.ofTurns anew).session = s' at halike hempty ⊢
    unfold Exchange.next
    dsimp only
    generalize (Exchange.ofTurns turns).session = s at hdocument halike hrun ⊢
    have hclosed := alike_handle_closed s closing l
    have hreopened : Alike (s.handle closing (.closed l)).1 s' :=
      ⟨halike.phase.trans hclosed.phase.symm, halike.analyser.trans hclosed.analyser.symm⟩
    rw [← hclosed.analyser] at hdocument hrun
    refine (hreopened.notices_opened hdocument hrun fun hserving u path hread hpath => ?_).symm
    -- Neither knows the document: one was told to forget it, the other was never told of it.
    rw [hempty, get?_handle_closed (hclosed.phase.symm.trans hserving) hread hpath]
    rfl

/-- A document with a finding is closed and opened again while the tool prints nothing: though stale findings
are kept, nothing is published, as at a first opening. Without the closing the finding would be. -/
theorem notices_reopened_silent :
    let noisy : Host := { files := {}, run := fun _ _ => .ok ⟨.exited 1, "x:1:1:error\n", ""⟩ }
    let silent : Host := { files := {}, run := fun _ _ => .ok ⟨.exited 0, "", ""⟩ }
    let turns : List Turn :=
      [⟨noisy, .begin none⟩, ⟨noisy, .opened "file:///a" (some 1)⟩, ⟨noisy, .saved "file:///a"⟩]
    let x := Exchange.ofTurns turns
    x.session.analyser.intake.attribution = .document ∧
      x.session.analyser.intake.stalePolicy = .retain ∧
      ((x.next ⟨noisy, .closed "file:///a"⟩).session.handle silent
        (.opened "file:///a" (some 7))).2.notices = [] ∧
      (x.session.handle silent (.opened "file:///a" (some 7))).2.notices ≠ [] := by
  intro noisy silent turns x
  have hsame := (notices_reopened turns rfl noisy "file:///a" (some 7)).2 [⟨noisy, .begin none⟩]
    (by simp [Untouched, Message.document?]) ⟨rfl, rfl⟩ silent silent rfl
  refine ⟨rfl, rfl, hsame.trans ?_, ?_⟩ <;> decide +kernel

end LintLedger.Session
