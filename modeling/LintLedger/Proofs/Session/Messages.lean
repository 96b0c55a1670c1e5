import LintLedger.Proofs.Session.Exchange

/-!
# Messages about documents, and the others

A message is about the document at a location, if its location can be read, or about none. What a session
does with the first kind is told case by case (`LintLedger.Session.Message.About`). The second kind knows
nothing about documents: whatever such a message does to the rest of a session, and whatever it answers,
it does and answers over any versions and any ledger (`LintLedger.Session.handle_withDocuments`).
-/

namespace LintLedger.Session

variable {h : Host} {s : Session} {m : Message} {l : String} {u : Location}

/-! ### Messages about a document -/

/-- The location of the document that a message is about. -/
def Message.document? : Message → Option String
  | .opened l _ => some l
  | .saved l => some l
  | .closed l => some l
  | _ => none

/-- The location of the document that a message is about, if it can be read. -/
def Message.location? (m : Message) : Option Location :=
  m.document?.bind fun l => (Location.read l).toOption

/-- **What a message about the document at a location can be.** -/
inductive Message.About (u : Location) : Message → Prop where
  /-- The document is opened. -/
  | opened {l : String} {v : Int} (read : Location.read l = .ok u) (version : isVersion v = true) :
      About u (.opened l (some v))
  /-- The document is opened with a version that makes no sense. -/
  | unversioned {l : String} {version : Option Int} (read : Location.read l = .ok u)
      (missing : version.filter isVersion = none) : About u (.opened l version)
  /-- The document is saved. -/
  | saved {l : String} (read : Location.read l = .ok u) : About u (.saved l)
  /-- The document is closed. -/
  | closed {l : String} (read : Location.read l = .ok u) : About u (.closed l)

theorem Message.read_of_location? (hm : m.location? = some u) :
    ∃ l, m.document? = some l ∧ Location.read l = .ok u := by
  obtain ⟨l, hl, hu⟩ := Option.bind_eq_some_iff.mp hm
  refine ⟨l, hl, ?_⟩
  cases hread : Location.read l with
  | error fault => simp [hread, Except.toOption] at hu
  | ok v =>
    rw [hread] at hu
    rw [Option.some.inj hu]

theorem Message.about_of_location? (hm : m.location? = some u) : About u m := by
  obtain ⟨l, hl, hread⟩ := read_of_location? hm
  cases m with
  | opened l' version =>
    obtain rfl := Option.some.inj hl
    cases hversion : version.filter isVersion with
    | none => exact .unversioned hread hversion
    | some v =>
      obtain ⟨rfl, hv⟩ := Option.filter_eq_some_iff.mp hversion
      exact .opened hread hv
  | saved l' =>
    obtain rfl := Option.some.inj hl
    exact .saved hread
  | closed l' =>
    obtain rfl := Option.some.inj hl
    exact .closed hread
  | _ => exact absurd hl (by simp [Message.document?])

theorem Message.exists_fault_of_location?_eq_none (hm : m.location? = none)
    (hl : m.document? = some l) : ∃ fault, Location.read l = .error fault := by
  rw [location?, hl, Option.bind_some] at hm
  cases hread : Location.read l with
  | error fault => exact ⟨fault, rfl⟩
  | ok v => simp [hread, Except.toOption] at hm

theorem handle_of_not_serving (hs : s.phase ≠ .serving) (hm : m.About u) (h : Host) :
    s.handle h m = (s, {}) := by
  unfold handle
  cases hphase : s.phase with
  | fresh => cases hm <;> rfl
  | serving => exact absurd hphase hs
  | stopped => cases hm <;> rfl

theorem handle_unversioned (hs : s.phase = .serving) {version : Option Int}
    (hversion : version.filter isVersion = none) (h : Host) :
    s.handle h (.opened l version) = (s, {}) := by
  simp only [handle, hs, serve, hversion]
  cases Location.read l <;> rfl

theorem handle_saved (hs : s.phase = .serving) (hread : Location.read l = .ok u) (h : Host) :
    s.handle h (.saved l) = saveDocument h s u := by
  simp only [handle, hs, serve, hread]

/-! ### Messages about no document -/

/-- The session over other versions and another ledger. -/
def withDocuments (s : Session) (versions : Keyed Int) (ledger : Ledger) : Session :=
  { s with versions := versions, ledger := ledger }

section Documents

variable (h : Host) (s : Session) (vs : Keyed Int) (ledger : Ledger)

theorem reload_withDocuments :
    reload h (s.withDocuments vs ledger) =
      ((reload h s).1.withDocuments vs ledger, (reload h s).2) := by
  obtain ⟨phase, root, analyser, versions, old⟩ := s
  unfold reload withDocuments
  cases root with
  | none => rfl
  | some root =>
    dsimp only
    cases Settings.discover? h.files root with
    | none => rfl
    | some path =>
      dsimp only
      cases Analyser.load h.files path <;> rfl

theorem begin_withDocuments (root : Option Location) :
    begin h (s.withDocuments vs ledger) root =
      ((begin h s root).1.withDocuments vs ledger, (begin h s root).2) := by
  unfold begin
  cases root.bind Location.pathBytes? with
  | none => rfl
  | some path =>
    dsimp only
    have hreload := reload_withDocuments h { s with root := some path } vs ledger
    unfold withDocuments at hreload ⊢
    rw [hreload]

theorem changeFiles_withDocuments (locations : List Location) :
    changeFiles h (s.withDocuments vs ledger) locations =
      ((changeFiles h s locations).1.withDocuments vs ledger, (changeFiles h s locations).2) := by
  unfold changeFiles
  split
  · rw [reload_withDocuments]
  · rfl

theorem await_withDocuments (m : Message) :
    await h (s.withDocuments vs ledger) m =
      ((await h s m).1.withDocuments vs ledger, (await h s m).2) := by
  cases m with
  | begin root =>
    cases root with
    | none => exact begin_withDocuments h s vs ledger none
    | some root =>
      unfold await
      dsimp only
      cases Location.read root with
      | ok location => exact begin_withDocuments h s vs ledger (some location)
      | error fault => rfl
  | _ => rfl

theorem serve_withDocuments (hm : m.location? = none) :
    serve h (s.withDocuments vs ledger) m =
      ((serve h s m).1.withDocuments vs ledger, (serve h s m).2) := by
  cases m with
  | opened l version =>
    obtain ⟨fault, hread⟩ := Message.exists_fault_of_location?_eq_none hm rfl
    simp only [serve, hread]
  | saved l =>
    obtain ⟨fault, hread⟩ := Message.exists_fault_of_location?_eq_none hm rfl
    simp only [serve, hread]
  | closed l =>
    obtain ⟨fault, hread⟩ := Message.exists_fault_of_location?_eq_none hm rfl
    simp only [serve, hread]
  | changed ls =>
    unfold serve
    dsimp only
    cases ls.mapM Location.read with
    | ok locations => exact changeFiles_withDocuments h s vs ledger locations
    | error fault => rfl
  | _ => rfl

/-- **A message about no document**, or about one whose location cannot be read, does the same over any
versions and any ledger, and leaves both. -/
theorem handle_withDocuments (hm : m.location? = none) :
    handle h (s.withDocuments vs ledger) m =
      ((s.handle h m).1.withDocuments vs ledger, (s.handle h m).2) := by
  obtain ⟨phase, root, analyser, versions, old⟩ := s
  cases phase with
  | fresh => exact await_withDocuments h ⟨.fresh, root, analyser, versions, old⟩ vs ledger m
  | serving => exact serve_withDocuments h ⟨.serving, root, analyser, versions, old⟩ vs ledger hm
  | stopped => rfl

end Documents

theorem handle_frame (hm : m.location? = none) (h : Host) (s : Session) :
    (s.handle h m).1.versions = s.versions ∧ (s.handle h m).1.ledger = s.ledger := by
  -- Over its own versions and ledger the session is itself.
  have hself : (s.handle h m).1 = (s.handle h m).1.withDocuments s.versions s.ledger :=
    congrArg Prod.fst (handle_withDocuments h s s.versions s.ledger hm)
  exact ⟨(congrArg Session.versions hself).trans rfl, (congrArg Session.ledger hself).trans rfl⟩

end LintLedger.Session
