import LintLedger.Proofs.Session.Messages
import LintLedger.Proofs.Session.Publications
import LintLedger.Proofs.Session.Reload
import LintLedger.Proofs.Since
import Mathlib.Data.List.Induction

/-!
# The versions of publications

The editor counts the versions of a document, and a publication with a version tells it what the findings
were found in. A saving says nothing of a version, so the server has to remember the one of the opening. What
it ought to remember is a matter of what the editor has said: a document is *open at a version* if it was
opened at this version and neither opened again nor closed since (`LintLedger.Session.OpenAt`). What it does
remember is this, as long as it serves (`LintLedger.Session.get?_versions_iff`), and analyses play no part in
it, whether they come to something or not.

The version is that of the analysed document. Of all documents that are published behind an analysis it is
given to this one alone (`LintLedger.Session.Published`), which is told from the others by its path.
-/

namespace LintLedger.Session

variable {h : Host} {s : Session} {m : Message} {u : Location} {url : String} {v : Int}

/-! ### What messages say about documents -/

/-- The message opens the document at the location, at a version that makes sense. -/
inductive Message.Opens (u : Location) (v : Int) : Message → Prop where
  | opened {l : String} (version : isVersion v = true) (read : Location.read l = .ok u) :
      Opens u v (.opened l (some v))

/-- The message saves the document at the location. -/
inductive Message.Saves (u : Location) : Message → Prop where
  | saved {l : String} (read : Location.read l = .ok u) : Saves u (.saved l)

/-- The message closes the document at the location. -/
inductive Message.Closes (u : Location) : Message → Prop where
  | closed {l : String} (read : Location.read l = .ok u) : Closes u (.closed l)

/-- The message leaves the document at the location of a text as it is: it neither opens nor closes it. -/
def Message.Leaves (m : Message) (url : String) : Prop :=
  ∀ u, u.text = url → ¬m.Closes u ∧ ∀ v, ¬m.Opens u v

/-- **The document at the location of a text is open at a version**: the server was told that it was opened
at this version, and neither that it was opened again nor that it was closed since. -/
def OpenAt (turns : List Turn) (url : String) (v : Int) : Prop :=
  ∃ earlier t later, turns = earlier ++ t :: later ∧
    ((Exchange.ofTurns earlier).session.phase = .serving ∧ ∃ u, u.text = url ∧ t.message.Opens u v) ∧
    ∀ t' ∈ later, t'.message.Leaves url

/-- **One turn more**: the document is open at a version if it is opened now at this version, or if it was
open at it before and is left as it is now. -/
theorem openAt_append_singleton {turns : List Turn} {t : Turn} :
    OpenAt (turns ++ [t]) url v ↔
      ((Exchange.ofTurns turns).session.phase = .serving ∧ ∃ u, u.text = url ∧ t.message.Opens u v) ∨
        t.message.Leaves url ∧ OpenAt turns url v :=
  exists_since_append_singleton_iff

/-! ### The versions that a session remembers -/

/-- Without serving nothing is remembered and nothing forgotten. -/
theorem versions_handle_of_not_serving (hs : s.phase ≠ .serving) (h : Host) (m : Message) :
    (s.handle h m).1.versions = s.versions := by
  cases hm : m.location? with
  | none => exact (handle_frame hm h s).1
  | some u => rw [handle_of_not_serving hs (Message.about_of_location? hm)]

/-- Behind its opening a document has the version of the opening. -/
theorem get?_versions_of_opens (hs : s.phase = .serving) (hopens : m.Opens u v) (h : Host) :
    (s.handle h m).1.versions.get? u.text = some v := by
  obtain ⟨hversion, hread⟩ := hopens
  rw [handle_opened hs hread hversion]
  exact (Keyed.get?_insert s.versions u.text u.text v).trans (if_pos rfl)

/-- Behind its closing a document has no version. -/
theorem get?_versions_of_closes (hs : s.phase = .serving) (hcloses : m.Closes u) (h : Host) :
    (s.handle h m).1.versions.get? u.text = none := by
  obtain ⟨hread⟩ := hcloses
  rw [handle_closed hs hread]
  exact (Keyed.get?_erase s.versions u.text u.text).trans (if_pos rfl)

/-- A document that is left as it is keeps its version. -/
theorem get?_versions_of_leaves (hleaves : m.Leaves url) (h : Host) (s : Session) :
    (s.handle h m).1.versions.get? url = s.versions.get? url := by
  by_cases hs : s.phase = .serving
  · cases hm : m.location? with
    | none => rw [(handle_frame hm h s).1]
    | some u =>
      -- The two messages that write to the versions do so at another location.
      cases Message.about_of_location? hm with
      | opened hread hversion =>
        have hother : url ≠ u.text := fun heq => (hleaves u heq.symm).2 _ (.opened hversion hread)
        rw [handle_opened hs hread hversion]
        exact (Keyed.get?_insert s.versions u.text url _).trans (if_neg hother)
      | unversioned hread hmissing => rw [handle_unversioned hs hmissing]
      | saved hread =>
        rw [handle_saved hs hread]
        rfl
      | closed hread =>
        have hother : url ≠ u.text := fun heq => (hleaves u heq.symm).1 (.closed hread)
        rw [handle_closed hs hread]
        exact (Keyed.get?_erase s.versions u.text url).trans (if_neg hother)
  · rw [versions_handle_of_not_serving hs]

/-- **What a message does to the versions**: a document has a version behind it if the message opens it at
this version, or if it had the version before and the message leaves it. -/
theorem get?_versions_handle_iff (hs : s.phase = .serving) (h : Host) (m : Message) :
    (s.handle h m).1.versions.get? url = some v ↔
      (∃ u, u.text = url ∧ m.Opens u v) ∨ m.Leaves url ∧ s.versions.get? url = some v := by
  by_cases hleaves : m.Leaves url
  · rw [get?_versions_of_leaves hleaves, and_iff_right hleaves, or_iff_right]
    rintro ⟨u, hu, hopens⟩
    exact (hleaves u hu).2 v hopens
  · rw [or_iff_left fun hkept => hleaves hkept.1]
    unfold Message.Leaves at hleaves
    push Not at hleaves
    obtain ⟨u, rfl, hleaves⟩ := hleaves
    by_cases hcloses : m.Closes u
    · rw [get?_versions_of_closes hs hcloses]
      refine iff_of_false (Option.some_ne_none v).symm ?_
      -- No message both closes a document and opens one.
      rintro ⟨u', -, ⟨-, -⟩⟩
      cases hcloses
    · obtain ⟨w, hopens⟩ := hleaves hcloses
      rw [get?_versions_of_opens hs hopens, Option.some.injEq]
      constructor
      · rintro rfl
        exact ⟨u, rfl, hopens⟩
      · rintro ⟨u', -, ⟨-, -⟩⟩
        cases hopens
        rfl

/-! ### How far a session has come -/

theorem phase_reload (h : Host) (s : Session) : (reload h s).1.phase = s.phase := by
  rcases reload_cases h s with hsame | ⟨root, path, a, -, -, -, hreload⟩
  · rw [hsame]
  · rw [hreload]

/-- A session goes on serving until it is to end. -/
theorem phase_serve (h : Host) (s : Session) (m : Message) :
    (serve h s m).1.phase = if m = .shutdown then .stopped else s.phase := by
  unfold serve
  cases m with
  | opened l version =>
    dsimp only
    split <;> rfl
  | saved l =>
    dsimp only
    split <;> rfl
  | closed l =>
    dsimp only
    split <;> rfl
  | changed ls =>
    dsimp only
    split
    · unfold changeFiles
      split
      · exact phase_reload h s
      · rfl
    · rfl
  | _ => rfl

/-- A session that has begun never waits for its beginning again. -/
theorem phase_handle_ne_fresh (hs : s.phase ≠ .fresh) (h : Host) (m : Message) :
    (s.handle h m).1.phase ≠ .fresh := by
  unfold handle
  cases hphase : s.phase with
  | fresh => exact absurd hphase hs
  | serving =>
    dsimp only
    rw [phase_serve, hphase]
    split <;> nofun
  | stopped =>
    simp [hphase]

theorem phase_handle_of_stopped (hs : s.phase = .stopped) (h : Host) (m : Message) :
    (s.handle h m).1.phase = .stopped := by
  simp only [handle, hs]

/-! ### What is remembered is what was said -/

/-- Before a session begins no versions are remembered. -/
theorem versions_of_fresh (turns : List Turn)
    (hfresh : (Exchange.ofTurns turns).session.phase = .fresh) :
    (Exchange.ofTurns turns).session.versions = .empty := by
  induction turns using List.reverseRecOn with
  | nil => rfl
  | append_singleton turns t ih =>
    rw [Exchange.ofTurns_append_singleton] at hfresh ⊢
    have hbefore : (Exchange.ofTurns turns).session.phase = .fresh :=
      not_not.mp fun hne => phase_handle_ne_fresh hne t.host t.message hfresh
    exact (versions_handle_of_not_serving (by simp [hbefore]) t.host t.message).trans (ih hbefore)

/-- **The versions that a session remembers are those at which documents are open**, as long as it has not
ended. -/
theorem get?_versions_iff {turns : List Turn}
    (hphase : (Exchange.ofTurns turns).session.phase ≠ .stopped) :
    (Exchange.ofTurns turns).session.versions.get? url = some v ↔ OpenAt turns url v := by
  induction turns using List.reverseRecOn with
  | nil =>
    refine iff_of_false (fun hget => Option.some_ne_none v hget.symm) ?_
    rintro ⟨earlier, t, later, hturns, -⟩
    simp at hturns
  | append_singleton turns t ih =>
    rw [Exchange.ofTurns_append_singleton] at hphase ⊢
    -- What has not ended by now has not ended before, so the turns so far are known.
    have hbefore : (Exchange.ofTurns turns).session.phase ≠ .stopped :=
      fun hstopped => hphase (phase_handle_of_stopped hstopped t.host t.message)
    rw [openAt_append_singleton, ← ih hbefore]
    by_cases hserving : (Exchange.ofTurns turns).session.phase = .serving
    · rw [and_iff_right hserving]
      exact get?_versions_handle_iff hserving t.host t.message
    · -- Before the session begins there is nothing to remember, whatever is said.
      have hempty : (Exchange.ofTurns turns).session.versions = .empty := by
        refine versions_of_fresh turns ?_
        cases hfresh : (Exchange.ofTurns turns).session.phase with
        | fresh => rfl
        | serving => exact absurd hfresh hserving
        | stopped => exact absurd hfresh hbefore
      have hnone : (Exchange.ofTurns turns).session.versions.get? url ≠ some v := by
        rw [hempty]
        exact (Option.some_ne_none v).symm
      have hsame := versions_handle_of_not_serving hserving t.host t.message
      refine iff_of_false (fun hget => ?_) ?_
      · rw [Exchange.next, hsame] at hget
        exact hnone hget
      · rintro (⟨hyes, -⟩ | ⟨-, hget⟩)
        · exact hserving hyes
        · exact hnone hget

/-! ### What is published, with which version -/

/-- **What is published behind the analysis of a document**, over a ledger and with a version. -/
inductive Published (h : Host) (a : Analyser) (before : Ledger) (u : Location) (version : Option Int) :
    Ledger → List Notice → Prop where
  /-- The document is no file, or the tool cannot be started: nothing is published. -/
  | nothing (fails : ∀ bytes outcome, u.pathBytes? = some bytes → h.run a.tool bytes ≠ .ok outcome) :
      Published h a before u version before []
  /-- The tool was started. The analysed document is published if anything is known about it, and every other
  one of which something else is known than before, each at the location of its path, once, and with all that
  is known. The analysed document alone has the version. -/
  | shown {bytes : List UInt8} {outcome : Tool.Outcome} {after : Ledger} {paths : List String}
      {notices : List Notice} (place : u.pathBytes? = some bytes) (ran : h.run a.tool bytes = .ok outcome)
      (ordered : paths.Pairwise fun k l => Text.Utf8.encode k < Text.Utf8.encode l)
      (which : ∀ k, k ∈ paths ↔ ∃ fs, after.get? k = some fs ∧
        (k = Text.Utf8.decodeLossy bytes ∨ before.get? k ≠ some fs) ∧ (Location.ofPath? k).isSome)
      (each : List.Forall₂ (fun k notice => ∃ fs c, after.get? k = some fs ∧ Location.ofPath? k = some c ∧
        notice = .publish ⟨c, fs.map Diagnostic.ofFinding,
          if k = Text.Utf8.decodeLossy bytes then version else none⟩) paths notices) :
      Published h a before u version after notices

theorem published_run (h : Host) (a : Analyser) (before : Ledger) (u : Location) (version : Option Int) :
    Published h a before u version (Analysis.run a h before u version).ledger
      ((Analysis.run a h before u version).publications.map .publish) := by
  cases hbytes : u.pathBytes? with
  | none =>
    obtain ⟨hledger, hnothing⟩ := Analysis.run_of_none hbytes before version
    rw [hledger, hnothing]
    exact .nothing fun bytes outcome hsome => by simp [hbytes] at hsome
  | some bytes =>
    cases hrun : h.run a.tool bytes with
    | error fault =>
      obtain ⟨hledger, hnothing⟩ := Analysis.run_of_error hbytes hrun before version
      rw [hledger, hnothing]
      refine .nothing fun bytes' outcome hsome => ?_
      obtain rfl := Option.some.inj (hbytes.symm.trans hsome)
      simp [hrun]
    | ok outcome =>
      obtain ⟨hledger, hpublications⟩ := Analysis.run_of_ok hbytes hrun before version
      rw [hledger, hpublications, Analysis.publications_ofOutput]
      refine .shown hbytes hrun
        ((Analysis.pairwise_shownPaths _ version _ _).imp Text.Utf8.encode_lt_encode_iff.mpr)
        (fun k => Analysis.mem_shownPaths_iff) ?_
      rw [List.forall₂_map_right_iff]
      refine (Analysis.forall₂_shownPaths _ version _ _).imp fun k p hk => ?_
      obtain ⟨fs, hget, hp⟩ := hk
      obtain ⟨-, hp⟩ := Option.ite_none_right_eq_some.mp hp
      obtain ⟨c, hc, rfl⟩ := Option.map_eq_some_iff.mp hp
      exact ⟨fs, c, hget, hc, rfl⟩

/-- **The versions of publications.** Whatever was said before, with any files, tools and settings: of what
is published at the opening of a document, the analysed document has the version of the opening, and at a
saving it has the version at which the document is open then, and none if it is not open. All other documents
that are published have no version, and neither has the one that is published at a closing. Nothing else is
ever published. Documents are told apart by their paths as they are written, and openings, savings and
closings by the text of their locations. -/
theorem versions_published (turns : List Turn) (t : Turn) :
    let s := (Exchange.ofTurns turns).session
    let after := (s.handle t.host t.message).1.ledger
    let notices := (s.handle t.host t.message).2.notices
    (s.phase = .serving →
      (∀ u v, t.message.Opens u v → Published t.host s.analyser s.ledger u (some v) after notices) ∧
      (∀ u, t.message.Saves u → ∃ version, (∀ v, version = some v ↔ OpenAt turns u.text v) ∧
        Published t.host s.analyser s.ledger u version after notices) ∧
      ∀ u, t.message.Closes u → notices = [.publish ⟨u, [], none⟩]) ∧
    ∀ p, .publish p ∈ notices → s.phase = .serving ∧
      ∃ u, (∃ v, t.message.Opens u v) ∨ t.message.Saves u ∨ t.message.Closes u := by
  obtain ⟨host, m⟩ := t
  intro s after notices
  refine ⟨fun hserving => ⟨fun u v hopens => ?_, fun u hsaves => ?_, fun u hcloses => ?_⟩, fun p hp => ?_⟩
  · obtain ⟨hversion, hread⟩ := hopens
    have hhandle := handle_opened (h := host) hserving hread hversion
    simp only [after, notices, hhandle]
    exact published_run host s.analyser s.ledger u (some v)
  · obtain ⟨hread⟩ := hsaves
    have hhandle := handle_saved hserving hread host
    refine ⟨s.versions.get? u.text, fun v => get?_versions_iff (by rw [hserving]; nofun), ?_⟩
    simp only [after, notices, hhandle]
    exact published_run host s.analyser s.ledger u _
  · obtain ⟨hread⟩ := hcloses
    simp only [notices, handle_closed hserving hread]
    rfl
  · -- Of all that a message can do, only the first three things show anything.
    have heffect : Effect host s m _ notices := effect_handle host s m
    generalize (s.handle host m).1 = s' at heffect
    generalize notices = shown at heffect hp
    cases heffect with
    | opened hserving hread hversion => exact ⟨hserving, _, Or.inl ⟨_, .opened hversion hread⟩⟩
    | saved hserving hread => exact ⟨hserving, _, Or.inr (Or.inl (.saved hread))⟩
    | closed hserving hread => exact ⟨hserving, _, Or.inr (Or.inr (.closed hread))⟩
    | other hversions hledger hsilent => exact absurd hp (hsilent p)

/-- Two documents, one opened again by a tool that cannot be started, the other one saved while it cannot be
started and then closed. Both are saved: the first one has the version of its second opening, and the other
one has none. -/
theorem versions_published_interleaved :
    let running : Host := { files := {}, run := fun _ _ => .ok ⟨.exited 1, "x:1:1:error\n", ""⟩ }
    let broken : Host := { files := {}, run := fun _ _ => .error .notFound }
    let turns : List Turn :=
      [⟨running, .begin none⟩, ⟨running, .opened "file:///a" (some 1)⟩,
        ⟨running, .opened "file:///b" (some 5)⟩, ⟨broken, .opened "file:///a" (some 2)⟩,
        ⟨broken, .saved "file:///b"⟩, ⟨running, .closed "file:///b"⟩]
    let a : Location := { scheme := "file", authority := some {}, path := .names ["a"] }
    let b : Location := { scheme := "file", authority := some {}, path := .names ["b"] }
    let s := (Exchange.ofTurns turns).session
    let first := s.handle running (.saved "file:///a")
    let other := s.handle running (.saved "file:///b")
    s.phase = .serving ∧
      (Message.saved "file:///a").Saves a ∧ OpenAt turns a.text 2 ∧
      Published running s.analyser s.ledger a (some 2) first.1.ledger first.2.notices ∧
      first.2.notices = [.publish ⟨a, [⟨0, 0, .error, "error"⟩], some 2⟩] ∧
      (Message.saved "file:///b").Saves b ∧ (∀ v, ¬OpenAt turns b.text v) ∧
      Published running s.analyser s.ledger b none other.1.ledger other.2.notices ∧
      other.2.notices = [.publish ⟨b, [⟨0, 0, .error, "error"⟩], none⟩] := by
  intro running broken turns a b s first other
  have hserving : s.phase = .serving := by decide +kernel
  have hreadA : Location.read "file:///a" = .ok a := by decide +kernel
  have hreadB : Location.read "file:///b" = .ok b := by decide +kernel
  have hopen : OpenAt turns a.text 2 := (get?_versions_iff (by decide +kernel)).mp (by decide +kernel)
  have hclosed : ∀ v, ¬OpenAt turns b.text v := by
    intro v hopen
    have hnone : s.versions.get? b.text = none := by decide +kernel
    have hsome := (get?_versions_iff (by decide +kernel)).mpr hopen
    simp [s, hsome] at hnone
  obtain ⟨version, hversion, hpublished⟩ :=
    ((versions_published turns ⟨running, .saved "file:///a"⟩).1 hserving).2.1 a (.saved hreadA)
  obtain ⟨version', hversion', hpublished'⟩ :=
    ((versions_published turns ⟨running, .saved "file:///b"⟩).1 hserving).2.1 b (.saved hreadB)
  obtain rfl : version = some 2 := (hversion 2).mpr hopen
  obtain rfl : version' = none :=
    Option.eq_none_iff_forall_not_mem.mpr fun v hv => hclosed v ((hversion' v).mp hv)
  exact ⟨hserving, .saved hreadA, hopen, hpublished, by decide +kernel, .saved hreadB, hclosed, hpublished',
    by decide +kernel⟩

end LintLedger.Session
