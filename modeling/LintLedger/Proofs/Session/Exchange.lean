import LintLedger.Session
import Mathlib.Data.List.Basic

/-!
# Exchanges

An exchange is what an editor and the server have said to each other from the first message on. Each
turn comes with the host as it is found at that moment, so files may be edited and tools may answer
differently from turn to turn.

All that a turn can do to the ledger, to the versions and to what is shown is told once, by
`LintLedger.Session.Effect`: it is one of an opening, a saving, a closing, and everything else, and the
last leaves all of them alone. Whatever is kept by the first three is kept by an exchange.

What the editor shows for a location is what was last published for it (`LintLedger.Session.shown`);
two lemmas say what that becomes when more is published.
-/

namespace LintLedger.Session

/-! ### One message -/

/-- **What a message can do** to the documents and to what is shown for them. -/
inductive Effect (h : Host) (s : Session) : Message → Session → List Notice → Prop where
  /-- A document is opened. -/
  | opened {l : String} {u : Location} {v : Int} (serving : s.phase = .serving)
      (read : Location.read l = .ok u) (version : isVersion v = true) :
      Effect h s (.opened l (some v))
        { s with
          versions := s.versions.insert u.text v
          ledger := (Analysis.run s.analyser h s.ledger u (some v)).ledger }
        ((Analysis.run s.analyser h s.ledger u (some v)).publications.map .publish)
  /-- A document is saved. -/
  | saved {l : String} {u : Location} (serving : s.phase = .serving)
      (read : Location.read l = .ok u) :
      Effect h s (.saved l)
        { s with ledger := (Analysis.run s.analyser h s.ledger u (s.versions.get? u.text)).ledger }
        ((Analysis.run s.analyser h s.ledger u (s.versions.get? u.text)).publications.map .publish)
  /-- A document is closed. -/
  | closed {l : String} {u : Location} (serving : s.phase = .serving)
      (read : Location.read l = .ok u) :
      Effect h s (.closed l) (closeDocument s u).1 [.publish ⟨u, [], none⟩]
  /-- Documents stay as they are, and nothing is shown. -/
  | other {m : Message} {s' : Session} {notices : List Notice} (versions : s'.versions = s.versions)
      (ledger : s'.ledger = s.ledger) (silent : ∀ p, .publish p ∉ notices) :
      Effect h s m s' notices

/-- A closing forgets the document at the location, if it is the place of one, and no other. -/
theorem get?_closeDocument (s : Session) (u : Location) (k : String) :
    (closeDocument s u).1.ledger.get? k =
      if u.path? = some k then none else s.ledger.get? k := by
  unfold closeDocument
  dsimp only
  split
  · next path hpath =>
    rw [Ledger.get?_remove]
    exact if_congr (by rw [hpath, Option.some.injEq, eq_comm]) rfl rfl
  · next hpath =>
    rw [if_neg]
    simp [hpath]

theorem reload_frame (h : Host) (s : Session) :
    (reload h s).1.versions = s.versions ∧ (reload h s).1.ledger = s.ledger := by
  unfold reload
  split
  · exact ⟨rfl, rfl⟩
  · split
    · exact ⟨rfl, rfl⟩
    · split
      · exact ⟨rfl, rfl⟩
      · exact ⟨rfl, rfl⟩

theorem effect_begin (h : Host) (s : Session) (m : Message) (root : Option Location) :
    Effect h s m (begin h s root).1 (begin h s root).2.notices := by
  unfold begin
  split
  next s' log hs =>
    have hframe : s'.versions = s.versions ∧ s'.ledger = s.ledger := by
      split at hs
      · next path _ =>
        obtain rfl : (reload h { s with root := some path }).1 = s' := congrArg Prod.fst hs
        exact reload_frame h { s with root := some path }
      · obtain rfl : s = s' := congrArg Prod.fst hs
        exact ⟨rfl, rfl⟩
    exact .other hframe.1 hframe.2 fun _ => List.not_mem_nil

theorem effect_await (h : Host) (s : Session) (m : Message) :
    Effect h s m (await h s m).1 (await h s m).2.notices := by
  unfold await
  split
  · exact effect_begin h s _ none
  · split
    · exact effect_begin h s _ _
    · exact .other rfl rfl fun _ => List.not_mem_nil
  · exact .other rfl rfl fun _ => List.not_mem_nil
  · exact .other rfl rfl fun _ => List.not_mem_nil

theorem effect_serve (h : Host) (s : Session) (m : Message) (hs : s.phase = .serving) :
    Effect h s m (serve h s m).1 (serve h s m).2.notices := by
  unfold serve
  split
  · exact .other rfl rfl fun _ => List.not_mem_nil
  · exact .other rfl rfl (by simp)
  · exact .other rfl rfl fun _ => List.not_mem_nil
  · next l version =>
    split
    · next u v hread hversion =>
      obtain ⟨rfl, hv⟩ := Option.filter_eq_some_iff.mp hversion
      exact .opened hs hread hv
    · exact .other rfl rfl fun _ => List.not_mem_nil
  · split
    · next u hread => exact .saved hs hread
    · exact .other rfl rfl fun _ => List.not_mem_nil
  · split
    · next u hread => exact .closed hs hread
    · exact .other rfl rfl fun _ => List.not_mem_nil
  · split
    · next us _ =>
      unfold changeFiles
      split
      · exact .other (reload_frame h s).1 (reload_frame h s).2 fun _ => List.not_mem_nil
      · exact .other rfl rfl fun _ => List.not_mem_nil
    · exact .other rfl rfl fun _ => List.not_mem_nil

/-- **Every message does one of these things.** -/
theorem effect_handle (h : Host) (s : Session) (m : Message) :
    Effect h s m (s.handle h m).1 (s.handle h m).2.notices := by
  unfold handle
  split
  · exact effect_await h s m
  · next hs => exact effect_serve h s m hs
  · refine .other rfl rfl fun p => ?_
    unfold refuse
    split <;> exact List.not_mem_nil

theorem handle_opened {h : Host} {s : Session} (hs : s.phase = .serving) {l : String} {u : Location}
    (hread : Location.read l = .ok u) {v : Int} (hv : isVersion v = true) :
    s.handle h (.opened l (some v)) = openDocument h s u v := by
  have hversion : (some v).filter isVersion = some v := Option.filter_some_pos hv
  simp only [handle, hs, serve, hread, hversion]

theorem handle_closed {h : Host} {s : Session} (hs : s.phase = .serving) {l : String} {u : Location}
    (hread : Location.read l = .ok u) : s.handle h (.closed l) = closeDocument s u := by
  simp only [handle, hs, serve, hread]

/-! ### What is shown -/

/-- The publication in a notice, if it is one. -/
def Notice.publication? : Notice → Option Publication
  | .publish p => some p
  | .say _ => none

/-- The publications among notices for the location of a text, in order. -/
def publicationsFor (notices : List Notice) (url : String) : List Publication :=
  (notices.filterMap Notice.publication?).filter fun p => p.location.text = url

/-- **What the editor shows** for the location of a text behind some notices: what was last published
for it, and nothing before anything was. -/
def shown (notices : List Notice) (url : String) : List Diagnostic :=
  match (publicationsFor notices url).getLast? with
  | some p => p.diagnostics
  | none => []

theorem mem_publicationsFor_iff {notices : List Notice} {url : String} {p : Publication} :
    p ∈ publicationsFor notices url ↔ .publish p ∈ notices ∧ p.location.text = url := by
  unfold publicationsFor
  rw [List.mem_filter, List.mem_filterMap, decide_eq_true_iff]
  refine and_congr_left fun _ => ⟨?_, fun h => ⟨_, h, rfl⟩⟩
  rintro ⟨n, hn, hp⟩
  cases n with
  | publish q =>
    rw [← Option.some.inj hp]
    exact hn
  | say text => exact absurd hp (by simp [Notice.publication?])

theorem publish_mem_map_iff {ps : List Publication} {p : Publication} :
    Notice.publish p ∈ ps.map Notice.publish ↔ p ∈ ps := by
  simp

theorem publicationsFor_append (notices more : List Notice) (url : String) :
    publicationsFor (notices ++ more) url =
      publicationsFor notices url ++ publicationsFor more url := by
  unfold publicationsFor
  rw [List.filterMap_append, List.filter_append]

theorem publicationsFor_eq_nil {notices : List Notice} {url : String}
    (h : ∀ p, .publish p ∈ notices → p.location.text ≠ url) : publicationsFor notices url = [] := by
  rw [List.eq_nil_iff_forall_not_mem]
  intro p hp
  obtain ⟨hmem, hurl⟩ := mem_publicationsFor_iff.mp hp
  exact h p hmem hurl

/-- Where nothing is published, all stays as it is shown. -/
theorem shown_append_of_not {more : List Notice} {url : String}
    (h : ∀ p, .publish p ∈ more → p.location.text ≠ url) (notices : List Notice) :
    shown (notices ++ more) url = shown notices url := by
  unfold shown
  rw [publicationsFor_append, publicationsFor_eq_nil h, List.append_nil]

/-- Where something is published, and all that is published says the same, that is shown. -/
theorem shown_append_of_forall {more : List Notice} {url : String} {ds : List Diagnostic}
    (hex : ∃ p, .publish p ∈ more ∧ p.location.text = url)
    (h : ∀ p, .publish p ∈ more → p.location.text = url → p.diagnostics = ds)
    (notices : List Notice) : shown (notices ++ more) url = ds := by
  obtain ⟨p, hp⟩ := hex
  have hne : publicationsFor more url ≠ [] :=
    List.ne_nil_of_mem (mem_publicationsFor_iff.mpr hp)
  unfold shown
  rw [publicationsFor_append, List.getLast?_append_of_ne_nil _ hne, List.getLast?_eq_some_getLast hne]
  obtain ⟨hmem, hurl⟩ := mem_publicationsFor_iff.mp (List.getLast_mem hne)
  exact h _ hmem hurl

/-- Behind the blanking of a location, all other ones are shown as they were. -/
theorem shown_append_blank (notices : List Notice) (u : Location) (url : String) :
    shown (notices ++ [.publish ⟨u, [], none⟩]) url =
      if url = u.text then [] else shown notices url := by
  split
  · next heq =>
    rw [heq]
    exact shown_append_of_forall ⟨⟨u, [], none⟩, by simp, rfl⟩ (by simp) notices
  · next hne =>
    refine shown_append_of_not (fun p hp htext => ?_) notices
    obtain rfl : p = ⟨u, [], none⟩ := by simpa using hp
    exact hne htext.symm

/-! ### Exchanges -/

/-- What the editor says, and what the server finds around itself at that moment. -/
structure Turn where
  /-- The host. -/
  host : Host
  /-- The message. -/
  message : Message

/-- What an exchange has come to. -/
structure Exchange where
  /-- The session. -/
  session : Session := {}
  /-- All notices that were sent, in order. -/
  notices : List Notice := []

namespace Exchange

/-- The exchange behind one more turn. -/
def next (x : Exchange) (t : Turn) : Exchange where
  session := (x.session.handle t.host t.message).1
  notices := x.notices ++ (x.session.handle t.host t.message).2.notices

/-- The exchange of some turns. -/
def ofTurns (turns : List Turn) : Exchange := turns.foldl next {}

theorem ofTurns_append_singleton (turns : List Turn) (t : Turn) :
    ofTurns (turns ++ [t]) = (ofTurns turns).next t := by
  unfold ofTurns
  rw [List.foldl_append]
  rfl

end Exchange

end LintLedger.Session
