import LintLedger.Location.Reader
import LintLedger.Session.Analysis
import LintLedger.Settings.File
import LintLedger.Text.Quoted

/-!
# Sessions

A session is what the server knows about one editor. It is moved on by the messages of the editor, each
handled to its end before the next (`Session.handle`): documents are analysed when they are opened and
saved and forgotten when they are closed, and the settings of the workspace are read when the session
begins and when a settings file changes. Before a session begins and after it has ended nothing is
handled, and a message that makes no sense is left out.

Settings that cannot be used change nothing: the analyser is replaced as a whole or not at all
(`Session.reload`).
-/

namespace LintLedger

namespace Session

/-- How far a session has come. -/
inductive Phase where
  /-- It has not begun. -/
  | fresh
  /-- Messages are handled. -/
  | serving
  /-- It has ended. -/
  | stopped
deriving DecidableEq, Repr

/-- A message of the editor. Locations are as the editor writes them. -/
inductive Message where
  /-- The session is to begin, in the folder at a location. -/
  | begin (root : Option String)
  /-- The editor is ready. -/
  | initialized
  /-- The session is to end. -/
  | shutdown
  /-- A document was opened; the version is missing if it is no whole number. -/
  | opened (location : String) (version : Option Int)
  /-- A document was saved. -/
  | saved (location : String)
  /-- A document was closed. -/
  | closed (location : String)
  /-- Files were changed by others. -/
  | changed (locations : List String)
deriving DecidableEq, Repr

/-- The answer to a request. -/
inductive Response where
  /-- The session has begun. -/
  | begun
  /-- The session has ended. -/
  | ended
  /-- The request is refused. -/
  | refused (code : Int) (reason : String)
deriving DecidableEq, Repr

/-- What the server tells the editor unasked. -/
inductive Notice where
  /-- What is shown for a document. -/
  | publish (p : Publication)
  /-- A message for the log of the editor. -/
  | say (text : String)
deriving DecidableEq, Repr

/-- All that comes of a message. -/
structure Reply where
  /-- The answer, if the message asks for one. -/
  response : Option Response := none
  /-- What is sent besides, in order. -/
  notices : List Notice := []
  /-- What happened. -/
  log : List Event := []

end Session

/-- What the server knows about one editor. -/
structure Session where
  /-- How far the session has come. -/
  phase : Session.Phase := .fresh
  /-- The path of the folder of the workspace, if there is one, byte by byte. -/
  root : Option (List UInt8) := none
  /-- How documents are analysed. -/
  analyser : Analyser := {}
  /-- The versions of the open documents, by their locations. -/
  versions : Keyed Int := .empty
  /-- What is known about documents. -/
  ledger : Ledger := .empty

/-- The analyser that the settings of a file ask for. -/
def Analyser.load {π : Type} [Path.Form π] (f : Files) (path : π) :
    Except Settings.LoadFault Analyser :=
  match Settings.load f path with
  | .error fault => .error fault
  | .ok s =>
    match s.intake with
    | .error pattern => .error (.badPattern pattern)
    | .ok intake => .ok { tool := s.tool, intake := intake }

namespace Session

/-- Reads the settings of the workspace. -/
def reload (h : Host) (s : Session) : Session × List Event :=
  match s.root with
  | none => (s, [])
  | some root =>
    match Settings.discover? h.files root with
    | none => (s, [])
    | some path =>
      let found := Event.settingsFound (Path.Form.shown path)
      match Analyser.load h.files path with
      | .error fault => (s, [found, .settingsFailed fault.message])
      | .ok analyser => ({ s with analyser := analyser }, [found, .settingsApplied])

/-- Begins the session. Every location with a path can be its root, be the path a text or not. -/
def begin (h : Host) (s : Session) (root : Option Location) : Session × Reply :=
  let (s, log) := match root.bind Location.pathBytes? with
    | some path => reload h { s with root := some path }
    | none => (s, [])
  ({ s with phase := .serving }, { response := some .begun, log := .serverInitializing :: log })

/-- Analyses a document and shows the editor what came of it. -/
def validate (h : Host) (s : Session) (location : Location) (version : Option Int) :
    Session × Reply :=
  let a := Analysis.run s.analyser h s.ledger location version
  ({ s with ledger := a.ledger },
    { notices := a.publications.map .publish, log := .validating location.text :: a.log })

/-- Handles the opening of a document. -/
def openDocument (h : Host) (s : Session) (location : Location) (version : Int) : Session × Reply :=
  let s := { s with versions := s.versions.insert location.text version }
  let (s, reply) := validate h s location (some version)
  (s, { reply with log := .opened location.text :: reply.log })

/-- Handles the saving of a document. -/
def saveDocument (h : Host) (s : Session) (location : Location) : Session × Reply :=
  let (s, reply) := validate h s location (s.versions.get? location.text)
  (s, { reply with log := .saved location.text :: reply.log })

/-- Handles the closing of a document: it is forgotten, and nothing is shown for it any more. -/
def closeDocument (s : Session) (location : Location) : Session × Reply :=
  let ledger := match location.path? with
    | some path => s.ledger.remove path
    | none => s.ledger
  ({ s with versions := s.versions.erase location.text, ledger := ledger },
    { notices := [.publish ⟨location, [], none⟩], log := [.closed location.text] })

/-- Does the location end in the name of a settings file? -/
def isSettingsFile (location : Location) : Bool :=
  Settings.fileNames.any fun name => name.toList.isSuffixOf location.path.text.toList

/-- Handles the change of files. -/
def changeFiles (h : Host) (s : Session) (locations : List Location) : Session × Reply :=
  if locations.any isSettingsFile then
    let (s, log) := reload h s
    (s, { log := .settingsChanged :: log })
  else (s, {})

/-- Can the number be the version of a document? -/
def isVersion (n : Int) : Bool := -0x80000000 ≤ n && n < 0x80000000

/-- The code of a request that cannot be handled now. -/
def invalidRequest : Response := .refused (-32600) "Invalid request"

/-- Handles a message of a session that has begun. -/
def serve (h : Host) (s : Session) (m : Message) : Session × Reply :=
  match m with
  | .begin _ => (s, { response := some invalidRequest })
  | .initialized => (s, { notices := [.say "LintBridge LSP server initialized!"] })
  | .shutdown => ({ s with phase := .stopped }, { response := some .ended, log := [.serverStopping] })
  | .opened location version =>
    match Location.read location, version.filter isVersion with
    | .ok location, some version => openDocument h s location version
    | _, _ => (s, {})
  | .saved location =>
    match Location.read location with
    | .ok location => saveDocument h s location
    | .error _ => (s, {})
  | .closed location =>
    match Location.read location with
    | .ok location => closeDocument s location
    | .error _ => (s, {})
  | .changed locations =>
    match locations.mapM Location.read with
    | .ok locations => changeFiles h s locations
    | .error _ => (s, {})

/-- Handles a message of a session that has not begun: only a request to begin is. -/
def await (h : Host) (s : Session) (m : Message) : Session × Reply :=
  match m with
  | .begin none => begin h s none
  | .begin (some root) =>
    match Location.read root with
    | .ok location => begin h s (some location)
    | .error fault =>
      (s, { response := some (.refused (-32602) (fault.message ++ ": " ++ Text.quoted root)) })
  | .shutdown => (s, { response := some (.refused (-32002) "Server not initialized") })
  | _ => (s, {})

/-- Refuses a message of a session that has ended. -/
def refuse (m : Message) : Reply :=
  match m with
  | .begin _ | .shutdown => { response := some invalidRequest }
  | _ => {}

/-- Handles a message. -/
def handle (h : Host) (s : Session) (m : Message) : Session × Reply :=
  match s.phase with
  | .fresh => await h s m
  | .serving => serve h s m
  | .stopped => (s, refuse m)

end Session
end LintLedger
