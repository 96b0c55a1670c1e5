/-!
# Events

What the program tells about its work, as data: an event has a level and a wording, and a log is the
list of events in the order in which they happened. Who prints a log decides which levels to show.
-/

namespace LintLedger

/-- How important an event is. -/
inductive Level where
  /-- Every step. -/
  | trace
  /-- What helps to find a mistake. -/
  | debug
  /-- What a user may want to know. -/
  | info
  /-- What a user should know. -/
  | warn
  /-- What went wrong. -/
  | error
deriving DecidableEq, Repr

/-- The name of a level in a log. -/
def Level.name : Level → String
  | .trace => "TRACE"
  | .debug => "DEBUG"
  | .info => "INFO"
  | .warn => "WARN"
  | .error => "ERROR"

/-- Something that happened. -/
inductive Event where
  /-- The first finding of a run for a document replaces its old ones. -/
  | replacing (document : String)
  /-- A run found nothing for its target, whose old findings go. -/
  | clearing (document : String)
  /-- A line of the report makes no sense. -/
  | malformedLine (path : String)
  /-- There is no document to analyse. -/
  | noDocument (path : String)
  /-- The tool printed nothing. -/
  | noReport (document : String)
  /-- A report has been taken in. -/
  | reportTaken (path : String) (committed dropped : Nat)
  /-- The tool is started. -/
  | toolStarted (program path : String)
  /-- The tool did not end well. -/
  | toolFailed (status : String)
  /-- A document was opened. -/
  | opened (location : String)
  /-- A document was saved. -/
  | saved (location : String)
  /-- A document was closed. -/
  | closed (location : String)
  /-- A document is to be analysed. -/
  | validating (location : String)
  /-- A document is no file. -/
  | notAFile (location : String)
  /-- The tool could not be started on a document. -/
  | analysisFailed (location reason : String)
  /-- The tool printed nothing, and the old findings of the document go. -/
  | clearingSilent (location : String)
  /-- The server starts. -/
  | serverStarting
  /-- A client initializes the server. -/
  | serverInitializing
  /-- A client shuts the server down. -/
  | serverStopping
  /-- A settings file was written, removed or renamed. -/
  | settingsChanged
  /-- There is a settings file. -/
  | settingsFound (path : String)
  /-- The settings file is of no use. -/
  | settingsFailed (reason : String)
  /-- The analyser follows new settings. -/
  | settingsApplied
  /-- A command follows a settings file. -/
  | settingsUsed (path : String)
  /-- A command follows the default settings. -/
  | settingsDefault
  /-- An argument names no file. -/
  | skipping (path : String)
  /-- A file goes, to be written anew. -/
  | fileReplaced (path : String)
  /-- A file has been written. -/
  | fileCreated (path : String)
  /-- A command failed. -/
  | commandFailed (reason : String)
deriving DecidableEq, Repr

namespace Event

/-- The level of an event. -/
def level : Event → Level
  | .replacing _ | .clearing _ | .malformedLine _ => .trace
  | .noDocument _ | .noReport _ | .reportTaken .. | .toolStarted .. | .toolFailed _ | .opened _
  | .saved _ | .closed _ | .validating _ | .notAFile _ | .clearingSilent _ | .settingsDefault => .debug
  | .serverStarting | .serverInitializing | .serverStopping | .settingsChanged | .settingsFound _
  | .settingsApplied | .settingsUsed _ | .fileReplaced _ | .fileCreated _ => .info
  | .skipping _ => .warn
  | .analysisFailed .. | .settingsFailed _ | .commandFailed _ => .error

/-- The wording of an event. -/
def message : Event → String
  | .replacing document => s!"Replacing diagnostics for {document}"
  | .clearing document => s!"Clearing stale diagnostics for {document}"
  | .malformedLine path => s!"Dropping malformed report line in {path}"
  | .noDocument path => s!"No document for {path}, skipping"
  | .noReport document => s!"No output for {document}, nothing to parse"
  | .reportTaken path committed dropped =>
    s!"Parsed {committed} diagnostics for {path} ({dropped} lines dropped)"
  | .toolStarted program path => s!"Running {program} on {path}"
  | .toolFailed status => status
  | .opened location => s!"Document opened: {location}"
  | .saved location => s!"Document saved: {location}"
  | .closed location => s!"Document closed: {location}"
  | .validating location => s!"Validating document: {location}"
  | .notAFile location => s!"Skipping analysis for non-file URI: {location}"
  | .analysisFailed location reason => s!"Analysis failed for {location}: {reason}"
  | .clearingSilent location => s!"No output for {location}, clearing stale diagnostics"
  | .serverStarting => "LintBridge LSP server starting..."
  | .serverInitializing => "LintBridge LSP server initializing..."
  | .serverStopping => "LintBridge LSP server shutting down..."
  | .settingsChanged => "Configuration file changed, reloading..."
  | .settingsFound path => s!"Found config file: {path}"
  | .settingsFailed reason => s!"Failed to load config: {reason}"
  | .settingsApplied => "Analyzer re-initialized with new config"
  | .settingsUsed path => s!"Using config {path}"
  | .settingsDefault => "No config file found, using defaults"
  | .skipping path => s!"Skipping {path}: not a file"
  | .fileReplaced path => s!"Replacing {path}"
  | .fileCreated path => s!"Created {path}"
  | .commandFailed reason => reason

/-- An event as a line of a log. -/
def line (e : Event) : String := s!"{e.level.name} {e.message}"

end Event
end LintLedger
