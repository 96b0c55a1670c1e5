import LintLedger.Files
import LintLedger.Settings.Written

/-!
# Settings files

Settings are kept in a file of the folder they are for, under one of two names, of which the first that
names a file counts. Settings that come from a file know the folder of its path.
-/

namespace LintLedger.Settings

/-- The names of settings files, in the order in which they are looked for. -/
def fileNames : List String := [".lintbridge.jsonc", ".lintbridge.json"]

/-- The name under which a new settings file is written. -/
def newFileName : String := ".lintbridge.jsonc"

/-- A settings file to start with. Its settings are the default ones. -/
def template : String := "\x7b
  // External linter invoked as `<program> <args...> <file>`
  \"tool\": \x7b
    \"program\": \"verible-verilog-lint\",
    \"args\": []
  \x7d,
  // \"document\": attribute every line to the linted file
  // \"reported\": use the path printed at the start of each line
  \"pathSource\": \"document\",
  // \"retain\": keep old diagnostics when a run reports nothing
  // \"clear\": empty them instead
  \"stalePolicy\": \"retain\",
  \"severity\": \x7b
    \"keyword\": \"error\",
    \"rules\": []
  \x7d
\x7d
"

/-- Why no settings can be had from a file. -/
inductive LoadFault where
  /-- The file cannot be read. -/
  | unreadable (path : String) (fault : Files.Fault)
  /-- Its text holds no valid settings. -/
  | unusable (fault : Fault)
  /-- A pattern of its rules cannot be read. -/
  | badPattern (pattern : BadPattern)
deriving Repr

/-- The wording of a fault. -/
def LoadFault.message : LoadFault → String
  | .unreadable path fault => s!"Failed to read config {path}: {fault.message}"
  | .unusable fault => fault.message
  | .badPattern pattern => pattern.message

section Paths

variable {π : Type} [Path.Form π]

/-- The path of the settings file of a folder, if it has one. -/
def discover? (f : Files) (folder : π) : Option π :=
  (fileNames.map (Path.Form.join folder)).find? f.isFile

/-- The settings of a file. -/
def load (f : Files) (path : π) : Except LoadFault Settings :=
  match f.readText path with
  | .error fault => .error (.unreadable (Path.Form.shown path) fault)
  | .ok text =>
    match ofText text with
    | .error fault => .error (.unusable fault)
    | .ok s => .ok { s with folder := some (Path.folder (Path.Form.shown path)) }

end Paths

end LintLedger.Settings
