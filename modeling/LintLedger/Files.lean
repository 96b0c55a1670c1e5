import LintLedger.Files.Path
import LintLedger.Text.Utf8

/-!
# Files

A file tree as a value: what is found under each name, from the root on, and the current folder. Names
are followed one by one, through links, as often as links may follow each other (`Files.follow`);
reading a file then is a lookup. A file can be there and not be readable (`Files.faults`).
-/

namespace LintLedger

/-- What a name of a file tree stands for. -/
inductive Entry where
  /-- A file with its bytes. -/
  | file (content : List UInt8)
  /-- A folder. -/
  | folder
  /-- A link to another path. -/
  | link (target : String)
deriving DecidableEq, Repr

/-- Why something cannot be done with a file. -/
inductive Files.Fault where
  /-- A name stands for nothing. -/
  | notFound
  /-- A name that should be a folder is none. -/
  | notAFolder
  /-- A path that should be a file is a folder. -/
  | isAFolder
  /-- Too many links follow each other. -/
  | linkLoop
  /-- A name or a path is too long. -/
  | nameTooLong
  /-- A path holds a zero character. -/
  | zeroCharacter
  /-- A file may not be read. -/
  | notPermitted
  /-- The medium of a file fails. -/
  | mediumFails
  /-- A file that should be text is none. -/
  | notText
deriving DecidableEq, Repr

/-- A file tree with a current folder. -/
structure Files where
  /-- What there is, each with its names from the root on. -/
  entries : List (List String × Entry) := []
  /-- The names of the current folder. -/
  here : List String := []
  /-- The files that cannot be read, each with what goes wrong. -/
  faults : List (List String × Files.Fault) := []
deriving DecidableEq, Repr

namespace Files

/-- The wording of a fault. -/
def Fault.message : Fault → String
  | .notFound => "No such file or directory (os error 2)"
  | .notAFolder => "Not a directory (os error 20)"
  | .isAFolder => "Is a directory (os error 21)"
  | .linkLoop => "Too many levels of symbolic links (os error 40)"
  | .nameTooLong => "File name too long (os error 36)"
  | .zeroCharacter => "file name contained an unexpected NUL byte"
  | .notPermitted => "Permission denied (os error 13)"
  | .mediumFails => "Input/output error (os error 5)"
  | .notText => "stream did not contain valid UTF-8"

/-- What the names from the root on stand for. -/
def entry? (f : Files) (names : List String) : Option Entry :=
  if names = [] then some .folder else (f.entries.find? fun e => e.1 = names).map (·.2)

/-- What goes wrong when the file under the names is read, if anything does. -/
def fault? (f : Files) (names : List String) : Option Fault :=
  (f.faults.find? fun e => e.1 = names).map (·.2)

/-- Writes an entry in place of the old one. It can be read. -/
def put (f : Files) (names : List String) (e : Entry) : Files :=
  { f with
    entries := f.entries.filter (fun old => old.1 ≠ names) ++ [(names, e)]
    faults := f.faults.filter fun old => old.1 ≠ names }

/-- Writes an entry, and the folders it lies in if they are not there. -/
def add (f : Files) (names : List String) (e : Entry) : Files :=
  let parents := ((List.range names.length).drop 1).map fun n => names.take n
  let f := parents.foldl (fun f p => if (f.entry? p).isSome then f else f.put p .folder) f
  f.put names e

/-- Removes an entry and all that lies in it. -/
def remove (f : Files) (names : List String) : Files :=
  { f with
    entries := f.entries.filter fun old => !names.isPrefixOf old.1
    faults := f.faults.filter fun old => !names.isPrefixOf old.1 }

/-- Removes the file or the link that stands under the names, itself and not what it leads to. A folder is
not removed. -/
def unlink (f : Files) (names : List String) : Except Fault Files :=
  match f.entry? names with
  | none => .error .notFound
  | some .folder => .error .isAFolder
  | some _ => .ok { f with
      entries := f.entries.filter fun old => old.1 ≠ names
      faults := f.faults.filter fun old => old.1 ≠ names }

/-- Writes a new file under names that stand for nothing. A link stands for something wherever it leads, be
it to nothing. -/
def create? (f : Files) (names : List String) (content : List UInt8) : Option Files :=
  match f.entry? names with
  | none => some (f.put names (.file content))
  | some _ => none

/-- The entries of the current folder, without the names of the folder itself. -/
def listing (f : Files) : List (List String × Entry) :=
  f.entries.filterMap fun (names, e) =>
    if f.here.isPrefixOf names && names ≠ f.here then some (names.drop f.here.length, e) else none

/-- The longest name, in bytes. -/
def longestName : Nat := 255

/-- The number of links that may follow each other on the way to a file. -/
def linkLimit : Nat := 40

/-- Follows names from a place, with so many links still allowed, to the place of a file or folder. -/
def follow (f : Files) (links : Nat) (place : List String) :
    List String → Except Fault (List String × Entry)
  | [] =>
    match f.entry? place with
    | some e => .ok (place, e)
    | none => .error .notFound
  | name :: names =>
    if f.entry? place ≠ some .folder then .error .notAFolder
    else if Path.isIdle name then follow f links place names
    else if name = ".." then follow f links place.dropLast names
    else if longestName < (Path.nameBytes name).length then .error .nameTooLong
    else match f.entry? (place ++ [name]) with
      | none => .error .notFound
      | some (.link target) =>
        match links with
        | 0 => .error .linkLoop
        | links + 1 =>
          follow f links (if Path.isAbsolute target then [] else place) (Path.names target ++ names)
      | some _ => follow f links (place ++ [name]) names
termination_by names => (links, names.length)

/-- The longest path, in bytes. -/
def longestPath : Nat := 4095

section Paths

variable {π : Type} [Path.Form π]

open LintLedger.Path (Form)

/-- What a path leads to. -/
def resolve (f : Files) (path : π) : Except Fault (List String × Entry) :=
  if Form.hasZero path then .error .zeroCharacter
  else if Form.size path = 0 then .error .notFound
  else if longestPath < Form.size path then .error .nameTooLong
  else f.follow linkLimit (if Form.isAbsolute path then [] else f.here) (Form.names path)

/-- Does the path lead to a file? -/
def isFile (f : Files) (path : π) : Bool :=
  match f.resolve path with
  | .ok (_, .file _) => true
  | _ => false

/-- The bytes of a file. -/
def read (f : Files) (path : π) : Except Fault (List UInt8) :=
  match f.resolve path with
  | .ok (names, .file content) =>
    match f.fault? names with
    | some fault => .error fault
    | none => .ok content
  | .ok _ => .error .isAFolder
  | .error fault => .error fault

/-- The text of a file. -/
def readText (f : Files) (path : π) : Except Fault String :=
  match f.read path with
  | .error fault => .error fault
  | .ok content =>
    match Text.Utf8.decode? content with
    | some s => .ok s
    | none => .error .notText

end Paths

end Files
end LintLedger
