import LintLedger.Files.Path
import LintLedger.Location.Percent

/-!
# Locations

A location is a URL, taken apart. Documents of an editor are known by their locations, files by their
paths: `Location.ofPath?` writes the path of a file as a location, `Location.path?` reads it back. Only
a location without a host, or on this host, and with a path made of names is the place of a file; its
scheme does not matter.
-/

namespace LintLedger

namespace Location

/-- The path of a location. -/
inductive Path where
  /-- A path of names from the root on. -/
  | names (ns : List String)
  /-- Any other text. -/
  | plain (s : String)
deriving DecidableEq, Repr

/-- The path as it is written. -/
def Path.text : Path → String
  | .names ns => String.join (ns.map ("/" ++ ·))
  | .plain s => s

/-- Who is asked under a location. -/
structure Authority where
  /-- Who asks, with the sign behind it. -/
  user : String := ""
  /-- The host. -/
  host : String := ""
  /-- The port, if it is not the usual one. -/
  port : Option Nat := none
deriving DecidableEq, Repr

/-- The authority as it is written. -/
def Authority.text (a : Authority) : String :=
  a.user ++ a.host ++ (match a.port with | some p => s!":{p}" | none => "")

end Location

/-- A URL. -/
structure Location where
  /-- The scheme, in lower case. -/
  scheme : String
  /-- Who is asked, if anyone. -/
  authority : Option Location.Authority
  /-- The path. -/
  path : Location.Path
  /-- The query, if there is one. -/
  query : Option String := none
  /-- The fragment, if there is one. -/
  fragment : Option String := none
deriving DecidableEq, Repr

namespace Location

/-- The location as it is written. A path that starts with two slashes gets a dot in front where it
would be taken for an authority. -/
def text (l : Location) : String :=
  let authority := match l.authority with
    | some a => "//" ++ a.text
    | none =>
      match l.path with
      | .names ("" :: _ :: _) => "/."
      | _ => ""
  l.scheme ++ ":" ++ authority ++ l.path.text ++
    (match l.query with | some q => "?" ++ q | none => "") ++
    (match l.fragment with | some f => "#" ++ f | none => "")

/-- The host of a location, empty if there is none. -/
def host (l : Location) : String :=
  match l.authority with
  | some a => a.host
  | none => ""

/-- Does a path end in the letter and mark of a drive? -/
def endsInDrive (bytes : List UInt8) : Bool :=
  match bytes.reverse with
  | mark :: letter :: _ :: _ => (Char.ofNat letter.toNat).isAlpha && (mark = 58 || mark = 124)
  | _ => false

/-- The path of the file at a location, byte by byte, if it is the place of a file. Escapes can write
bytes that are no text. -/
def pathBytes? (l : Location) : Option (List UInt8) :=
  if l.host = "" ∨ l.host = "localhost" then
    match l.path with
    | .names (n :: ns) =>
      let bytes := (n :: ns).flatMap fun n => 47 :: unescape n.toList
      some (if endsInDrive bytes then bytes ++ [47] else bytes)
    | _ => none
  else none

/-- The path of the file at a location as it is shown. -/
def path? (l : Location) : Option String := l.pathBytes?.map Text.Utf8.decodeLossy

/-- The location of the file at an absolute path. Empty names and dots are left out. -/
def ofPath? (path : String) : Option Location :=
  if Path.isAbsolute path then
    let names := (Path.steps path).map fun n => String.ofList (escape .fileName n.toList)
    some {
      scheme := "file"
      authority := some {}
      path := .names (if names.isEmpty then [""] else names) }
  else none

end Location
end LintLedger
