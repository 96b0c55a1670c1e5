import LintLedger.Text.Raw
import LintLedger.Text.Split

/-!
# Paths

Paths as they are written. A path is cut at slashes into names; what the names lead to is a matter of
the file tree (`LintLedger.Files`). Joining and taking the folder of a path only look at the text: `..`
stays where it is, since what it means depends on links.

Paths that are typed are texts. Those that come out of locations are bytes, and need not be texts in UTF-8,
nor need their names. Both are paths to the file tree (`LintLedger.Path.Form`).
-/

namespace LintLedger.Path

/-- Is the path independent of the current folder? -/
def isAbsolute (path : String) : Bool := path.toList.head? = some '/'

/-- The names of a path, empty ones included. -/
def names (path : String) : List String := (Text.split '/' path.toList).map String.ofList

/-- Does the name lead nowhere else? -/
def isIdle (name : String) : Bool := name = "" || name = "."

/-- The names of a path that lead somewhere. -/
def steps (path : String) : List String := (names path).filter fun n => !isIdle n

/-- The path of a name in a folder. -/
def join (folder name : String) : String :=
  if isAbsolute name || folder.isEmpty then name
  else if folder.toList.getLast? = some '/' then folder ++ name
  else folder ++ "/" ++ name

/-! ### Paths byte by byte -/

/-- The name that some bytes write. If they are no text, it is their raw text behind a zero character,
which no name has. -/
def nameOfBytes (bs : List UInt8) : String :=
  (Text.Utf8.decode? bs).getD (String.ofList ('\x00' :: Text.Raw.ofBytes bs))

/-- The bytes of a name. -/
def nameBytes (name : String) : List UInt8 :=
  match name.toList with
  | '\x00' :: raw => Text.Raw.bytes raw
  | _ => Text.Utf8.encode name

/-- The names of a path that is given byte by byte. -/
def namesOfBytes (path : List UInt8) : List String := (Text.split 0x2F path).map nameOfBytes

/-- The path of a name in a folder that is given byte by byte. -/
def joinBytes (folder : List UInt8) (name : String) : List UInt8 :=
  if isAbsolute name || folder.isEmpty then Text.Utf8.encode name
  else if folder.getLast? = some 0x2F then folder ++ Text.Utf8.encode name
  else folder ++ 0x2F :: Text.Utf8.encode name

/-- What a path can be given as. -/
class Form (π : Type) where
  /-- The length of a path in bytes. -/
  size : π → Nat
  /-- Does a path hold a zero character? -/
  hasZero : π → Bool
  /-- Is a path independent of the current folder? -/
  isAbsolute : π → Bool
  /-- The names of a path, empty ones included. -/
  names : π → List String
  /-- The path of a name in a folder. -/
  join : π → String → π
  /-- What is shown of a path. -/
  shown : π → String

instance : Form String where
  size path := path.utf8ByteSize
  hasZero path := path.toList.contains '\x00'
  isAbsolute := isAbsolute
  names := names
  join := join
  shown path := path

section Text

variable (path : String)

@[simp] theorem Form.size_text : Form.size path = path.utf8ByteSize := rfl

@[simp] theorem Form.hasZero_text : Form.hasZero path = path.toList.contains '\x00' := rfl

@[simp] theorem Form.isAbsolute_text : Form.isAbsolute path = Path.isAbsolute path := rfl

@[simp] theorem Form.names_text : Form.names path = Path.names path := rfl

@[simp] theorem Form.join_text (name : String) : Form.join path name = Path.join path name := rfl

@[simp] theorem Form.shown_text : Form.shown path = path := rfl

end Text

instance : Form (List UInt8) where
  size path := path.length
  hasZero path := path.contains 0
  isAbsolute path := path.head? = some 0x2F
  names := namesOfBytes
  join := joinBytes
  shown := Text.Utf8.decodeLossy

/-! ### Folders -/

/-- A path cut behind the part that every folder of it keeps: the slash of an absolute path, or the dot
of a path that starts in the current folder by name. -/
def cutHead : List Char → List Char × List Char
  | '/' :: rest => (['/'], rest)
  | ['.'] => (['.'], [])
  | '.' :: '/' :: rest => (['.'], '/' :: rest)
  | cs => ([], cs)

/-- The names without the idle ones at the end. -/
def dropIdle (names : List (List Char)) : List (List Char) :=
  (names.reverse.dropWhile fun n => n = [] || n = ['.']).reverse

/-- The folder of a path that names a file: all before its last name, without the slashes and dots
between. -/
def folder (path : String) : String :=
  let (head, body) := cutHead path.toList
  let names := dropIdle (Text.split '/' body)
  String.ofList (head ++ Text.join '/' (dropIdle names.dropLast))

end LintLedger.Path
