import LintLedger.Files
import LintLedger.Text.Raw
import LintLedger.Tool

/-!
# What programs print

The programs of the toolbox work on raw texts (`LintLedger.Text.Raw`): they print bytes, on their output
and apart from it their complaints, in some order, and end in some way. The escapes that several of them
know for bytes are read here, and names are put into quotation marks for complaints.
-/

namespace LintLedger.Toolbox

/-- Where a program prints to. -/
inductive Stream where
  /-- The output. -/
  | output
  /-- The stream for complaints. -/
  | errors
deriving DecidableEq, Repr

/-- What a program printed, what it did to files, and how it ended. -/
structure Printed where
  /-- What it printed, in order. -/
  prints : List (Stream × List Char) := []
  /-- What it left of its input. -/
  input : List Char := []
  /-- The files behind it, if it changed any. -/
  files : Option Files := none
  /-- The signals that it sent to programs it was started by, each with the number of the program. -/
  sent : List (Nat × Nat) := []
  /-- How it ended. -/
  ending : Tool.Ending := .exited 0

namespace Printed

/-- A program that prints a text and ends well. -/
def ofText (s : String) : Printed := { prints := [(.output, s.toList)] }

/-- A program that complains and ends with a status. -/
def complaint (s : String) (status : Nat) : Printed :=
  { prints := [(.errors, s.toList)], ending := .exited status }

/-- The bytes that went to a stream. -/
def bytes (p : Printed) (stream : Stream) : List UInt8 :=
  Text.Raw.bytes ((p.prints.filter (·.1 = stream)).flatMap (·.2))

/-- What is known of a run from outside. -/
def outcome (p : Printed) : Tool.Outcome :=
  { ending := p.ending
    output := Text.Utf8.decodeLossy (p.bytes .output)
    errors := Text.Utf8.decodeLossy (p.bytes .errors) }

end Printed

/-! ### Escapes -/

/-- Which escapes are known. -/
structure Escapes where
  /-- Does an octal number start with a zero that does not count? -/
  octalMark : Bool := false
  /-- Are there hexadecimal numbers behind `x`? -/
  hexadecimal : Bool := false
  /-- Must a hexadecimal number have a digit? -/
  strict : Bool := false
  /-- Are there code points behind `u` and `U`? -/
  codePoints : Bool := false
  /-- Does `c` end all printing? -/
  stops : Bool := false
  /-- Does a quotation mark lose its backslash? -/
  quotationMark : Bool := false

/-- What an escape stands for. -/
inductive Escape where
  /-- Bytes. -/
  | raw (cs : List Char)
  /-- The end of all printing. -/
  | stop
  /-- Nothing: it cannot be read. -/
  | fault (reason : String)

/-- The byte behind a backslash and a letter, for the letters that stand for one. -/
def letterByte? : Char → Option Char
  | 'a' => some '\x07'
  | 'b' => some '\x08'
  | 'e' => some '\x1B'
  | 'f' => some '\x0C'
  | 'n' => some '\n'
  | 'r' => some '\r'
  | 't' => some '\t'
  | 'v' => some '\x0B'
  | '\\' => some '\\'
  | _ => none

/-- Is the character an octal digit? -/
def isOctal (c : Char) : Bool := '0' ≤ c && c ≤ '7'

/-- The number of digits in a base. -/
def digitsIn (base : Nat) (cs : List Char) : Nat :=
  cs.foldl (fun n c =>
    let d := if '0' ≤ c ∧ c ≤ '9' then c.toNat - 0x30 else (c.toNat ||| 0x20) - 0x57
    n * base + d) 0

/-- Is the character a hexadecimal digit? -/
def isHex (c : Char) : Bool :=
  ('0' ≤ c && c ≤ '9') || ('a' ≤ c && c ≤ 'f') || ('A' ≤ c && c ≤ 'F')

/-- The digits at the start of a text, at most so many, and the rest. -/
def takeDigits (isDigit : Char → Bool) (most : Nat) (cs : List Char) : List Char × List Char :=
  let digits := (cs.take most).takeWhile isDigit
  (digits, cs.drop digits.length)

/-- The byte of a number. -/
def byteOf (n : Nat) : Char := Char.ofNat (n % 256)

/-- Digits behind zeros, at least so many. -/
def padDigits (least base n : Nat) : List Char :=
  let cs := (Nat.toDigits base n).map Char.toUpper
  List.replicate (least - cs.length) '0' ++ cs

/-- What an escape for a code point with so many digits stands for; one beyond ASCII stays an escape. -/
def readCodePoint (mark : Char) (count : Nat) (cs : List Char) : Escape × List Char :=
  let (digits, rest) := takeDigits isHex count cs
  let n := digitsIn 16 digits
  if digits.length < count then (.fault "missing hexadecimal number in escape", rest)
  else if 0xD800 ≤ n ∧ n < 0xE000 then
    let shown := (padDigits count 16 n).map Char.toLower
    (.fault s!"invalid universal character name \\{mark}{String.ofList shown}", rest)
  else if n < 0x80 then (.raw [byteOf n], rest)
  else if n < 0x10000 then (.raw ('\\' :: 'u' :: padDigits 4 16 n), rest)
  else (.raw ('\\' :: 'U' :: padDigits 8 16 n), rest)

/-- What an escape stands for, from the text behind its backslash, and the rest. -/
def readEscape (e : Escapes) (cs : List Char) : Escape × List Char :=
  match cs with
  | [] => (.raw ['\\'], [])
  | c :: rest =>
    if c = 'c' ∧ e.stops then (.stop, rest)
    else if c = '"' ∧ e.quotationMark then (.raw ['"'], rest)
    else if c = 'x' ∧ e.hexadecimal then
      let (digits, rest') := takeDigits isHex 2 rest
      if !digits.isEmpty then (.raw [byteOf (digitsIn 16 digits)], rest')
      else if e.strict then (.fault "missing hexadecimal number in escape", rest)
      else (.raw ['\\', 'x'], rest)
    else if c = 'u' ∧ e.codePoints then readCodePoint 'u' 4 rest
    else if c = 'U' ∧ e.codePoints then readCodePoint 'U' 8 rest
    else if isOctal c then
      let cs := if e.octalMark && c = '0' then rest else c :: rest
      let (digits, rest) := takeDigits isOctal 3 cs
      (.raw [byteOf (digitsIn 8 digits)], rest)
    else match letterByte? c with
      | some b => (.raw [b], rest)
      | none => (.raw ['\\', c], rest)

/-- How the reading of a text with escapes ended. -/
inductive EscapesEnd where
  /-- At the end of the text. -/
  | finished
  /-- At an escape that ends all printing. -/
  | stopped
  /-- At an escape that cannot be read. -/
  | failed (reason : String)
deriving DecidableEq, Repr

/-- The bytes of a text with escapes, and how reading ended. -/
def escaped (e : Escapes) : Nat → List Char → List Char × EscapesEnd
  | 0, _ => ([], .finished)
  | _ + 1, [] => ([], .finished)
  | rounds + 1, '\\' :: cs =>
    match readEscape e cs with
    | (.stop, _) => ([], .stopped)
    | (.fault reason, _) => ([], .failed reason)
    | (.raw bytes, rest) =>
      let (more, ending) := escaped e rounds rest
      (bytes ++ more, ending)
  | rounds + 1, c :: cs =>
    let (more, ending) := escaped e rounds cs
    (c :: more, ending)

/-- The bytes of a text with escapes, and how reading ended. -/
def readEscapes (e : Escapes) (cs : List Char) : List Char × EscapesEnd := escaped e (cs.length + 1) cs

/-! ### Names in quotation marks -/

/-- Is the byte printable ASCII? -/
def isPrintable (c : Char) : Bool := 0x20 ≤ c.toNat && c.toNat < 0x7F

/-- A byte that is no printable ASCII character, as an escape. -/
def escapeByte (c : Char) : List Char :=
  let named := "abtnvfr".toList.find? fun l => letterByte? l = some c
  match named with
  | some l => ['\\', l]
  | none => '\\' :: padDigits 3 8 c.toNat

/-- The bytes of a name between single quotation marks, which are left for escapes and for a quotation
mark; `escaped` says that the last byte was an escape. -/
def quotedBytes (escaped : Bool) : List Char → List Char
  | [] => ['\'']
  | c :: cs =>
    if c = '\'' then "'\\''".toList ++ quotedBytes false cs
    else if isPrintable c then (if escaped then ['\'', '\''] else []) ++ c :: quotedBytes false cs
    else (if escaped then [] else "'$'".toList) ++ escapeByte c ++ quotedBytes true cs

/-- The characters that a shell takes for more than they are. -/
def shellSigns : List Char := "!\"$&'()*;<=>?[\\^`| ".toList

/-- A name as a shell would take it, in quotation marks where it would need them or where it holds one of
the characters `more`. -/
def quoteFor (more : List Char) (name : String) : String :=
  let cs := name.toList
  let special := (shellSigns ++ more).filter cs.contains
  let startsSpecial := cs.head?.any "#~".toList.contains
  let printable := cs.all isPrintable
  if printable && special.isEmpty && !startsSpecial && name ∉ ["", "\x7b", "\x7d"] then name
  else if printable && special.contains '\'' && !special.any "!\"$\\`".toList.contains then
    "\"" ++ name ++ "\""
  else String.ofList ('\'' :: quotedBytes false cs)

/-- The name of a file in a complaint, in quotation marks where a shell would need them. -/
def quoteName (name : String) : String := quoteFor [':'] name

/-- A text in a complaint, between quotation marks. -/
def quoteText (s : String) : String :=
  let cs := s.toList.flatMap fun c =>
    if c = '\'' || c = '\\' then ['\\', c] else if isPrintable c then [c] else escapeByte c
  String.ofList ('\'' :: cs ++ ['\''])

end LintLedger.Toolbox
