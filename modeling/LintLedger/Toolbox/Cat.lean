import LintLedger.Toolbox.Printed

/-!
# Printing files

The program that prints the files that its arguments name, one behind the other, as they are or with their
lines numbered and their blank lines, line ends and unprintable bytes shown in some way. What is behind one
file goes on where it ended: a line number counts through all of them.
-/

namespace LintLedger.Toolbox
namespace Cat

/-! ### Options -/

/-- How files are printed. -/
structure Style where
  /-- Number the lines? -/
  number : Bool := false
  /-- Number only lines that are not blank? -/
  numberFilled : Bool := false
  /-- Leave out blank lines behind a blank line? -/
  squeeze : Bool := false
  /-- Show where lines end? -/
  ends : Bool := false
  /-- Show tabs? -/
  tabs : Bool := false
  /-- Show the other unprintable bytes? -/
  unprintable : Bool := false
deriving DecidableEq, Repr

/-- The style with an option, if there is such an option. -/
def Style.withOption? (s : Style) : Char → Option Style
  | 'n' => some { s with number := true }
  | 'b' => some { s with number := true, numberFilled := true }
  | 's' => some { s with squeeze := true }
  | 'E' => some { s with ends := true }
  | 'T' => some { s with tabs := true }
  | 'v' => some { s with unprintable := true }
  | 'e' => some { s with ends := true, unprintable := true }
  | 't' => some { s with tabs := true, unprintable := true }
  | 'A' => some { s with ends := true, tabs := true, unprintable := true }
  | 'u' => some s
  | _ => none

/-- The long names of options, each with its letter. -/
def longNames : List (String × Char) :=
  [("number-nonblank", 'b'), ("number", 'n'), ("squeeze-blank", 's'), ("show-nonprinting", 'v'),
    ("show-ends", 'E'), ("show-tabs", 'T'), ("show-all", 'A'), ("help", 'h'), ("version", 'V')]

/-- The letter of a long name, which may be cut short where no other starts so. -/
def longLetter? (written : String) : Except String Char :=
  let name := String.ofList (written.toList.takeWhile (· ≠ '='))
  let valued := written.toList.contains '='
  let chosen : Except String (String × Char) :=
    match longNames.filter fun o => o.1 = name with
    | o :: _ => pure o
    | [] =>
      match longNames.filter fun o => name.toList.isPrefixOf o.1.toList with
      | [o] => pure o
      | [] => throw s!"unrecognized option '--{written}'"
      | os =>
        let possible := String.join (os.map fun o => s!" '--{o.1}'")
        throw s!"option '--{written}' is ambiguous; possibilities:{possible}"
  match chosen with
  | .error reason => throw reason
  | .ok (name, letter) =>
    if valued then throw s!"option '--{name}' doesn't allow an argument" else pure letter

/-- Sorts arguments into a style and names, or tells what is wrong with an option. -/
def readArguments (s : Style) : List String → Except String (Style × List String)
  | [] => pure (s, [])
  | "--" :: rest => pure (s, rest)
  | a :: rest => do
    match a.toList with
    | '-' :: '-' :: long =>
      match ← (s.withOption? ·) <$> longLetter? (String.ofList long) with
      | some s => readArguments s rest
      | none => throw s!"unrecognized option '{a}'"
    | '-' :: c :: cs =>
      let s ← (c :: cs).foldlM (fun (s : Style) c =>
        match s.withOption? c with
        | some s => pure s
        | none => throw s!"invalid option -- '{c}'") s
      readArguments s rest
    | _ =>
      let (s, names) ← readArguments s rest
      pure (s, a :: names)

/-! ### Printing -/

/-- What is known between two bytes. -/
structure Place where
  /-- How many line ends stand before this place, less one if a line had something in it; below zero
  within a line. -/
  lineEnds : Int := 0
  /-- The number of the line before. -/
  count : Nat := 0
  /-- Is a carriage return held back, which may belong to a line end? -/
  held : Bool := false

/-- A line number. -/
def numbered (n : Nat) : List Char :=
  let cs := Nat.toDigits 10 n
  List.replicate (6 - cs.length) ' ' ++ cs ++ ['\t']

/-- A byte as it is shown. -/
def shown (s : Style) (c : Char) : List Char :=
  let n := c.toNat
  let low (n : Nat) : List Char :=
    if n < 32 then ['^', Char.ofNat (n + 64)] else if n = 127 then ['^', '?'] else [Char.ofNat n]
  if c = '\t' then if s.tabs then ['^', 'I'] else [c]
  else if !s.unprintable then [c]
  else if 128 ≤ n then 'M' :: '-' :: low (n - 128)
  else low n

/-- Prints a byte. -/
def printByte (s : Style) (p : Place) (c : Char) : Place × List Char :=
  if c = '\n' then
    let lineEnds := min (p.lineEnds + 1) 2
    if s.squeeze && lineEnds = 2 then ({ p with lineEnds := lineEnds }, [])
    else
      let numbering := 0 < lineEnds && s.number && !s.numberFilled
      let count := if numbering then p.count + 1 else p.count
      ({ lineEnds := lineEnds, count := count },
        (if numbering then numbered count else []) ++ (if p.held then ['^', 'M'] else []) ++
          (if s.ends then ['$'] else []) ++ [c])
  else
    let numbering := 0 ≤ p.lineEnds && s.number
    let count := if numbering then p.count + 1 else p.count
    let before := (if p.held then ['\r'] else []) ++ (if numbering then numbered count else [])
    if c = '\r' && s.ends && !s.unprintable then
      ({ lineEnds := -1, count := count, held := true }, before)
    else ({ lineEnds := -1, count := count }, before ++ shown s c)

/-- Prints bytes. -/
def printBytes (s : Style) (p : Place) (cs : List Char) : Place × List Char :=
  let (p, pieces) := cs.foldl (fun (p, pieces) c =>
    let (p, piece) := printByte s p c
    (p, piece :: pieces)) (p, [])
  (p, pieces.reverse.flatten)

/-- A run of the program. -/
structure Run where
  /-- The place behind what was printed. -/
  place : Place := {}
  /-- What was printed, latest first. -/
  prints : List (Stream × List Char) := []
  /-- What is left of the input. -/
  input : Option (List Char)
  /-- Could a file not be read? -/
  failed : Bool := false

/-- Prints a file. -/
def Run.file (program : String) (s : Style) (files : Files) (r : Run) (name : String) : Run :=
  let print (cs : List Char) (r : Run) : Run :=
    let (place, cs) := printBytes s r.place cs
    { r with place := place, prints := (.output, cs) :: r.prints }
  if name = "-" || name = "/dev/stdin" then
    match r.input with
    | some cs => { print cs r with input := some [] }
    | none => complain .isAFolder
  else if name = "/dev/null" then r
  else
    match files.read (Text.Raw.bytesOf name) with
    | .ok bytes => print (Text.Raw.ofBytes bytes) r
    | .error fault => complain fault
where
  /-- Complains about a file. -/
  complain (fault : Files.Fault) : Run :=
    let reason := (fault.message.splitOn " (os error").headD ""
    let line := s!"{program}: {quoteName name}: {reason}\n"
    { r with prints := (.errors, line.toList) :: r.prints, failed := true }

end Cat

/-- Prints the files that the arguments name, under the name of a program. There is no input where it is a
folder. -/
def cat (program : String) (files : Files) (args : List String) (input : Option (List Char)) : Printed :=
  match Cat.readArguments {} args with
  | .error reason =>
    { Printed.complaint s!"{program}: {reason}\nTry '{program} --help' for more information.\n" 1 with
      input := input.getD [] }
  | .ok (style, names) =>
    let r := (if names.isEmpty then ["-"] else names).foldl (Cat.Run.file program style files)
      { input := input }
    let last := if r.place.held then [(Stream.output, ['\r'])] else []
    { prints := r.prints.reverse ++ last
      input := r.input.getD []
      ending := .exited (if r.failed then 1 else 0) }

end LintLedger.Toolbox
