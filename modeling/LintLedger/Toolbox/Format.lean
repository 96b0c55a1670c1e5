import LintLedger.Decimal.Layout
import LintLedger.Toolbox.Number

/-!
# Printing by a format

Printing arguments by a format, as a program does it and as a shell does it itself (`Printer`). The format
is used again and again until no argument is left, or once if it uses none; an argument that is missing
counts as an empty text or as zero. Complaints come before all that is printed.
-/

namespace LintLedger.Toolbox

/-- Who prints. -/
inductive Printer where
  /-- A program of its own. -/
  | program
  /-- A shell. -/
  | shell
deriving DecidableEq, Repr

namespace Printer

/-- The escapes in a format. -/
def formatEscapes : Printer → Escapes
  | .program => { hexadecimal := true, strict := true, codePoints := true, stops := true,
                  quotationMark := true }
  | .shell => {}

/-- The escapes in an argument that may have some. -/
def argEscapes : Printer → Escapes
  | .program => { octalMark := true, hexadecimal := true, strict := true, codePoints := true,
                  stops := true, quotationMark := true }
  | .shell => { octalMark := true, stops := true }

/-- What is kept of numbers that are not whole. -/
def precision : Printer → Decimal.Precision
  | .program => .extended
  | .shell => .double

/-- The flags of a directive. -/
def flags : Printer → List Char
  | .program => "-+ 0#'I".toList
  | .shell => "-+ 0#".toList

/-- The letters before the last one of a directive, which say how long a number is; they change
nothing. -/
def sizes : Printer → List Char
  | .program => "hlLjtz".toList
  | .shell => []

end Printer

/-- What is wrong with a format or an argument. -/
inductive FormatFault where
  /-- An argument is no number. -/
  | notNumeric (arg : String)
  /-- Something stands behind the number of an argument. -/
  | trailing (arg : String)
  /-- The number of an argument does not fit. -/
  | outOfRange (arg : String)
  /-- Something stands behind the character of an argument. -/
  | behindCharacter (rest : String)
  /-- A directive is none. -/
  | badDirective (written : List Char)
  /-- The format ends within a directive. -/
  | noDirective
  /-- An escape cannot be read. -/
  | badEscape (reason : String)
  /-- The width that an argument gives is too great. -/
  | badWidth (arg : String)
deriving DecidableEq, Repr

namespace FormatFault

/-- The wording of the program. -/
def programMessage : FormatFault → String
  | .notNumeric arg => s!"{quoteText arg}: expected a numeric value"
  | .trailing arg => s!"{quoteText arg}: value not completely converted"
  | .outOfRange arg => s!"{quoteText arg}: Numerical result out of range"
  | .behindCharacter rest =>
    s!"warning: {rest}: character(s) following character constant have been ignored"
  | .badDirective cs => s!"%{String.ofList cs}: invalid conversion specification"
  | .noDirective => "%: invalid conversion specification"
  | .badEscape reason => reason
  | .badWidth arg => s!"invalid field width: {quoteText arg}"

/-- The wording of the shell. -/
def shellMessage : FormatFault → String
  | .notNumeric arg => s!"{arg}: expected numeric value"
  | .trailing arg => s!"{arg}: not completely converted"
  | .outOfRange arg => s!"{arg}: Numerical result out of range"
  | .behindCharacter _ => ""
  | .badDirective cs => s!"%{String.ofList cs}: invalid directive"
  | .noDirective => "missing format character"
  | .badEscape reason => reason
  | .badWidth arg => s!"{arg}: Numerical result out of range"

/-- Is it more than a warning? -/
def isGrave : FormatFault → Bool
  | .behindCharacter _ => false
  | _ => true

end FormatFault

/-! ### Directives -/

/-- A directive of a format. -/
structure Directive where
  /-- Pad on the right. -/
  left : Bool := false
  /-- Pad with zeros. -/
  zero : Bool := false
  /-- A plus before a number that has no minus. -/
  plus : Bool := false
  /-- A blank before a number that has no sign. -/
  space : Bool := false
  /-- Print the mark of the base, or the point. -/
  alternate : Bool := false
  /-- Group the digits. -/
  grouped : Bool := false
  /-- The least width. -/
  width : Nat := 0
  /-- The most characters of a text, or the least digits of a number. -/
  precision : Option Nat := none
deriving Repr

namespace Directive

/-- The directive with a flag. -/
def withFlag (d : Directive) : Char → Directive
  | '-' => { d with left := true }
  | '0' => { d with zero := true }
  | '+' => { d with plus := true }
  | ' ' => { d with space := true }
  | '#' => { d with alternate := true }
  | _ => { d with grouped := true }

/-- Does the program know a directive with these flags and this letter? -/
def isKnown (d : Directive) (pointed : Bool) (letter : Char) : Bool :=
  let letters := "aAcdeEfFgGiosuxX".toList
  letters.contains letter &&
    !(d.grouped && "aAceEosxX".toList.contains letter) &&
    !(d.alternate && "cdisu".toList.contains letter) &&
    !(d.zero && "cs".toList.contains letter) &&
    !(pointed && letter = 'c')

/-- Bytes padded to the width. -/
def pad (d : Directive) (cs : List Char) : List Char :=
  let missing := List.replicate (d.width - cs.length) ' '
  if d.left then cs ++ missing else missing ++ cs

/-- The sign before a number. -/
def sign (d : Directive) (negative : Bool) : List Char :=
  if negative then ['-'] else if d.plus then ['+'] else if d.space then [' '] else []

/-- Digits with what stands before them, padded to the width; zeros come between. -/
def padNumber (d : Directive) (before digits : List Char) (zeros : Bool) : List Char :=
  let missing := if zeros && d.zero && !d.left then d.width - before.length - digits.length else 0
  d.pad (before ++ List.replicate missing '0' ++ digits)

/-- A whole number in a base. -/
def whole (d : Directive) (before : List Char) (base n : Nat) (capital : Bool) : List Char :=
  let least := d.precision.getD 1
  let digits := if n = 0 then [] else Nat.toDigits base n
  let digits := if capital then digits.map Char.toUpper else digits
  let digits := List.replicate (least - digits.length) '0' ++ digits
  let digits :=
    if d.alternate && base = 8 && digits.head? ≠ some '0' then '0' :: digits else digits
  let mark := if d.alternate && base = 16 && n ≠ 0 then ['0', if capital then 'X' else 'x'] else []
  d.padNumber (before ++ mark) digits d.precision.isNone

/-- The hexadecimal digits of a value with a given number of bits, whole digits behind the point, and its
power of two. What the precision leaves off is rounded, a tie to the even digit. -/
def hexadecimal (d : Directive) (bits significand : Nat) (exponent : Int) (capital : Bool) : List Char :=
  let places := (bits - 1) / 4
  let wanted := d.precision.getD places
  let shown := min wanted places
  let n := Decimal.roundHalfEven significand (Nat.pow 16 (places - shown))
  let e : Int := if significand = 0 then 0 else exponent + 4 * places
  let behind := (if shown = 0 then [] else padDigits shown 16 (n % Nat.pow 16 shown)) ++
    List.replicate (wanted - shown) '0'
  let behind := if d.precision.isNone then (behind.reverse.dropWhile (· = '0')).reverse else behind
  let point := if behind.isEmpty && !d.alternate then [] else ['.']
  let power := 'P' :: (if e < 0 then '-' else '+') :: Nat.toDigits 10 e.natAbs
  let cs := padDigits 1 16 (n / Nat.pow 16 shown) ++ point ++ behind ++ power
  if capital then cs else cs.map Char.toLower

/-- A number that is not whole, under a letter. -/
def real (d : Directive) (p : Decimal.Precision) (letter : Char) (x : Real) : List Char :=
  let capital := letter.isUpper
  let word (negative : Bool) (s : String) : List Char :=
    d.padNumber (d.sign negative) ((if capital then s.map Char.toUpper else s).toList) false
  match x with
  | .infinite negative => word negative "inf"
  | .nan negative => word negative "nan"
  | .finite negative n e =>
    let (num, den) := (n * (Decimal.twoPow e).1, (Decimal.twoPow e).2)
    let l : Decimal.Layout := { whole := d.alternate, capital := capital }
    let digits := match letter.toLower with
      | 'f' => l.fixed num den (d.precision.getD 6)
      | 'e' => l.scientific num den (d.precision.getD 6)
      | 'g' => l.general num den (d.precision.getD 6)
      | _ => d.hexadecimal p.bits n e capital
    let mark := if letter.toLower = 'a' then ['0', if capital then 'X' else 'x'] else []
    d.padNumber (d.sign negative ++ mark) digits true

end Directive

/-! ### Arguments -/

/-- What is wrong with a number of an argument, from what stands behind it. -/
def faultsBehind (arg : String) (rest : List Char) (outOfRange : Bool) : List FormatFault :=
  if !rest.isEmpty then [if rest = arg.toList then .notNumeric arg else .trailing arg]
  else if outOfRange then [.outOfRange arg]
  else []

/-- As `faultsBehind` for the program, where a number out of range counts more than what stands behind. -/
def programFaults (arg : String) (rest : List Char) (outOfRange : Bool) : List FormatFault :=
  if outOfRange then [.outOfRange arg] else faultsBehind arg rest false

/-- The character that an argument with a quotation mark in front gives, and what is wrong with it. -/
def character? (p : Printer) (arg : String) : Option (Nat × List FormatFault) :=
  match p, arg.toList with
  | .program, q :: c :: rest =>
    if q = '"' ∨ q = '\'' then
      some (c.toNat, if rest.isEmpty then [] else [.behindCharacter (String.ofList rest)])
    else none
  | .shell, q :: rest =>
    if q = '"' ∨ q = '\'' then some ((rest.headD '\x00').toNat, []) else none
  | _, _ => none

/-- One more than the greatest word without a sign. -/
def wordEnd : Nat := 0x10000000000000000

/-- One more than the greatest word with a sign. -/
def signedEnd : Nat := 0x8000000000000000

/-- The faults of the number of an argument. -/
def numberFaults (p : Printer) (arg : String) (rest : List Char) (outOfRange : Bool) :
    List FormatFault :=
  match p with
  | .program => programFaults arg rest outOfRange
  | .shell => faultsBehind arg rest outOfRange

/-- The number with a sign that an argument gives. -/
def signedOf (p : Printer) (arg : String) : Int × List FormatFault :=
  match character? p arg with
  | some (n, faults) => (n, faults)
  | none =>
    match readWhole? arg.toList with
    | none => (0, numberFaults p arg arg.toList false)
    | some (negative, n, rest) =>
      let most := if negative then signedEnd else signedEnd - 1
      let m : Int := min n most
      (if negative then -m else m, numberFaults p arg rest (most < n))

/-- The word without a sign that an argument gives; a negative number counts from the end of words. -/
def unsignedOf (p : Printer) (arg : String) : Nat × List FormatFault :=
  match character? p arg with
  | some (n, faults) => (n, faults)
  | none =>
    match readWhole? arg.toList with
    | none => (0, numberFaults p arg arg.toList false)
    | some (negative, n, rest) =>
      let m := if wordEnd ≤ n then wordEnd - 1
        else if negative && n ≠ 0 then wordEnd - n else n
      (m, numberFaults p arg rest (wordEnd ≤ n))

/-- The number, perhaps not whole, that an argument gives. -/
def realOf (p : Printer) (arg : String) : Real × List FormatFault :=
  match character? p arg with
  | some (n, faults) => (.finite false n 0, faults)
  | none =>
    match readReal? p.precision arg.toList with
    | none => (.finite false 0 0, numberFaults p arg arg.toList false)
    | some r => (r.value, numberFaults p arg r.rest r.outOfRange)

/-! ### Printing -/

/-- A printing in progress. -/
structure Printing where
  /-- Who prints. -/
  printer : Printer
  /-- The bytes so far. -/
  output : List Char := []
  /-- What was wrong so far. -/
  faults : List FormatFault := []
  /-- The arguments not yet used. -/
  args : List String
  /-- Has an argument been used? -/
  used : Bool := false
  /-- Has printing ended early? -/
  stopped : Bool := false
  /-- Has printing failed? -/
  failed : Bool := false

namespace Printing

/-- The next argument, if there is one. -/
def next (p : Printing) : Option String × Printing :=
  match p.args with
  | [] => (none, p)
  | a :: rest => (some a, { p with args := rest, used := true })

/-- Adds bytes. -/
def print (p : Printing) (cs : List Char) : Printing := { p with output := p.output ++ cs }

/-- Adds faults. -/
def blame (p : Printing) (faults : List FormatFault) : Printing :=
  { p with faults := p.faults ++ faults }

/-- Ends printing at a fault. -/
def fail (p : Printing) (fault : FormatFault) : Printing :=
  { p.blame [fault] with stopped := true, failed := true }

/-- Prints a text with escapes, padded by the directive. -/
def printEscaped (p : Printing) (d : Directive) : Printing :=
  let (arg, p) := p.next
  let (cs, ending) := readEscapes p.printer.argEscapes (arg.getD "").toList
  let cs := match d.precision with
    | some n => cs.take n
    | none => cs
  let p := p.print (d.pad cs)
  match ending with
  | .finished => p
  | .stopped => { p with stopped := true }
  | .failed reason => p.fail (.badEscape reason)

/-- Follows a directive with a letter. -/
def follow (p : Printing) (d : Directive) (letter : Char) : Printing :=
  let (arg, p) := p.next
  let text := arg.getD ""
  let unsigned (base : Nat) (capital : Bool) : Printing :=
    let (n, faults) := unsignedOf p.printer text
    (p.blame faults).print (d.whole [] base n capital)
  match letter with
  | 's' => p.print (d.pad (match d.precision with | some n => text.toList.take n | none => text.toList))
  | 'c' => p.print (d.pad [text.toList.headD '\x00'])
  | 'd' | 'i' =>
    let (n, faults) := signedOf p.printer text
    (p.blame faults).print (d.whole (d.sign (n < 0)) 10 n.natAbs false)
  | 'u' => unsigned 10 false
  | 'o' => unsigned 8 false
  | 'x' => unsigned 16 false
  | 'X' => unsigned 16 true
  | _ =>
    let (x, faults) := realOf p.printer text
    (p.blame faults).print (d.real p.printer.precision letter x)

/-- Reads a width or a precision: digits, or a star for the next argument. -/
def readCount (p : Printing) (cs : List Char) : Option Int × Printing × List Char :=
  match cs with
  | '*' :: cs =>
    let (arg, p) := p.next
    match arg with
    | none => (some 0, p, cs)
    | some arg =>
      let (n, faults) := signedOf p.printer arg
      (some n, p.blame faults, cs)
  | cs =>
    let digits := cs.takeWhile Text.isDigit
    (if digits.isEmpty then none else some (Text.digitsValue digits), p, cs.dropWhile Text.isDigit)

/-- Reads and follows the directive behind a percent sign. -/
def direct (p : Printing) (cs : List Char) : Printing × List Char :=
  let flags := cs.takeWhile p.printer.flags.contains
  let d := flags.foldl Directive.withFlag {}
  let (width, p, rest) := p.readCount (cs.dropWhile p.printer.flags.contains)
  let width := width.getD 0
  let d := { d with width := width.natAbs, left := d.left || width < 0 }
  let (d, pointed, p, rest) := match rest with
    | '.' :: rest =>
      let (precision, p, rest) := p.readCount rest
      let precision := precision.getD 0
      ({ d with precision := if precision < 0 then none else some precision.toNat }, true, p, rest)
    | rest => (d, false, p, rest)
  let rest := rest.dropWhile p.printer.sizes.contains
  let plain := flags.isEmpty && !pointed && rest = cs
  match p.printer, rest with
  | .shell, [] => (p.fail .noDirective, [])
  | .program, [] => (p.fail (.badDirective cs), [])
  | printer, letter :: after =>
    let written := cs.take (cs.length - after.length)
    if letter = 'b' && (printer = .shell || plain) then (p.printEscaped d, after)
    else if letter = 'q' && printer = .program && plain then
      let (arg, p) := p.next
      (match arg with
        | some arg => p.print (quoteFor [] arg).toList
        | none => p, after)
    else
      let known := match printer with
        | .program => d.isKnown pointed letter
        | .shell => "diouxXcsaAeEfFgG".toList.contains letter
      if known then (p.follow d letter, after) else (p.fail (.badDirective written), after)

/-- Goes through a format once. -/
def once : Nat → List Char → Printing → Printing
  | 0, _, p => p
  | _ + 1, [], p => p
  | rounds + 1, '%' :: '%' :: cs, p => once rounds cs (p.print ['%'])
  | rounds + 1, '%' :: cs, p =>
    let (p, rest) := p.direct cs
    if p.stopped then p else once rounds rest p
  | rounds + 1, '\\' :: cs, p =>
    match readEscape p.printer.formatEscapes cs with
    | (.stop, _) => { p with stopped := true }
    | (.fault reason, _) => p.fail (.badEscape reason)
    | (.raw bytes, rest) => once rounds rest (p.print bytes)
  | rounds + 1, c :: cs, p => once rounds cs (p.print [c])

/-- Goes through a format until no argument is left. -/
def again (format : List Char) : Nat → Printing → Printing
  | 0, p => p
  | rounds + 1, p =>
    let before := p.args.length
    let p := once (format.length + 1) format p
    if p.stopped || p.args.isEmpty || p.args.length = before then p else again format rounds p

/-- Prints arguments by a format. -/
def run (printer : Printer) (format : String) (args : List String) : Printing :=
  again format.toList (args.length + 1) { printer := printer, args := args }

end Printing

/-- Prints arguments by a format, under the name of a program. -/
def printf (name : String) (args : List String) : Printed :=
  let args := match args with
    | "--" :: rest => rest
    | args => args
  match args with
  | [] => .complaint s!"{name}: missing operand\nTry '{name} --help' for more information.\n" 1
  | format :: args =>
    let p := Printing.run .program format args
    let complaints := p.faults.map fun f => s!"{name}: {f.programMessage}\n"
    let warning := match p.args with
      | a :: _ =>
        if p.stopped then ""
        else s!"{name}: warning: ignoring excess arguments, starting with {quoteText a}\n"
      | [] => ""
    { prints := [(.errors, (String.join complaints ++ warning).toList), (.output, p.output)]
      ending := .exited (if p.faults.any FormatFault.isGrave then 1 else 0) }

end LintLedger.Toolbox
