import LintLedger.Text.Place
import LintLedger.Text.Split

/-!
# Faults of patterns

Why a text is not a pattern. Most faults belong to a stretch of the text, and their wording shows the
text with carets under the stretch; a fault that repeats something marks both places. A pattern that is
sound but takes too much room has a fault of its own, without a place.
-/

namespace LintLedger.Pattern

/-- The deepest nesting that a pattern may have. -/
def nestingLimit : Nat := 250

/-- The room in bytes that a pattern may take. -/
def sizeLimit : Nat := 10 * 1024 * 1024

/-- What is wrong at a stretch of a pattern. -/
inductive Cause where
  /-- A group is never closed. -/
  | groupUnclosed
  /-- A `)` closes nothing. -/
  | groupUnopened
  /-- A group name has no characters. -/
  | nameEmpty
  /-- A character cannot stand in a group name. -/
  | nameCharacter
  /-- A group name has no end. -/
  | nameUnfinished
  /-- Two groups have one name. -/
  | nameTaken
  /-- A group looks ahead or behind, which patterns cannot do. -/
  | lookAround
  /-- A letter is no flag. -/
  | flagUnknown
  /-- A flag is set twice. -/
  | flagRepeated
  /-- Flags are turned off twice. -/
  | dashRepeated
  /-- No flag follows the dash that turns flags off. -/
  | dashDangling
  /-- The pattern ends among flags. -/
  | flagsUnfinished
  /-- A repetition has nothing to repeat. -/
  | nothingToRepeat
  /-- A repetition has no count. -/
  | countMissing
  /-- A count takes more than 32 bits. -/
  | countTooLarge
  /-- The braces of a repetition are not closed behind its counts. -/
  | countsUnclosed
  /-- The counts of a repetition descend. -/
  | countsDescend
  /-- A brace behind `\b` is all that follows. -/
  | wordEdgeOrCounts
  /-- The braces of a word edge hold something that is no name, or are not closed. -/
  | wordEdgeUnclosed
  /-- No word edge has this name. -/
  | wordEdgeUnknown
  /-- The pattern ends in an escape. -/
  | escapeUnfinished
  /-- A backslash stands before a character that is not escaped. -/
  | escapeUnknown
  /-- An escaped digit refers to a group. -/
  | backReference
  /-- The braces of an escaped code point are empty. -/
  | codePointEmpty
  /-- An escaped code point is no character. -/
  | codePointInvalid
  /-- A digit of an escaped code point is none. -/
  | codePointDigit
  /-- A bracketed class is never closed. -/
  | classUnclosed
  /-- The ends of a range descend. -/
  | rangeDescends
  /-- An end of a range is no character. -/
  | rangeEnd
  /-- A class holds an escape that stands for no characters. -/
  | classItem
  /-- A backslash stands where the name of a property should be. -/
  | propertyName
  /-- No set of characters has this property. -/
  | property
  /-- A set of characters beyond ASCII is asked for where only bytes may be matched. -/
  | beyondAscii
  /-- The pattern could match half a character. -/
  | halfCharacter
  /-- The pattern is nested too deeply. -/
  | nesting
deriving DecidableEq, Repr

/-- The wording of a cause. -/
def Cause.message : Cause → String
  | .groupUnclosed => "unclosed group"
  | .groupUnopened => "unopened group"
  | .nameEmpty => "empty capture group name"
  | .nameCharacter => "invalid capture group character"
  | .nameUnfinished => "unclosed capture group name"
  | .nameTaken => "duplicate capture group name"
  | .lookAround => "look-around, including look-ahead and look-behind, is not supported"
  | .flagUnknown => "unrecognized flag"
  | .flagRepeated => "duplicate flag"
  | .dashRepeated => "flag negation operator repeated"
  | .dashDangling => "dangling flag negation operator"
  | .flagsUnfinished => "expected flag but got end of regex"
  | .nothingToRepeat => "repetition operator missing expression"
  | .countMissing => "repetition quantifier expects a valid decimal"
  | .countTooLarge => "decimal literal invalid"
  | .countsUnclosed => "unclosed counted repetition"
  | .countsDescend => "invalid repetition count range, the start must be <= the end"
  | .wordEdgeOrCounts =>
    "found either the beginning of a special word boundary or a bounded repetition on a \\b " ++
      "with an opening brace, but no closing brace"
  | .wordEdgeUnclosed =>
    "special word boundary assertion is either unclosed or contains an invalid character"
  | .wordEdgeUnknown =>
    "unrecognized special word boundary assertion, valid choices are: start, end, start-half or end-half"
  | .escapeUnfinished => "incomplete escape sequence, reached end of pattern prematurely"
  | .escapeUnknown => "unrecognized escape sequence"
  | .backReference => "backreferences are not supported"
  | .codePointEmpty => "hexadecimal literal empty"
  | .codePointInvalid => "hexadecimal literal is not a Unicode scalar value"
  | .codePointDigit => "invalid hexadecimal digit"
  | .classUnclosed => "unclosed character class"
  | .rangeDescends => "invalid character class range, the start must be <= the end"
  | .rangeEnd => "invalid range boundary, must be a literal"
  | .classItem => "invalid escape sequence found in character class"
  | .propertyName => "invalid Unicode character class"
  | .property => "Unicode property not found"
  | .beyondAscii => "Unicode not allowed here"
  | .halfCharacter => "pattern can match invalid UTF-8"
  | .nesting => s!"exceed the maximum number of nested parentheses/brackets ({nestingLimit})"

/-- A stretch of a text, by the numbers of characters that are left of the text at its start and at its
end. A reader that keeps only the rest of the text has both at hand. -/
structure Stretch where
  /-- What is left at the start. -/
  fromStart : Nat
  /-- What is left at the end. -/
  fromStop : Nat
deriving DecidableEq, Repr

namespace Stretch

/-- The stretch between what is left of a text at two places. -/
def between (start stop : List Char) : Stretch := ⟨start.length, stop.length⟩

/-- The first character of what is left. -/
def first (rest : List Char) : Stretch := ⟨rest.length, rest.length - 1⟩

end Stretch

/-- A fault: a cause and the stretches to be marked, the one at fault first. -/
inductive Fault where
  /-- The text breaks a rule. -/
  | unreadable (cause : Cause) (marks : List Stretch)
  /-- The pattern takes too much room. -/
  | size
deriving DecidableEq, Repr

namespace Fault

/-- A stretch of a text with the lines and columns of its ends. -/
structure Mark where
  /-- The place before it. -/
  start : Text.Place
  /-- The place behind it. -/
  stop : Text.Place

/-- The mark of a stretch. -/
def Mark.ofStretch (pattern : List Char) (s : Stretch) : Mark :=
  ⟨.ofRemaining pattern s.fromStart, .ofRemaining pattern s.fromStop⟩

/-- Does the mark stay on one line? -/
def Mark.isOnOneLine (m : Mark) : Bool := m.start.line = m.stop.line

/-- The number of carets for a mark on one line: a place without characters has one too. -/
def Mark.carets (m : Mark) : Nat := max 1 (m.stop.column - m.start.column)

/-- The carets of the marks on one line, from the column behind those drawn so far. -/
def drawMarks (column : Nat) : List Mark → List Char
  | [] => []
  | m :: ms =>
    let blanks := m.start.column - column
    List.replicate blanks ' ' ++ List.replicate m.carets '^'
      ++ drawMarks (column + blanks + m.carets) ms

/-- The lines of a pattern; the end of a line is a line feed, alone or behind a carriage return. -/
def linesOf (pattern : List Char) : List (List Char) :=
  let pieces := Text.split '\n' pattern
  let ended := pieces.dropLast.map fun line =>
    if line.getLast? = some '\r' then line.dropLast else line
  ended ++ (pieces.getLast?.filter (!·.isEmpty)).toList

/-- A text at the right end of a field. -/
def alignRight (width : Nat) (text : String) : String :=
  String.ofList (List.replicate (width - text.length) ' ') ++ text

/-- The pattern with carets under the marks. Where it has several lines each has its number, set in
`width` columns. -/
def drawing (pattern : List Char) (width : Option Nat) (marks : List Mark) : String :=
  let indent := (width.map (· + 2)).getD 4
  let lead (number : Nat) : String := match width with
    | some w => alignRight w (toString number) ++ ": "
    | none => "    "
  let drawLine (line : List Char × Nat) : String :=
    let here := marks.filter fun m => m.isOnOneLine && m.start.line = line.2 + 1
    let notes := String.ofList (List.replicate indent ' ' ++ drawMarks 1 here)
    lead (line.2 + 1) ++ String.ofList line.1 ++ "\n" ++ (if here.isEmpty then "" else notes ++ "\n")
  String.join ((linesOf pattern).zipIdx.map drawLine)

/-- The wording of a mark that goes over several lines. -/
def Mark.described (m : Mark) : String :=
  s!"on line {m.start.line} (column {m.start.column}) through line {m.stop.line} " ++
    s!"(column {m.stop.column - 1})"

/-- The wording of a fault of the given pattern. -/
def message (pattern : List Char) : Fault → String
  | .size => s!"Compiled regex exceeds size limit of {sizeLimit} bytes."
  | .unreadable cause stretches =>
    let marks := (stretches.mergeSort fun s t => t.fromStart ≤ s.fromStart).map (.ofStretch pattern)
    let end_ := "error: " ++ cause.message
    if pattern.contains '\n' then
      let divider := String.ofList (List.replicate 79 '~') ++ "\n"
      let width := (toString (Text.split '\n' pattern).length).length
      let spread := marks.filter (!·.isOnOneLine)
      let notes := if spread.isEmpty then ""
        else "\n".intercalate (spread.map Mark.described) ++ "\n"
      "regex parse error:\n" ++ divider ++ drawing pattern (some width) marks ++ divider ++ notes ++ end_
    else "regex parse error:\n" ++ drawing pattern none marks ++ end_

end Fault
end LintLedger.Pattern
