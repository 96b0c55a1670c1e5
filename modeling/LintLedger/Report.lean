import LintLedger.Finding
import LintLedger.Text.Blank
import LintLedger.Text.Digits
import LintLedger.Text.Split

/-!
# Reports

A report is what the tool prints: lines of the form `location:line:column:message`, with positions
counted from one. The message is all behind the third colon, further colons included. Each line that
is not empty becomes a candidate of its own (`Report.candidates`); what a line says does not depend on
the lines around it.

Which document a line is about is a matter of *attribution*: either the analysed one, whatever the
location says, or the one that the location names.
-/

namespace LintLedger

/-- Where the document of a report line comes from. -/
inductive Attribution where
  /-- Every line is about the analysed document. -/
  | document
  /-- A line is about the document that it names, if it names one. -/
  | reported
deriving DecidableEq, Repr

namespace Attribution

instance : Inhabited Attribution := ⟨.document⟩

/-- The name of an attribution in settings. -/
def name : Attribution → String
  | .document => "document"
  | .reported => "reported"

/-- All attributions, the default first. -/
def all : List Attribution := [.document, .reported]

/-- The document of a line, from its location and the analysed document. -/
def path (a : Attribution) (document : String) (location : List Char) : String :=
  match a with
  | .document => document
  | .reported =>
    match Text.trimChars location with
    | [] => document
    | named => String.ofList named

end Attribution

namespace Candidate

/-- The range of the numbers that a position field can hold. -/
def inFieldRange (n : Int) : Bool := -0x8000000000000000 ≤ n && n < 0x8000000000000000

/-- The position that a field gives, counted from zero; the field counts from one. Neither the number
nor the position may leave the range of 64 bits. -/
def ofField? (field : List Char) : Option Int :=
  match Text.integer? (Text.trimChars field) with
  | some n => if inFieldRange n && inFieldRange (n - 1) then some (n - 1) else none
  | none => none

/-- The candidate of the fields of a line. -/
def ofFields (a : Attribution) (document : String) : List (List Char) → Candidate
  | [] => ⟨a.path document [], none, none, default, ""⟩
  | [location] => ⟨a.path document location, none, none, default, ""⟩
  | [location, line] => ⟨a.path document location, ofField? line, none, default, ""⟩
  | location :: line :: column :: message =>
    ⟨a.path document location, ofField? line, ofField? column, default,
      String.ofList (Text.join ':' message)⟩

/-- What a line of a report says. -/
def ofLine (a : Attribution) (document : String) (line : List Char) : Candidate :=
  ofFields a document (Text.split ':' line)

end Candidate

/-- The text of a report. There is no report without text. -/
structure Report where
  /-- The text. -/
  text : List Char
  /-- A report says something. -/
  text_ne_nil : text ≠ []

/-- Why there is no report. -/
inductive Report.Fault where
  /-- The tool printed nothing. -/
  | noText
deriving DecidableEq, Repr

/-- The wording of a fault. -/
def Report.Fault.message : Report.Fault → String
  | .noText => "No tool output to parse"

namespace Report

/-- The report that the tool printed, if it printed anything. -/
def ofOutput (output : Option String) : Except Fault Report :=
  match output with
  | none => .error .noText
  | some s => if h : s.toList ≠ [] then .ok ⟨s.toList, h⟩ else .error .noText

/-- A line without the carriage return at its end. -/
def dropReturn (line : List Char) : List Char :=
  if line.getLast? = some '\r' then line.dropLast else line

/-- The lines of a text that are not empty. -/
def linesOf (text : List Char) : List (List Char) :=
  ((Text.split '\n' text).map dropReturn).filter fun line => !line.isEmpty

/-- What the lines of a report say, in order. -/
def candidates (r : Report) (a : Attribution) (document : String) : List Candidate :=
  (linesOf r.text).map (Candidate.ofLine a document)

end Report
end LintLedger
