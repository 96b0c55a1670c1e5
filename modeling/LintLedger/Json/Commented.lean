import LintLedger.Json.Commented.Token
import LintLedger.Text.Place

/-!
# JSON with comments

The grammar over the tokens of `LintLedger.Json.Commented.Token`. It is JSON's with some freedom: the
name of a member may be a bare word or a number as it is written, commas between neighbours may be
left out, and one may follow the last of them. A text without any token has no value.
-/

namespace LintLedger.Json.Commented

/-- A fault with its place in the text, lines and columns counted from one. -/
structure Fault where
  /-- What is wrong. -/
  cause : Cause
  /-- The line. -/
  line : Nat
  /-- The column, in characters. -/
  column : Nat
deriving DecidableEq, Repr

/-- The wording of a fault. -/
def Fault.message (f : Fault) : String :=
  s!"{f.cause.message} on line {f.line} column {f.column}"

/-- The fault at a place of a text. -/
def Fault.locate (text : List Char) (found : Found) : Fault :=
  let place := Text.Place.ofRemaining text found.2
  ⟨found.1, place.line, place.column⟩

/-- The name that a token gives to a member, if it can stand before a colon. -/
def Token.name? : Token → Option String
  | .text s => some s
  | .word w => some w
  | .number written _ => some written
  | _ => none

/-- What follows behind a comma, if one comes next. -/
def Stream.dropComma : Stream → Stream
  | .next .comma _ rest => rest
  | s => s

mutual

/-- Reads the value that starts with a token. -/
def readValue : Nat → Token → Nat → Stream → Except Found (Json × Stream)
  | 0, _, left, _ => throw (.unexpectedToken, left)
  | depth + 1, token, left, rest =>
    match token with
    | .openBrace => readMembers depth left [] rest
    | .openBracket => readItems depth left [] rest
    | .text s => pure (.text s, rest)
    | .number _ value => pure (value, rest)
    | .constant value => pure (value, rest)
    | .closeBracket => throw (.closeBracket, left)
    | .closeBrace => throw (.closeBrace, left)
    | .comma => throw (.comma, left)
    | .colon => throw (.colon, left)
    | .word _ => throw (.word, left)

/-- Reads the members of an object up to its closing brace. `opened` is the place of the opening
brace, `found` are the members before, last one first. -/
def readMembers : Nat → Nat → List (String × Json) → Stream → Except Found (Json × Stream)
  | 0, opened, _, _ => throw (.unterminatedObject, opened)
  | depth + 1, opened, found, s =>
    match s with
    | .stop => throw (.unterminatedObject, opened)
    | .broken fault => throw fault
    | .next .closeBrace _ rest => pure (ofMembers found.reverse, rest)
    | .next token left rest =>
      match token.name? with
      | none => throw (.unexpectedInObject, left)
      | some name =>
        match rest with
        | .next .colon _ (.next token left rest) => do
          let (value, rest) ← readValue depth token left rest
          readMembers depth opened ((name, value) :: found) rest.dropComma
        | .next .colon _ .stop => throw (.valueMissing, 0)
        | .next .colon _ (.broken fault) => throw fault
        | .next _ left _ => throw (.colonMissing, left)
        | .stop => throw (.colonMissing, 0)
        | .broken fault => throw fault

/-- Reads the items of an array up to its closing bracket, in the same way. -/
def readItems : Nat → Nat → List Json → Stream → Except Found (Json × Stream)
  | 0, opened, _, _ => throw (.unterminatedArray, opened)
  | depth + 1, opened, found, s =>
    match s with
    | .stop => throw (.unterminatedArray, opened)
    | .broken fault => throw fault
    | .next .closeBracket _ rest => pure (.array found.reverse, rest)
    | .next token left rest => do
      let (value, rest) ← readValue depth token left rest
      readItems depth opened (value :: found) rest.dropComma

end

/-- Reads a text that holds at most one value. -/
def readChars (text : List Char) : Except Found (Option Json) :=
  match Stream.ofText text with
  | .stop => pure none
  | .broken fault => throw fault
  | .next token left rest => do
    let (value, rest) ← readValue (2 * text.length + 2) token left rest
    match rest with
    | .stop => pure (some value)
    | .broken fault => throw fault
    | .next _ left _ => throw (.trailingToken, left)

/-- The value that a text is the commented JSON of, if it has one. -/
def read (text : String) : Except Fault (Option Json) :=
  match readChars text.toList with
  | .ok value => .ok value
  | .error found => .error (Fault.locate text.toList found)

end LintLedger.Json.Commented
