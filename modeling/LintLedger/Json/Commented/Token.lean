import LintLedger.Json.Value
import LintLedger.Text.Blank
import LintLedger.Unicode.Alphanumeric

/-!
# The tokens of JSON with comments

JSON as people write it by hand: with comments, with single quotation marks, with bare words as names,
with a sign before a number and with hexadecimal numbers. Cutting a text into tokens does not depend on
the grammar, so it is done first (`Stream.ofText`); where a text cannot be cut further the stream of
its tokens is broken off, and whoever reads the stream meets the fault when it gets there.

A place in the text is given by what is *left* of it, so that no position has to be counted along the
way; `Fault.locate` turns it into a line and a column.
-/

namespace LintLedger.Json.Commented

open LintLedger.Text (isBlank isDigit)
open LintLedger.Unicode (isLetterOrNumber)

/-- What can be wrong with a text. -/
inductive Cause where
  /-- A character starts no token. -/
  | unexpectedToken
  /-- A block comment has no end. -/
  | unterminatedComment
  /-- A text has no closing quotation mark. -/
  | unterminatedText
  /-- A backslash stands before a character that is not escaped. -/
  | invalidEscape
  /-- A single quotation mark is escaped between double ones. -/
  | singleQuoteEscape
  /-- A double quotation mark is escaped between single ones. -/
  | doubleQuoteEscape
  /-- Fewer than four hexadecimal digits follow `\u`. -/
  | hexDigitsMissing
  /-- The unit is the first of a pair, and no other follows. -/
  | unpairedHigh (digits : String)
  /-- The unit is the second of a pair, without a first. -/
  | unpairedLow (digits : String)
  /-- The unit is the first of a pair, and what follows is not a second. -/
  | mismatchedHigh (digits : String)
  /-- A number has no first digit. -/
  | noDigits
  /-- A number lacks a digit. -/
  | digitMissing
  /-- An exponent lacks its sign or digit. -/
  | exponentMissing
  /-- A closing bracket where a value should be. -/
  | closeBracket
  /-- A closing brace where a value should be. -/
  | closeBrace
  /-- A comma where a value should be. -/
  | comma
  /-- A colon where a value should be. -/
  | colon
  /-- A word where a value should be. -/
  | word
  /-- Something else where the name of a member should be. -/
  | unexpectedInObject
  /-- Something else where the colon behind a name should be. -/
  | colonMissing
  /-- The text ends where the value of a member should be. -/
  | valueMissing
  /-- The text ends inside an object. -/
  | unterminatedObject
  /-- The text ends inside an array. -/
  | unterminatedArray
  /-- More follows behind the value. -/
  | trailingToken
deriving DecidableEq, Repr

/-- The wording of a cause. -/
def Cause.message : Cause → String
  | .unexpectedToken => "Unexpected token"
  | .unterminatedComment => "Unterminated comment block"
  | .unterminatedText => "Unterminated string literal"
  | .invalidEscape => "Invalid escape"
  | .singleQuoteEscape => "Invalid escape in double quote string"
  | .doubleQuoteEscape => "Invalid escape in single quote string"
  | .hexDigitsMissing => "Expected four hex digits"
  | .unpairedHigh digits => notACharacter (digits ++ " (unpaired high surrogate)")
  | .unpairedLow digits => notACharacter (digits ++ " (unpaired low surrogate)")
  | .mismatchedHigh digits =>
    notACharacter (digits ++ " (high surrogate not followed by low surrogate)")
  | .noDigits => "Expected digit following negative sign"
  | .digitMissing => "Expected digit"
  | .exponentMissing => "Expected plus, minus, or digit in number literal"
  | .closeBracket => "Unexpected close bracket"
  | .closeBrace => "Unexpected close brace"
  | .comma => "Unexpected comma"
  | .colon => "Unexpected colon"
  | .word => "Unexpected word"
  | .unexpectedInObject => "Unexpected token in object"
  | .colonMissing => "Expected colon after the string or word in object property"
  | .valueMissing => "Expected value after colon in object property"
  | .unterminatedObject => "Unterminated object"
  | .unterminatedArray => "Unterminated array"
  | .trailingToken => "Text cannot contain more than one JSON value"
where
  /-- The wording for an escape that stands for no character. -/
  notACharacter (what : String) : String :=
    "Invalid unicode escape sequence. '" ++ what ++ "' is not a valid UTF8 character"

/-- A cause with the number of characters left from the place of the fault on. -/
abbrev Found := Cause × Nat

/-- A token. -/
inductive Token where
  /-- An opening brace. -/
  | openBrace
  /-- A closing brace. -/
  | closeBrace
  /-- An opening bracket. -/
  | openBracket
  /-- A closing bracket. -/
  | closeBracket
  /-- A comma. -/
  | comma
  /-- A colon. -/
  | colon
  /-- A text in quotation marks. -/
  | text (s : String)
  /-- A number: how it is written, and the value it stands for. -/
  | number (written : String) (value : Json)
  /-- `true`, `false` or `null`. -/
  | constant (value : Json)
  /-- A bare word. -/
  | word (w : String)
deriving Repr

/-! ### Comments -/

/-- The text behind a line comment: from its line end on, which is a line feed with or without a
carriage return. -/
def dropLineComment : List Char → List Char
  | [] => []
  | '\n' :: cs => '\n' :: cs
  | '\r' :: '\n' :: cs => '\r' :: '\n' :: cs
  | _ :: cs => dropLineComment cs

/-- The text behind a block comment, after its opening. -/
def dropBlockComment? : List Char → Option (List Char)
  | [] => none
  | '*' :: '/' :: cs => some cs
  | _ :: cs => dropBlockComment? cs

/-! ### Texts -/

/-- The inside of a text up to its closing quotation mark, which is `quote`. `start` is the number of
characters left from the opening quotation mark on. -/
def scanText (quote : Char) (start : Nat) : List Char → Except Found (List Char × List Char)
  | [] => throw (.unterminatedText, start)
  | ['\\'] => throw (.unterminatedText, start)
  | '\\' :: 'u' :: a :: b :: c :: d :: rest =>
    let here := rest.length + 6
    match fourHexDigits? a b c d with
    | none => throw (.hexDigitsMissing, here)
    | some unit =>
      let digits := String.ofList [a, b, c, d]
      if isLowUnit unit then throw (.unpairedLow digits, here)
      else if isHighUnit unit then
        match rest with
        | '\\' :: 'u' :: e :: f :: g :: h :: rest =>
          match fourHexDigits? e f g h with
          | none => throw (.hexDigitsMissing, here)
          | some low =>
            if isLowUnit low then do
              let (cs, rest) ← scanText quote start rest
              pure (pairChar unit low :: cs, rest)
            else throw (.mismatchedHigh digits, here)
        | '\\' :: 'u' :: _ => throw (.hexDigitsMissing, here)
        | _ => throw (.unpairedHigh digits, here)
      else do
        let (cs, rest) ← scanText quote start rest
        pure (Char.ofNat unit :: cs, rest)
  | '\\' :: l :: rest =>
    let here := rest.length + 2
    if l = '"' ∨ l = '\'' then
      if l = quote then do
        let (cs, rest) ← scanText quote start rest
        pure (l :: cs, rest)
      else throw (if l = '"' then .doubleQuoteEscape else .singleQuoteEscape, here)
    else if l = 'u' then throw (.hexDigitsMissing, here)
    else match shortEscape? l with
      | some c => do
        let (cs, rest) ← scanText quote start rest
        pure (c :: cs, rest)
      | none => throw (.invalidEscape, here)
  | c :: rest =>
    if c = quote then pure ([], rest)
    else do
      let (cs, rest) ← scanText quote start rest
      pure (c :: cs, rest)

/-! ### Numbers and words -/

/-- The value of hexadecimal digits behind `0x`; a number that does not fit 64 bits with a sign stands
for the text it is written as. -/
def hexValue (written : String) (negative : Bool) (digits : List Char) : Json :=
  match Unicode.hexNumber? digits with
  | some n =>
    if n < 0x8000000000000000 then .number (.integer (if negative then -(n : Int) else n)) else .text written
  | none => .text written

/-- The value of a decimal number; one that is too great stands for the text it is written as. -/
def decimalValue (written : String) (n : Numeral) : Json :=
  match n.value? with
  | some v => .number v
  | none => .text written

/-- The characters of a text that are no longer part of its rest. -/
def writtenBefore (cs rest : List Char) : String := String.ofList (cs.take (cs.length - rest.length))

/-- The number at the start of a text. -/
def scanNumber (cs : List Char) : Except Found (Token × List Char) :=
  let (negative, unsigned) := match cs with
    | '-' :: cs => (true, cs)
    | '+' :: cs => (false, cs)
    | cs => (false, cs)
  let hexadecimal (digits : List Char) : Except Found (Token × List Char) :=
    let isHex (c : Char) : Bool := (Unicode.hexDigit? c).isSome
    let rest := digits.dropWhile isHex
    let digits' := digits.takeWhile isHex
    if digits'.isEmpty then throw (.digitMissing, digits.length)
    else
      let written := writtenBefore cs rest
      pure (.number written (hexValue written negative digits'), rest)
  match unsigned with
  | '0' :: 'x' :: digits => hexadecimal digits
  | '0' :: 'X' :: digits => hexadecimal digits
  | unsigned =>
    match scanNumeral negative unsigned with
    | .ok (n, rest) =>
      let written := writtenBefore cs rest
      pure (.number written (decimalValue written n), rest)
    | .error (.noDigits, rest) => throw (.noDigits, rest.length)
    | .error (.digitMissing, rest) => throw (.digitMissing, rest.length)
    | .error (.exponentMissing, rest) => throw (.exponentMissing, rest.length)

/-- May the character stand in a bare word? -/
def isWordChar (c : Char) : Bool := isLetterOrNumber c || c = '-' || c = '_'

/-- The bare word at the start of a text: everything up to a blank or a colon, all of which must be
word characters. -/
def scanWord (cs : List Char) : Except Found (Token × List Char) :=
  let ends (c : Char) : Bool := isBlank c || c = ':'
  let word := cs.takeWhile fun c => !ends c
  if word.all isWordChar && !word.isEmpty then
    pure (.word (String.ofList word), cs.dropWhile fun c => !ends c)
  else throw (.unexpectedToken, cs.length)

/-- The text behind a constant's name, unless the name goes on. -/
def dropConstant? (name : String) (cs : List Char) : Option (List Char) :=
  if name.toList.isPrefixOf cs then
    match cs.drop name.length with
    | c :: rest => if isLetterOrNumber c then none else some (c :: rest)
    | [] => some []
  else none

/-- The token at the start of a text that starts neither with a blank nor with a comment. -/
def scanToken (cs : List Char) : Except Found (Token × List Char) :=
  match cs with
  | '\x7b' :: rest => pure (.openBrace, rest)
  | '\x7d' :: rest => pure (.closeBrace, rest)
  | '[' :: rest => pure (.openBracket, rest)
  | ']' :: rest => pure (.closeBracket, rest)
  | ',' :: rest => pure (.comma, rest)
  | ':' :: rest => pure (.colon, rest)
  | '"' :: rest => do
    let (s, rest) ← scanText '"' cs.length rest
    pure (.text (String.ofList s), rest)
  | '\'' :: rest => do
    let (s, rest) ← scanText '\'' cs.length rest
    pure (.text (String.ofList s), rest)
  | '/' :: _ => throw (.unexpectedToken, cs.length)
  | c :: _ =>
    if c = '-' ∨ c = '+' ∨ isDigit c then scanNumber cs
    else match dropConstant? "true" cs, dropConstant? "false" cs, dropConstant? "null" cs with
      | some rest, _, _ => pure (.constant (.boolean true), rest)
      | none, some rest, _ => pure (.constant (.boolean false), rest)
      | none, none, some rest => pure (.constant .null, rest)
      | none, none, none => scanWord cs
  | [] => throw (.unexpectedToken, 0)

/-! ### Streams -/

/-- The tokens of a text. -/
inductive Stream where
  /-- The text has ended. -/
  | stop
  /-- The text cannot be cut further. -/
  | broken (fault : Found)
  /-- A token, the number of characters left from its start on, and what follows. -/
  | next (token : Token) (left : Nat) (rest : Stream)
deriving Repr

/-- Cuts a text into tokens, in at most `rounds` rounds; every round takes a character. -/
def Stream.ofChars : Nat → List Char → Stream
  | 0, _ => .stop
  | rounds + 1, cs =>
    match cs.dropWhile isBlank with
    | [] => .stop
    | '/' :: '/' :: cs => ofChars rounds (dropLineComment cs)
    | '/' :: '*' :: cs =>
      match dropBlockComment? cs with
      | some cs => ofChars rounds cs
      | none => .broken (.unterminatedComment, cs.length + 2)
    | c :: cs =>
      match scanToken (c :: cs) with
      | .ok (token, rest) => .next token (cs.length + 1) (ofChars rounds rest)
      | .error fault => .broken fault

/-- The tokens of a text. -/
def Stream.ofText (cs : List Char) : Stream := ofChars (cs.length + 1) cs

end LintLedger.Json.Commented
