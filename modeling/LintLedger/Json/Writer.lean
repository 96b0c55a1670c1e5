import LintLedger.Json.Value

/-!
# Writing JSON

Two layouts of one value: compact, without any blank, and spread out, every member and every item on a
line of its own, two columns deeper than its container. An empty container is written without a line
break in both. In texts only the quotation mark, the backslash and the control characters below the
space are escaped.
-/

namespace LintLedger.Json

/-- A hexadecimal digit in lower case. -/
def hexDigitChar (n : Nat) : Char := if n < 10 then Char.ofNat (0x30 + n) else Char.ofNat (0x57 + n)

/-- The letter of a character with an escape of its own. -/
def escapeLetter? : Char → Option Char
  | '"' => some '"'
  | '\\' => some '\\'
  | '\x08' => some 'b'
  | '\x0C' => some 'f'
  | '\n' => some 'n'
  | '\r' => some 'r'
  | '\t' => some 't'
  | _ => none

/-- A character inside quotation marks. -/
def escapeChar (c : Char) : List Char :=
  match escapeLetter? c with
  | some l => ['\\', l]
  | none =>
    if c.toNat < 0x20 then
      ['\\', 'u', '0', '0', hexDigitChar (c.toNat / 16), hexDigitChar (c.toNat % 16)]
    else [c]

/-- A text in quotation marks. -/
def quoteChars (s : String) : List Char := '"' :: s.toList.flatMap escapeChar ++ ['"']

/-- The characters of a number. -/
def Number.chars : Number → List Char
  | .integer n => (toString n).toList
  | .real x => x.text.toList

/-! ### Compact -/

mutual

/-- A value without blanks. -/
def compactChars : Json → List Char
  | .null => "null".toList
  | .boolean true => "true".toList
  | .boolean false => "false".toList
  | .number n => n.chars
  | .text s => quoteChars s
  | .array [] => ['[', ']']
  | .array (j :: js) => '[' :: compactChars j ++ compactItems js
  | .object [] => ['\x7b', '\x7d']
  | .object ((k, j) :: ms) => '\x7b' :: quoteChars k ++ ':' :: compactChars j ++ compactMembers ms

/-- The items behind the first, and the closing bracket. -/
def compactItems : List Json → List Char
  | [] => [']']
  | j :: js => ',' :: compactChars j ++ compactItems js

/-- The members behind the first, and the closing brace. -/
def compactMembers : List (String × Json) → List Char
  | [] => ['\x7d']
  | (k, j) :: ms => ',' :: quoteChars k ++ ':' :: compactChars j ++ compactMembers ms

end

/-- The value as text without blanks. -/
def compact (j : Json) : String := String.ofList (compactChars j)

/-! ### Spread out -/

/-- A line break and the columns before the next part. -/
def newline (depth : Nat) : List Char := '\n' :: List.replicate (2 * depth) ' '

mutual

/-- A value whose lines are `depth` levels deep. -/
def prettyChars (depth : Nat) : Json → List Char
  | .array (j :: js) => '[' :: newline (depth + 1) ++ prettyChars (depth + 1) j ++ prettyItems depth js
  | .object ((k, j) :: ms) =>
    '\x7b' :: newline (depth + 1) ++ quoteChars k ++ ':' :: ' ' :: prettyChars (depth + 1) j ++
      prettyMembers depth ms
  | .array [] => ['[', ']']
  | .object [] => ['\x7b', '\x7d']
  | .null => "null".toList
  | .boolean true => "true".toList
  | .boolean false => "false".toList
  | .number n => n.chars
  | .text s => quoteChars s

/-- The items behind the first, and the closing bracket. -/
def prettyItems (depth : Nat) : List Json → List Char
  | [] => newline depth ++ [']']
  | j :: js => ',' :: newline (depth + 1) ++ prettyChars (depth + 1) j ++ prettyItems depth js

/-- The members behind the first, and the closing brace. -/
def prettyMembers (depth : Nat) : List (String × Json) → List Char
  | [] => newline depth ++ ['\x7d']
  | (k, j) :: ms =>
    ',' :: newline (depth + 1) ++ quoteChars k ++ ':' :: ' ' :: prettyChars (depth + 1) j ++
      prettyMembers depth ms

end

/-- The value as text with a line for every part. -/
def pretty (j : Json) : String := String.ofList (prettyChars 0 j)

end LintLedger.Json
