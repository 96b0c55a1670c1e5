import LintLedger.Json.Value

/-!
# Reading JSON

The reader of plain JSON: one value with blanks around it, and nothing that the grammar does not allow.
Every function takes a text and gives a value with the rest of the text. A value takes at least one
character, so the length of the text bounds how deep and how long the reading goes.
-/

namespace LintLedger.Json

/-- Is the character one of the four blanks of JSON? -/
def isJsonBlank (c : Char) : Bool := c = ' ' || c = '\n' || c = '\r' || c = '\t'

/-- The text behind its leading blanks. -/
def skipBlanks (cs : List Char) : List Char := cs.dropWhile isJsonBlank

/-- Reads the inside of a text up to its closing quotation mark. -/
def readText? : List Char → Option (List Char × List Char)
  | [] => none
  | '"' :: rest => some ([], rest)
  | '\\' :: 'u' :: a :: b :: c :: d :: rest =>
    match fourHexDigits? a b c d with
    | none => none
    | some unit =>
      if isLowUnit unit then none
      else if isHighUnit unit then
        match rest with
        | '\\' :: 'u' :: e :: f :: g :: h :: rest =>
          match fourHexDigits? e f g h with
          | none => none
          | some low =>
            if isLowUnit low then
              (readText? rest).map fun (cs, rest) => (pairChar unit low :: cs, rest)
            else none
        | _ => none
      else (readText? rest).map fun (cs, rest) => (Char.ofNat unit :: cs, rest)
  | '\\' :: '"' :: rest => (readText? rest).map fun (cs, rest) => ('"' :: cs, rest)
  | '\\' :: l :: rest =>
    match shortEscape? l with
    | some c => (readText? rest).map fun (cs, rest) => (c :: cs, rest)
    | none => none
  | c :: rest =>
    if c = '\\' ∨ c.toNat < 0x20 then none
    else (readText? rest).map fun (cs, rest) => (c :: cs, rest)

/-- Reads a number. -/
def readNumber? (cs : List Char) : Option (Json × List Char) :=
  let scanned := match cs with
    | '-' :: cs => scanNumeral true cs
    | cs => scanNumeral false cs
  match scanned with
  | .ok (n, rest) => n.value?.map fun v => (.number v, rest)
  | .error _ => none

/-- The text behind a word. -/
def dropWord? (word cs : List Char) : Option (List Char) :=
  if word.isPrefixOf cs then some (cs.drop word.length) else none

mutual

/-- Reads a value behind its leading blanks. -/
def readValue? : Nat → List Char → Option (Json × List Char)
  | 0, _ => none
  | depth + 1, cs =>
    match skipBlanks cs with
    | [] => none
    | '[' :: cs =>
      match skipBlanks cs with
      | ']' :: rest => some (.array [], rest)
      | cs => readItems? depth [] cs
    | '\x7b' :: cs =>
      match skipBlanks cs with
      | '\x7d' :: rest => some (.object [], rest)
      | cs => readMembers? depth [] cs
    | '"' :: cs => (readText? cs).map fun (s, rest) => (.text (String.ofList s), rest)
    | 'n' :: cs => (dropWord? "ull".toList cs).map fun rest => (.null, rest)
    | 't' :: cs => (dropWord? "rue".toList cs).map fun rest => (.boolean true, rest)
    | 'f' :: cs => (dropWord? "alse".toList cs).map fun rest => (.boolean false, rest)
    | cs => readNumber? cs

/-- Reads the items of an array up to its closing bracket; `found` are those before, last one first. -/
def readItems? : Nat → List Json → List Char → Option (Json × List Char)
  | 0, _, _ => none
  | depth + 1, found, cs => do
    let (j, cs) ← readValue? depth cs
    match skipBlanks cs with
    | ',' :: cs => readItems? depth (j :: found) cs
    | ']' :: rest => some (.array (j :: found).reverse, rest)
    | _ => none

/-- Reads the members of an object up to its closing brace; `found` are those before, last one
first. -/
def readMembers? : Nat → List (String × Json) → List Char → Option (Json × List Char)
  | 0, _, _ => none
  | depth + 1, found, cs =>
    match skipBlanks cs with
    | '"' :: cs => do
      let (k, cs) ← readText? cs
      match skipBlanks cs with
      | ':' :: cs =>
        let (j, cs) ← readValue? depth cs
        let found := (String.ofList k, j) :: found
        match skipBlanks cs with
        | ',' :: cs => readMembers? depth found cs
        | '\x7d' :: rest => some (ofMembers found.reverse, rest)
        | _ => none
      | _ => none
    | _ => none

end

/-- The value that a text is the JSON of; `none` if it is not JSON. -/
def read? (text : String) : Option Json :=
  let cs := text.toList
  match readValue? (2 * cs.length + 2) cs with
  | some (j, rest) => if (skipBlanks rest).isEmpty then some j else none
  | none => none

end LintLedger.Json
