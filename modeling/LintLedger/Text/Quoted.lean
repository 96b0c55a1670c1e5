import LintLedger.Unicode.Additions

/-!
# Quoted text in messages

How a message shows a text that may hold anything: between quotation marks, with the marks, the
backslash and the usual controls escaped by a letter, and every other character that would not show
by its code point. A single quotation mark shows as it is.
-/

namespace LintLedger.Text

open LintLedger.Unicode

/-- The characters that are drawn upon the one before. The two half-width sound marks of Japanese, which
extend a character but take a space of their own, are none of them. -/
def overlaid : CodeSet :=
  (Property.graphemeExtend.members.union Additions.graphemeExtend).diff (CodeSet.range 0xFF9E 0xFF9F)

/-- The characters that do not show: those without a glyph of their own, all blanks but the space, and
those that are drawn upon the one before. -/
def hidden : CodeSet :=
  let unassigned := Category.unassigned.members.diff Additions.all
  let invisible := Category.membersOf [.control, .format, .privateUse]
  CodeSet.unions
    [unassigned, invisible, (Category.membersOf Category.separator).diff (CodeSet.single 0x20),
     Property.defaultIgnorable.members, overlaid]

/-- The letter of a character that is escaped by a letter. -/
def messageEscape? : Char → Option Char
  | '\x00' => some '0'
  | '\t' => some 't'
  | '\n' => some 'n'
  | '\r' => some 'r'
  | '\\' => some '\\'
  | '"' => some '"'
  | _ => none

/-- The hexadecimal digits of a number in lower case. -/
def hexDigits (n : Nat) : List Char := Nat.toDigits 16 n

/-- A character between quotation marks. -/
def messageChar (c : Char) : List Char :=
  match messageEscape? c with
  | some l => ['\\', l]
  | none =>
    if hidden.has c then '\\' :: 'u' :: '\x7b' :: hexDigits c.toNat ++ ['\x7d'] else [c]

/-- A text between quotation marks. -/
def quoted (s : String) : String := String.ofList ('"' :: s.toList.flatMap messageChar ++ ['"'])

end LintLedger.Text
