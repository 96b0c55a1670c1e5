import LintLedger.Unicode.Additions

/-!
# Letters and numbers

The characters that words and names are made of: those with the `Alphabetic` property and the numbers
of all kinds.
-/

namespace LintLedger.Unicode

/-- The letters of all scripts. -/
def letters : CodeSet := Property.alphabetic.members.union Additions.alphabetic

/-- The numbers of all scripts. -/
def numbers : CodeSet := (Category.membersOf Category.number).union Additions.numbers

/-- Is the character a letter? -/
def isLetter (c : Char) : Bool := letters.has c

/-- Is the character a letter or a number? -/
def isLetterOrNumber (c : Char) : Bool := letters.has c || numbers.has c

end LintLedger.Unicode
