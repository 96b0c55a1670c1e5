import LintLedger.Location.Label
import LintLedger.Unicode.Additions
import LintLedger.Unicode.Category
import LintLedger.Unicode.Direction
import LintLedger.Unicode.HostCharacter
import LintLedger.Unicode.Joining
import LintLedger.Unicode.NormalForm

/-!
# Host names

The name of a host in the one spelling that is compared. Its characters are counted under what they stand
for, the text is put into its composed form and cut at its dots, and the codes among its labels are read.
Labels that cannot be told apart by the eye, or that would trade places on the screen, are refused
(`isProper`, `runsOneWay`). What is left is written with the code of every label beyond ASCII.
-/

namespace LintLedger.Location.HostName

open LintLedger.Unicode

/-! ### Characters -/

/-- The ASCII characters that no name of a host holds. -/
def isForbidden (c : Char) : Bool :=
  c.toNat ≤ 0x20 || c.toNat = 0x7F || "%#/:<>?@[\\]^|".toList.contains c

/-- Is the character ASCII? -/
def isAscii (c : Char) : Bool := c.toNat < 0x80

/-- What a text counts as; `none` if it holds a character that no name holds. -/
def counted? (cs : List Char) : Option (List Char) :=
  ((cs.mapM HostCharacter.counted?).map List.flatten).map normalForm

/-! ### Single labels -/

/-- The mark of a code. -/
def codeMark : List Char := "xn--".toList

/-- The longest code that is read. -/
def longestCode : Nat := 2000

/-- The longest label beyond ASCII. -/
def longestLabel : Nat := 1000

/-- The label that a text between dots stands for: the text itself, or what it is the code of. A code
must stand for a label beyond ASCII that counts as it is. -/
def label? (cs : List Char) : Option (List Char) :=
  if codeMark.isPrefixOf cs then
    let code := cs.drop codeMark.length
    if code.all isAscii ∧ code ≠ [] ∧ code.getLast? ≠ some '-' ∧ code.length ≤ longestCode then
      (Label.decode? code).filter fun label => counted? label = some label
    else none
  else some cs

/-- Is the character a combining mark? -/
def isMark (c : Char) : Bool :=
  (Category.membersOf Category.mark).has c || Additions.marks.has c

/-- The class of the marks that silence the vowel of a letter. -/
def silencer : Nat := 9

/-- Does a text start, behind characters that letters join through, with one that joins? -/
def startsJoining (sides : List Joining) (cs : List Char) : Bool :=
  match cs.dropWhile (Joining.of · = .transparent) with
  | c :: _ => sides.contains (Joining.of c)
  | [] => false

/-- Is every joiner of a label, behind the characters `before` in reverse, in a place where it shows?
Behind a mark that silences a vowel both joiners do; a non-joiner does so between two letters that would
join. -/
def joinersShow (before : List Char) : List Char → Bool
  | [] => true
  | c :: cs =>
    let silenced := match before with
      | b :: _ => markClass b = silencer
      | [] => false
    let shows :=
      if c = '\u200D' then silenced
      else if c = '\u200C' then
        silenced || (startsJoining [.left, .dual] before && startsJoining [.right, .dual] cs)
      else true
    shows && joinersShow (c :: before) cs

/-- Can the label be a label? It starts with no mark, its joiners show, and it is not too long. -/
def isProper (label : List Char) : Bool :=
  !(label.head?.any isMark) && joinersShow [] label &&
    (label.all isAscii || label.length ≤ longestLabel)

/-! ### Labels from right to left -/

/-- Is there a character in the name that is read from right to left? -/
def isTwoWay (cs : List Char) : Bool :=
  cs.any fun c => [.right, .arabicLetter, .arabicNumber].contains (Direction.of c)

/-- What may stand within a label that is read from left to right. -/
def withinLeft : List Direction :=
  [.left, .number, .numberSeparator, .commonSeparator, .numberTerminator, .neutral, .boundary, .nonspacing]

/-- What may stand within a label that is read from right to left. -/
def withinRight : List Direction :=
  [.right, .arabicLetter, .arabicNumber, .number, .numberSeparator, .commonSeparator, .numberTerminator,
    .neutral, .boundary, .nonspacing]

/-- Does a label keep its order on the screen beside any other? -/
def runsOneWay (label : List Char) : Bool :=
  let classes := label.map Direction.of
  let last := (classes.reverse.dropWhile (· = .nonspacing)).head?
  let endsIn (ds : List Direction) : Bool := last.any ds.contains
  match classes with
  | [] => true
  | .left :: _ => endsIn [.left, .number] && classes.all withinLeft.contains
  | .right :: _ | .arabicLetter :: _ =>
    endsIn [.right, .arabicLetter, .number, .arabicNumber] && classes.all withinRight.contains &&
      !(classes.contains .number && classes.contains .arabicNumber)
  | _ => false

/-! ### Names -/

/-- A label as it is written. -/
def written (label : List Char) : List Char :=
  if label.all isAscii then label else codeMark ++ Label.encode label

/-- The name that a text stands for, in the spelling that is compared; `none` if it stands for none. -/
def normalize? (cs : List Char) : Option (List Char) := do
  let counted ← counted? cs
  let labels ← (Text.split '.' counted).mapM label?
  if (labels.any fun l => l.any isForbidden) || !labels.all isProper then none
  else if labels.any isTwoWay && !labels.all runsOneWay then none
  else some (Text.join '.' (labels.map written))

end LintLedger.Location.HostName
