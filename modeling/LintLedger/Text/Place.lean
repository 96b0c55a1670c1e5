/-!
# Places in a text

Where something stands in a text, for a reader of an error message: line and column, both counted from
one. A line feed ends a line and belongs to it.
-/

namespace LintLedger.Text

/-- A line and a column. -/
structure Place where
  /-- The line, from one. -/
  line : Nat := 1
  /-- The column in characters, from one. -/
  column : Nat := 1
deriving DecidableEq, Repr

namespace Place

/-- The place behind a character that stands at this one. -/
def next (p : Place) (c : Char) : Place :=
  if c = '\n' then ⟨p.line + 1, 1⟩ else ⟨p.line, p.column + 1⟩

/-- The place behind the given characters. -/
def behind (before : List Char) : Place := before.foldl next {}

@[simp] theorem behind_nil : behind [] = {} := rfl

theorem behind_append (before : List Char) (c : Char) :
    behind (before ++ [c]) = (behind before).next c := by
  simp [behind]

/-- The place where only `left` characters of the text remain. -/
def ofRemaining (text : List Char) (left : Nat) : Place := behind (text.take (text.length - left))

end Place
end LintLedger.Text
