import LintLedger.Unicode.Ranges

/-!
# Characters that stand for sequences

A table that gives code points the sequence that each stands for. It is written in stretches: the first
code point of a stretch, a colon, and the sequences of this and the following code points with a blank
between neighbours, each of them hexadecimal numbers with hyphens (`C0:41-300 41-301`).
-/

namespace LintLedger.Unicode

/-- Code points with the sequence that each stands for. -/
structure Expansion where
  /-- The rows of the table. -/
  rows : List (Nat × List Nat)
deriving Repr

namespace Expansion

/-- Reads a sequence. -/
def sequence? (cs : List Char) : Option (List Nat) := (Text.split '-' cs).mapM hexNumber?

/-- The rows of the entries of a table, the first of which stands for `next` if it says nothing else. -/
def rowsFrom (next : Nat) : List (List Char) → List (Nat × List Nat)
  | [] => []
  | entry :: rest =>
    let (point, written) := match Text.split ':' entry with
      | [start, written] => ((hexNumber? start).getD next, written)
      | _ => (next, entry)
    match sequence? written with
    | some ns => (point, ns) :: rowsFrom (point + 1) rest
    | none => rowsFrom (point + 1) rest

/-- The table that lines write. -/
def ofLines (lines : List String) : Expansion :=
  ⟨rowsFrom 0 (lines.flatMap fun line => Text.split ' ' line.toList)⟩

/-- The sequence that a code point stands for. -/
def of? (e : Expansion) (n : Nat) : Option (List Nat) := e.rows.lookup n

/-- The code point that stands for a sequence. -/
def standing? (e : Expansion) (ns : List Nat) : Option Nat := (e.rows.find? (·.2 = ns)).map (·.1)

end Expansion
end LintLedger.Unicode
