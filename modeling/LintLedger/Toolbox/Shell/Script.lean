/-!
# Scripts

A script as data: words, whose parts are put together when the word is used, and commands made of words.
Words hold scripts, whose output becomes part of them, and scripts hold words.
-/

namespace LintLedger.Toolbox.Shell

mutual

/-- A part of a word. -/
inductive Part where
  /-- Characters that stand for themselves; quoted, they are no wildcards and no blanks. -/
  | literal (cs : List Char) (quoted : Bool)
  /-- The value of a parameter; quoted, it is one field whatever it holds. -/
  | parameter (name : String) (use : Use) (quoted : Bool)
  /-- What a script prints. -/
  | output (script : Script) (quoted : Bool)
  /-- The value of an arithmetic expression. -/
  | sum (expression : List Part) (quoted : Bool)

/-- What is put in place of a parameter. A word that stands in for a missing value does so for an empty one
too where `orEmpty` holds. -/
inductive Use where
  /-- Its value. -/
  | value
  /-- The number of bytes of its value. -/
  | length
  /-- Its value or, if it has none, the word. -/
  | orElse (word : List Part) (orEmpty : Bool)
  /-- Its value or, if it has none, the word, which becomes its value. -/
  | orAssign (word : List Part) (orEmpty : Bool)
  /-- Its value; if it has none, the script ends with the word as complaint. -/
  | orFail (word : List Part) (orEmpty : Bool)
  /-- The word, if it has a value. -/
  | instead (word : List Part) (orEmpty : Bool)
  /-- Its value without what the word stands for at its start. -/
  | withoutStart (word : List Part) (longest : Bool)
  /-- Its value without what the word stands for at its end. -/
  | withoutEnd (word : List Part) (longest : Bool)
  /-- A use that is none. -/
  | bad

/-- A redirection. -/
inductive Redirect where
  /-- A stream and what is done with it. -/
  | mk (stream : Nat) (goal : Goal)

/-- Where a redirection leads. -/
inductive Goal where
  /-- The stream reads a file. -/
  | read (place : List Part)
  /-- The stream writes a file anew; `forced` says that it may be there already. -/
  | write (place : List Part) (forced : Bool)
  /-- The stream writes behind what is in a file. -/
  | append (place : List Part)
  /-- The stream reads and writes a file. -/
  | update (place : List Part)
  /-- The stream leads where the one of the given number does, or nowhere for a hyphen. -/
  | duplicate (target : List Part)
  /-- The stream reads a text of the script, known by a number. -/
  | document (number : Nat)

/-- Commands that belong together. -/
inductive Script where
  /-- Nothing. -/
  | empty
  /-- A command of words, with the values it gives to parameters. -/
  | simple (line : Nat) (assignments : List (String × List Part)) (words : List (List Part))
      (redirects : List Redirect)
  /-- Each reads what the one before prints. -/
  | pipe (commands : List Script)
  /-- The second is run if the first ends well. -/
  | both (first second : Script)
  /-- The second is run if the first does not. -/
  | either (first second : Script)
  /-- One behind the other. -/
  | follow (first second : Script)
  /-- Ends well if the script does not. -/
  | negate (s : Script)
  /-- Stands apart: leaves nothing behind but what it prints and does to files. -/
  | apart (line : Nat) (s : Script) (redirects : List Redirect)
  /-- Stands apart and is not waited for. -/
  | background (line : Nat) (s : Script)
  /-- One of two, by how the condition ends. -/
  | choose (condition yes no : Script)
  /-- As often as the condition ends well, or as it does not. -/
  | loop (condition body : Script) (wanted : Bool)
  /-- Once for each field of the words, or for each argument. -/
  | each (line : Nat) (name : String) (words : Option (List (List Part))) (body : Script)
  /-- The body of the first branch with a pattern that stands for the word. -/
  | select (line : Nat) (word : List Part) (branches : List (List (List Part) × Script))
  /-- With redirections. -/
  | redirected (line : Nat) (s : Script) (redirects : List Redirect)
  /-- Gives a script a name. -/
  | define (name : String) (body : Script)

end

/-- A word, as its parts. -/
abbrev Word := List Part

instance : Inhabited Script := ⟨.empty⟩

/-- The text of a word in which nothing is quoted and nothing put in. -/
def plain? : Word → Option String
  | [.literal cs false] => some (String.ofList cs)
  | [] => some ""
  | _ => none

/-- May the character start the name of a parameter? -/
def isNameStart (c : Char) : Bool := c.isAlpha || c = '_'

/-- May the character stand in the name of a parameter? -/
def isNameChar (c : Char) : Bool := c.isAlphanum || c = '_'

/-- Is the text the name of a parameter that can be given a value? -/
def isName (cs : List Char) : Bool := cs.head?.any isNameStart && cs.all isNameChar

/-- The name and the value of a word that gives a parameter its value. -/
def assignment? : Word → Option (String × Word)
  | .literal cs false :: parts =>
    let name := cs.takeWhile (· ≠ '=')
    match cs.dropWhile (· ≠ '=') with
    | _ :: value =>
      if isName name then
        some (String.ofList name, if value.isEmpty then parts else .literal value false :: parts)
      else none
    | [] => none
  | _ => none

end LintLedger.Toolbox.Shell
