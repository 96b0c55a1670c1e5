import LintLedger.Toolbox.Format
import LintLedger.Toolbox.Shell.Script
import LintLedger.Toolbox.Shell.Wildcard

/-!
# What a shell knows

A shell runs a script step by step (`Run`). A step changes what the shell knows (`State`): its parameters,
functions and options, and what it shares with the shells that it starts, which are the files and the
channels that its streams lead to. A step that does not let the next one follow ends in a *turn*: a loop
is left, a function returns, or the whole shell ends.
-/

namespace LintLedger.Toolbox.Shell

/-! ### Channels -/

/-- What a stream leads to. -/
inductive Channel where
  /-- Nothing to read, and nothing is kept. -/
  | nowhere
  /-- A folder, which cannot be read. -/
  | folder
  /-- A stream that the shell was started with. -/
  | outlet (stream : Stream)
  /-- Something to read. -/
  | source (left : List Char)
  /-- Something that keeps what is written, the latest first. -/
  | sink (written : List (List Char))
  /-- A file, and how far it has been read or written; if `appends` holds, it is written at its end. -/
  | file (place : List String) (offset : Nat) (appends : Bool)
deriving Inhabited

/-- What a stream is good for, and the number of the channel that it leads to. -/
structure Lead where
  /-- The number of the channel. -/
  channel : Nat
  /-- Can it be read? -/
  reads : Bool := true
  /-- Can it be written? -/
  writes : Bool := true
deriving DecidableEq, Repr

/-! ### Parameters -/

/-- A parameter with a name. -/
structure Variable where
  /-- Its value, if it has one. -/
  value : Option String := none
  /-- Do programs know it? -/
  exported : Bool := false
  /-- Must it stay as it is? -/
  fixed : Bool := false
deriving Inhabited, DecidableEq, Repr

/-- The options by their letters, with their names, in the order in which they are listed. -/
def optionNames : List (Char × String) :=
  [('e', "errexit"), ('f', "noglob"), ('I', "ignoreeof"), ('i', "interactive"), ('m', "monitor"),
    ('n', "noexec"), ('s', "stdin"), ('x', "xtrace"), ('v', "verbose"), ('V', "vi"), ('E', "emacs"),
    ('C', "noclobber"), ('a', "allexport"), ('b', "notify"), ('u', "nounset"), ('p', "privileged"),
    ('\x01', "nolog"), ('\x02', "debug")]

/-- A part of a script that runs apart from it. -/
structure Job where
  /-- Its number. -/
  number : Nat
  /-- The status with which it ended. -/
  status : Nat
  /-- The signal that ended it, if one did and that has not been told yet. -/
  signal : Option Nat := none

/-! ### States -/

/-- What a shell knows. -/
structure State where
  /-- The files. -/
  files : Files
  /-- The channels. -/
  channels : Array Channel
  /-- The streams that are open. -/
  streams : List (Nat × Lead)
  /-- What went to the streams that the shell was started with, the latest first. -/
  prints : List (Stream × List Char) := []
  /-- The name under which it complains. -/
  name : String
  /-- Its number. -/
  number : Nat
  /-- The numbers of the shells that it runs in. -/
  parents : List Nat := []
  /-- The signals that were sent to those, each with the number of the shell. -/
  sent : List (Nat × Nat) := []
  /-- The number of the next part that runs apart. -/
  next : Nat := number + 1
  /-- The arguments of the script, or of the function that is run. -/
  args : List String := []
  /-- The parameters with names. -/
  vars : List (String × Variable) := []
  /-- The functions. -/
  functions : List (String × Script) := []
  /-- The texts that stand in for words at the place of a command. -/
  aliases : List (String × String) := []
  /-- The texts of the scripts, by their numbers. -/
  documents : List (Nat × Word) := []
  /-- The options that are on. -/
  options : List Char := []
  /-- The status of the last command. -/
  status : Nat := 0
  /-- The status of the last script whose output became part of a word. -/
  outputStatus : Nat := 0
  /-- The current folder, as it was gone to. -/
  here : String
  /-- What is done at signals; an empty script lets them pass. -/
  traps : List (Nat × String) := []
  /-- The signals that the shell lets pass since the one that started it does. -/
  ignored : List Nat := []
  /-- What the shell that this one comes from does at signals, if this one runs apart. -/
  mainTraps : Option (List (Nat × String)) := none
  /-- The signals for which something has to be done. -/
  signals : List Nat := []
  /-- Does a program that is started take the place of the shell? -/
  yields : Bool := false
  /-- How many loops are being run. -/
  loops : Nat := 0
  /-- How many functions are being run. -/
  depth : Nat := 0
  /-- What the function that is run hides, to be restored behind it; none outside a function. -/
  hidden : Option (List (String × Option Variable)) := none
  /-- The command of the shell that is being run. -/
  command : Option String := none
  /-- The line of the command that is being run. -/
  line : Nat := 1
  /-- The parts of the script that run apart, the latest first. -/
  jobs : List Job := []
  /-- The programs that were found in a folder and are remembered. -/
  tracked : List String := []
  /-- The bits that new files are without. -/
  mask : Nat := 0o22
  /-- The number of the argument from which the next option is read. -/
  optionNumber : Nat := 1
  /-- The place in the argument before it, if there are more options in that one. -/
  optionPlace : Option Nat := none

/-- What does not let the next step follow. -/
inductive Turn where
  /-- So many loops are left. -/
  | leave (loops : Nat)
  /-- So many loops are left but for the last, which goes on with its next round. -/
  | again (loops : Nat)
  /-- The function or the script of a file ends. -/
  | giveBack
  /-- The shell ends, with the status of the last command if no other is given. -/
  | exit (status : Option Nat)
  /-- Something is wrong, and the shell ends unless one of its own commands does so instead. -/
  | fault
  /-- Another program has taken its place and ended. -/
  | replaced (ending : Tool.Ending)
  /-- A signal has ended the shell of the given number. -/
  | killed (number signal : Nat)

/-- A step of a shell. -/
abbrev Run := ExceptT Turn (StateM State)

namespace State

/-- Is the option on? -/
def has (s : State) (option : Char) : Bool := s.options.contains option

/-- The value of a parameter with a name. -/
def value? (s : State) (name : String) : Option String :=
  (s.vars.lookup name).bind Variable.value

/-- The characters at which words are cut. -/
def separators (s : State) : List Char := ((s.value? "IFS").getD " \t\n").toList

/-- Writes a parameter in place of the old one. -/
def putVariable (s : State) (name : String) (v : Variable) : State :=
  if (s.vars.lookup name).isSome then
    { s with vars := s.vars.map fun old => if old.1 = name then (name, v) else old }
  else { s with vars := s.vars ++ [(name, v)] }

/-- The channel with a number. -/
def channel (s : State) (n : Nat) : Channel := s.channels[n]?.getD .nowhere

/-- Adds a channel, and gives its number. -/
def addChannel (s : State) (c : Channel) : Nat × State :=
  (s.channels.size, { s with channels := s.channels.push c })

/-- The bytes of the file at a place. -/
def content (s : State) (place : List String) : List UInt8 :=
  match s.files.entry? place with
  | some (.file bytes) => bytes
  | _ => []

/-- Writes to a channel. -/
def write (s : State) (n : Nat) (cs : List Char) : State :=
  match s.channel n with
  | .sink written => { s with channels := s.channels.set! n (.sink (cs :: written)) }
  | .outlet stream => { s with prints := (stream, cs) :: s.prints }
  | .file place offset appends =>
    let old := s.content place
    let start := if appends then old.length else offset
    let before := old.take start ++ List.replicate (start - old.length) 0
    let bytes := before ++ Text.Raw.bytes cs ++ old.drop (start + cs.length)
    { s with
      files := s.files.put place (.file bytes)
      channels := s.channels.set! n (.file place (start + cs.length) appends) }
  | _ => s

/-- What is left to read in a channel. -/
def left (s : State) (n : Nat) : List Char :=
  match s.channel n with
  | .source left => left
  | .file place offset _ => Text.Raw.ofBytes ((s.content place).drop offset)
  | _ => []

/-- Reads in a channel up to where so much is left. -/
def readTo (s : State) (n : Nat) (left : List Char) : State :=
  match s.channel n with
  | .source _ => { s with channels := s.channels.set! n (.source left) }
  | .file place _ appends =>
    let offset := (s.content place).length - left.length
    { s with channels := s.channels.set! n (.file place offset appends) }
  | _ => s

/-- What was written to a channel. -/
def written (s : State) (n : Nat) : List Char :=
  match s.channel n with
  | .sink written => written.reverse.flatten
  | _ => []

/-- Writes to a stream, if that can be written. -/
def print? (s : State) (stream : Nat) (cs : List Char) : Option State :=
  match s.streams.lookup stream with
  | some lead => if lead.writes then some (s.write lead.channel cs) else none
  | none => none

/-- Lets a stream lead somewhere else, or nowhere at all. -/
def lead (s : State) (stream : Nat) (goal : Option Lead) : State :=
  let others := s.streams.filter (·.1 ≠ stream)
  { s with streams := match goal with | some l => (stream, l) :: others | none => others }

/-- The complaint of a shell. -/
def complaint (s : State) (reason : String) : String :=
  let command := match s.command with
    | some c => c ++ ": "
    | none => ""
  s!"{s.name}: {s.line}: {command}{reason}\n"

end State

/-! ### Steps -/

/-- Writes to a stream, and says whether that could be done. -/
def printTo (stream : Nat) (cs : List Char) : Run Bool := do
  match (← get).print? stream cs with
  | some s =>
    set s
    pure true
  | none => pure cs.isEmpty

/-- Writes to the stream for complaints. -/
def printError (text : String) : Run Unit := discard (printTo 2 text.toList)

/-- Complains. -/
def complain (reason : String) : Run Unit := do
  printError ((← get).complaint reason)

/-- Complains, and ends the shell. -/
def fail {α : Type} (reason : String) : Run α := do
  complain reason
  modify fun s => { s with status := 2 }
  throw .fault

/-- Sets the status. -/
def setStatus (n : Nat) : Run Unit := modify fun s => { s with status := n }

/-- Gives a parameter a value and, if asked to, marks it. -/
def assign (name : String) (value : Option String) (exported fixed : Bool := false) : Run Unit := do
  if !isName name.toList then fail s!"{name}: bad variable name"
  let s ← get
  let old := (s.vars.lookup name).getD {}
  if old.fixed && value.isSome then fail s!"{name}: is read only"
  let new : Variable :=
    { value := value <|> old.value
      exported := old.exported || exported || (s.has 'a' && value.isSome)
      fixed := old.fixed || fixed }
  set (s.putVariable name new)
  if value.isSome then
    if name = "PATH" then modify fun s => { s with tracked := [] }
    if name = "OPTIND" then
      let n := (value.bind fun v => (readWhole? v.toList).map fun (_, n, _) => n).getD 1
      modify fun s => { s with optionNumber := n, optionPlace := none }

/-- Takes a parameter away. -/
def unassign (name : String) : Run Unit := do
  if !isName name.toList then fail s!"{name}: bad variable name"
  let s ← get
  match s.vars.lookup name with
  | some v =>
    if v.fixed then fail s!"{name}: is read only"
    set { s with vars := s.vars.filter (·.1 ≠ name) }
  | none => pure ()

/-- The whole number that an argument is, from zero on. -/
def countOf (arg : String) : Run Nat := do
  let cs := arg.toList
  let (negative, body) := readSign cs
  let digits := body.takeWhile Text.isDigit
  let rest := (body.dropWhile Text.isDigit).dropWhile isSpace
  let n := Text.digitsValue digits
  if digits.isEmpty || !rest.isEmpty || (negative && n ≠ 0) || 0x7FFFFFFF < n then
    fail s!"Illegal number: {arg}"
  else pure n

/-- Runs a step, and catches its turn. -/
def attempt {α : Type} (step : Run α) : Run (Except Turn α) := fun s =>
  let (result, s) := step s
  (.ok result, s)

end LintLedger.Toolbox.Shell
