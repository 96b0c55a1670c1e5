import LintLedger.Host
import LintLedger.Toolbox.Cat
import LintLedger.Toolbox.Shell

/-!
# The toolbox

A host whose programs are known: those few that every system has and that stand in for a lint tool when
one is tried out. What they do is computed from their arguments and the files alone, so a run can be
repeated and reasoned about. Every other program is missing.
-/

namespace LintLedger.Toolbox

/-- Prints its arguments on one line. -/
def echo (args : List String) : Printed :=
  let isFlag (s : String) : Bool :=
    match s.toList with
    | '-' :: c :: cs => (c :: cs).all fun c => c = 'n' || c = 'e' || c = 'E'
    | _ => false
  let flags := ((args.takeWhile isFlag).flatMap String.toList).filter (· ≠ '-')
  let cs := (" ".intercalate (args.dropWhile isFlag)).toList
  let known : Escapes := { octalMark := true, hexadecimal := true, stops := true }
  let escapes := (flags.filter (· ≠ 'n')).getLast? = some 'e'
  let (cs, ending) := if escapes then readEscapes known cs else (cs, .finished)
  { prints := [(.output, if ending = .finished && !flags.contains 'n' then cs ++ ['\n'] else cs)] }

/-! ### The shell as a program -/

/-- How a shell is told to run. -/
structure ShellOrder where
  /-- The options that are turned on. -/
  options : List Char := []
  /-- Is the script an argument? -/
  isArgument : Bool := false
  /-- Is the script the input? -/
  isInput : Bool := false
  /-- The arguments behind the options. -/
  rest : List String := []

namespace ShellOrder

/-- The order with an option on or off. -/
def turn (o : ShellOrder) (on : Bool) (option : Char) : ShellOrder :=
  let others := o.options.filter (· ≠ option)
  { o with options := if on then option :: others else others }

/-- Reads the letters of a word of options, of which one may take the next argument. -/
def readLetters (on : Bool) : ShellOrder → List Char → List String → Except String (ShellOrder × List String)
  | o, [], args => .ok (o, args)
  | o, 'c' :: cs, args => readLetters on { o with isArgument := true } cs args
  | o, 's' :: cs, args => readLetters on { o.turn on 's' with isInput := on } cs args
  | o, 'l' :: cs, args => readLetters on o cs args
  | o, 'o' :: cs, args =>
    match args with
    | [] => readLetters on o cs []
    | name :: args =>
      match Shell.optionNames.find? (·.2 = name) with
      | some (option, _) => readLetters on (o.turn on option) cs args
      | none => .error s!"Illegal option {Shell.signOf on}o {name}"
  | o, c :: cs, args =>
    if 0x20 < c.toNat && Shell.optionNames.any (·.1 = c) then readLetters on (o.turn on c) cs args
    else .error s!"Illegal option {Shell.signOf on}{c}"

/-- Reads the arguments of a shell. -/
def ofArgs : Nat → ShellOrder → List String → Except String ShellOrder
  | 0, o, args => .ok { o with rest := args }
  | _ + 1, o, [] => .ok o
  | rounds + 1, o, arg :: args =>
    let behind (on : Bool) (cs : List Char) : Except String ShellOrder := do
      let (o, args) ← readLetters on o cs args
      ofArgs rounds o args
    match arg.toList with
    | ['-'] | ['-', '-'] => .ok { o with rest := args }
    | '-' :: cs => behind true cs
    | '+' :: cs => behind false cs
    | _ => .ok { o with rest := arg :: args }

end ShellOrder

/-- The number of a shell, by how many it runs in. -/
def shellNumber (depth : Nat) : Nat := 4242 + 100 * depth

/-- What a shell knows when it starts. -/
def newShell (c : Shell.Call) (o : ShellOrder) (name : String) (args : List String) : Shell.State :=
  let here := "/" ++ "/".intercalate (c.files.here.map Text.Raw.ofText)
  let number := shellNumber c.parents.length
  let options := (Shell.optionNames.map (·.1)).reverse.filter o.options.contains
  let start : Shell.State :=
    { files := c.files, channels := #[if c.isFolder then .folder else .source c.input, .outlet .output, .outlet .errors]
      streams := Shell.standardStreams, name := name, number := number, parents := c.parents
      ignored := c.ignored, args := args, here := here, options := options }
  let known := (c.environment.filter fun v => v.1 ≠ "IFS" && v.1 ≠ "OPTIND").map fun (name, value) =>
    (name, ({ value := some value, exported := true } : Shell.Variable))
  let own := [("IFS", " \t\n"), ("OPTIND", "1"), ("PPID", toString (c.parents.headD 1)), ("PS1", "# "),
    ("PS2", "> "), ("PS4", "+ ")].map fun (name, value) =>
      (name, ({ value := some value } : Shell.Variable))
  let place : Shell.Variable := { value := some here, exported := true }
  (known ++ own ++ [("PWD", place)]).foldl (fun s (name, v) => s.putVariable name v) start

/-- Runs a shell. -/
def shell (p : Shell.Programs) (c : Shell.Call) : Printed :=
  let wrong (reason : String) : Printed :=
    { Printed.complaint s!"{c.name}: 0: {reason}\n" 2 with input := c.input }
  match ShellOrder.ofArgs (c.args.length + 1) {} c.args with
  | .error reason => wrong reason
  | .ok o =>
    let run (name : String) (args : List String) (script input : List Char) : Printed :=
      Shell.runScript p (newShell { c with input := input } o name args) script
    if o.isArgument then
      match o.rest with
      | script :: rest => run (rest.headD c.name) (rest.drop 1) script.toList c.input
      | [] => wrong "-c requires an argument"
    else match o.isInput, o.rest with
      | false, path :: rest =>
        match c.files.read (Text.Raw.bytesOf path) with
        | .ok content => run path rest (Text.Raw.ofBytes content) c.input
        | .error .isAFolder => run path rest [] c.input
        | .error fault =>
          let reason := Shell.reasonOf "No such file" fault
          wrong s!"cannot open {path}: {reason}"
      | _, rest => run c.name rest c.input []

/-! ### All programs -/

/-- The names of the programs. -/
def programs : List String := ["cat", "echo", "false", "printf", "sh", "sleep", "true"]

/-- Runs a program of the toolbox, which may start `depth` more inside each other. -/
def start : Nat → String → Shell.Call → Printed
  | 0, _, c => .complaint s!"{c.name}: Cannot fork\n" 2
  | depth + 1, program, c =>
    let printed : Printed :=
      match program with
      | "false" => { ending := .exited 1 }
      | "echo" => echo c.args
      | "printf" => printf c.name c.args
      | _ => {}
    match program with
    | "cat" =>
      if c.writes then cat c.name c.files c.args (if c.isFolder then none else some c.input)
      else .complaint s!"{c.name}: standard output: Bad file descriptor\n" 1
    | "sh" => shell { has := programs.contains, run := start depth } c
    | _ => { printed with input := c.input }

/-- How many programs may run inside each other. -/
def depthLimit : Nat := 64

/-- The parameters that every program knows. -/
def environment : List (String × String) :=
  [("HOME", "/root"), ("PATH", "/usr/local/sbin:/usr/local/bin:/usr/sbin:/usr/bin:/sbin:/bin")]

/-- The name of a program without the folder in which such programs lie; none for a program elsewhere. -/
def programName? (program : String) : Option String :=
  match Path.names program with
  | [name] | ["", "bin", name] | ["", "usr", "bin", name] =>
    if programs.contains name then some name else none
  | _ => none

/-- Why a program that the toolbox has not cannot be started. -/
def missing (files : Files) (program : String) : Tool.SpawnFault :=
  if program.toList.contains '\x00' then .zeroCharacter
  else if program.toList.contains '/' then
    match files.resolve program with
    | .ok _ => .notExecutable
    | .error .notAFolder => .notAFolder
    | .error .nameTooLong => .nameTooLong
    | .error .linkLoop => .linkLoop
    | .error _ => .notFound
  else if program = "." ∨ program = ".." then .notExecutable
  else if Files.longestName < program.utf8ByteSize then .nameTooLong
  else .notFound

/-- Runs a tool on a path. -/
def run (files : Files) (t : Tool) (path : List UInt8) : Except Tool.SpawnFault Tool.Outcome :=
  if path.contains 0 || t.args.any (·.toList.contains '\x00') then .error .zeroCharacter
  else match programName? t.program with
    | some program =>
      let path := String.ofList (Text.Raw.ofBytes path)
      let call : Shell.Call :=
        { name := Text.Raw.ofText t.program, args := t.args.map Text.Raw.ofText ++ [path]
          environment := environment, files := files }
      .ok (start depthLimit program call).outcome
    | none => .error (missing files t.program)

/-- The host of the toolbox over a file tree. -/
def host (files : Files) : Host := { files := files, run := run files }

end LintLedger.Toolbox
