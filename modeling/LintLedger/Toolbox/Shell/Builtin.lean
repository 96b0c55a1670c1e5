import LintLedger.Toolbox.Shell.Condition
import LintLedger.Toolbox.Shell.Expansion
import LintLedger.Toolbox.Shell.Reader
import LintLedger.Toolbox.Shell.Signal

/-!
# The shell's own commands

The commands that a shell does itself, without starting a program and without running a script: they print,
ask something of texts, numbers and files, and change what the shell knows. What a command prints is written
when it is done, behind its complaints. Some of the commands are *special*: what goes wrong in one of those
ends the shell.
-/

namespace LintLedger.Toolbox.Shell

/-- What a command gave: what it prints, and its status. -/
structure Reply where
  /-- What it prints. -/
  output : List Char := []
  /-- Its status. -/
  status : Nat := 0

/-- A command of the shell, from its arguments. -/
abbrev Builtin := List String → Run Reply

/-- A text as what a command prints. -/
def Reply.ofText (s : String) (status : Nat := 0) : Reply := { output := s.toList, status := status }

/-! ### Options -/

/-- The options at the start of arguments, each with its value if it has one, and the other arguments.
`known` holds their letters, with a colon behind those that have values. -/
def options (known : List Char) : Nat → List String → Run (List (Char × String) × List String)
  | 0, args => pure ([], args)
  | _ + 1, [] => pure ([], [])
  | rounds + 1, arg :: args =>
    match arg.toList with
    | ['-', '-'] => pure ([], args)
    | '-' :: c :: cs => do
      let found := known.dropWhile (· ≠ c)
      if found.isEmpty then fail s!"Illegal option -{c}"
      let takesValue := (found.drop 1).head? = some ':'
      if takesValue then
        match cs, args with
        | [], [] => fail s!"No arg for -{c} option"
        | [], value :: args => do
          let (more, rest) ← options known rounds args
          pure ((c, value) :: more, rest)
        | cs, args => do
          let (more, rest) ← options known rounds args
          pure ((c, String.ofList cs) :: more, rest)
      else
        let args := if cs.isEmpty then args else String.ofList ('-' :: cs) :: args
        let (more, rest) ← options known rounds args
        pure ((c, "") :: more, rest)
    | _ => pure ([], arg :: args)

/-- The options at the start of arguments, and the other arguments. -/
def optionsOf (known : String) (args : List String) : Run (List Char × List String) := do
  let size := args.foldl (fun n a => n + a.length + 1) 1
  let (found, rest) ← options known.toList size args
  pure (found.map (·.1), rest)

/-! ### Printing -/

/-- A text between quotation marks, so that it can be read again. -/
def quoted : Nat → List Char → List Char
  | 0, _ => []
  | rounds + 1, cs =>
    let plain := cs.takeWhile (· ≠ '\'')
    let rest := cs.drop plain.length
    let marks := rest.takeWhile (· = '\'')
    let rest := rest.drop marks.length
    let shown := '\'' :: plain ++ ['\'']
    if marks.isEmpty then shown
    else shown ++ '"' :: marks ++ ['"'] ++ (if rest.isEmpty then [] else quoted rounds rest)

/-- A text between quotation marks. -/
def quotedText (s : String) : String := String.ofList (quoted (s.length + 1) s.toList)

/-- The parameters that a test holds for, in the order of their names, as they are written; `before` stands
before each. -/
def listing (s : State) (before : String) (test : Variable → Bool) : String :=
  let shown := (s.vars.filter fun v => test v.2).mergeSort fun a b => a.1 ≤ b.1
  String.join (shown.map fun (name, v) =>
    before ++ name ++ (match v.value with | some value => "=" ++ quotedText value | none => "") ++ "\n")

/-- Prints its arguments, in which escapes are read. -/
def echo : Builtin := fun args => do
  let (newline, args) := match args with
    | "-n" :: rest => (false, rest)
    | args => (true, args)
  let (cs, ending) := readEscapes Printer.shell.argEscapes (" ".intercalate args).toList
  pure { output := if newline && ending = .finished then cs ++ ['\n'] else cs }

/-- Prints its arguments by a format. -/
def printf : Builtin := fun args => do
  let (_, args) ← optionsOf "" args
  match args with
  | [] => fail "usage: printf format [arg ...]"
  | format :: args =>
    let p := Printing.run .shell format args
    for f in p.faults do
      complain f.shellMessage
    pure { output := p.output, status := if p.failed then 2 else if p.faults.isEmpty then 0 else 1 }

/-! ### Conditions and input -/

/-- Asks whether a condition holds. -/
def test : Builtin := fun args => do
  match Condition.ofWords (← get).files args with
  | .ok holds => pure { status := if holds then 0 else 1 }
  | .error reason => fail reason

/-- As `test`, between brackets. -/
def bracket : Builtin := fun args => do
  if args.getLast? = some "]" then test args.dropLast else fail "missing ]"

/-- The line at the start of a text, without its end, what is behind it, and whether it was ended. A line
end behind a backslash is part of the line unless backslashes are `plain`. -/
def takeLine (plain : Bool) : List Char → List Char × List Char × Bool
  | [] => ([], [], false)
  | '\n' :: cs => ([], cs, true)
  | '\\' :: c :: cs =>
    if plain then
      let (line, rest, ended) := takeLine plain (c :: cs)
      ('\\' :: line, rest, ended)
    else
      let (line, rest, ended) := takeLine plain cs
      ('\\' :: c :: line, rest, ended)
  | c :: cs =>
    let (line, rest, ended) := takeLine plain cs
    (c :: line, rest, ended)

/-- Gives parameters what a line of the input holds. -/
def read : Builtin := fun args => do
  let size := args.foldl (fun n a => n + a.length + 1) 1
  let (found, names) ← options "p:r".toList size args
  if names.isEmpty then fail "arg count"
  let s ← get
  match (s.streams.lookup 0).filter Lead.reads with
  | none => pure { status := 1 }
  | some lead =>
    let plain := found.any (·.1 = 'r')
    let (line, rest, ended) := takeLine plain (s.left lead.channel)
    set (s.readTo lead.channel rest)
    let line := line.filter (· ≠ '\x00')
    let line := if !plain && !ended && line.getLast? = some '\\' then line.dropLast else line
    let values := cutLine s.separators plain names.length line
    for (name, i) in names.zipIdx do
      assign name (some (values[i]?.getD ""))
    pure { status := if ended then 0 else 1 }

/-! ### Parameters and options -/

/-- Gives parameters values and marks them, or shows the marked ones. -/
def mark (exported fixed : Bool) (name : String) : Builtin := fun args => do
  let (found, args) ← optionsOf "p" args
  if args.isEmpty || !found.isEmpty then
    let test (v : Variable) : Bool := (exported && v.exported) || (fixed && v.fixed)
    pure (.ofText (listing (← get) (name ++ " ") test))
  else
    for a in args do
      let cs := a.toList
      let name := String.ofList (cs.takeWhile (· ≠ '='))
      let value := match cs.dropWhile (· ≠ '=') with
        | _ :: value => some (String.ofList value)
        | [] => none
      assign name value exported fixed
    pure {}

/-- Hides a parameter up to the end of the function that is run. -/
def hide (name : String) : Run Unit := do
  let s ← get
  match s.hidden with
  | some hidden =>
    if !hidden.any (·.1 = name) then
      set { s with hidden := some ((name, s.vars.lookup name) :: hidden) }
  | none => fail "not in a function"

/-- Makes parameters those of the function that is run. -/
def makeLocal : Builtin := fun args => do
  if (← get).hidden.isNone then fail "not in a function"
  for a in args do
    let cs := a.toList
    let name := String.ofList (cs.takeWhile (· ≠ '='))
    if !isName name.toList then fail s!"{name}: bad variable name"
    hide name
    match cs.dropWhile (· ≠ '=') with
    | _ :: value => assign name (some (String.ofList value))
    | [] => pure ()
  pure {}

/-- Takes parameters or functions away. -/
def unset : Builtin := fun args => do
  let (found, names) ← optionsOf "vf" args
  for name in names do
    if found.getLast? = some 'f' then
      modify fun s => { s with functions := s.functions.filter (·.1 ≠ name) }
    else unassign name
  pure {}

/-- Turns an option on or off. -/
def turn (on : Bool) (option : Char) : Run Unit :=
  modify fun s =>
    let others := s.options.filter (· ≠ option)
    -- the options are shown from the last to the first
    let options := (optionNames.map (·.1)).reverse.filter fun c => others.contains c || (on && c = option)
    { s with options := options }

/-- The sign before options that are turned on or off. -/
def signOf (on : Bool) : String := if on then "-" else "+"

/-- The options as they are listed. -/
def optionListing (s : State) (asCommands : Bool) : String :=
  let line (option : Char × String) : String :=
    let on := s.has option.1
    if asCommands then s!"set {signOf on}o {option.2}\n"
    else
      let blanks := String.ofList (List.replicate (16 - option.2.length) ' ')
      option.2 ++ blanks ++ (if on then "on\n" else "off\n")
  (if asCommands then "" else "Current option settings\n") ++ String.join (optionNames.map line)

/-- Turns the options of a word on or off; gives the other arguments and what is printed. -/
def turnAll (on : Bool) : List Char → List String → Run (List String × String)
  | [], args => pure (args, "")
  | 'o' :: cs, args => do
    match args with
    | [] =>
      let shown := optionListing (← get) (!on)
      let (args, more) ← turnAll on cs []
      pure (args, shown ++ more)
    | name :: args =>
      match optionNames.find? (·.2 = name) with
      | some (option, _) =>
        turn on option
        turnAll on cs args
      | none => fail s!"Illegal option {signOf on}o {name}"
  | c :: cs, args => do
    if 0x20 < c.toNat && optionNames.any (·.1 = c) then
      turn on c
      turnAll on cs args
    else fail s!"Illegal option {signOf on}{c}"

/-- Turns options on and off, and gives the script new arguments. -/
def setOptions : Nat → List String → Run String
  | 0, _ => pure ""
  | _ + 1, [] => pure ""
  | rounds + 1, arg :: args => do
    let behind (on : Bool) (cs : List Char) : Run String := do
      let (args, shown) ← turnAll on cs args
      pure (shown ++ (← setOptions rounds args))
    let newArgs (args : List String) : Run String := do
      modify fun s => { s with args := args, optionNumber := 1, optionPlace := none }
      pure ""
    match arg.toList with
    | ['-'] =>
      turn false 'x'
      turn false 'v'
      if args.isEmpty then pure "" else newArgs args
    | ['-', '-'] => newArgs args
    | '-' :: cs => behind true cs
    | '+' :: cs => behind false cs
    | _ => newArgs (arg :: args)

/-- Turns options on and off and gives the script new arguments, or shows the parameters. -/
def set' : Builtin := fun args => do
  if args.isEmpty then pure (.ofText (listing (← get) "" fun v => v.value.isSome))
  else pure (.ofText (← setOptions (args.length + 1) args))

/-- Drops arguments of the script. -/
def shift : Builtin := fun args => do
  let n ← match args with
    | a :: _ => countOf a
    | [] => pure 1
  let s ← get
  if s.args.length < n then fail "can't shift that many"
  set { s with args := s.args.drop n, optionNumber := 1, optionPlace := none }
  pure {}

/-- Reads the next option of the script, or of the arguments given, into a parameter. -/
def getopts : Builtin := fun args => do
  match args with
  | known :: name :: given =>
    let s ← get
    let given := if given.isEmpty then s.args else given
    let letters := known.toList
    let silent := letters.head? = some ':'
    let inRange := 1 ≤ s.optionNumber && s.optionNumber ≤ given.length + 1
    let number := if inRange then s.optionNumber else 1
    -- what is left of the word that is being read, and the number of the word behind it
    let left : List Char :=
      match s.optionPlace with
      | some place => if inRange then ((given[number - 2]?.getD "").toList.drop place) else []
      | none => []
    let finish (number : Nat) (place : Option Nat) (value : Char) (status : Nat) : Run Reply := do
      assign "OPTIND" (some (toString number))
      modify fun s => { s with optionNumber := number, optionPlace := place }
      assign name (some (String.singleton value))
      pure { status := status }
    let wrong (number : Nat) (place : Option Nat) (c : Char) (mark : Char) (reason : String) :
        Run Reply := do
      if silent then assign "OPTARG" (some (String.singleton c))
      else
        printError reason
        unassign "OPTARG"
      finish number place (if silent then mark else '?') 0
    let option (number : Nat) (word : String) (cs : List Char) : Run Reply := do
      match cs with
      | [] => finish number none '?' 1
      | c :: rest =>
        let place := if rest.isEmpty then none else some (word.length - rest.length)
        let found := (letters.drop (if silent then 1 else 0)).dropWhile (· ≠ c)
        if found.isEmpty || c = ':' then wrong number place c '?' s!"Illegal option -{c}\n"
        else if (found.drop 1).head? ≠ some ':' then
          assign "OPTARG" (some "")
          finish number place c 0
        else if !rest.isEmpty then
          assign "OPTARG" (some (String.ofList rest))
          finish number none c 0
        else match given[number - 1]? with
          | some value =>
            assign "OPTARG" (some value)
            finish (number + 1) none c 0
          | none => wrong number none c ':' s!"No arg for -{c} option\n"
    if !left.isEmpty then option number (given[number - 2]?.getD "") left
    else match given[number - 1]? with
      | some word =>
        match word.toList with
        | ['-', '-'] => finish (number + 1) none '?' 1
        | '-' :: c :: cs => option (number + 1) word (c :: cs)
        | _ => finish number none '?' 1
      | none => finish number none '?' 1
  | _ => fail "Usage: getopts optstring var [arg...]"

/-- Lets texts stand in for words, or shows those that do. -/
def defineAlias : Builtin := fun args => do
  let s ← get
  let line (a : String × String) : String := s!"{a.1}={quotedText a.2}\n"
  if args.isEmpty then pure (.ofText (String.join (s.aliases.map line)))
  else
    let mut reply : Reply := {}
    for a in args do
      let cs := a.toList
      let name := String.ofList (cs.takeWhile (· ≠ '='))
      match cs.dropWhile (· ≠ '='), (← get).aliases.lookup a with
      | _ :: value, _ =>
        modify fun s => { s with
          aliases := s.aliases.filter (·.1 ≠ name) ++ [(name, String.ofList value)] }
      | [], some text => reply := { reply with output := reply.output ++ (line (a, text)).toList }
      | [], none =>
        printError s!"alias: {a} not found\n"
        reply := { reply with status := 1 }
    pure reply

/-- Lets no text stand in for words any more. -/
def unalias : Builtin := fun args => do
  let (found, names) ← optionsOf "a" args
  if !found.isEmpty then modify fun s => { s with aliases := [] }
  let mut status := 0
  for name in names do
    if ((← get).aliases.lookup name).isNone then
      printError s!"unalias: {name} not found\n"
      status := 1
    modify fun s => { s with aliases := s.aliases.filter (·.1 ≠ name) }
  pure { status := status }

/-! ### Folders -/

/-- The path of a folder as it is gone to from another one: dots are followed by the look of the path. -/
def pathFrom (here path : String) : String :=
  let cs := path.toList
  let twoSlashes := cs.head? = some '/' && (cs.drop 1).head? = some '/' && (cs.drop 2).head? ≠ some '/'
  let start := if cs.head? = some '/' then [] else Path.steps here
  let steps := (Path.steps path).foldl (fun steps name =>
    if name = ".." then steps.dropLast else steps ++ [name]) start
  let keepsTwo := twoSlashes || (cs.head? ≠ some '/' && here.toList.take 2 = ['/', '/'])
  (if keepsTwo then "//" else "/") ++ "/".intercalate steps

/-- Goes to a folder. -/
def changeFolder : Builtin := fun args => do
  let (found, args) ← optionsOf "LP" args
  let s ← get
  let goal := match args with
    | [] => (s.value? "HOME").getD ""
    | "-" :: _ => (s.value? "OLDPWD").getD ""
    | path :: _ => path
  let path := if goal.isEmpty then "." else goal
  let physical := found.getLast? = some 'P'
  let isPlain := !(["/", "./", "../"].any fun start => start.toList.isPrefixOf path.toList) &&
    path ≠ "." && path ≠ ".."
  let folders := match s.value? "CDPATH" with
    | some list => if isPlain then (Text.split ':' list.toList).map String.ofList else []
    | none => []
  let candidates := folders.map (fun folder => (Path.join folder path, !folder.isEmpty)) ++ [(path, false)]
  let place (candidate : String) : Option (String × List String) :=
    let logical := pathFrom s.here candidate
    match resolve s.files (if physical then candidate else logical) with
    | .ok (names, .folder) =>
      some (if physical then "/" ++ "/".intercalate (names.map rawName) else logical, names)
    | _ => none
  match candidates.findSome? fun (candidate, shown) => (place candidate).map fun p => (p, shown) with
  | some ((here, names), shown) =>
    set { s with here := here, files := { s.files with here := names } }
    assign "OLDPWD" (some s.here) true
    assign "PWD" (some here) true
    pure (if shown || args.head? = some "-" then .ofText (here ++ "\n") else {})
  | none => fail s!"can't cd to {path}"

/-- Prints the current folder. -/
def printFolder : Builtin := fun args => do
  let (found, _) ← optionsOf "LP" args
  let s ← get
  let physical := "/" ++ "/".intercalate (s.files.here.map Text.Raw.ofText)
  pure (.ofText ((if found.getLast? = some 'P' then physical else s.here) ++ "\n"))

/-- Shows or changes the bits that new files are without. -/
def umask : Builtin := fun args => do
  let (found, args) ← optionsOf "S" args
  match args with
  | [] =>
    let mask := (← get).mask
    if found.isEmpty then pure (.ofText (String.ofList (padDigits 4 8 mask) ++ "\n"))
    else
      let rights (shift : Nat) : String :=
        let bits := mask / Nat.pow 2 shift
        let right (bit : Nat) (letter : String) : String := if bits / bit % 2 = 0 then letter else ""
        right 4 "r" ++ right 2 "w" ++ right 1 "x"
      pure (.ofText s!"u={rights 6},g={rights 3},o={rights 0}\n")
  | a :: _ =>
    if a.toList.head?.any Char.isDigit then
      if a.toList.all isOctal then
        modify fun s => { s with mask := digitsIn 8 a.toList % 0o1000 }
        pure {}
      else fail s!"Illegal number: {a}"
    else fail s!"Illegal mode: {a}"

/-! ### Signals and parts that run apart -/

/-- Lets a signal reach a part of the script, or the shell itself. -/
def sendTo (target signal : Nat) : Run Bool := do
  let s ← get
  if target = s.number then
    if s.ignored.contains signal then pure true
    else match (s.mainTraps.getD s.traps).lookup signal with
      | some action =>
        if !action.isEmpty && signal ≠ 0 then
          set { s with signals := s.signals ++ [signal] }
        pure true
      | none => if Signal.isHarmless signal then pure true else throw (.killed s.number signal)
  else if s.jobs.any (·.number = target) then
    if !Signal.isHarmless signal then
      let ended (j : Job) : Job :=
        if j.number = target then { j with status := 128 + signal, signal := some signal } else j
      set { s with jobs := s.jobs.map ended }
    pure true
  else if s.parents.contains target then
    set { s with sent := s.sent ++ [(target, signal)] }
    pure true
  else pure false

/-- Sends signals, or lists them. -/
def kill : Builtin := fun args => do
  let usage : Run Reply :=
    fail ("Usage: kill [-s sigspec | -signum | -sigspec] [pid | job]... or\n" ++ "kill -l [exitstatus]")
  let first := (args.headD "").toList
  let direct := if first.head? = some '-' then Signal.ofText? 1 (String.ofList (first.drop 1)) else none
  let (signal, list, targets) ← match direct with
    | some n => pure (some n, false, args.drop 1)
    | none =>
      if first.head? ≠ some '-' then pure (none, false, args)
      else
        let size := args.foldl (fun n a => n + a.length + 1) 1
        let (found, rest) ← options "ls:".toList size args
        let mut signal : Option Nat := none
        for (c, value) in found do
          if c = 's' then
            signal := Signal.ofText? 1 value
            if signal.isNone then fail s!"invalid signal number or name: {value}"
        pure (signal, found.any (·.1 = 'l'), rest)
  if list then
    match targets with
    | [] => pure (.ofText ("0\n" ++ String.join (Signal.names.map (· ++ "\n"))))
    | a :: _ =>
      let n ← countOf a
      let n := if 128 < n then n - 128 else n
      if 0 < n && n < Signal.bound then pure (.ofText (Signal.name n ++ "\n"))
      else fail s!"invalid signal number or exit status: {a}"
  else if targets.isEmpty then usage
  else
    let mut status := 0
    for target in targets do
      let n ← countOf target
      if !(← sendTo n (signal.getD 15)) then
        complain "No such process\n"
        status := 1
    pure { status := status }

/-- The actions at signals as they are written. -/
def trapListing (s : State) : String :=
  let shown := s.traps.mergeSort fun a b => a.1 ≤ b.1
  String.join (shown.map fun (n, action) => s!"trap -- {quotedText action} {Signal.name n}\n")

/-- Says what is done at signals, or shows it. -/
def trap : Builtin := fun args => do
  let args ← match args with
    | "-" :: _ => pure args
    | args => (·.2) <$> optionsOf "" args
  match args with
  | [] => pure (.ofText (trapListing (← get)))
  | first :: rest =>
    let isReset := rest.isEmpty || (Signal.ofText? 0 first).isSome && first.toList.all Char.isDigit
    let (action, names) : Option String × List String :=
      if isReset then (none, first :: rest)
      else (if first = "-" then none else some first, rest)
    let mut status := 0
    for name in names do
      match Signal.ofText? 0 name with
      | some n =>
        let change (s : State) : State :=
          let others := s.traps.filter (·.1 ≠ n)
          { s with traps := match action with | some a => (n, a) :: others | none => others }
        if status = 0 then modify change
      | none =>
        if status = 0 then printError s!"trap: {name}: bad trap\n"
        status := 1
    pure { status := status }

/-- Waits for parts that run apart. They have ended already; what has not been told of their ends is. -/
def wait : Builtin := fun args => do
  let (_, args) ← optionsOf "" args
  let mut status := 0
  for a in args do
    if a.toList.head? = some '%' then fail s!"No such job: {a}"
    let n ← countOf a
    match (← get).jobs.find? (·.number = n) with
    | some j =>
      printError ((j.signal.map Signal.lastWords).getD "")
      let told (j : Job) : Job := if j.number = n then { j with signal := none } else j
      modify fun s => { s with jobs := s.jobs.map told }
      status := j.status
    | none => status := 127
  pure { status := status }

/-- Lists the parts that run apart; they have ended already. -/
def jobs : Builtin := fun args => do
  discard (optionsOf "lp" args)
  pure {}

/-- Shows or sets what a program may use. Nothing is limited. -/
def ulimit : Builtin := fun args => do
  let (_, args) ← optionsOf "HSatfdscmlpnvwr" args
  pure (if args.isEmpty then .ofText "unlimited\n" else {})

/-! ### Flow -/

/-- Leaves loops, or goes on with their next round. -/
def leaveLoops (turn : Nat → Turn) : Builtin := fun args => do
  let n ← match args with
    | a :: _ =>
      let n ← countOf a
      if n = 0 then fail s!"Illegal number: {a}" else pure n
    | [] => pure 1
  let s ← get
  set { s with status := 0 }
  if s.loops = 0 then pure {} else throw (turn (min n s.loops))

/-- Ends the function that is run. -/
def giveBack : Builtin := fun args => do
  match args with
  | a :: _ => setStatus (← countOf a)
  | [] => pure ()
  throw .giveBack

/-- Ends the shell. -/
def exit : Builtin := fun args => do
  match args with
  | a :: _ =>
    let n ← countOf a
    throw (.exit (some n))
  | [] => throw (.exit none)

/-- The commands that a shell does itself. -/
def builtins : List (String × Builtin) :=
  let done : Builtin := fun _ => pure {}
  [(":", done), ("[", bracket), ("alias", defineAlias), ("bg", fun _ => fail "No current job"), ("break", leaveLoops .leave),
    ("cd", changeFolder), ("chdir", changeFolder), ("continue", leaveLoops .again), ("echo", echo),
    ("exit", exit), ("export", mark true false "export"), ("false", fun _ => pure { status := 1 }),
    ("fg", fun _ => fail "No current job"), ("getopts", getopts), ("jobs", jobs),
    ("kill", kill), ("local", makeLocal), ("printf", printf), ("pwd", printFolder), ("read", read),
    ("readonly", mark false true "readonly"), ("return", giveBack), ("set", set'), ("shift", shift),
    ("test", test), ("times", fun _ => pure (.ofText "0m0.000000s 0m0.000000s\n0m0.000000s 0m0.000000s\n")),
    ("trap", trap), ("true", done), ("ulimit", ulimit), ("umask", umask), ("unalias", unalias),
    ("unset", unset), ("wait", wait)]

/-- The commands of the shell that run scripts or programs. -/
def runners : List String := [".", "command", "eval", "exec", "hash", "type"]

/-- Is there a command of the shell with the name? -/
def isBuiltin (name : String) : Bool := runners.contains name || (builtins.lookup name).isSome

/-- Is the command of the shell special? -/
def isSpecialName (name : String) : Bool := specialNames.contains name

/-- Does the command give values to parameters in its arguments? -/
def givesValues (name : String) : Bool := ["export", "local", "readonly"].contains name

end LintLedger.Toolbox.Shell
