import LintLedger.Toolbox.Shell.Builtin

/-!
# Running scripts

What the commands of a script do, one after the other (`Shell.step`). What the programs do that a script
starts is a parameter (`Programs`). A script is run by rounds, of which every step into a part of it takes
one and every round of a loop as well, so a loop without end is broken off.
-/

namespace LintLedger.Toolbox.Shell

/-! ### Programs -/

/-- What a program is started with. -/
structure Call where
  /-- The name under which it is called. -/
  name : String
  /-- Its arguments. -/
  args : List String
  /-- Its input. -/
  input : List Char := []
  /-- The parameters that it knows, with their values. -/
  environment : List (String × String) := []
  /-- The files. -/
  files : Files
  /-- Is its input a folder? -/
  isFolder : Bool := false
  /-- Can it print? -/
  writes : Bool := true
  /-- The numbers of the shells that it runs in. -/
  parents : List Nat := []
  /-- The signals that it lets pass. -/
  ignored : List Nat := []

/-- The programs that there are. -/
structure Programs where
  /-- Is there one with the name? -/
  has : String → Bool
  /-- What the one with the name does. -/
  run : String → Call → Printed

/-- The folders in which the programs lie. -/
def programFolders : List String := ["/usr/bin", "/bin"]

/-- What a name of a program stands for. -/
inductive Found where
  /-- The program, which lies at a path. -/
  | program (name path : String)
  /-- Something that cannot be started. -/
  | refused (reason : String) (status : Nat)
  /-- Nothing. -/
  | nothing

/-- Why a file cannot be used, in the words that fit what was tried. -/
def reasonOf (missing : String) : Files.Fault → String
  | .linkLoop => "Too many levels of symbolic links"
  | .nameTooLong => "File name too long"
  | .notPermitted => "Permission denied"
  | .mediumFails => "Input/output error"
  | _ => missing

/-- What lies at a path. -/
def Programs.at (p : Programs) (s : State) (path : String) : Found :=
  let names := Path.names path
  let name := names.getLast?.getD ""
  if programFolders.contains ("/".intercalate names.dropLast) && p.has name then .program name path
  else match resolve s.files path with
    | .ok _ => .refused "Permission denied" 126
    | .error .linkLoop => .refused "Too many levels of symbolic links" 126
    | .error .nameTooLong => .refused "File name too long" 126
    | .error _ => .nothing

/-- What the name of a command stands for that is not one of the shell's own. -/
def Programs.find (p : Programs) (s : State) (name : String) : Found :=
  if name.toList.contains '/' then p.at s name
  else
    let folders := (Text.split ':' ((s.value? "PATH").getD "").toList).map String.ofList
    let found := folders.map fun folder =>
      if name.isEmpty then .refused "Permission denied" 127
      else match p.at s (Path.join folder name) with
        | .refused .. =>
          match resolve s.files (Path.join folder name) with
          | .ok (_, .file _) => .refused "Permission denied" 127
          | _ => .nothing
        | found => found
    let isProgram (f : Found) : Bool := match f with | .program .. => true | _ => false
    let isRefused (f : Found) : Bool := match f with | .refused .. => true | _ => false
    ((found.find? isProgram) <|> (found.find? isRefused)).getD .nothing

/-! ### The runner -/

/-- What a step has at hand for the parts of a script that lie inside it. -/
structure Runner where
  /-- The programs. -/
  programs : Programs
  /-- Runs a part. If it is tested, its status is asked for, and a bad one does not end the shell. -/
  script : (tested : Bool) → Script → Run Unit
  /-- The rounds that are left. -/
  rounds : Nat

namespace Runner

/-- Runs a script line by line. -/
def lines (r : Runner) (tested : Bool) : Nat → Reading → Run Unit
  | 0, _ => fail "Script too long"
  | rounds + 1, reading => do
    match readLine { reading with aliases := (← get).aliases } with
    | .error fault =>
      modify fun s => { s with line := fault.line }
      fail s!"Syntax error: {fault.reason}"
    | .ok (none, _) => pure ()
    | .ok (some script, reading) => do
      modify fun s => { s with documents := reading.documents }
      r.script tested script
      r.lines tested rounds reading

/-- Runs the text of a script. -/
def text (r : Runner) (tested : Bool) (cs : List Char) : Run Unit := do
  let documents := (← get).documents
  r.lines tested (cs.length + 2)
    { rest := cs, documents := documents, announced := documents.length }

/-- Tells how a program ended, and takes its status. -/
def settle (ending : Tool.Ending) : Run Unit := do
  match ending with
  | .exited n => setStatus n
  | .signalled n =>
    printError (Signal.lastWords n)
    setStatus (128 + n)

/-- Ends a shell: what is to be done at the end is done, and the status is found. -/
def finish (r : Runner) (turn : Except Turn Unit) : Run Tool.Ending := do
  match turn with
  | .error (.replaced ending) => pure ending
  | .error (.killed number signal) => throw (.killed number signal)
  | turn =>
    let s ← get
    let status := match turn with
      | .error (.exit (some n)) => n
      | _ => s.status
    match s.traps.lookup 0 with
    | none => pure (.exited (status % 256))
    | some action =>
      set { s with status := status, loops := 0, traps := s.traps.filter (·.1 ≠ 0) }
      match ← attempt (r.text false action.toList) with
      | .error (.killed number signal) => throw (.killed number signal)
      | .error (.replaced ending) => pure ending
      | .error (.exit (some n)) => pure (.exited (n % 256))
      | .error .fault => pure (.exited 2)
      | _ => pure (.exited (status % 256))

/-- Runs a step in a shell of its own: all that it changes is forgotten, but for the files, what was
written and read, and what is told of its end. -/
def apart (r : Runner) (prepare : State → State) (step : Run Unit) : Run Tool.Ending := do
  let s ← get
  set (prepare { s with
    next := s.next + 1
    traps := s.traps.filter (·.2.isEmpty)
    mainTraps := s.mainTraps <|> some s.traps
    yields := false })
  let result ← attempt do r.finish (← attempt step)
  let t ← get
  set { s with
    files := { t.files with here := s.files.here }
    channels := t.channels
    prints := t.prints
    next := t.next
    sent := t.sent
    signals := t.signals }
  match result with
  | .ok ending => pure ending
  | .error (.killed number signal) =>
    -- a shell that runs apart has the number of the one that it comes from
    discard (sendTo number signal)
    pure (.exited (128 + signal))
  | .error turn => throw turn

/-- Runs a script in a shell of its own, and gives what it prints. -/
def output (r : Runner) (script : Script) : Run (List Char) := do
  let s ← get
  let (channel, s) := s.addChannel (.sink [])
  set s
  let ending ← r.apart (·.lead 1 (some ⟨channel, false, true⟩)) (r.script false script)
  let before := (← get).status
  settle ending
  modify fun s => { s with outputStatus := s.status, status := before }
  pure ((← get).written channel)

/-- How words are put together. -/
def expander (r : Runner) : Expander := ⟨r.output, r.rounds⟩

/-! ### Redirections -/

/-- Lets a stream lead to a new channel. -/
def leadTo (stream : Nat) (c : Channel) (reads writes : Bool) : Run Unit :=
  modify fun s =>
    let (n, s) := s.addChannel c
    s.lead stream (some ⟨n, reads, writes⟩)

/-- The stream that a path names, and nothing for a path that leads to no stream. -/
def deviceStream? : String → Option Nat
  | "/dev/stdin" | "/dev/fd/0" => some 0
  | "/dev/stdout" | "/dev/fd/1" => some 1
  | "/dev/stderr" | "/dev/fd/2" => some 2
  | _ => none

/-- Lets a stream lead where another one does. -/
def duplicate (stream source : Nat) : Run Unit := do
  match (← get).streams.lookup source with
  | some lead => modify (·.lead stream (some lead))
  | none => fail s!"{source}: Bad file descriptor"

/-- Lets a stream read a file. -/
def openToRead (stream : Nat) (path : String) : Run Unit := do
  let f := (← get).files
  let wrong (fault : Files.Fault) : Run Unit :=
    let reason := reasonOf "No such file" fault
    fail s!"cannot open {path}: {reason}"
  match deviceStream? path, resolve f path with
  | some source, _ => duplicate stream source
  | none, .ok (place, .file _) =>
    match f.fault? place with
    | some fault => wrong fault
    | none => leadTo stream (.file place 0 false) true false
  | none, .ok _ => leadTo stream .folder true false
  | none, .error fault => if path = "/dev/null" then leadTo stream .nowhere true false else wrong fault

/-- The place of a file that is to be written, and whether it is there already. -/
def placeOf (path : String) : Run (List String × Bool) := do
  let f := (← get).files
  let wrong {α : Type} (reason : String) : Run α := fail s!"cannot create {path}: {reason}"
  match resolve f path with
  | .ok (place, .file _) => pure (place, true)
  | .ok _ => wrong "Is a directory"
  | .error .notFound =>
    let folder := Path.folder path
    match resolve f (if folder.isEmpty then "." else folder), (Path.steps path).getLast? with
    | .ok (names, .folder), some last =>
      if path.toList.getLast? = some '/' then wrong "Is a directory"
      else pure (names ++ [Path.nameOfBytes (Text.Raw.bytesOf last)], false)
    | _, _ => wrong "Directory nonexistent"
  | .error fault => wrong (reasonOf "Directory nonexistent" fault)

/-- Lets a stream write a file. -/
def openToWrite (stream : Nat) (path : String) (keeps appends reads fresh : Bool) : Run Unit := do
  match deviceStream? path with
  | some source => duplicate stream source
  | none =>
    if path = "/dev/null" then leadTo stream .nowhere reads true
    else
      let (place, there) ← placeOf path
      if there && fresh then fail s!"cannot create {path}: File exists"
      if !(there && keeps) then
        modify fun s => { s with files := s.files.put place (.file []) }
      leadTo stream (.file place 0 appends) reads true

/-- Puts the word of a redirection together; the redirection is followed later. -/
def prepare (r : Runner) : Redirect → Run (Run Unit)
  | .mk stream goal => do
    match goal with
    | .read place =>
      let path ← r.expander.text place
      pure (openToRead stream path)
    | .write place forced =>
      let path ← r.expander.text place
      pure do
        let fresh := !forced && (← get).has 'C'
        openToWrite stream path false false false fresh
    | .append place =>
      let path ← r.expander.text place
      pure (openToWrite stream path true true false false)
    | .update place =>
      let path ← r.expander.text place
      pure (openToWrite stream path true false true false)
    | .duplicate target =>
      match (← r.expander.text target).toList with
      | ['-'] => pure (modify (·.lead stream none))
      | [c] =>
        if c.isDigit then pure (duplicate stream (c.toNat - 0x30))
        else fail "Syntax error: Bad fd number"
      | _ => fail "Syntax error: Bad fd number"
    | .document number =>
      let text ← r.expander.text (((← get).documents.lookup number).getD [])
      pure (leadTo stream (.source text.toList) true false)

/-- Follows redirections; says whether that could be done. Where it cannot, the status tells so. -/
def follow (r : Runner) (redirects : List Redirect) : Run Bool := do
  let actions ← redirects.mapM r.prepare
  match ← attempt (actions.forM id) with
  | .ok () => pure true
  | .error .fault => pure false
  | .error turn => throw turn

/-- Runs a step with redirections, which end behind it. -/
def redirected (r : Runner) (redirects : List Redirect) (step : Run Unit) : Run Unit := do
  let streams := (← get).streams
  let restore : Run Unit := modify fun s => { s with streams := streams }
  let result ← attempt do
    if ← r.follow redirects then step
  restore
  match result with
  | .ok () => pure ()
  | .error turn => throw turn

/-! ### Commands of words -/

/-- The command that `command` runs, with its arguments; nothing, if it does something else. -/
def plainCommand? : List String → Option (List String)
  | [] => none
  | arg :: args =>
    match arg.toList with
    | ['-', '-'] => if args.isEmpty then none else some args
    | '-' :: c :: cs => if (c :: cs).all (· = 'p') then plainCommand? args else none
    | _ => some (arg :: args)

/-- Puts the words of a command together. Words that give values to parameters are not cut where the
command is one that does so. -/
def commandFields (r : Runner) : List Word → List String → Run (List String)
  | [], fields => pure fields
  | w :: ws, fields => do
    let values := (fields.find? (· ≠ "command")).any givesValues
    let more ← match (if values then assignment? w else none) with
      | some (name, value) => do
        pure [name ++ "=" ++ (← r.expander.assigned value)]
      | none => r.expander.fields w
    r.commandFields ws (fields ++ more)

/-- What a name means to the shell, and whether it means anything. -/
def describe (r : Runner) (name : String) (atLength : Bool) : Run Reply := do
  let s ← get
  let reply (brief long : String) : Reply := .ofText ((if atLength then name ++ long else brief) ++ "\n")
  if (Keyword.written.lookup name).isSome then pure (reply name " is a shell keyword")
  else if let some text := s.aliases.lookup name then
    pure (reply s!"alias {name}={quotedText text}" s!" is an alias for {text}")
  else if isBuiltin name && isSpecialName name then pure (reply name " is a special shell builtin")
  else if (s.functions.lookup name).isSome then pure (reply name " is a shell function")
  else if isBuiltin name then pure (reply name " is a shell builtin")
  else
    let isFile := match resolve s.files name with
      | .ok (_, .file _) => true
      | _ => false
    match r.programs.find s name with
    | .program _ path =>
      let known := s.tracked.contains name
      if !name.toList.contains '/' && !known then set { s with tracked := name :: s.tracked }
      pure (reply path ((if known then " is a tracked alias for " else " is ") ++ path))
    | _ =>
      if name.toList.contains '/' && isFile then pure (reply name s!" is {name}")
      else if atLength then pure (.ofText s!"{name}: not found\n" 127)
      else pure { status := 127 }

/-- Starts a program in the place of the shell. -/
def call (r : Runner) (name : String) (program : String) (args : List String) : Run Tool.Ending := do
  let s ← get
  let input := s.streams.lookup 0
  let environment := s.vars.filterMap fun (n, v) =>
    if v.exported then v.value.map fun value => (n, value) else none
  let p := r.programs.run program
    { name := name
      args := args
      input := (input.map fun lead => s.left lead.channel).getD []
      environment := environment
      files := s.files
      isFolder := input.any fun lead => match s.channel lead.channel with | .folder => true | _ => false
      writes := (s.streams.lookup 1).any Lead.writes
      parents := s.number :: s.parents
      ignored := s.ignored ++ (s.traps.filter (·.2.isEmpty)).map (·.1) }
  match p.files with
  | some files => modify fun s => { s with files := { files with here := s.files.here } }
  | none => pure ()
  match input with
  | some lead => modify (·.readTo lead.channel p.input)
  | none => pure ()
  for (stream, cs) in p.prints do
    discard (printTo (match stream with | .output => 1 | .errors => 2) cs)
  for (number, signal) in p.sent do
    discard (sendTo number signal)
  pure p.ending

/-- The script of a file that a script names. -/
def scriptOf (name : String) : Run (String × List Char) := do
  let s ← get
  let folders := (Text.split ':' ((s.value? "PATH").getD "").toList).map String.ofList
  let candidates := if name.toList.contains '/' then [name]
    else folders.map fun folder => Path.join folder name
  let found := candidates.findSome? fun path =>
    match s.files.read (Text.Raw.bytesOf path) with
    | .ok content => some (path, Text.Raw.ofBytes content)
    | .error .isAFolder => if name.toList.contains '/' then some (path, []) else none
    | .error _ => none
  match found with
  | some found => pure found
  | none =>
    if name.toList.contains '/' then fail s!"cannot open {name}: No such file" else fail s!"{name}: not found"

/-- The commands of the shell that run scripts or programs. -/
def runner (r : Runner) (tested : Bool) : String → Builtin
  | "eval", args => do
    setStatus 0
    r.text tested (" ".intercalate args).toList
    pure { status := (← get).status }
  | ".", args => do
    let (_, args) ← optionsOf "" args
    match args with
    | [] => pure {}
    | name :: _ =>
      let (path, cs) ← scriptOf name
      modify fun s => { s with command := some path, status := 0 }
      match ← attempt (r.text tested cs) with
      | .ok () | .error .giveBack => pure ()
      | .error turn => throw turn
      pure { status := (← get).status }
  | "exec", args => do
    match args with
    | [] => pure {}
    | name :: args =>
      match r.programs.find (← get) name with
      | .program program _ => throw (.replaced (← r.call name program args))
      | found =>
        let (reason, status) := match found with
          | .refused reason status => (reason, status)
          | _ => ("not found", 127)
        complain s!"{name}: {reason}"
        throw (.exit (some status))
  | "command", args => do
    let (found, args) ← optionsOf "pvV" args
    match args with
    | name :: _ =>
      if found.contains 'V' then r.describe name true
      else if found.contains 'v' then r.describe name false
      else pure {}
    | [] => pure {}
  | "hash", args => do
    let (found, args) ← optionsOf "rv" args
    if !found.isEmpty then
      modify fun s => { s with tracked := [] }
      pure {}
    else if args.isEmpty then
      let s ← get
      let path (name : String) : String :=
        match r.programs.find s name with
        | .program _ path => path ++ "\n"
        | _ => ""
      pure (.ofText (String.join (s.tracked.map path)))
    else
      let mut status := 0
      for name in args do
        let reply ← r.describe name false
        if reply.status ≠ 0 then
          complain s!"{name}: not found"
          status := 1
      pure { status := status }
  | _, args => do
    let mut reply : Reply := {}
    for name in args do
      let next ← r.describe name true
      reply := { output := reply.output ++ next.output, status := max reply.status next.status }
    pure reply

/-- Runs a command of the shell. What is wrong ends the shell if the command is special. -/
def own (r : Runner) (tested special : Bool) (name : String) (args : List String) : Run Unit := do
  let before := (← get).command
  modify fun s => { s with command := some name, yields := false }
  let body : Builtin := match builtins.lookup name with
    | some body => body
    | none => r.runner tested name
  let result ← attempt do
    let reply ← body args
    setStatus reply.status
    if !(← printTo 1 reply.output) then
      complain s!"{name}: I/O error"
      modify fun s => { s with status := s.status ||| 1 }
  modify fun s => { s with command := before }
  match result with
  | .ok () => pure ()
  | .error .fault => if special then throw .fault
  | .error turn => throw turn

/-- The number of functions that may be run inside each other. -/
def deepest : Nat := 1000

/-- Restores the parameters that a function has hidden. -/
def reveal (hidden : List (String × Option Variable)) : Run Unit :=
  modify fun s => hidden.foldl (fun s (name, old) =>
    match old with
    | some v => s.putVariable name v
    | none => { s with vars := s.vars.filter (·.1 ≠ name) }) s

/-- Runs a function. -/
def function (r : Runner) (tested : Bool) (body : Script) (args : List String) : Run Unit := do
  let s ← get
  if deepest ≤ s.depth then fail s!"Maximum function recursion depth ({deepest}) reached"
  set { s with
    args := args, loops := 0, depth := s.depth + 1, hidden := some [], yields := false, optionNumber := 1
    optionPlace := none }
  let result ← attempt (r.script tested body)
  reveal ((← get).hidden.getD [])
  modify fun t => { t with
    args := s.args, loops := s.loops, depth := s.depth, hidden := s.hidden
    optionNumber := s.optionNumber, optionPlace := s.optionPlace }
  match result with
  | .ok () | .error .giveBack => pure ()
  | .error turn => throw turn

/-- Starts a program and waits for its end. -/
def program (r : Runner) (name : String) (args : List String) : Run Unit := do
  let s ← get
  match r.programs.find s name with
  | .program program _ =>
    if !name.toList.contains '/' && !s.tracked.contains name then
      set { s with tracked := name :: s.tracked }
    let ending ← r.call name program args
    if s.yields then throw (.replaced ending) else settle ending
  | .refused reason status =>
    complain s!"{name}: {reason}"
    setStatus status
  | .nothing =>
    complain s!"{name}: not found"
    setStatus 127

/-- Shows a command before it is run, on the stream for complaints as it was before the redirections. -/
def announce (r : Runner) (errors : Option Lead) (shown : List String) : Run Unit := do
  let s ← get
  if s.has 'x' then
    let sign ← match readText ((s.value? "PS4").getD "").toList with
      | .ok w =>
        set { s with options := s.options.filter (· ≠ 'x') }
        let text ← r.expander.text w
        modify fun t => { t with options := s.options }
        pure text
      | .error _ => pure ((s.value? "PS4").getD "")
    match errors with
    | some lead =>
      let line := sign ++ " ".intercalate shown ++ "\n"
      modify fun s => s.write lead.channel line.toList
    | none => pure ()

/-- Does what has to be done at the signals that came. -/
def handle (r : Runner) : Nat → Run Unit
  | 0 => pure ()
  | rounds + 1 => do
    let s ← get
    match s.signals, s.mainTraps with
    | [], _ | _, some _ => pure ()
    | signal :: signals, none =>
      set { s with signals := signals }
      r.text false ((s.traps.lookup signal).getD "").toList
      setStatus s.status
      r.handle rounds

/-- Gives parameters the values of a command. They last only as long as the command if `passing` holds;
gives what is to be restored, and how the values are shown. -/
def giveValues (r : Runner) (passing exported : Bool) :
    List (String × Word) → Run (List (String × Option Variable) × List String)
  | [] => pure ([], [])
  | (name, w) :: rest => do
    let value ← r.expander.assigned w
    let old := (← get).vars.lookup name
    assign name (some value) (passing || exported)
    let (restored, shown) ← r.giveValues passing exported rest
    pure (restored ++ (if passing then [(name, old)] else []), s!"{name}={value}" :: shown)

/-- Runs a command of words. -/
def simple (r : Runner) (tested : Bool) (line : Nat) (assignments : List (String × Word))
    (words : List Word) (redirects : List Redirect) : Run Unit := do
  modify fun s => { s with line := line, outputStatus := 0 }
  let written ← r.commandFields words []
  let (fields, plain) := stripped written.length written false
  let s ← get
  let name := fields.headD ""
  let body := if plain || isSpecialName name then none else s.functions.lookup name
  let isOwn := body.isNone && !fields.isEmpty && isBuiltin name
  let special := isOwn && isSpecialName name && !plain
  let errors := s.streams.lookup 2
  let result ← attempt do
    let actions ← redirects.mapM r.prepare
    match ← attempt (actions.forM id) with
    | .error .fault => if special then throw .fault
    | .error turn => throw turn
    | .ok () =>
      let passing := !fields.isEmpty && !special
      let isCall := name = "exec" && isOwn && 1 < fields.length
      let (restored, shown) ← r.giveValues passing isCall assignments
      r.announce errors (shown ++ written)
      let result ← attempt do
        match body with
        | some body => r.function tested body (fields.drop 1)
        | none =>
          if fields.isEmpty then setStatus (← get).outputStatus
          else if isOwn then r.own tested special name (fields.drop 1)
          else r.program name (fields.drop 1)
      reveal restored
      match result with
      | .ok () => pure ()
      | .error turn => throw turn
  let kept := match result with
    | .ok () => isOwn && name = "exec"
    | .error _ => false
  if !kept then modify fun t => { t with streams := s.streams }
  match result with
  | .ok () => pure ()
  | .error turn => throw turn
where
  /-- Strips the command that only keeps functions away; says whether it was there. -/
  stripped : Nat → List String → Bool → List String × Bool
    | rounds + 1, "command" :: args, plain =>
      match plainCommand? args with
      | some fields => stripped rounds fields true
      | none => ("command" :: args, plain)
    | _, fields, plain => (fields, plain)

/-! ### Scripts -/

/-- Ends the shell at a bad status, if that is asked for and the status is not tested. -/
def check (tested : Bool) : Run Unit := do
  let s ← get
  if s.has 'e' && !tested && s.status ≠ 0 then throw (.exit none)

/-- Runs the parts of a pipe, each apart, one behind the other; `input` is what the next one reads. -/
def pipe (r : Runner) (tested : Bool) : List Script → Option (List Char) → Run Unit
  | [], _ => pure ()
  | script :: rest, input => do
    let s ← get
    let (source, s) := match input with
      | some cs =>
        let (n, s) := s.addChannel (.source cs)
        (some n, s)
      | none => (none, s)
    let (sink, s) := s.addChannel (.sink [])
    set s
    let prepare (s : State) : State :=
      let s := match source with
        | some n => s.lead 0 (some ⟨n, true, false⟩)
        | none => s
      if rest.isEmpty then s else s.lead 1 (some ⟨sink, false, true⟩)
    settle (← r.apart prepare (r.script tested script))
    let written := (← get).written sink
    r.pipe tested rest (some written)

/-- Runs a round of a loop; says whether another one may follow. -/
def round (step : Run Bool) : Run Bool := do
  modify fun s => { s with loops := s.loops + 1 }
  let result ← attempt step
  modify fun s => { s with loops := s.loops - 1 }
  match result with
  | .ok goesOn => pure goesOn
  | .error (.leave n) => if n ≤ 1 then pure false else throw (.leave (n - 1))
  | .error (.again n) => if n ≤ 1 then pure true else throw (.again (n - 1))
  | .error turn => throw turn

/-- Runs a loop that goes on as long as its condition ends well, or does not; `status` is the status of
the last round. -/
def loop (r : Runner) (tested : Bool) (condition body : Script) (wanted : Bool) : Nat → Nat → Run Unit
  | 0, _ => fail "Loop too long"
  | rounds + 1, status => do
    let goesOn ← round do
      r.script true condition
      if ((← get).status = 0 : Bool) = wanted then
        r.script tested body
        pure true
      else
        setStatus status
        pure false
    if goesOn then
      let status := (← get).status
      r.loop tested condition body wanted rounds status

/-- Runs a loop over values of a parameter. -/
def each (r : Runner) (tested : Bool) (name : String) (body : Script) : List String → Run Unit
  | [] => pure ()
  | value :: rest => do
    assign name (some value)
    let goesOn ← round do
      r.script tested body
      pure true
    if goesOn then r.each tested name body rest

/-- The body of the first branch that fits a text, if there is one. -/
def branch? (r : Runner) (text : List Char) : List (List Word × Script) → Run (Option Script)
  | [] => pure none
  | (patterns, body) :: rest => do
    let rec fits : List Word → Run Bool
      | [] => pure false
      | w :: ws => do
        if (Pattern.ofMarks (← r.expander.marks w)).fits text then pure true else fits ws
    if ← fits patterns then pure (some body) else r.branch? text rest

/-- Runs a part of a script. -/
def step (r : Runner) (tested : Bool) (script : Script) : Run Unit := do
  match script with
  | .empty => pure ()
  | .simple line assignments words redirects =>
    r.simple tested line assignments words redirects
    r.handle r.rounds
    check tested
  | .pipe commands =>
    r.pipe tested commands none
    r.handle r.rounds
    check tested
  | .both first second =>
    r.script true first
    if (← get).status = 0 then r.script tested second
  | .either first second =>
    r.script true first
    if (← get).status ≠ 0 then r.script tested second
  | .follow first second =>
    r.script tested first
    r.script tested second
  | .negate s =>
    r.script true s
    modify fun s => { s with status := if s.status = 0 then 1 else 0 }
  | .apart line s redirects =>
    modify fun s => { s with line := line }
    r.redirected redirects do
      settle (← r.apart id (r.script tested s))
    r.handle r.rounds
    check tested
  | .background line s =>
    modify fun s => { s with line := line }
    let number := (← get).next
    let (channel, t) := (← get).addChannel .nowhere
    set t
    let yields := match s with
      | .simple .. => true
      | _ => false
    let prepare (t : State) : State := { t.lead 0 (some ⟨channel, true, false⟩) with yields := yields }
    let ending ← r.apart prepare (r.script tested s)
    let job : Job := match ending with
      | .exited n => { number := number, status := n }
      | .signalled n => { number := number, status := 128 + n, signal := some n }
    modify fun s => { s with jobs := job :: s.jobs, status := 0 }
  | .choose condition yes no =>
    r.script true condition
    match (← get).status, no with
    | 0, _ => r.script tested yes
    | _, .empty => setStatus 0
    | _, no => r.script tested no
  | .loop condition body wanted => r.loop tested condition body wanted r.rounds 0
  | .each line name words body =>
    modify fun s => { s with line := line }
    let values ← match words with
      | some words => r.expander.allFields words
      | none => pure (← get).args
    if values.isEmpty then setStatus 0 else r.each tested name body values
  | .select line word branches =>
    modify fun s => { s with line := line }
    let text ← r.expander.text word
    match ← r.branch? text.toList branches with
    | none | some .empty => setStatus 0
    | some body => r.script tested body
  | .redirected line s redirects =>
    modify fun s => { s with line := line }
    r.redirected redirects (r.script tested s)
  | .define name body =>
    modify fun s =>
      let others := s.functions.filter (·.1 ≠ name)
      { s with functions := (name, body) :: others, status := 0 }

end Runner

/-- Runs a part of a script, by so many rounds. -/
def run (p : Programs) : Nat → Bool → Script → Run Unit
  | 0, _, _ => fail "Script too deep"
  | rounds + 1, tested, script => do
    if !(← get).has 'n' then
      Runner.step { programs := p, script := run p rounds, rounds := rounds } tested script

/-- The rounds of a script. -/
def rounds : Nat := 1000000

/-- The numbers of the channels and streams of a shell that is started. -/
def standardStreams : List (Nat × Lead) :=
  [(0, ⟨0, true, false⟩), (1, ⟨1, false, true⟩), (2, ⟨2, false, true⟩)]

/-- Runs a script in a shell. -/
def runScript (p : Programs) (s : State) (script : List Char) : Printed :=
  let r : Runner := { programs := p, script := run p rounds, rounds := rounds }
  let (result, s) := (do r.finish (← attempt (r.text false script)) : Run Tool.Ending) s
  let ending : Tool.Ending := match result with
    | .ok ending => ending
    | .error (.killed _ signal) => .signalled signal
    | .error _ => .exited 2
  { prints := s.prints.reverse
    input := s.left 0
    files := some s.files
    sent := s.sent
    ending := ending }

end LintLedger.Toolbox.Shell
