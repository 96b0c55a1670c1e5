/-!
# Arguments

What the words behind the name of the program ask for. Options come in a long form (`--format json` or
`--format=json`) and most in a short one (`-f json`, `-fjson`, `-f=json`), short options without a value
can be run together, and behind `--` nothing is an option. An option is given once at most, except that
the two options that every command knows can be given before and behind the name of the command, and
the latter counts. The words are read from left to right; the first that asks for help, or makes no
sense, decides.
-/

namespace LintLedger.CommandLine

/-- How a ledger is printed. -/
inductive Format where
  /-- As people read it. -/
  | text
  /-- As JSON. -/
  | json
deriving DecidableEq, Repr

/-- The format with a name. -/
def Format.named? : String → Option Format
  | "text" => some .text
  | "json" => some .json
  | _ => none

/-- What the program is to do. -/
inductive Command where
  /-- Run the tool on files. -/
  | lint (files : List String) (format : Format)
  /-- Take in a report that was captured before. -/
  | parse (document : String) (input : Option String) (format : Format)
  /-- Write a settings file. -/
  | init (force : Bool)
  /-- Serve an editor. -/
  | serve
deriving DecidableEq, Repr

/-- A command with the options that every command knows. -/
structure Invocation where
  /-- The settings file to use. -/
  settings : Option String
  /-- Is more to be told? -/
  verbose : Bool
  /-- The command. -/
  command : Command
deriving DecidableEq, Repr

/-- A topic that help can be had for. -/
inductive Topic where
  /-- The program. -/
  | program
  /-- The command `lint`. -/
  | lint
  /-- The command `parse`. -/
  | parse
  /-- The command `init`. -/
  | init
  /-- The command `lsp`. -/
  | serve
  /-- The command `help`. -/
  | help
deriving DecidableEq, Repr

/-- What the arguments ask for. -/
inductive Request where
  /-- To do something. -/
  | run (i : Invocation)
  /-- To explain something. -/
  | explain (t : Topic)
  /-- To tell the version. -/
  | version
  /-- Nothing that makes sense. -/
  | refused
deriving DecidableEq, Repr

/-- An option. -/
inductive Key where
  /-- The settings file. -/
  | settings
  /-- More is told. -/
  | verbose
  /-- Help. -/
  | help
  /-- The version. -/
  | version
  /-- The document of a report. -/
  | document
  /-- The file of a report. -/
  | input
  /-- How a ledger is printed. -/
  | format
  /-- A file may be replaced. -/
  | force
deriving DecidableEq, Repr

namespace Key

/-- The long form of an option. -/
def long : Key → String
  | .settings => "config"
  | .verbose => "verbose"
  | .help => "help"
  | .version => "version"
  | .document => "document"
  | .input => "input"
  | .format => "format"
  | .force => "force"

/-- The short form of an option, if it has one. -/
def short? : Key → Option Char
  | .settings => some 'c'
  | .verbose => some 'v'
  | .help => some 'h'
  | .version => some 'V'
  | .document => some 'd'
  | .input => some 'i'
  | .format => some 'f'
  | .force => none

/-- Has the option a value? -/
def hasValue : Key → Bool
  | .settings | .document | .input | .format => true
  | .verbose | .help | .version | .force => false

/-- Can the text be the value of the option? -/
def accepts (k : Key) (value : String) : Bool :=
  match k with
  | .settings | .input => !value.isEmpty
  | .format => (Format.named? value).isSome
  | _ => true

end Key

/-- Why reading stops before the end. -/
inductive Stop where
  /-- Help is asked for. -/
  | help
  /-- The version is asked for. -/
  | version
  /-- A word makes no sense. -/
  | refused
deriving DecidableEq, Repr

/-- What has been given. -/
structure Given where
  /-- The options with their values. -/
  options : List (Key × String) := []
  /-- The other words. -/
  words : List String := []

namespace Given

/-- The value of an option, if it was given. -/
def value? (g : Given) (k : Key) : Option String := (g.options.find? (·.1 = k)).map (·.2)

/-- Was the option given? -/
def has (g : Given) (k : Key) : Bool := (g.value? k).isSome

/-- Enters an option. -/
def enter (g : Given) (k : Key) (value : String) : Except Stop Given :=
  match k with
  | .help => .error .help
  | .version => .error .version
  | k =>
    if g.has k || !k.accepts value then .error .refused
    else .ok { g with options := g.options ++ [(k, value)] }

/-- Enters another word, the path of a file. -/
def enterWord (g : Given) (word : String) : Except Stop Given :=
  if word.isEmpty then .error .refused else .ok { g with words := g.words ++ [word] }

end Given

/-- How a word is read. -/
inductive Word where
  /-- Nothing behind it is an option. -/
  | stopper
  /-- A long option, with the value behind its equals sign if there is one. -/
  | long (name : String) (value : Option String)
  /-- Short options, perhaps with a value behind the last. -/
  | short (letters : List Char)
  /-- No option. -/
  | plain
deriving DecidableEq, Repr

/-- Reads a word. A lone dash is no option. -/
def Word.read (word : String) : Word :=
  match word.toList with
  | ['-', '-'] => .stopper
  | '-' :: '-' :: cs =>
    let name := String.ofList (cs.takeWhile (· ≠ '='))
    match cs.dropWhile (· ≠ '=') with
    | _ :: value => .long name (some (String.ofList value))
    | [] => .long name none
  | '-' :: c :: cs => .short (c :: cs)
  | _ => .plain

/-- Reads short options run together. Gives the option that waits for its value, if one does. -/
def readLetters (keys : List Key) (g : Given) : List Char → Except Stop (Given × Option Key)
  | [] => .ok (g, none)
  | c :: cs =>
    match keys.find? (·.short? = some c) with
    | none => .error .refused
    | some k =>
      if k.hasValue then
        match cs with
        | [] => .ok (g, some k)
        | '=' :: value => (g.enter k (String.ofList value)).map (·, none)
        | value => (g.enter k (String.ofList value)).map (·, none)
      else (g.enter k "").bind fun g => readLetters keys g cs

/-- Reads a long option. Gives the option if it waits for its value. -/
def readLong (keys : List Key) (g : Given) (name : String) (value : Option String) :
    Except Stop (Given × Option Key) :=
  match keys.find? (·.long = name), value with
  | none, _ => .error .refused
  | some k, some value =>
    if k.hasValue then (g.enter k value).map (·, none) else .error .refused
  | some k, none =>
    if k.hasValue then .ok (g, some k) else (g.enter k "").map (·, none)

/-- Reads the options at the start of the arguments, up to the first word that is none. Gives the words
from there on, and whether they are behind a stopper. -/
def readOptions (keys : List Key) (g : Given) : List String → Except Stop (Given × Bool × List String)
  | [] => .ok (g, false, [])
  | word :: rest =>
    let read : Except Stop (Given × Option Key) :=
      match Word.read word with
      | .long name value => readLong keys g name value
      | .short letters => readLetters keys g letters
      | _ => .ok (g, none)
    match Word.read word, read with
    | .stopper, _ => .ok (g, true, rest)
    | .plain, _ => .ok (g, false, word :: rest)
    | _, .error stop => .error stop
    | _, .ok (g, none) => readOptions keys g rest
    | _, .ok (g, some k) =>
      match rest with
      | [] => .error .refused
      | value :: rest =>
        match Word.read value with
        | .plain => (g.enter k value).bind fun g => readOptions keys g rest
        | _ => .error .refused

/-- Reads all arguments of a command: options, and files if it takes any. -/
def readAll (keys : List Key) (takesFiles : Bool) : Nat → Given → List String → Except Stop Given
  | 0, _, _ => .error .refused
  | rounds + 1, g, args => do
    match ← readOptions keys g args with
    | (g, false, []) => .ok g
    | (g, true, words) =>
      if takesFiles || words.isEmpty then words.foldlM Given.enterWord g else .error .refused
    | (g, false, word :: rest) =>
      if takesFiles then do readAll keys takesFiles rounds (← g.enterWord word) rest
      else .error .refused

/-- The options that every command knows. -/
def commonKeys : List Key := [.settings, .verbose, .help]

/-- The options of a command. -/
def Topic.keys : Topic → List Key
  | .program => .version :: commonKeys
  | .lint => .format :: commonKeys
  | .parse => .document :: .input :: .format :: commonKeys
  | .init => .force :: commonKeys
  | .serve => commonKeys
  | .help => []

/-- The command with a name. -/
def Topic.named? : String → Option Topic
  | "lint" => some .lint
  | "parse" => some .parse
  | "init" => some .init
  | "lsp" => some .serve
  | "help" => some .help
  | _ => none

/-- The format that was given. -/
def Given.format (g : Given) : Format := ((g.value? .format).bind Format.named?).getD .text

/-- The command that was given with its options; `none` if something is missing. -/
def Given.command? (g : Given) : Topic → Option Command
  | .lint => if g.words.isEmpty then none else some (.lint g.words g.format)
  | .parse => (g.value? .document).map fun d => .parse d (g.value? .input) g.format
  | .init => some (.init (g.has .force))
  | .serve => some .serve
  | _ => none

/-- What a stop asks for. -/
def Stop.request (t : Topic) : Stop → Request
  | .help => .explain t
  | .version => .version
  | .refused => .refused

/-- Reads the arguments behind `help`. -/
def readTopic : List String → Request
  | [] => .explain .program
  | [name] =>
    match Topic.named? name with
    | some t => .explain t
    | none => .refused
  | _ => .refused

/-- Reads the arguments behind the name of a command. -/
def readCommand (common : Given) (t : Topic) (args : List String) : Request :=
  match readAll t.keys (t = .lint) (args.length + 1) {} args with
  | .error stop => stop.request t
  | .ok g =>
    match g.command? t with
    | none => .refused
    | some command => .run {
        settings := (g.value? .settings).or (common.value? .settings)
        verbose := g.has .verbose || common.has .verbose
        command := command }

/-- What the arguments ask for. -/
def Request.read (args : List String) : Request :=
  match readOptions Topic.program.keys {} args with
  | .error stop => stop.request .program
  | .ok (common, false, name :: rest) =>
    match Topic.named? name with
    | some .help => readTopic rest
    | some t => readCommand common t rest
    | none => .refused
  | .ok _ => .refused

end LintLedger.CommandLine
