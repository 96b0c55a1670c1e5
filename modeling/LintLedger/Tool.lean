/-!
# The tool

The tool is a program with fixed arguments, to which the path of the file is added. Running it is not
part of the library: what a run did is an *outcome*, and how it ended is told in a sentence about the
program if it did not end well.
-/

namespace LintLedger

/-- The program that looks at a file. -/
structure Tool where
  /-- The program. -/
  program : String := "verible-verilog-lint"
  /-- The arguments before the path. -/
  args : List String := []
deriving DecidableEq, Repr

namespace Tool

instance : Inhabited Tool := ⟨{}⟩

/-- How a program ended. -/
inductive Ending where
  /-- It exited with a status. -/
  | exited (status : Nat)
  /-- A signal ended it. -/
  | signalled (signal : Nat)
deriving DecidableEq, Repr

/-- Why a program could not be started. -/
inductive SpawnFault where
  /-- There is no such program. -/
  | notFound
  /-- The file is no program. -/
  | notExecutable
  /-- Part of the path is a file. -/
  | notAFolder
  /-- An argument holds a zero character. -/
  | zeroCharacter
  /-- A name is too long. -/
  | nameTooLong
  /-- Links lead to links without end. -/
  | linkLoop
deriving DecidableEq, Repr

/-- The wording of a fault. -/
def SpawnFault.message : SpawnFault → String
  | .notFound => "No such file or directory (os error 2)"
  | .notExecutable => "Permission denied (os error 13)"
  | .notAFolder => "Not a directory (os error 20)"
  | .zeroCharacter => "nul byte found in provided data"
  | .nameTooLong => "File name too long (os error 36)"
  | .linkLoop => "Too many levels of symbolic links (os error 40)"

/-- What a run of the tool did. -/
structure Outcome where
  /-- How it ended. -/
  ending : Ending
  /-- What it printed. -/
  output : String
  /-- What it printed as errors. -/
  errors : String
deriving DecidableEq, Repr

/-- The name of a signal. -/
def signalName? : Nat → Option String
  | 1 => some "SIGHUP" | 2 => some "SIGINT" | 3 => some "SIGQUIT" | 4 => some "SIGILL"
  | 5 => some "SIGTRAP" | 6 => some "SIGABRT" | 7 => some "SIGBUS" | 8 => some "SIGFPE"
  | 9 => some "SIGKILL" | 10 => some "SIGUSR1" | 11 => some "SIGSEGV" | 12 => some "SIGUSR2"
  | 13 => some "SIGPIPE" | 14 => some "SIGALRM" | 15 => some "SIGTERM" | 16 => some "SIGSTKFLT"
  | 17 => some "SIGCHLD" | 18 => some "SIGCONT" | 19 => some "SIGSTOP" | 20 => some "SIGTSTP"
  | 21 => some "SIGTTIN" | 22 => some "SIGTTOU" | 23 => some "SIGURG" | 24 => some "SIGXCPU"
  | 25 => some "SIGXFSZ" | 26 => some "SIGVTALRM" | 27 => some "SIGPROF" | 28 => some "SIGWINCH"
  | 29 => some "SIGIO" | 30 => some "SIGPWR" | 31 => some "SIGSYS"
  | _ => none

/-- How a program ended, in words. -/
def Ending.message : Ending → String
  | .exited status => s!"exit status: {status}"
  | .signalled signal =>
    match signalName? signal with
    | some name => s!"signal: {signal} ({name})"
    | none => s!"signal: {signal}"

/-- What is told about a run that did not end well. -/
def status? (t : Tool) (o : Outcome) : Option String :=
  if o.ending = .exited 0 then none
  else some s!"`{t.program}` exited with {o.ending.message}"

/-- What is told about a program that could not be started. -/
def spawnMessage (t : Tool) (fault : SpawnFault) : String :=
  s!"Failed to run `{t.program}`: {fault.message}"

end Tool
end LintLedger
