/-!
# Signals

The signals by their numbers, as scripts name them, what is said of a program that one of them ended, and
which of them end a program that does nothing about them.
-/

namespace LintLedger.Toolbox.Shell.Signal

/-- The names of the signals from the first on. -/
def names : List String :=
  ["HUP", "INT", "QUIT", "ILL", "TRAP", "ABRT", "BUS", "FPE", "KILL", "USR1", "SEGV", "USR2", "PIPE", "ALRM",
    "TERM", "16", "CHLD", "CONT", "STOP", "TSTP", "TTIN", "TTOU", "URG", "XCPU", "XFSZ", "VTALRM", "PROF",
    "WINCH", "IO", "PWR", "SYS", "32", "33", "RTMIN"] ++
    (List.range 15).map (fun n => s!"RTMIN+{n + 1}") ++
    (List.range 14).map (fun n => s!"RTMAX-{14 - n}") ++ ["RTMAX"]

/-- One more than the greatest signal. -/
def bound : Nat := 65

/-- The name of a signal, or of the end of a script for zero. -/
def name (n : Nat) : String :=
  match n with
  | 0 => "EXIT"
  | n + 1 => names[n]?.getD ""

/-- The number of a signal that is given by its number or its name, from one number on. -/
def ofText? (least : Nat) (s : String) : Option Nat :=
  let cs := s.toList
  if !cs.isEmpty && cs.all Char.isDigit then
    let n := cs.foldl (fun n c => n * 10 + (c.toNat - 0x30)) 0
    if n < bound then some n else none
  else (List.range bound).find? fun n => least ≤ n && name n = s.map Char.toUpper

/-- What is said of a program that a signal ended. -/
def lastWords : Nat → String
  | 1 => "Hangup\n"
  | 3 => "Quit\n"
  | 4 => "Illegal instruction\n"
  | 5 => "Trace/breakpoint trap\n"
  | 6 => "Aborted\n"
  | 7 => "Bus error\n"
  | 8 => "Floating point exception\n"
  | 9 => "Killed\n"
  | 10 => "User defined signal 1\n"
  | 11 => "Segmentation fault\n"
  | 12 => "User defined signal 2\n"
  | 14 => "Alarm clock\n"
  | 15 => "Terminated\n"
  | 16 => "Stack fault\n"
  | 24 => "CPU time limit exceeded\n"
  | 25 => "File size limit exceeded\n"
  | 26 => "Virtual timer expired\n"
  | 27 => "Profiling timer expired\n"
  | 29 => "I/O possible\n"
  | 30 => "Power failure\n"
  | 31 => "Bad system call\n"
  | n => if 34 ≤ n then s!"Real-time signal {n - 34}\n" else ""

/-- Does the signal leave a program running that does nothing about it? -/
def isHarmless (n : Nat) : Bool := [0, 17, 18, 19, 20, 21, 22, 23, 28].contains n

end LintLedger.Toolbox.Shell.Signal
