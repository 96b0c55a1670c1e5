import LintLedger.CommandLine
import LintLedger.Toolbox

/-!
# The program

Everything that the program decides is decided by `LintLedger.CommandLine.perform`, over a file tree and
the bytes of the standard input. What is left to be done here is to make a tree of the current folder
and of the files that the arguments name, to hand over the input if the request reads any, and to carry
out the outcome: output, log, changed files, status.
-/

namespace LintLedger.Main

/-- How many folders inside each other are looked into. -/
def depth : Nat := 12

/-- What is found under an entry of a folder, each with its names from the root on. -/
def found : Nat → IO.FS.DirEntry → IO (List (List String × Entry))
  | 0, _ => pure []
  | depth + 1, e => do
    let names := Path.steps e.path.toString
    if ← e.path.isDir then
      let inside ← (← e.path.readDir).toList.mapM (found depth)
      pure ((names, .folder) :: inside.flatten)
    else
      try
        let content ← IO.FS.readBinFile e.path
        pure [(names, .file content.toList)]
      catch _ => pure []

/-- The file of a path, if there is one: under the names that the path has without links, and so found
by whoever follows the path from the folder it is in. -/
def named (path : String) : IO (List (List String × Entry)) := do
  try
    let content ← IO.FS.readBinFile path
    let place ← IO.FS.realPath path
    pure [(Path.steps place.toString, .file content.toList)]
  catch _ => pure []

/-- The file tree that the program starts with. -/
def surroundings (args : List String) : IO Files := do
  let here ← IO.currentDir
  let inside ← (← here.readDir).toList.mapM (found depth)
  let given ← args.mapM named
  let start : Files := (Files.add { here := [] } (Path.steps here.toString) .folder)
  let tree := (inside.flatten ++ given.flatten).foldl (fun f (names, e) => f.add names e) start
  pure { tree with here := Path.steps here.toString }

/-- Does the request read the standard input? -/
def readsInput (args : List String) : Bool :=
  match CommandLine.Request.read args with
  | .run i => match i.command with
    | .parse _ none _ | .serve => true
    | _ => false
  | _ => false

/-- Are the arguments refused? -/
def isRefused (args : List String) : Bool :=
  match CommandLine.Request.read args with
  | .refused => true
  | _ => false

/-- All bytes of the standard input. -/
def input : IO (List UInt8) := do
  let stream ← IO.getStdin
  let mut bytes := ByteArray.empty
  for _ in [0:0x10000000000] do
    let more ← stream.read 65536
    if more.isEmpty then break
    bytes := bytes ++ more
  pure bytes.toList

/-- Writes the files that were not there before, or not with this content. -/
def save (before after : Files) : IO Unit :=
  for (names, e) in after.entries do
    match e with
    | .file content =>
      if !before.entries.contains (names, e) then
        IO.FS.writeBinFile ("/" ++ "/".intercalate names) ⟨content.toArray⟩
    | _ => pure ()

end LintLedger.Main

open LintLedger in
/-- Runs the program. -/
def main (args : List String) : IO UInt32 := do
  let files ← Main.surroundings args
  let bytes ← if Main.readsInput args then Main.input else pure []
  let outcome := CommandLine.perform (Toolbox.host files) bytes args
  (← IO.getStdout).putStr outcome.output
  for e in outcome.log do
    IO.eprintln e.line
  if Main.isRefused args then
    IO.eprintln "These arguments are not understood. For more information, try '--help'."
  Main.save files outcome.files
  pure (UInt32.ofNat outcome.status)
