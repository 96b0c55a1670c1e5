import LintLedger.CommandLine.Arguments

/-!
# Help

What is printed for each topic: what it is about, how it is written, and its arguments and options in
columns.
-/

namespace LintLedger.CommandLine

/-- A row of a list in two columns. -/
structure Row where
  /-- The left column. -/
  form : String
  /-- The right column. -/
  meaning : String

/-- A list under a heading, the right column two blanks behind the longest left one. -/
def listUnder (heading : String) (rows : List Row) : String :=
  let width := (rows.map (·.form.length)).foldl max 0
  s!"\n{heading}:\n" ++ String.join (rows.map fun e =>
    "  " ++ e.form ++ "".pushn ' ' (width - e.form.length + 2) ++ e.meaning ++ "\n")

/-- The row of an option. -/
def Key.row : Key → Row
  | .settings => ⟨"-c, --config <CONFIG>", "Configuration file path"⟩
  | .verbose => ⟨"-v, --verbose", "Enable verbose output"⟩
  | .help => ⟨"-h, --help", "Print help"⟩
  | .version => ⟨"-V, --version", "Print version"⟩
  | .document => ⟨"-d, --document <DOCUMENT>", "Document the output belongs to"⟩
  | .input => ⟨"-i, --input <INPUT>", "File holding the output (reads stdin when omitted)"⟩
  | .format => ⟨"-f, --format <FORMAT>",
      "Output format [default: text] [possible values: text, json]"⟩
  | .force => ⟨"    --force", "Force overwrite existing config"⟩

/-- The list of the options of a topic. -/
def options (keys : List Key) : String := listUnder "Options" (keys.map Key.row)

/-- The list of the commands. -/
def commands : String :=
  listUnder "Commands" [
    ⟨"lint", "Run the configured linter on files"⟩,
    ⟨"parse", "Structure already captured linter output"⟩,
    ⟨"init", "Initialize configuration"⟩,
    ⟨"lsp", "Start the LSP server"⟩,
    ⟨"help", "Print this message or the help of the given subcommand(s)"⟩]

/-- What is printed for a topic. -/
def Topic.text : Topic → String
  | .program =>
    "Run a linter and turn its report into structured diagnostics\n\n" ++
      "Usage: lintbridge [OPTIONS] <COMMAND>\n" ++ commands ++
      options [.settings, .verbose, .help, .version]
  | .lint =>
    "Run the configured linter on files\n\nUsage: lintbridge lint [OPTIONS] <FILES>...\n" ++
      listUnder "Arguments" [⟨"<FILES>...", "Files to lint"⟩] ++
      options [.format, .settings, .verbose, .help]
  | .parse =>
    "Structure already captured linter output\n\n" ++
      "Usage: lintbridge parse [OPTIONS] --document <DOCUMENT>\n" ++
      options [.document, .input, .format, .settings, .verbose, .help]
  | .init =>
    "Initialize configuration\n\nUsage: lintbridge init [OPTIONS]\n" ++
      options [.force, .settings, .verbose, .help]
  | .serve =>
    "Start the LSP server\n\nUsage: lintbridge lsp [OPTIONS]\n" ++
      options [.settings, .verbose, .help]
  | .help =>
    "Print this message or the help of the given subcommand(s)\n\n" ++
      "Usage: lintbridge help [COMMAND]...\n" ++
      listUnder "Arguments" [⟨"[COMMAND]...", "Print help for the subcommand(s)"⟩]

/-- What is printed as the version. -/
def versionLine : String := "lintbridge 0.1.0\n"

end LintLedger.CommandLine
