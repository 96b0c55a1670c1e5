import LintLedger.Json.Writer
import LintLedger.Session

/-!
# What a session sends

Answers and notices in the protocol of editors, as JSON. A version that is not known is left out.
-/

namespace LintLedger

/-- A diagnostic as JSON. -/
def Diagnostic.toJson (d : Diagnostic) : Json :=
  let place : Json := .object
    [("character", .ofNat d.column.toNat), ("line", .ofNat d.line.toNat)]
  .object [
    ("message", .text d.message),
    ("range", .object [("end", place), ("start", place)]),
    ("severity", .ofNat (severityNumber d.severity)),
    ("source", .text source)]

/-- A publication as JSON. -/
def Publication.toJson (p : Publication) : Json :=
  let version := match p.version with
    | some v => [("version", Json.number (.integer v))]
    | none => []
  .object ([
    ("diagnostics", .array (p.diagnostics.map Diagnostic.toJson)),
    ("uri", .text p.location.text)] ++ version)

namespace Session

/-- What the server can do, and who it is. -/
def greeting : Json :=
  .object [
    ("capabilities", .object [
      ("textDocumentSync", .object [
        ("change", .ofNat 0),
        ("openClose", .boolean true),
        ("save", .object [("includeText", .boolean false)])])]),
    ("serverInfo", .object [("name", .text "lintbridge-lsp"), ("version", .text "0.1.0")])]

/-- The member of an answer that says how a request went. -/
def Response.member : Response → String × Json
  | .begun => ("result", greeting)
  | .ended => ("result", .null)
  | .refused code reason =>
    ("error", .object [("code", .number (.integer code)), ("message", .text reason)])

/-- The method of a notice. -/
def Notice.method : Notice → String
  | .publish _ => "textDocument/publishDiagnostics"
  | .say _ => "window/logMessage"

/-- The parameters of a notice. -/
def Notice.params : Notice → Json
  | .publish p => p.toJson
  | .say text => .object [("message", .text text), ("type", .ofNat 3)]

/-- A notice as JSON. -/
def Notice.toJson (n : Notice) : Json := .object [("method", .text n.method), ("params", n.params)]

end Session
end LintLedger
