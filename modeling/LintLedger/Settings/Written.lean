import LintLedger.Json.Commented
import LintLedger.Ledger.Written
import LintLedger.Settings

/-!
# Written settings

Settings are read from commented JSON. Any member may be left out, and a text without a value stands
for the default settings; a member that settings do not have is a fault, except in the object of the
tool. Reading goes in three steps, each with its own faults: the text, the members, the values.
-/

namespace LintLedger

open Json.Decode

/-- An attribution as JSON. -/
def Attribution.toJson (a : Attribution) : Json := .text a.name

/-- Decodes an attribution. -/
def Attribution.decode : Json → Except Fault Attribution := choice Attribution.name Attribution.all

/-- A stale policy as JSON. -/
def StalePolicy.toJson (p : StalePolicy) : Json := .text p.name

/-- Decodes a stale policy. -/
def StalePolicy.decode : Json → Except Fault StalePolicy := choice StalePolicy.name StalePolicy.all

namespace Tool

/-- A tool as JSON. -/
def toJson (t : Tool) : Json :=
  .object [("program", .text t.program), ("args", .array (t.args.map .text))]

/-- How a tool is written. -/
def shape : Shape Tool where
  name := "struct ToolCommand"
  fields := [
    ⟨"program", true, fun j t => do pure { t with program := ← text j }⟩,
    ⟨"args", true, fun j t => do pure { t with args := ← list text j }⟩]
  closed := false

/-- Decodes a tool. -/
def decode : Json → Except Fault Tool := shape.decode {}

end Tool

namespace Settings

/-- A rule as JSON. -/
def Rule.toJson (r : Rule) : Json :=
  .object [("pattern", .text r.pattern), ("severity", r.severity.toJson)]

/-- How a rule is written. -/
def Rule.shape : Shape Rule where
  name := "struct SeverityRuleConfig"
  fields := [
    ⟨"pattern", false, fun j r => do pure { r with pattern := ← text j }⟩,
    ⟨"severity", false, fun j r => do pure { r with severity := ← Severity.decode j }⟩]
  closed := true

/-- Decodes a rule. -/
def Rule.decode : Json → Except Fault Rule := Rule.shape.decode ⟨"", default⟩

/-- The telling of severities as JSON. -/
def Severities.toJson (s : Severities) : Json :=
  .object [("keyword", .text s.keyword), ("rules", .array (s.rules.map Rule.toJson)),
    ("fallback", s.fallback.toJson)]

/-- How the telling of severities is written. -/
def Severities.shape : Shape Severities where
  name := "struct SeverityConfig"
  fields := [
    ⟨"keyword", true, fun j s => do pure { s with keyword := ← text j }⟩,
    ⟨"rules", true, fun j s => do pure { s with rules := ← list Rule.decode j }⟩,
    ⟨"fallback", true, fun j s => do pure { s with fallback := ← Severity.decode j }⟩]
  closed := true

/-- Decodes the telling of severities. -/
def Severities.decode : Json → Except Fault Severities := Severities.shape.decode {}

/-- Settings as JSON. The folder they come from is not written. -/
def toJson (s : Settings) : Json :=
  .object [("tool", s.tool.toJson), ("pathSource", s.attribution.toJson),
    ("stalePolicy", s.stalePolicy.toJson), ("severity", s.severity.toJson)]

/-- How settings are written. -/
def shape : Shape Settings where
  name := "struct Config"
  fields := [
    ⟨"tool", true, fun j s => do pure { s with tool := ← Tool.decode j }⟩,
    ⟨"pathSource", true, fun j s => do pure { s with attribution := ← Attribution.decode j }⟩,
    ⟨"stalePolicy", true, fun j s => do pure { s with stalePolicy := ← StalePolicy.decode j }⟩,
    ⟨"severity", true, fun j s => do pure { s with severity := ← Severities.decode j }⟩]
  closed := true

/-- Decodes settings. -/
def decode : Json → Except Fault Settings := shape.decode {}

/-- Why a text holds no valid settings. -/
inductive Fault where
  /-- The text is no commented JSON. -/
  | unreadable (fault : Json.Commented.Fault)
  /-- The value has not the shape of settings. -/
  | misshapen (fault : Json.Decode.Fault)
  /-- The settings are not valid. -/
  | invalid (fault : Invalid)
deriving Repr

/-- The wording of a fault. -/
def Fault.message : Fault → String
  | .unreadable fault => s!"Failed to parse config: {fault.message}"
  | .misshapen fault => s!"Invalid config: {fault.message}"
  | .invalid fault => s!"Invalid config: {fault.message}"

/-- The settings that a value holds. -/
def ofJson (j : Json) : Except Fault Settings :=
  match decode j with
  | .error fault => .error (.misshapen fault)
  | .ok s =>
    match s.fault? with
    | some fault => .error (.invalid fault)
    | none => .ok s

/-- The settings that a text holds. -/
def ofText (text : String) : Except Fault Settings :=
  match Json.Commented.read text with
  | .error fault => .error (.unreadable fault)
  | .ok value => ofJson (value.getD (.object []))

end Settings
end LintLedger
