import ScriptAudit.Diagnostic.Severity
import ScriptAudit.Json.Basic
import ScriptAudit.Source.Extent

namespace ScriptAudit

/-! Diagnostics and the corrections that they propose. -/

open Source

/-- The proposal to replace the text at `extent`. -/
structure Correction where
  extent : Extent
  text : String
  description : String := ""
deriving DecidableEq

def Correction.toJson (correction : Correction) : Json :=
  .object [
    ("file", .text correction.extent.file),
    ("start_line", .int correction.extent.start.line),
    ("start_column", .int correction.extent.start.column),
    ("end_line", .int correction.extent.stop.line),
    ("end_column", .int correction.extent.stop.column),
    ("text", .text correction.text),
    ("description", .text correction.description)]

/-- `path` is the file that a diagnostic belongs to, and `id` sets diagnostics of one rule
apart. -/
structure Diagnostic where
  message : String
  extent : Extent
  rule : String
  severity : Severity := .warning
  path : String := ""
  id : Option String := none
  corrections : List Correction := []
deriving DecidableEq

namespace Diagnostic

def preferredCorrection (diagnostic : Diagnostic) : Option Correction :=
  diagnostic.corrections.head?

def shownPath (diagnostic : Diagnostic) : String :=
  if diagnostic.path = "" then diagnostic.extent.file else diagnostic.path

def toJson (diagnostic : Diagnostic) : Json :=
  let id := diagnostic.id.getD ""
  .object ([
    ("file", .text diagnostic.shownPath),
    ("line", .int diagnostic.extent.start.line),
    ("column", .int diagnostic.extent.start.column),
    ("severity", .text diagnostic.severity.name),
    ("message", .text diagnostic.message),
    ("ruleName", .text diagnostic.rule)] ++
    (if id = "" then [] else [("ruleId", .text id)]) ++
    (if diagnostic.corrections.isEmpty then []
      else [("corrections", .array (diagnostic.corrections.map Correction.toJson))]))

/-- The file, line and column that are known. -/
def placeParts (diagnostic : Diagnostic) : List String :=
  (if diagnostic.shownPath = "" then [] else [diagnostic.shownPath]) ++
    ([diagnostic.extent.start.line, diagnostic.extent.start.column].filter (· ≠ 0)).map
      Number.decimal

/-- The place, the severity, the message and the rule, as compilers print them. -/
def describe (diagnostic : Diagnostic) : String :=
  let place := String.intercalate ":" diagnostic.placeParts
  (if place = "" then "" else place ++ ": ") ++ Text.lower diagnostic.severity.name ++ ": " ++
    diagnostic.message ++ " [" ++ diagnostic.rule ++ "]"

end Diagnostic
end ScriptAudit
