import ScriptAudit.Diagnostic.Basic
import ScriptAudit.Fault.Basic
import ScriptAudit.Number.Shortest

namespace ScriptAudit.Analysis

/-! What the analysis of one file comes to. -/

inductive WarningKind where
  | ruleFailure
  | unknownArgument
  | loadFailure
  | ruleWarning
deriving DecidableEq

namespace WarningKind

def name : WarningKind → String
  | ruleFailure => "RuleExecutionFailure"
  | unknownArgument => "UnknownRuleArgument"
  | loadFailure => "RuleLoadFailure"
  | ruleWarning => "RuleWarning"

def all : List WarningKind := [ruleFailure, unknownArgument, loadFailure, ruleWarning]

def code : WarningKind → Fault.Code
  | ruleFailure | ruleWarning => .ruleExecutionFailure
  | unknownArgument => .unknownRuleArgument
  | loadFailure => .ruleLoadFailure

end WarningKind

/-- A problem that did not stop the analysis. -/
structure Warning where
  kind : WarningKind
  message : String
  rule : String := ""
  path : String := ""
deriving DecidableEq

namespace Warning

def describe (warning : Warning) : String :=
  (if warning.path = "" then "" else warning.path ++ ": ") ++ "warning: " ++ warning.message ++
    " [" ++ warning.kind.code.text ++ "]"

def ofUnknownArgument (rule path key : String) : Warning :=
  ⟨.unknownArgument, "Rule '" ++ rule ++ "' has no argument named '" ++ key ++ "'; it is ignored",
    rule, path⟩

def ofFailure (rule path told : String) : Warning :=
  ⟨.ruleFailure, (Fault.ofFailedRule rule told path).message, rule, path⟩

def ofRule (rule path message : String) : Warning :=
  ⟨.ruleWarning, rule ++ ": " ++ message, rule, path⟩

end Warning

/-- `ruleNames` are the rules that ran, and `times` the milliseconds that each name took. -/
structure Result where
  path : String := ""
  diagnostics : List Diagnostic := []
  suppressed : List Diagnostic := []
  warnings : List Warning := []
  ruleNames : List String := []
  times : List (String × Number.Binary64) := []
  cancelled : Bool := false

namespace Result

def count (result : Result) (severity : Severity) : Nat :=
  (result.diagnostics.filter (·.severity = severity)).length

def byRule (result : Result) (rule : String) : List Diagnostic :=
  result.diagnostics.filter fun diagnostic => Text.sameFolded diagnostic.rule rule

/-- The diagnostics as compilers print them, one on each line. -/
def describe (result : Result) : String :=
  String.intercalate "\n" (result.diagnostics.map Diagnostic.describe)

def headline (result : Result) : String :=
  (if result.path = "" then "<text>" else result.path) ++ ": " ++
    Number.decimal result.diagnostics.length ++ " diagnostics (" ++
    Number.decimal (result.count .error) ++ " errors, " ++
    Number.decimal (result.count .warning) ++ " warnings, " ++
    Number.decimal result.suppressed.length ++ " suppressed)"

def ruleLine (result : Result) (rule : String) : String :=
  let time := (result.times.lookup rule).getD (.finite false 0 Number.Binary64.leastExponent)
  "  " ++ rule ++ ": " ++ Number.decimal (result.byRule rule).length ++ " (" ++ time.onePlace ++
    " ms)"

/-- The counts, then a line for each rule that ran and for each warning. -/
def summary (result : Result) : String :=
  String.intercalate "\n" (result.headline ::
    (result.ruleNames.map result.ruleLine ++
      result.warnings.map fun warning => "  " ++ warning.describe))

end Result
end ScriptAudit.Analysis
