import ScriptAudit.Text.Case

namespace ScriptAudit

/-! How serious a diagnostic is. -/

inductive Severity where
  | information
  | warning
  | error
  | parseError
deriving DecidableEq

namespace Severity

def name : Severity → String
  | information => "Information"
  | warning => "Warning"
  | error => "Error"
  | parseError => "ParseError"

def all : List Severity := [information, warning, error, parseError]

/-- One of the names is the name of the severity, letter case aside. -/
def isNamedIn (severity : Severity) (names : List String) : Bool :=
  names.any fun name => Text.lower name == Text.lower severity.name

end Severity
end ScriptAudit
