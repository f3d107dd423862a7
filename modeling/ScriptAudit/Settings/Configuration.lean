import ScriptAudit.Diagnostic.Severity
import ScriptAudit.Rule.Name
import ScriptAudit.Value.Equality
import ScriptAudit.Value.Output

namespace ScriptAudit.Settings

/-! The settings of one analysis. -/

/-- Where settings come from. -/
inductive Mode where
  | none
  | auto
  | file
  | hashtable
  | preset
deriving DecidableEq

def Mode.name : Mode → String
  | none => "none"
  | auto => "auto"
  | file => "file"
  | hashtable => "hashtable"
  | preset => "preset"

/-- The arguments of each rule by its name. -/
abbrev RuleArguments := List (String × List (String × Value))

def RuleArguments.value (rules : RuleArguments) : Value :=
  .table (rules.map fun rule => (rule.1, .table rule.2))

structure Configuration where
  severities : List String := []
  includeRules : List String := []
  excludeRules : List String := []
  customRulePaths : List String := []
  recurseCustomRulePath : Bool := false
  includeDefaultRules : Bool := true
  ruleArguments : RuleArguments := []
  mode : Mode := .none
  sourcePath : Option String := none

namespace Configuration

def standard : Configuration := {}

/-- Equal settings; where they come from does not count. -/
def same (first second : Configuration) : Bool :=
  first.severities == second.severities && first.includeRules == second.includeRules &&
    first.excludeRules == second.excludeRules &&
    first.customRulePaths == second.customRulePaths &&
    first.recurseCustomRulePath == second.recurseCustomRulePath &&
    first.includeDefaultRules == second.includeDefaultRules &&
    first.ruleArguments.value.same second.ruleArguments.value

/-- The arguments of a rule: those under its qualified name, or else under its name, or else under
its simple name. -/
def argumentsFor (configuration : Configuration) (name qualified : String) :
    List (String × Value) :=
  let names := [qualified, name, Rule.simpleName name].filter (· != "")
  (names.findSome? (Table.get? configuration.ruleArguments)).getD []

/-- Without a list of severities all are allowed. -/
def allows (configuration : Configuration) (severity : Severity) : Bool :=
  configuration.severities.isEmpty || severity.isNamedIn configuration.severities

def textsJson (texts : List String) : Json :=
  .array (texts.map .text)

def toJson (configuration : Configuration) : Json :=
  .object [
    ("mode", .text configuration.mode.name),
    ("source_path", match configuration.sourcePath with
      | some path => .text path
      | none => .null),
    ("severity", textsJson configuration.severities),
    ("include_rules", textsJson configuration.includeRules),
    ("exclude_rules", textsJson configuration.excludeRules),
    ("custom_rule_path", textsJson configuration.customRulePaths),
    ("recurse_custom_rule_path", .bool configuration.recurseCustomRulePath),
    ("include_default_rules", .bool configuration.includeDefaultRules),
    ("rules", configuration.ruleArguments.value.toJson)]

end Configuration
end ScriptAudit.Settings
