import ScriptAudit.Number.Shortest
import ScriptAudit.Text.Quoted

namespace ScriptAudit.Fault

/-! Stable codes of problems: a prefix and a number of at least four digits. -/

/-- A number with zeros in front up to a width, which a minus sign counts towards. -/
def padded (width : Nat) (number : Int) : String :=
  let digits := Nat.toDigits 10 number.natAbs
  let sign := if number < 0 then ['-'] else []
  String.ofList (sign ++ List.replicate (width - sign.length - digits.length) '0' ++ digits)

structure Code where
  number : Int
  title : String
  series : String := "PSL"

namespace Code

def text (code : Code) : String :=
  code.series ++ "-" ++ padded 4 code.number

def display (code : Code) : String :=
  "ErrorCode(" ++ Text.quoted code.text ++ ", " ++ Text.quoted code.title ++ ")"

/-- Titles do not count. -/
def same (first second : Code) : Bool :=
  first.series == second.series && first.number == second.number

def unsupportedLiteral : Code := ⟨1001, "unsupported literal", "PSL"⟩
def noConfigurationLiteral : Code := ⟨1002, "no configuration literal", "PSL"⟩
def typeMismatch : Code := ⟨1003, "type mismatch", "PSL"⟩
def invalidRuleArguments : Code := ⟨1004, "invalid rule arguments", "PSL"⟩
def invalidValueShape : Code := ⟨1005, "invalid value shape", "PSL"⟩
def unknownSetting : Code := ⟨1006, "unknown setting", "PSL"⟩
def parserFailure : Code := ⟨2001, "parser failure", "PSL"⟩
def settingsFileNotFound : Code := ⟨2002, "settings file not found", "PSL"⟩
def ruleExecutionFailure : Code := ⟨3001, "rule execution failure", "PSL"⟩
def invalidSuppression : Code := ⟨3002, "invalid suppression", "PSL"⟩
def unknownRuleArgument : Code := ⟨3003, "unknown rule argument", "PSL"⟩
def ruleLoadFailure : Code := ⟨3004, "rule load failure", "PSL"⟩
def conflictingCorrection : Code := ⟨4001, "conflicting correction", "PSL"⟩
def crossFileCorrection : Code := ⟨4002, "cross-file correction", "PSL"⟩
def outOfRange : Code := ⟨4003, "correction out of range", "PSL"⟩

end Code
end ScriptAudit.Fault
