import ScriptAudit.Fault.Code
import ScriptAudit.Json.Basic
import ScriptAudit.Syntax.Issue
import ScriptAudit.Syntax.Node
import ScriptAudit.Text.Integer
import ScriptAudit.Value.Basic

namespace ScriptAudit

/-! Problems that stop the resolution of settings, the reading of a file or the analysis.

A fault is a cause and, where it is known, the extent of the source text that it points at.  The
cause decides the kind, the code and the wording. -/

namespace Fault

inductive Kind where
  | general
  | settings
  | unsupportedLiteral
  | noConfigurationLiteral
  | typeMismatch
  | invalidRuleArguments
  | invalidValueShape
  | unknownSetting
  | parserFailure
  | settingsFileNotFound
  | invalidSuppression
  | ruleExecutionFailure
deriving DecidableEq

namespace Kind

def all : List Kind :=
  [general, settings, unsupportedLiteral, noConfigurationLiteral, typeMismatch,
    invalidRuleArguments, invalidValueShape, unknownSetting, parserFailure, settingsFileNotFound,
    invalidSuppression, ruleExecutionFailure]

def name : Kind → String
  | general => "PSLintError"
  | settings => "SettingsError"
  | unsupportedLiteral => "UnsupportedLiteral"
  | noConfigurationLiteral => "NoConfigurationLiteral"
  | typeMismatch => "TypeMismatch"
  | invalidRuleArguments => "InvalidRuleArguments"
  | invalidValueShape => "InvalidValueShape"
  | unknownSetting => "UnknownSetting"
  | parserFailure => "ParserFailure"
  | settingsFileNotFound => "SettingsFileNotFound"
  | invalidSuppression => "InvalidSuppression"
  | ruleExecutionFailure => "RuleExecutionFailure"

def code : Kind → Code
  | general | settings | parserFailure => .parserFailure
  | unsupportedLiteral => .unsupportedLiteral
  | noConfigurationLiteral => .noConfigurationLiteral
  | typeMismatch => .typeMismatch
  | invalidRuleArguments => .invalidRuleArguments
  | invalidValueShape => .invalidValueShape
  | unknownSetting => .unknownSetting
  | settingsFileNotFound => .settingsFileNotFound
  | invalidSuppression => .invalidSuppression
  | ruleExecutionFailure => .ruleExecutionFailure

/-- The settings themselves are wrong, as opposed to what surrounds them. -/
def isSettings : Kind → Bool
  | settings | unsupportedLiteral | noConfigurationLiteral | typeMismatch | invalidRuleArguments
  | invalidValueShape | unknownSetting => true
  | _ => false

end Kind

/-- A part of the settings: a setting or an argument by its dotted path, or all of them. -/
structure Place where
  path : String

def Place.describe (place : Place) : String :=
  if place.path = "" then "settings" else "'" ++ place.path ++ "'"

def Place.child (place : Place) (key : String) : Place :=
  ⟨if place.path = "" then key else place.path ++ "." ++ key⟩

/-- A problem that a rule or a rule module ran into, with its text.  It has none when it cannot be
reported: when forming the text fails in turn, or when the failure is not of a kind that is
caught. -/
structure Failure where
  kind : String
  text : Option String
deriving DecidableEq

/-- The failure of a kind whose text is its one argument; a missing key is shown quoted. -/
def Failure.ofArgument (kind argument : String) : Failure :=
  ⟨kind, some (if kind = "KeyError" then Text.quoted argument else argument)⟩

/-- What a report says of the failure. -/
def Failure.told? (failure : Failure) : Option String :=
  failure.text.map fun text => failure.kind ++ ": " ++ text

inductive Cause where
  | stated (kind : Kind) (message : String)
  | nothingToEvaluate
  | notLiteral (node : Syntax.NodeKind) (text : String)
  | keyNotConstant (node : Syntax.NodeKind) (text : String)
  | repeatedKey (node : Syntax.NodeKind) (key : String)
  | noHashtable (path : String)
  | typeMismatch (key expected : String) (got : Value)
  | rulesNotTable (key : String)
  | argumentsNotTable (rule : String) (got : Value)
  | notTexts (key : String) (got : Value)
  | nullValue (place : Place)
  | keyNotText (place : Place) (key : Value)
  | keysDifferInCase (place : Place) (first second : String)
  | unsupportedType (place : Place) (typeName : String)
  | notSettings (typeName : String)
  | unknownSetting (key : String) (valid : List String)
  | syntaxErrors (first : Syntax.Issue) (others : List Syntax.Issue)
  | integerTooLong (lexeme : String) (digits limit : Nat)
  | keyTooLong (table : String) (limit : Nat)
  | unreadable (path reason : String)
  | settingsFileNotFound (path : String)
  | noRuleNamed
  | tooManyPositions
  | ruleIdNotText
  | unknownSuppressionArgument (key : String)
  | suppressionArgumentNotText (key : String)
  | unknownScope (text : String)
  | ruleFailed (rule told : String)

/-- What was given instead of a truth value. -/
def givenText : Value → String
  | .bool _ => "boolean"
  | .number value => "number " ++ value.text
  | .text value => "string " ++ Text.quoted value
  | .array _ => "array"
  | value => value.typeName

/-- What was given instead of texts or of a table. -/
def shapeText (value : Value) : String :=
  match value with
  | .table _ | .mapping _ => "a hashtable"
  | .array _ => "an array containing non-string values"
  | _ => value.typeName ++ " " ++ value.display

/-- Integers with too many digits have no decimal text. -/
def isShownNumber : Number → Bool
  | .integer value =>
      (Nat.toDigits 10 value.natAbs).length ≤ Text.greatestIntegerDigits
  | .real _ => true

mutual

/-- Whether a message can show a value with all that it holds. -/
def isShown : Value → Bool
  | .number value => isShownNumber value
  | .array items | .list items => areShown items
  | .table entries => areShownEntries entries
  | .mapping pairs => areShownPairs pairs
  | _ => true

def areShown : List Value → Bool
  | [] => true
  | item :: rest => isShown item && areShown rest

def areShownEntries : List (String × Value) → Bool
  | [] => true
  | (_, value) :: rest => isShown value && areShownEntries rest

def areShownPairs : List (Value × Value) → Bool
  | [] => true
  | (key, value) :: rest => isShown key && isShown value && areShownPairs rest

end

/-- As `isShown`, of a value that is named by its shape where it has parts. -/
def isShapeShown (value : Value) : Bool :=
  match value with
  | .table _ | .mapping _ | .array _ => true
  | _ => isShown value

def capitalized (label : String) : String :=
  match label.toList with
  | [] => ""
  | first :: rest => String.ofList (first.toUpper :: rest)

/-- How many characters of a source text a message shows. -/
def clipWidth : Nat := 40

namespace Cause

def kind : Cause → Kind
  | stated kind _ => kind
  | nothingToEvaluate | notLiteral .. | keyNotConstant .. | repeatedKey .. => .unsupportedLiteral
  | noHashtable _ => .noConfigurationLiteral
  | typeMismatch .. => .typeMismatch
  | rulesNotTable _ | argumentsNotTable .. => .invalidRuleArguments
  | notTexts .. | nullValue _ | keyNotText .. | keysDifferInCase .. | unsupportedType ..
  | notSettings _ => .invalidValueShape
  | unknownSetting .. => .unknownSetting
  | syntaxErrors .. | integerTooLong .. | keyTooLong .. | unreadable .. => .parserFailure
  | settingsFileNotFound _ => .settingsFileNotFound
  | noRuleNamed | tooManyPositions | ruleIdNotText | unknownSuppressionArgument _
  | suppressionArgumentNotText _ | unknownScope _ => .invalidSuppression
  | ruleFailed .. => .ruleExecutionFailure

/-- The label of the node that is no literal. -/
def label : Cause → String
  | notLiteral node _ | keyNotConstant node _ | repeatedKey node _ => node.label
  | _ => ""

def issues : Cause → List Syntax.Issue
  | syntaxErrors first others => first :: others
  | _ => []

/-- The message has a text; it has none when a number in it has none. -/
def isShown : Cause → Bool
  | typeMismatch _ _ (.number value) => isShownNumber value
  | argumentsNotTable _ got | notTexts _ got => isShapeShown got
  | keyNotText _ key => Fault.isShown key
  | _ => true

def message : Cause → String
  | stated _ message => message
  | nothingToEvaluate => "Expected a literal value but found nothing"
  | notLiteral node text =>
      capitalized node.label ++ " is not allowed in a literal: '" ++ Text.clip text clipWidth ++ "'"
  | keyNotConstant _ text =>
      "Hashtable key '" ++ Text.clip text clipWidth ++ "' must be a name or a string constant"
  | repeatedKey _ key => "Duplicate key '" ++ key ++ "' in hashtable"
  | noHashtable path => "Settings file '" ++ path ++ "' does not contain a hashtable"
  | typeMismatch key expected got =>
      "Setting '" ++ key ++ "' expects a " ++ expected ++ " value, got " ++ givenText got
  | rulesNotTable key =>
      "Setting '" ++ key ++ "' must be a hashtable of rule names to argument hashtables"
  | argumentsNotTable rule got =>
      "Arguments of rule '" ++ rule ++ "' must be a hashtable, not " ++ shapeText got
  | notTexts key got =>
      "Setting '" ++ key ++ "' must be a string or an array of strings, not " ++ shapeText got
  | nullValue place => "Value of " ++ place.describe ++ " must not be null"
  | keyNotText place key => "Keys of " ++ place.describe ++ " must be strings, got " ++ key.display
  | keysDifferInCase place first second =>
      "Keys '" ++ first ++ "' and '" ++ second ++ "' of " ++ place.describe ++
        " differ only in case"
  | unsupportedType place typeName =>
      "Value of " ++ place.describe ++ " has unsupported type " ++ typeName
  | notSettings typeName =>
      "Settings must be a hashtable, a preset name or a file path, not " ++ typeName
  | unknownSetting key valid =>
      "'" ++ key ++ "' is not a recognized setting" ++
        (if valid.isEmpty then "" else "; valid settings are: " ++ String.intercalate ", " valid)
  | syntaxErrors first others =>
      first.message ++
        (if others.isEmpty then "" else " (and " ++ Number.decimal others.length ++ " more)")
  | integerTooLong lexeme digits limit =>
      "Internal parser error: ValueError: Exceeds the limit (" ++ Number.decimal limit ++
        " digits) for integer string conversion: value has " ++ Number.decimal digits ++
        " digits; use sys.set_int_max_str_digits() to increase the limit\n\nParse tree:\n" ++
        "<RegexNode called \"number\" matching \"" ++ lexeme ++ "\">  <-- *** We were here. ***"
  | keyTooLong table limit =>
      "Internal parser error: ValueError: Exceeds the limit (" ++ Number.decimal limit ++
        " digits) for integer string conversion; " ++
        "use sys.set_int_max_str_digits() to increase the limit\n\nParse tree:\n" ++
        "<Node called \"hashtable\" matching \"" ++ table ++ "\">  <-- *** We were here. ***"
  | unreadable path reason => "Cannot read '" ++ path ++ "': " ++ reason
  | settingsFileNotFound path => "Settings file '" ++ path ++ "' does not exist"
  | noRuleNamed => "Suppression must name a rule"
  | tooManyPositions => "Suppression takes at most a rule name and a rule id"
  | ruleIdNotText => "Suppression rule id must be a string"
  | unknownSuppressionArgument key => "Unknown suppression argument '" ++ key ++ "'"
  | suppressionArgumentNotText key => "Suppression argument '" ++ key ++ "' must be a string"
  | unknownScope text => "unknown suppression scope " ++ Text.quoted text
  | ruleFailed rule told => "Rule '" ++ rule ++ "' failed: " ++ told

end Cause
end Fault

structure Fault where
  cause : Fault.Cause
  extent : Option Source.Extent

namespace Fault

def kind (fault : Fault) : Kind :=
  fault.cause.kind

def message (fault : Fault) : String :=
  fault.cause.message

def code (fault : Fault) : Code :=
  fault.kind.code

def file (fault : Fault) : String :=
  match fault.extent with
  | some extent => extent.file
  | none => ""

/-- Names the file of a fault that names none yet. -/
def withFile (fault : Fault) (path : String) : Fault :=
  { fault with extent := some ((fault.extent.getD {}).withFile path) }

/-- The place, the message and the code, as compilers print them. -/
def describe (fault : Fault) : String :=
  let main := "error: " ++ fault.message ++ " [" ++ fault.code.text ++ "]"
  match fault.extent with
  | some extent =>
      if extent.file ≠ "" ∨ extent.start.line ≠ 0 then extent.describe ++ ": " ++ main else main
  | none => main

def toJson (fault : Fault) : Json :=
  let extent := fault.extent.getD {}
  .object [
    ("code", .text fault.code.text),
    ("error", .text fault.kind.name),
    ("message", .text fault.message),
    ("location", .object [
      ("file", .text extent.file),
      ("line", .int extent.start.line),
      ("column", .int extent.start.column),
      ("end_line", .int extent.stop.line),
      ("end_column", .int extent.stop.column)])]

/-- The failure to parse a file with syntax errors, at the first of them. -/
def ofIssues (path : String) (first : Syntax.Issue) (others : List Syntax.Issue) : Fault :=
  let fault : Fault := ⟨.syntaxErrors first others, some first.extent⟩
  if path = "" then fault else fault.withFile path

def ofMissingSettings (path : String) : Fault :=
  ⟨.settingsFileNotFound path, some (.ofFile path)⟩

def ofFailedRule (rule told path : String) : Fault :=
  ⟨.ruleFailed rule told, if path = "" then none else some (.ofFile path)⟩

end Fault
end ScriptAudit
