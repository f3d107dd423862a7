import ScriptAudit.Diagnostic.Basic
import ScriptAudit.Fault.Basic
import ScriptAudit.Settings.Configuration
import ScriptAudit.Syntax.Token
import ScriptAudit.Syntax.Walk

namespace ScriptAudit

/-! Rules.

A rule has a descriptor, takes arguments, and looks at a syntax tree.  What it finds, warns of and
does to the run is its report. -/

namespace Rule

/-- Whether a rule comes with the program or from elsewhere. -/
inductive SourceType where
  | builtin
  | managed
  | module
deriving DecidableEq

def SourceType.name : SourceType → String
  | builtin => "Builtin"
  | managed => "Managed"
  | module => "Module"

def SourceType.all : List SourceType := [builtin, managed, module]

/-- `schema` has the arguments of a rule with their defaults, and `source` is the namespace of its
name.  A reentrant rule may run beside others. -/
structure Descriptor where
  name : String
  commonName : String := ""
  description : String := ""
  sourceType : SourceType := .builtin
  severity : Severity := .warning
  schema : List (String × Value) := []
  source : String := ""
  reentrant : Bool := false

namespace Descriptor

def simpleName (descriptor : Descriptor) : String :=
  Rule.simpleName descriptor.name

def qualifiedName (descriptor : Descriptor) : String :=
  qualify descriptor.source descriptor.name

def isBuiltin (descriptor : Descriptor) : Bool :=
  descriptor.sourceType = .builtin

/-- The pattern names the rule, by its qualified name or by its name. -/
def matchesPattern (descriptor : Descriptor) (pattern : String) : Bool :=
  nameMatches pattern descriptor.qualifiedName || nameMatches pattern descriptor.name

/-- A diagnostic of the rule; what is not given comes from the descriptor and the extent. -/
def diagnostic (descriptor : Descriptor) (message : String) (extent : Source.Extent)
    (path : String) (severity : Option Severity) (id : Option String)
    (corrections : List Correction) : Diagnostic :=
  { message := message
    extent := extent
    rule := descriptor.name
    severity := severity.getD descriptor.severity
    path := if path = "" then extent.file else path
    id := id
    corrections := corrections }

end Descriptor

/-- What a rule is given: the file, the settings with its own entry in them, its arguments, the
aliases of commands and the tokens of the file. -/
structure Scene where
  tree : Syntax.Node
  path : String
  configuration : Settings.Configuration
  given : List (String × Value)
  arguments : List (String × Value)
  aliases : List (String × String)
  tokens : List Syntax.Token

/-- The command that an alias stands for, letter case aside. -/
def Scene.command? (scene : Scene) (name : String) : Option String :=
  (scene.aliases.find? fun entry => Text.sameFolded entry.1 name).map Prod.snd

/-- What a rule saw of its scene. -/
structure Observation where
  rule : String
  path : String
  given : List (String × Value)
  arguments : List (String × Value)
  values : List Value
  commands : List (Option String)
  tokens : List Syntax.Token

/-- A rule that fails has no diagnostics, but its warnings and observations stay, and so does its
request to cancel the run. -/
structure Report where
  diagnostics : Except Fault.Failure (List Diagnostic) := .ok []
  warnings : List String := []
  observations : List Observation := []
  cancels : Bool := false

end Rule

/-- A rule that asks to be enabled runs only when its argument `Enable` is true. -/
structure Rule where
  descriptor : Rule.Descriptor
  implicitArguments : List String
  asksEnable : Bool
  analyze : Rule.Scene → Rule.Report

namespace Rule

def enableArgument : String := "Enable"

/-- How the rule spells an argument; nothing when it does not know it.  A rule without a schema
knows every argument. -/
def spelling? (rule : Rule) (key : String) : Option String :=
  match Table.spelling? rule.descriptor.schema key with
  | some known => some known
  | none =>
      match rule.implicitArguments.reverse.find? (Text.sameFolded · key) with
      | some known => some known
      | none => if rule.descriptor.schema.isEmpty then some key else none

/-- The arguments before anything is given. -/
def defaults (rule : Rule) : List (String × Value) :=
  rule.descriptor.schema

/-- Lays the given arguments over those of the rule.  Also returns the names that it does not
know, which have no effect. -/
def configure (rule : Rule) (arguments : List (String × Value)) :
    List (String × Value) → List (String × Value) × List String
  | [] => (arguments, [])
  | (key, value) :: rest =>
      match rule.spelling? key with
      | some known => rule.configure (Table.put arguments known value) rest
      | none =>
          let later := rule.configure arguments rest
          (later.1, key :: later.2)

def isEnabled (rule : Rule) (arguments : List (String × Value)) : Bool :=
  !rule.asksEnable ||
    match Table.get? arguments enableArgument with
    | some (.bool true) => true
    | _ => false

def display (typeName : String) (rule : Rule) : String :=
  "<" ++ typeName ++ " '" ++ rule.descriptor.name ++ "'>"

/-- How a rule is made.  The descriptor may be known before. -/
structure Factory where
  declared : Option Descriptor
  make : Except Fault.Failure Rule

/-- A rule that is known: its descriptor and how to make it. -/
structure Entry where
  descriptor : Descriptor
  factory : Factory

/-- The entry of a factory, under another source type if one is given.  Where the descriptor is
not known before, the rule is made to read it. -/
def Factory.describe (factory : Factory) (sourceType : Option SourceType) :
    Except Fault.Failure Entry := do
  let descriptor ← match factory.declared with
    | some descriptor => pure descriptor
    | none => do
        let rule ← factory.make
        pure rule.descriptor
  return ⟨{ descriptor with sourceType := sourceType.getD descriptor.sourceType }, factory⟩

end Rule
end ScriptAudit
