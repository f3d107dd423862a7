import ScriptAudit.Rule.Basic

namespace ScriptAudit.Rule

/-! The rules that are known, and the choice of those that are active. -/

open Settings

namespace Entry

/-- The name under which an entry is kept. -/
def key (entry : Entry) : String :=
  Text.lower entry.descriptor.qualifiedName

def matchesAny (entry : Entry) (patterns : List String) : Bool :=
  patterns.any entry.descriptor.matchesPattern

end Entry

/-- The entries in the order of their registration. -/
structure Registry where
  entries : List Entry := []

/-- Why a rule is not registered. -/
inductive RegistryFault where
  | failed (failure : Fault.Failure)
  | alreadyThere (name : String)

def RegistryFault.failure : RegistryFault → Fault.Failure
  | failed failure => failure
  | alreadyThere name => .ofArgument "ValueError" ("rule '" ++ name ++ "' is already registered")

namespace Registry

def register (registry : Registry) (factory : Factory) (sourceType : Option SourceType) :
    Except RegistryFault Registry := do
  let entry ← (factory.describe sourceType).mapError .failed
  if registry.entries.any (·.key == entry.key) then
    .error (.alreadyThere entry.descriptor.qualifiedName)
  else return ⟨registry.entries ++ [entry]⟩

/-- Removes the rules of a name; a pattern removes none. -/
def unregister (registry : Registry) (name : String) : Registry :=
  ⟨registry.entries.filter fun entry =>
    Pattern.hasWildcards name || !nameMatches name entry.descriptor.qualifiedName⟩

def find? (registry : Registry) (name : String) : Option Entry :=
  registry.entries.find? fun entry => entry.descriptor.matchesPattern name

def contains (registry : Registry) (name : String) : Bool :=
  (registry.find? name).isSome

def builtin (registry : Registry) : List Entry :=
  registry.entries.filter fun entry => entry.descriptor.isBuiltin

def custom (registry : Registry) : List Entry :=
  registry.entries.filter fun entry => !entry.descriptor.isBuiltin

def names (registry : Registry) : List String :=
  registry.entries.map fun entry => entry.descriptor.name

/-- Keeps the first entry of each key. -/
def firstOfEach (seen : List String) : List Entry → List Entry
  | [] => []
  | entry :: rest =>
      if seen.contains entry.key then firstOfEach seen rest
      else entry :: firstOfEach (entry.key :: seen) rest

/-- The entries that may be active.  Patterns of rules to include decide for all of them; without
such patterns custom rules may be active, and builtin ones when the settings include them. -/
def candidates (registry : Registry) (configuration : Configuration) (discovered : List Entry) :
    List Entry :=
  let custom := registry.custom ++ discovered
  if configuration.includeRules.isEmpty then
    (if configuration.includeDefaultRules then registry.builtin else []) ++ custom
  else (registry.builtin ++ custom).filter (·.matchesAny configuration.includeRules)

/-- The active rules: candidates that are not excluded and whose severity is allowed, each name
once. -/
def select (registry : Registry) (configuration : Configuration) (discovered : List Entry) :
    List Entry :=
  firstOfEach [] ((registry.candidates configuration discovered).filter fun entry =>
    !entry.matchesAny configuration.excludeRules &&
      configuration.allows entry.descriptor.severity)

end Registry
end ScriptAudit.Rule
