import ScriptAudit.Fault.Problem
import ScriptAudit.Settings.Configuration
import ScriptAudit.Settings.Location

namespace ScriptAudit.Settings

/-! A configuration from the entries of a settings table.

The entries are taken in order, and the first one that is wrong decides the fault. -/

open Source

inductive Setting where
  | severity
  | includeRules
  | excludeRules
  | customRulePath
  | includeDefaultRules
  | recurseCustomRulePath
  | rules
deriving DecidableEq

namespace Setting

def name : Setting → String
  | severity => "Severity"
  | includeRules => "IncludeRules"
  | excludeRules => "ExcludeRules"
  | customRulePath => "CustomRulePath"
  | includeDefaultRules => "IncludeDefaultRules"
  | recurseCustomRulePath => "RecurseCustomRulePath"
  | rules => "Rules"

def all : List Setting :=
  [severity, includeRules, excludeRules, customRulePath, includeDefaultRules,
    recurseCustomRulePath, rules]

def ofKey? (key : String) : Option Setting :=
  all.find? fun setting => Text.lower setting.name == Text.lower key

end Setting

def valueExtent? (locations : Locations) (key : String) : Option Extent :=
  (locations.find? key).map Location.value

/-- The texts without those that repeat an earlier one, letter case aside. -/
def distinctTexts (seen : List String) : List String → List String
  | [] => []
  | text :: rest =>
      if seen.contains (Text.lower text) then distinctTexts seen rest
      else text :: distinctTexts (Text.lower text :: seen) rest

def textItems? (value : Value) : Option (List String) :=
  match value with
  | .text text => some [text]
  | .array items => items.mapM fun item =>
      match item with
      | .text text => some text
      | _ => none
  | _ => none

def textsOf (locations : Locations) (key : String) (value : Value) : Except Fault (List String) :=
  match textItems? value with
  | some texts => .ok (distinctTexts [] texts)
  | none => .error ⟨.notTexts key value, valueExtent? locations key⟩

def boolOf (locations : Locations) (key : String) (value : Value) : Except Fault Bool :=
  match value with
  | .bool truth => .ok truth
  | _ => .error ⟨.typeMismatch key "boolean" value, valueExtent? locations key⟩

/-- How a key reads inside a sentence. -/
def keyText : Value → String
  | .text name | .path name => name
  | key => key.display

/-- The arguments of one rule. -/
def argumentsOf (locations : Locations) (rule : Value) (arguments : Value) :
    Except Problem (List (String × Value)) :=
  match arguments with
  | .table entries => .ok entries
  | .mapping pairs => (Table.ofPairs pairs).mapError .table
  | _ =>
      .error (.ofFault ⟨.argumentsNotTable (keyText rule) arguments,
        valueExtent? locations (rulesKey ++ "." ++ keyText rule)⟩)

def rulesOf (locations : Locations) (key : String) (value : Value) :
    Except Problem RuleArguments := do
  if value.isKeyed then
    let rules ← value.pairs.mapM fun rule => do
      return (rule.1, ← argumentsOf locations rule.1 rule.2)
    (Table.ofPairs rules).mapError .table
  else .error (.fault ⟨.rulesNotTable key, valueExtent? locations key⟩)

/-- A configuration in the making, and whether it says itself if the default rules are included. -/
structure Draft where
  configuration : Configuration
  saysDefaults : Bool := false

/-- Takes one setting over into the draft. -/
def Draft.set (draft : Draft) (locations : Locations) (setting : Setting) (key : String)
    (value : Value) : Except Problem Draft := do
  let old := draft.configuration
  match setting with
  | .severity =>
      let texts ← (textsOf locations key value).mapError .ofFault
      return { draft with configuration := { old with severities := texts } }
  | .includeRules =>
      let texts ← (textsOf locations key value).mapError .ofFault
      return { draft with configuration := { old with includeRules := texts } }
  | .excludeRules =>
      let texts ← (textsOf locations key value).mapError .ofFault
      return { draft with configuration := { old with excludeRules := texts } }
  | .customRulePath =>
      let texts ← (textsOf locations key value).mapError .ofFault
      return { draft with configuration := { old with customRulePaths := texts } }
  | .includeDefaultRules =>
      let truth ← (boolOf locations key value).mapError .ofFault
      return ⟨{ old with includeDefaultRules := truth }, true⟩
  | .recurseCustomRulePath =>
      let truth ← (boolOf locations key value).mapError .ofFault
      return { draft with configuration := { old with recurseCustomRulePath := truth } }
  | .rules =>
      let rules ← rulesOf locations key value
      return { draft with configuration := { old with ruleArguments := rules } }

def unknownSetting (name : String) (extent : Option Extent) : Problem :=
  .fault ⟨.unknownSetting name (Setting.all.map Setting.name), extent⟩

def Draft.take (draft : Draft) (locations : Locations) (key value : Value) :
    Except Problem Draft :=
  match key with
  | .text name =>
      match Setting.ofKey? name with
      | some setting => draft.set locations setting name value
      | none => .error (unknownSetting name ((locations.find? name).map Location.key))
  | .bytes _ => .error (unknownSetting key.display none)
  | _ => .error .keyWithoutCase

/-- Custom rules take the place of the default ones unless the settings say otherwise. -/
def Draft.finish (draft : Draft) : Configuration :=
  if !draft.saysDefaults && !draft.configuration.customRulePaths.isEmpty then
    { draft.configuration with includeDefaultRules := false }
  else draft.configuration

/-- The configuration of these pairs; `locations` lets faults point into the settings file. -/
def build (mode : Mode) (sourcePath : Option String) (locations : Locations)
    (pairs : List (Value × Value)) : Except Problem Configuration := do
  let start : Draft := { configuration := { mode := mode, sourcePath := sourcePath } }
  let draft ← pairs.foldlM (fun draft pair => draft.take locations pair.1 pair.2) start
  return draft.finish

end ScriptAudit.Settings
