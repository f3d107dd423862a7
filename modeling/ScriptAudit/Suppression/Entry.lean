import ScriptAudit.Fault.Problem
import ScriptAudit.Suppression.Scope
import ScriptAudit.Suppression.Target

namespace ScriptAudit.Suppression

/-! Suppressions, and the attributes that declare them. -/

open Source

structure Entry where
  rule : String
  extent : Extent
  target : Option String := none
  scope : Scope := .none
  id : Option String := none
  justification : String := ""
deriving DecidableEq

def Entry.targetKind (entry : Entry) : TargetKind :=
  classify entry.target

/-- What the named arguments of an attribute say. -/
structure AttributeOptions where
  scope : String := ""
  target : String := ""
  justification : String := ""

/-- Takes over one named argument; a later one of the same name counts. -/
def AttributeOptions.take (options : AttributeOptions) (extent : Extent) (key value : Value) :
    Except Problem AttributeOptions :=
  let wrong (cause : Fault.Cause) : Except Problem AttributeOptions :=
    .error (.fault ⟨cause, some extent⟩)
  match key with
  | .text name =>
      let word := Text.lower name
      if word = "scope" ∨ word = "target" ∨ word = "justification" then
        match value with
        | .text text =>
            .ok (if word = "scope" then { options with scope := text }
              else if word = "target" then { options with target := text }
              else { options with justification := text })
        | _ => wrong (.suppressionArgumentNotText name)
      else wrong (.unknownSuppressionArgument name)
  | .bytes _ => wrong (.unknownSuppressionArgument key.display)
  | _ => .error .keyWithoutCase

/-- An empty text is as good as none. -/
def givenText? (text : String) : Option String :=
  if text = "" then none else some text

/-- The rule and the rule id that the arguments of an attribute begin with. -/
def attributeNames (extent : Extent) (positional : List Value) :
    Except Fault (String × Option String) :=
  match positional with
  | .text rule :: others =>
      if rule = "" then .error ⟨.noRuleNamed, some extent⟩
      else match others with
        | [] | [.null] => .ok (rule, none)
        | [.text id] => .ok (rule, givenText? id)
        | [_] => .error ⟨.ruleIdNotText, some extent⟩
        | _ => .error ⟨.tooManyPositions, some extent⟩
  | _ => .error ⟨.noRuleNamed, some extent⟩

/-- The suppression that an attribute with these arguments declares. -/
def Entry.ofAttribute (positional : List Value) (named : List (Value × Value)) (extent : Extent) :
    Except Problem Entry := do
  let names ← (attributeNames extent positional).mapError .fault
  let options ← named.foldlM (fun options pair => options.take extent pair.1 pair.2)
    ({} : AttributeOptions)
  match Scope.ofText? options.scope with
  | none => .error (.fault ⟨.unknownScope options.scope, some extent⟩)
  | some scope =>
      return {
        rule := names.1
        extent := extent
        target := givenText? options.target
        scope := scope
        id := names.2
        justification := options.justification }

end ScriptAudit.Suppression
