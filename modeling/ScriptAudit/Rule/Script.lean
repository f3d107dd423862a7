import ScriptAudit.Rule.Basic

namespace ScriptAudit.Rule

/-! Rules that are described by steps instead of code. -/

open Source Syntax

inductive Step where
  /-- A diagnostic for each node of a kind, perhaps with a text to put in its place. -/
  | nodes (kind : String) (intoBlocks : Bool) (message : String)
      (severity : Option Severity) (id : Option String)
      (replacement : Option (String × String))
  /-- A diagnostic for each quoted text that is not in upper case. -/
  | upperCase
  /-- One diagnostic at a fixed place. -/
  | place (message : String) (extent : Extent) (path : Option String)
      (severity : Option Severity) (id : Option String) (corrections : List Correction)
  | warn (message : String)
  | fail (failure : Fault.Failure)
  | cancel
  | observe (keys commands : List String)

def leastLengthArgument : String := "MinLength"

/-- Whether a text has at least the length that an argument asks for. -/
def reaches (length : Nat) (least : Value) : Except Fault.Failure Bool :=
  match least with
  | .number number => .ok (number.atMost length)
  | .bool truth => .ok ((if truth then 1 else 0) ≤ length)
  | _ =>
      .error (.ofArgument "TypeError"
        ("'>=' not supported between instances of 'int' and '" ++ least.typeName ++ "'"))

/-- The diagnostic of a quoted text that is long enough and not in upper case. -/
def upperCaseDiagnostic? (descriptor : Descriptor) (scene : Scene) (least : Value) :
    Node → Except Fault.Failure (Option Diagnostic)
  | .stringConstant extent value _ =>
      if extent.text.startsWith "'" then do
        let upper := Text.upper value
        if (← reaches value.length least) && value != upper then
          return some (descriptor.diagnostic "String is not upper-case" extent scene.path none none
            [⟨extent, "'" ++ upper ++ "'", "Upper-case"⟩])
        else return none
      else return none
  | _ => return none

def Step.diagnostics (descriptor : Descriptor) (scene : Scene) :
    Step → Except Fault.Failure (List Diagnostic)
  | nodes kind intoBlocks message severity id replacement =>
      .ok ((scene.tree.findAll intoBlocks (·.isNamed kind)).map fun node =>
        descriptor.diagnostic message node.extent scene.path severity id
          (replacement.toList.map fun text => ⟨node.extent, text.1, text.2⟩))
  | upperCase => do
      let least := (Table.get? scene.arguments leastLengthArgument).getD (.number (.integer 1))
      let found ← (scene.tree.walk true).mapM (upperCaseDiagnostic? descriptor scene least)
      return found.filterMap (·)
  | place message extent path severity id corrections =>
      .ok [descriptor.diagnostic message extent (path.getD scene.path) severity id corrections]
  | fail failure => .error failure
  | warn _ | cancel | observe .. => .ok []

/-- What a rule with this descriptor sees when it looks for these arguments and commands. -/
def observation (descriptor : Descriptor) (scene : Scene) (keys commands : List String) :
    Observation :=
  { rule := descriptor.name
    path := scene.path
    given := scene.given
    arguments := scene.arguments
    values := keys.map fun key => (Table.get? scene.arguments key).getD .null
    commands := commands.map scene.command?
    tokens := scene.tokens }

/-- Takes the steps one after the other; a step that fails is the last one. -/
def runSteps (descriptor : Descriptor) (scene : Scene) : List Step → Report
  | [] => {}
  | step :: rest =>
      match step.diagnostics descriptor scene with
      | .error failure => { diagnostics := .error failure }
      | .ok found =>
          let later := runSteps descriptor scene rest
          { diagnostics := later.diagnostics.map (found ++ ·)
            warnings :=
              match step with
              | .warn message => message :: later.warnings
              | _ => later.warnings
            observations :=
              match step with
              | .observe keys commands =>
                  observation descriptor scene keys commands :: later.observations
              | _ => later.observations
            cancels := later.cancels || match step with
              | .cancel => true
              | _ => false }

/-- The rule with this descriptor that takes these steps.  One that may be configured asks to be
enabled. -/
def ofSteps (descriptor : Descriptor) (configurable : Bool)
    (implicitArguments : Option (List String)) (steps : List Step) : Rule :=
  { descriptor := descriptor
    implicitArguments := implicitArguments.getD (if configurable then [enableArgument] else [])
    asksEnable := configurable
    analyze := fun scene => runSteps descriptor scene steps }

end ScriptAudit.Rule
