import ScriptAudit.Fault.Basic
import ScriptAudit.Syntax.Walk
import ScriptAudit.Value.Table

namespace ScriptAudit.Literal

/-! Evaluating the literals of a data file.

Nothing is executed: a tree that holds anything but literals has no value, and the fault points at
the first node that is none. -/

open Syntax

def notLiteral (node : Node) : Fault :=
  ⟨.notLiteral node.kind node.extent.text, some node.extent⟩

def nothingToEvaluate : Fault :=
  ⟨.nothingToEvaluate, none⟩

/-- A scalar in parentheses is an array of one item when `wrapScalars` holds. -/
def wrapped (wrapScalars : Bool) (value : Value) : Value :=
  match value with
  | .array _ | .table _ => value
  | _ => if wrapScalars then .array [value] else value

/-- The items that the value of a statement adds to an array. -/
def spread : Value → List Value
  | .array items => items
  | value => [value]

/-- The truth value that a variable of this name always has. -/
def constantVariable? (name : String) : Option Bool :=
  if Text.lower name = "true" then some true
  else if Text.lower name = "false" then some false
  else none

mutual

def nodeValue (wrapScalars : Bool) (node : Node) : Except Fault Value :=
  match node with
  | .pipeline _ [element] => nodeValue wrapScalars element
  | .hashtable _ pairs => .table <$> pairEntries wrapScalars [] pairs
  | .arrayLiteral _ elements => .array <$> nodeValues wrapScalars elements
  | .arrayExpression _ statements => .array <$> spreadValues wrapScalars statements
  | .parenthesized _ (some pipeline) => wrapped wrapScalars <$> nodeValue wrapScalars pipeline
  | .parenthesized _ none => .error nothingToEvaluate
  | .stringConstant _ value _ => .ok (.text value)
  | .number _ value => .ok (.number value)
  | .variableReference _ name =>
      match constantVariable? name with
      | some value => .ok (.bool value)
      | none => .error (notLiteral node)
  | _ => .error (notLiteral node)

def nodeValues (wrapScalars : Bool) : List Node → Except Fault (List Value)
  | [] => .ok []
  | node :: rest => do
      let first ← nodeValue wrapScalars node
      let later ← nodeValues wrapScalars rest
      return first :: later

/-- The items of all statements; a statement whose value is an array adds each of its items. -/
def spreadValues (wrapScalars : Bool) : List Node → Except Fault (List Value)
  | [] => .ok []
  | node :: rest => do
      let first ← nodeValue wrapScalars node
      let later ← spreadValues wrapScalars rest
      return spread first ++ later

/-- The entries of a hashtable after those made so far.  Keys are string constants. -/
def pairEntries (wrapScalars : Bool) (made : List (String × Value)) :
    List (Node × Node) → Except Fault (List (String × Value))
  | [] => .ok made
  | (key, valueNode) :: rest =>
      match key with
      | .stringConstant extent name _ =>
          if Table.contains made name then .error ⟨.repeatedKey .stringConstant name, some extent⟩
          else do
            let value ← nodeValue wrapScalars valueNode
            pairEntries wrapScalars (made ++ [(name, value)]) rest
      | _ => .error ⟨.keyNotConstant key.kind key.extent.text, some key.extent⟩

end

/-- The only statement of a script block stands for the whole block. -/
def soleStatement : Node → Node
  | .scriptBlock _ [statement] => statement
  | node => node

/-- The value of a whole text or of a node of it. -/
def evaluate (wrapScalars : Bool) (node : Node) : Except Fault Value :=
  nodeValue wrapScalars (soleStatement node)

/-- The value of a node, or null where it is no literal. -/
def evaluateOrNull (node : Node) : Except Fault Value :=
  match evaluate true node with
  | .ok value => .ok value
  | .error fault => if fault.kind = .unsupportedLiteral then .ok .null else .error fault

end ScriptAudit.Literal
