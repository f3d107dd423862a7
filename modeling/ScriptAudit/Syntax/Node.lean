import ScriptAudit.Number.Basic
import ScriptAudit.Source.Extent

namespace ScriptAudit.Syntax

/-! The syntax tree of a data file.

The tree covers literals, and around them as much of commands, operators and member access as it
takes to point at what is not a literal.  Every node carries its extent. -/

open Source

/-- How a string was written. -/
inductive Quote where
  | bare
  | single
  | double
  | hereSingle
  | hereDouble
deriving DecidableEq

namespace Quote

def name : Quote → String
  | bare => "bare"
  | single => "single"
  | double => "double"
  | hereSingle => "here-single"
  | hereDouble => "here-double"

def all : List Quote := [bare, single, double, hereSingle, hereDouble]

end Quote

inductive Node where
  | scriptBlock (extent : Extent) (statements : List Node)
  | pipeline (extent : Extent) (elements : List Node)
  | command (extent : Extent) (elements : List Node) (operator : String)
  | hashtable (extent : Extent) (pairs : List (Node × Node))
  | arrayLiteral (extent : Extent) (elements : List Node)
  | arrayExpression (extent : Extent) (statements : List Node)
  | subExpression (extent : Extent) (statements : List Node)
  | parenthesized (extent : Extent) (pipeline : Option Node)
  | stringConstant (extent : Extent) (value : String) (quote : Quote)
  | expandableString (extent : Extent) (value : String) (quote : Quote)
  | number (extent : Extent) (value : Number)
  | variableReference (extent : Extent) (name : String)
  | binary (extent : Extent) (operator : String) (left right : Option Node)
  | unary (extent : Extent) (operator : String) (operand : Option Node)
  | typeLiteral (extent : Extent) (typeName : String)
  | conversion (extent : Extent) (typeName : String) (operand : Option Node)
  | member (extent : Extent) (target : Option Node) (name : String) (static : Bool)
  | invocation (extent : Extent) (target : Option Node) (name : String) (arguments : List Node)
      (static : Bool)
  | index (extent : Extent) (target subscript : Option Node)

instance : Inhabited Node := ⟨.scriptBlock {} []⟩

inductive NodeKind where
  | scriptBlock
  | pipeline
  | command
  | hashtable
  | arrayLiteral
  | arrayExpression
  | subExpression
  | parenthesized
  | stringConstant
  | expandableString
  | number
  | variableReference
  | binary
  | unary
  | typeLiteral
  | conversion
  | member
  | invocation
  | index
deriving DecidableEq

namespace NodeKind

def all : List NodeKind :=
  [scriptBlock, pipeline, command, hashtable, arrayLiteral, arrayExpression, subExpression,
    parenthesized, stringConstant, expandableString, number, variableReference, binary, unary,
    typeLiteral, conversion, member, invocation, index]

/-- The name by which rules ask for nodes of this kind. -/
def name : NodeKind → String
  | scriptBlock => "ScriptBlock"
  | pipeline => "Pipeline"
  | command => "Command"
  | hashtable => "Hashtable"
  | arrayLiteral => "ArrayLiteral"
  | arrayExpression => "ArrayExpression"
  | subExpression => "SubExpression"
  | parenthesized => "ParenExpression"
  | stringConstant => "StringConstant"
  | expandableString => "ExpandableString"
  | number => "Number"
  | variableReference => "Variable"
  | binary => "BinaryExpression"
  | unary => "UnaryExpression"
  | typeLiteral => "TypeLiteral"
  | conversion => "ConvertExpression"
  | member => "MemberExpression"
  | invocation => "InvokeMember"
  | index => "IndexExpression"

def ofName? (name : String) : Option NodeKind :=
  all.find? (·.name == name)

/-- What messages call a node of this kind. -/
def label : NodeKind → String
  | scriptBlock => "script block"
  | pipeline => "pipeline"
  | command => "command invocation"
  | hashtable => "hashtable"
  | arrayLiteral => "array literal"
  | arrayExpression => "array expression"
  | subExpression => "sub-expression"
  | parenthesized => "parenthesized expression"
  | stringConstant => "string constant"
  | expandableString => "expandable string"
  | number => "number"
  | variableReference => "variable reference"
  | binary => "binary expression"
  | unary => "unary expression"
  | typeLiteral => "type literal"
  | conversion => "type conversion"
  | member => "member access"
  | invocation => "method invocation"
  | index => "index expression"

end NodeKind

namespace Node

def extent : Node → Extent
  | scriptBlock extent _ | pipeline extent _ | command extent _ _ | hashtable extent _
  | arrayLiteral extent _ | arrayExpression extent _ | subExpression extent _
  | parenthesized extent _ | stringConstant extent _ _ | expandableString extent _ _
  | number extent _ | variableReference extent _ | binary extent _ _ _ | unary extent _ _
  | typeLiteral extent _ | conversion extent _ _ | member extent _ _ _
  | invocation extent _ _ _ _ | index extent _ _ => extent

def kind : Node → NodeKind
  | scriptBlock .. => .scriptBlock
  | pipeline .. => .pipeline
  | command .. => .command
  | hashtable .. => .hashtable
  | arrayLiteral .. => .arrayLiteral
  | arrayExpression .. => .arrayExpression
  | subExpression .. => .subExpression
  | parenthesized .. => .parenthesized
  | stringConstant .. => .stringConstant
  | expandableString .. => .expandableString
  | number .. => .number
  | variableReference .. => .variableReference
  | binary .. => .binary
  | unary .. => .unary
  | typeLiteral .. => .typeLiteral
  | conversion .. => .conversion
  | member .. => .member
  | invocation .. => .invocation
  | index .. => .index

/-- Nodes of every kind have the empty name. -/
def isNamed (node : Node) (name : String) : Bool :=
  name == "" || node.kind.name == name

/-- The direct parts of a node, in the order in which they stand in the source. -/
def children : Node → List Node
  | scriptBlock _ parts | pipeline _ parts | command _ parts _ | arrayLiteral _ parts
  | arrayExpression _ parts | subExpression _ parts => parts
  | hashtable _ pairs => pairs.flatMap fun pair => [pair.1, pair.2]
  | parenthesized _ part | unary _ _ part | conversion _ _ part | member _ part _ _ => part.toList
  | binary _ _ left right => left.toList ++ right.toList
  | invocation _ target _ arguments _ => target.toList ++ arguments
  | index _ target subscript => target.toList ++ subscript.toList
  | stringConstant .. | expandableString .. | number .. | variableReference ..
  | typeLiteral .. => []

/-- The name of a command: the text of its first element. -/
def commandName : Node → String
  | command _ (stringConstant _ value _ :: _) _ => value
  | command _ (first :: _) _ => first.extent.text
  | _ => ""

end Node
end ScriptAudit.Syntax
