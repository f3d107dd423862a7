import ScriptAudit.Syntax.Node

namespace ScriptAudit.Syntax

/-! Walking a syntax tree.

The walk keeps a list of the nodes that are still to be visited.  It may stay out of nested script
blocks, which are then listed without their parts; the node it starts from is always entered. -/

mutual

/-- The number of nodes of a tree. -/
def Node.count : Node → Nat
  | .scriptBlock _ parts | .pipeline _ parts | .command _ parts _ | .arrayLiteral _ parts
  | .arrayExpression _ parts | .subExpression _ parts => countAll parts + 1
  | .hashtable _ pairs => countPairs pairs + 1
  | .parenthesized _ part | .unary _ _ part | .conversion _ _ part | .member _ part _ _ =>
      countOptional part + 1
  | .binary _ _ left right => countOptional left + countOptional right + 1
  | .invocation _ target _ arguments _ => countOptional target + countAll arguments + 1
  | .index _ target subscript => countOptional target + countOptional subscript + 1
  | .stringConstant .. | .expandableString .. | .number .. | .variableReference ..
  | .typeLiteral .. => 1

def countAll : List Node → Nat
  | [] => 0
  | node :: rest => node.count + countAll rest

def countPairs : List (Node × Node) → Nat
  | [] => 0
  | (key, value) :: rest => key.count + (value.count + countPairs rest)

def countOptional : Option Node → Nat
  | none => 0
  | some node => node.count

end

theorem countAll_append (first second : List Node) :
    countAll (first ++ second) = countAll first + countAll second := by
  induction first with
  | nil => simp [countAll]
  | cons node rest ih => simp [countAll, ih, Nat.add_assoc]

theorem countAll_toList (part : Option Node) : countAll part.toList = countOptional part := by
  cases part <;> simp [countAll, countOptional]

theorem countAll_flatten (pairs : List (Node × Node)) :
    countAll (pairs.flatMap fun pair => [pair.1, pair.2]) = countPairs pairs := by
  induction pairs with
  | nil => simp [countAll, countPairs]
  | cons pair rest ih =>
      simp [countAll, countPairs, ih]

theorem Node.count_eq (node : Node) : node.count = countAll node.children + 1 := by
  cases node <;>
    simp [Node.count, Node.children, countAll, countAll_append, countAll_toList, countAll_flatten]

/-- What the walk visits below a node. -/
def Node.entered (intoBlocks : Bool) (node : Node) : List Node :=
  if !intoBlocks && node.kind = .scriptBlock then [] else node.children

theorem Node.countAll_entered_lt (intoBlocks : Bool) (node : Node) :
    countAll (node.entered intoBlocks) < node.count := by
  rw [node.count_eq, Node.entered]
  split <;> simp [countAll]

/-- Visits the waiting nodes, each before its parts and its parts before the nodes after it. -/
def visit (intoBlocks : Bool) : (waiting : List Node) → List Node
  | [] => []
  | node :: rest => node :: visit intoBlocks (node.entered intoBlocks ++ rest)
termination_by waiting => countAll waiting
decreasing_by
  have := node.countAll_entered_lt intoBlocks
  simp only [countAll_append, countAll]
  omega

namespace Node

def walk (intoBlocks : Bool) (node : Node) : List Node :=
  node :: visit intoBlocks node.children

def findAll (intoBlocks : Bool) (wanted : Node → Bool) (node : Node) : List Node :=
  (node.walk intoBlocks).filter wanted

def findFirst (intoBlocks : Bool) (wanted : Node → Bool) (node : Node) : Option Node :=
  (node.walk intoBlocks).find? wanted

/-- The first hashtable outside nested script blocks. -/
def firstHashtable (node : Node) : Option Node :=
  node.findFirst false (·.kind = .hashtable)

end Node
end ScriptAudit.Syntax
