import ScriptAudit.Fault.Basic
import ScriptAudit.Source.LineIndex
import ScriptAudit.Syntax.Grammar
import ScriptAudit.Syntax.Walk

namespace ScriptAudit.Syntax

/-! Parsing a text: a tree and tokens, or syntax errors.

A text that the grammar does not read to its end has one error, at the statement where the reading
stopped.  A text that it does read has an error for each repeated key of a hashtable.  With errors
the tree is an empty script block. -/

open Source

structure ParseResult where
  tree : Node
  tokens : List Token
  issues : List Issue

def originOf (index : LineIndex) (file : String) : Origin :=
  ⟨index, file⟩

/-- The form in which keys of a hashtable are compared: numbers by how they are shown, other keys
in lower case. -/
def keyForm : Node → String
  | .stringConstant _ value _ | .expandableString _ value _ => Text.lower value
  | .number _ value => value.text
  | key => Text.lower key.extent.text

/-- The keys that come again after one of the forms seen so far. -/
def repeatedKeys (seen : List String) : List (Node × Node) → List Node
  | [] => []
  | (key, _) :: rest =>
      let later := repeatedKeys (keyForm key :: seen) rest
      if seen.contains (keyForm key) then key :: later else later

mutual

/-- The repeated keys of all hashtables of a tree, inner hashtables first. -/
def Node.allRepeatedKeys : Node → List Node
  | .scriptBlock _ parts | .pipeline _ parts | .command _ parts _ | .arrayLiteral _ parts
  | .arrayExpression _ parts | .subExpression _ parts => repeatedInAll parts
  | .hashtable _ pairs => repeatedInPairs pairs ++ repeatedKeys [] pairs
  | .parenthesized _ part | .unary _ _ part | .conversion _ _ part | .member _ part _ _ =>
      repeatedInOptional part
  | .binary _ _ left right => repeatedInOptional left ++ repeatedInOptional right
  | .invocation _ target _ arguments _ => repeatedInOptional target ++ repeatedInAll arguments
  | .index _ target subscript => repeatedInOptional target ++ repeatedInOptional subscript
  | .stringConstant .. | .expandableString .. | .number .. | .variableReference ..
  | .typeLiteral .. => []

def repeatedInAll : List Node → List Node
  | [] => []
  | node :: rest => node.allRepeatedKeys ++ repeatedInAll rest

def repeatedInPairs : List (Node × Node) → List Node
  | [] => []
  | (key, value) :: rest => key.allRepeatedKeys ++ value.allRepeatedKeys ++ repeatedInPairs rest

def repeatedInOptional : Option Node → List Node
  | none => []
  | some node => node.allRepeatedKeys

end

def Node.duplicateKeyIssues (tree : Node) : List Issue :=
  tree.allRepeatedKeys.map fun key => ⟨.duplicateKey key.extent.text, key.extent⟩

/-- How many characters of a text that cannot be read an error shows at most. -/
def snippetWidth : Nat := 20

/-- The error at the place where the grammar stopped. -/
def stopIssue (index : LineIndex) (file : String) (rest : List Char) : Issue :=
  let stop := index.text.length - rest.length
  let snippet := (rest.take snippetWidth).takeWhile (!Text.isLineBoundary ·)
  { cause := if snippet.isEmpty then .unexpectedEnd else .unexpectedText (String.ofList snippet)
    extent := index.extent file stop stop }

def emptyTree (index : LineIndex) (file : String) : Node :=
  .scriptBlock (index.extent file 0 index.text.length) []

/-- The first number token that has more digits than an integer may have. -/
def overlongInteger? (tokens : List Token) : Option (Token × Nat) :=
  tokens.findSome? fun token =>
    if token.kind = .number then
      match Lexeme.integerDigits? token.text.toList with
      | some digits => if Text.greatestIntegerDigits < digits then some (token, digits) else none
      | none => none
    else none

/-- A number among the keys of the table has too many digits for a text, so the key has no form. -/
def Node.hidesKey : Node → Bool
  | .hashtable _ pairs => pairs.any fun pair =>
      match pair.1 with
      | .number _ value => !Fault.isShownNumber value
      | _ => false
  | _ => false

/-- Parses a text; `file` only labels the extents. -/
def parseText (text file : String) : Except Fault ParseResult :=
  let index := LineIndex.ofText text.toList
  match Grammar.script (originOf index file) ⟨text.toList, []⟩ with
  | none => .ok ⟨emptyTree index file, [], [stopIssue index file text.toList]⟩
  | some (tree, cursor) =>
      if cursor.rest ≠ [] then
        .ok ⟨emptyTree index file, [], [stopIssue index file cursor.rest]⟩
      else
        let tokens := cursor.tokens.reverse
        match overlongInteger? tokens with
        | some (token, digits) =>
            .error ⟨.integerTooLong token.text digits Text.greatestIntegerDigits,
              some (.ofFile file)⟩
        | none =>
            match tree.findFirst true Node.hidesKey with
            | some table =>
                .error ⟨.keyTooLong table.extent.text Text.greatestIntegerDigits,
                  some (.ofFile file)⟩
            | none =>
                let issues := tree.duplicateKeyIssues
                if issues.isEmpty then .ok ⟨tree, tokens, []⟩
                else .ok ⟨emptyTree index file, tokens, issues⟩

end ScriptAudit.Syntax
