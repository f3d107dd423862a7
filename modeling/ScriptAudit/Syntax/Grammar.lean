import ScriptAudit.Source.LineIndex
import ScriptAudit.Syntax.Lexeme.Quotation
import ScriptAudit.Syntax.Lexeme.Trivia
import ScriptAudit.Syntax.Lexeme.Word
import ScriptAudit.Syntax.Node
import ScriptAudit.Syntax.Token

namespace ScriptAudit.Syntax

/-! The grammar of data files.

A reader takes a cursor and gives a result and the cursor after it, or nothing.  Alternatives are
tried in order and the first that reads something is final; a repetition takes what it can.

The grammar is recursive in three places, pipelines, expressions and operands, and each of them
recurs only after a character has been read.  So the readers are built level by level: a level
reads what is nested with the readers of the level below it, and a text needs no more levels than
it has characters. -/

open Source Lexeme

/-- The text that is still to be read, and the tokens read so far with the latest in front. -/
structure Cursor where
  rest : List Char
  tokens : List Token

abbrev Reader := StateT Cursor Option

/-- Where extents come from: the lines of the whole text, and the file that labels them. -/
structure Origin where
  index : LineIndex
  file : String

namespace Origin

@[simp] def length (origin : Origin) : Nat :=
  origin.index.text.length

/-- The extent from one offset to another. -/
@[simp] def place (origin : Origin) (start stop : Nat) : Extent :=
  origin.index.extent origin.file start stop

def merge (origin : Origin) (first last : Extent) : Extent :=
  origin.index.merge origin.file first last

end Origin

/-- The readers of one level of nesting. -/
structure Level where
  pipeline : Reader Node
  expression : Reader Node
  operand : Reader Node

namespace Reader

/-- Applies an item as often as it reads something. -/
def repeatedFrom {α : Type} (item : Reader α) (cursor : Cursor) : List α × Cursor :=
  match item cursor with
  | none => ([], cursor)
  | some (value, after) =>
      if after.rest.length < cursor.rest.length then
        let later := repeatedFrom item after
        (value :: later.1, later.2)
      else ([], cursor)
termination_by cursor.rest.length

def repeated {α : Type} (item : Reader α) : Reader (List α) :=
  fun cursor => some (repeatedFrom item cursor)

def ifPresent {α : Type} (item : Reader α) : Reader (Option α) :=
  (some <$> item) <|> pure none

/-- Goes on where a scanning function ends. -/
def skip (scan : List Char → Option (List Char)) : Reader Unit := fun cursor =>
  (scan cursor.rest).map fun rest => ((), { cursor with rest := rest })

/-- The characters that a scanning function reads. -/
def lexeme (scan : List Char → Option (List Char)) : Reader (List Char) := fun cursor =>
  (scan cursor.rest).map fun rest =>
    (cursor.rest.take (cursor.rest.length - rest.length), { cursor with rest := rest })

def char (c : Char) : Reader Unit :=
  skip (afterChar c)

/-- Blanks, continued lines and comments on one line. -/
def space : Reader Unit :=
  skip fun text => some (skipTrivia false text)

/-- Blanks, line breaks, semicolons, continued lines and comments. -/
def blank : Reader Unit :=
  skip fun text => some (skipTrivia true text)

/-- At least one blank or continued line. -/
def gap : Reader Unit :=
  skip fun text =>
    let rest := skipInlineBlanks text
    if rest.length < text.length then some rest else none

end Reader

namespace Grammar

open Reader

section
variable (origin : Origin)

def offsetAt (cursor : Cursor) : Nat :=
  origin.length - cursor.rest.length

def offset : Reader Nat := fun cursor =>
  some (offsetAt origin cursor, cursor)

/-- Reads something and gives it the extent of what was read. -/
def located {α : Type} (body : Reader (Extent → α)) : Reader α := fun cursor =>
  (body cursor).map fun read =>
    (read.1 (origin.place (offsetAt origin cursor) (offsetAt origin read.2)), read.2)

/-- Reads a token. -/
def token (kind : TokenKind) (scan : List Char → Option (List Char)) :
    Reader (List Char × Extent) := do
  let text ← located origin do
    let text ← lexeme scan
    return (text, ·)
  modify fun cursor =>
    { cursor with tokens := ⟨kind, String.ofList text.1, text.2⟩ :: cursor.tokens }
  return text

/-- A token that is a string constant without quotes. -/
def bare (kind : TokenKind) (scan : List Char → Option (List Char)) : Reader Node := do
  let found ← token origin kind scan
  return .stringConstant found.2 (String.ofList found.1) .bare

/-- A string between an opening mark and a closing one, with the text between them as written. -/
def quotation (opening : List Char) (body : List Char → Option (List Char × List Char)) :
    Reader (List Char × Extent) := fun cursor =>
  match body (cursor.rest.drop opening.length) with
  | some found =>
      if cursor.rest.take opening.length = opening then
        (token origin .string (fun _ => some found.2) cursor).map fun read =>
          ((found.1, read.1.2), read.2)
      else none
  | none => none

/-- A double-quoted string is a constant when nothing in it is expanded. -/
def doubleQuotedNode (extent : Extent) (body : List Char) (collapseQuotes : Bool) (quote : Quote) :
    Node :=
  let said := unescape collapseQuotes body
  if said.2 then .expandableString extent (String.ofList body) quote
  else .stringConstant extent (String.ofList said.1) quote

def singleQuoted : Reader Node := do
  let found ← quotation origin ['\''] singleQuotedBody
  return .stringConstant found.2 (String.ofList (singleQuotedValue found.1)) .single

def doubleQuoted : Reader Node := do
  let found ← quotation origin ['"'] doubleQuotedBody
  return doubleQuotedNode found.2 found.1 true .double

def hereSingle : Reader Node := do
  let found ← quotation origin ['@', '\''] (hereString '\'')
  return .stringConstant found.2 (String.ofList found.1) .hereSingle

def hereDouble : Reader Node := do
  let found ← quotation origin ['@', '"'] (hereString '"')
  return doubleQuotedNode found.2 found.1 false .hereDouble

def stringLiteral : Reader Node :=
  singleQuoted origin <|> doubleQuoted origin

def numeral : Reader Node := do
  let found ← token origin .number afterNumeral
  return .number found.2 (numeralValue found.1)

def variableNode : Reader Node := do
  let found ← token origin .variableName afterVariable
  return .variableReference found.2 (String.ofList (variableName found.1))

def typeNode : Reader (Extent × String) := do
  let found ← token origin .type afterTypeLiteral
  return (found.2, String.ofList (found.1.drop 1).dropLast)

/-- The end of a statement: a separator, or a bracket or the end of the text that is left to be
read. -/
def statementMark : Reader Unit := fun cursor =>
  match cursor.rest with
  | [] => some ((), cursor)
  | c :: rest =>
      if c = ';' ∨ isLineBreak c then some ((), { cursor with rest := rest })
      else if c = ')' ∨ c = '\x7d' then some ((), cursor)
      else none

def terminator : Reader Unit := do
  space
  statementMark
  blank

/-- The end of a pair: a separator, or the closing brace that is left to be read. -/
def pairMark : Reader Unit := fun cursor =>
  match cursor.rest with
  | [] => none
  | c :: rest =>
      if c = ';' ∨ isLineBreak c then some ((), { cursor with rest := rest })
      else if c = '\x7d' then some ((), cursor)
      else none

def pairTerminator : Reader Unit := do
  space
  pairMark
  blank

def hashKey : Reader Node :=
  stringLiteral origin <|> numeral origin <|> bare origin .bareword afterKeyword

section
variable (inner : Level)

def statement : Reader Node := do
  let pipeline ← inner.pipeline
  terminator
  return pipeline

def statements : Reader (List Node) := do
  blank
  repeated (statement inner)

def hashPair : Reader (Node × Node) := do
  let key ← hashKey origin
  space
  char '='
  blank
  let value ← inner.pipeline
  pairTerminator
  return (key, value)

def hashtable : Reader Node := located origin do
  char '@'
  char '\x7b'
  blank
  let pairs ← repeated (hashPair origin inner)
  char '\x7d'
  return (.hashtable · pairs)

def arrayExpression : Reader Node := located origin do
  char '@'
  char '('
  let body ← statements inner
  char ')'
  return (.arrayExpression · body)

def subExpression : Reader Node := located origin do
  char '$'
  char '('
  let body ← statements inner
  char ')'
  return (.subExpression · body)

def parenthesized : Reader Node := located origin do
  char '('
  blank
  let body ← inner.pipeline
  blank
  char ')'
  return (.parenthesized · (some body))

def scriptBlock : Reader Node := located origin do
  char '\x7b'
  let body ← statements inner
  char '\x7d'
  return (.scriptBlock · body)

/-- A type name alone, or in front of the operand that it converts. -/
def typeExpression : Reader Node := located origin do
  let name ← typeNode origin
  let operand ← ifPresent (space *> inner.operand)
  return fun extent =>
    match operand with
    | none => .typeLiteral name.1 name.2
    | some operand => .conversion extent name.2 (some operand)

def primary : Reader Node :=
  hashtable origin inner <|> arrayExpression origin inner <|> subExpression origin inner <|>
    parenthesized origin inner <|> scriptBlock origin inner <|> hereSingle origin <|>
    hereDouble origin <|> stringLiteral origin <|> typeExpression origin inner <|>
    numeral origin <|> variableNode origin

def memberName : Reader (Bool × String) := do
  let separator ← lexeme afterMemberSeparator
  let name ← lexeme afterMemberName
  return (separator == [':', ':'], String.ofList name)

/-- A list of arguments that are parted by commas is one argument each. -/
def argumentList : Option Node → List Node
  | some (.arrayLiteral _ elements) => elements
  | some argument => [argument]
  | none => []

def memberInvocation : Reader (Extent → Node → Node) := do
  let name ← memberName
  char '('
  blank
  let argument ← ifPresent inner.expression
  blank
  char ')'
  return fun extent target =>
    .invocation extent (some target) name.2 (argumentList argument) name.1

def memberAccess : Reader (Extent → Node → Node) := do
  let name ← memberName
  return fun extent target => .member extent (some target) name.2 name.1

def indexAccess : Reader (Extent → Node → Node) := do
  char '['
  blank
  let subscript ← inner.expression
  blank
  char ']'
  return fun extent target => .index extent (some target) (some subscript)

/-- A suffix of an operand, and where it ends. -/
def suffix : Reader ((Extent → Node → Node) × Nat) := do
  let build ← memberInvocation inner <|> memberAccess <|> indexAccess inner
  let stop ← offset origin
  return (build, stop)

def postfixExpression : Reader Node := do
  let start ← offset origin
  let target ← primary origin inner
  let suffixes ← repeated (suffix origin inner)
  return suffixes.foldl (fun node found => found.1 (origin.place start found.2) node) target

def prefixedExpression : Reader Node := located origin do
  let operator ← lexeme afterUnaryOperator
  space
  let operand ← inner.operand
  return (.unary · (String.ofList operator).toLower (some operand))

def operand : Reader Node :=
  postfixExpression origin inner <|> prefixedExpression origin inner

def nextElement : Reader Node := do
  space
  char ','
  blank
  operand origin inner

def arrayLiteral : Reader Node := located origin do
  let first ← operand origin inner
  let later ← repeated (nextElement origin inner)
  return fun extent => if later.isEmpty then first else .arrayLiteral extent (first :: later)

/-- An operator and its right operand. -/
def operation : Reader (String × Node) := do
  space
  let operator ← lexeme afterBinaryOperator
  blank
  let right ← arrayLiteral origin inner
  return (String.ofList operator, right)

/-- What an operator makes of its operands: its extent is put together from theirs. -/
def binaryOf (left : Node) (found : String × Node) : Node :=
  .binary (origin.merge left.extent found.2.extent) found.1 (some left) (some found.2)

/-- Operators are taken from left to right. -/
def expression : Reader Node := do
  let first ← arrayLiteral origin inner
  let operations ← repeated (operation origin inner)
  return operations.foldl (binaryOf origin) first

def bareword : Reader Node :=
  bare origin .bareword afterBareword

/-- The name of a command, and the mark that calls it. -/
def calledCommand : Reader (Node × String) := do
  let operator ← lexeme afterCallOperator
  space
  let target ← bareword origin <|> primary origin inner
  return (target, String.ofList operator)

def plainCommand : Reader (Node × String) := do
  let name ← bareword origin
  return (name, "")

def commandArgument : Reader Node := do
  gap
  bare origin .parameter afterParameter <|> postfixExpression origin inner <|> bareword origin

def command : Reader Node := located origin do
  let name ← calledCommand origin inner <|> plainCommand origin
  let arguments ← repeated (commandArgument origin inner)
  return (.command · (name.1 :: arguments) name.2)

def element : Reader Node :=
  expression origin inner <|> command origin inner

def nextCommand : Reader Node := do
  space
  char '|'
  blank
  element origin inner

def pipeline : Reader Node := located origin do
  let first ← element origin inner
  let later ← repeated (nextCommand origin inner)
  return (.pipeline · (first :: later))

end

/-- The readers for this many levels of nesting. -/
def level : (depth : Nat) → Level
  | 0 => ⟨failure, failure, failure⟩
  | depth + 1 =>
      let inner := level depth
      ⟨pipeline origin inner, expression origin inner, operand origin inner⟩

/-- The statements of a whole text, as far as they can be read. -/
def script : Reader Node := located origin do
  let body ← statements (level origin (origin.length + 1))
  return (.scriptBlock · body)

end
end Grammar
end ScriptAudit.Syntax
