import ScriptAudit.Syntax.Lexeme.Numeral
import ScriptAudit.Text.Blank

namespace ScriptAudit.Syntax.Lexeme

/-! Words, variables, type names and operators.

Each scanning function gives the rest of the text after what it reads. -/

open Text

def isNameStart (c : Char) : Bool :=
  c.isAlpha || c == '_'

def isNameChar (c : Char) : Bool :=
  isWordChar c || c == '-'

/-- Characters that end a bareword wherever they stand. -/
def endsBareword (c : Char) : Bool :=
  isWhiteSpace c || c == ';' || c == '|' || c == '(' || c == ')' || c == '\x7b' || c == '\x7d' ||
    c == '[' || c == ']' || c == ',' || c == '\'' || c == '"' || c == '\x60' || c == '#' ||
    c == '=' || c == '<' || c == '>' || c == '&'

def isSigil (c : Char) : Bool :=
  c == '@' || c == '$'

def afterBareword : List Char → Option (List Char)
  | [] => none
  | c :: rest =>
      if endsBareword c || isSigil c then none else some (rest.dropWhile (!endsBareword ·))

/-- A word that can stand as a key of a hashtable without quotes. -/
def afterKeyword (text : List Char) : Option (List Char) :=
  afterSome (fun c => !(endsBareword c || isSigil c)) text

def afterParameter : List Char → Option (List Char)
  | '-' :: c :: rest =>
      if isNameStart c || c == '?' then
        let after := rest.dropWhile isNameChar
        some ((afterChar ':' after).getD after)
      else none
  | _ => none

def afterMemberName : List Char → Option (List Char)
  | [] => none
  | c :: rest => if isNameStart c then some (rest.dropWhile isWordChar) else none

/-- A name with a scope in front, the two parted by a colon. -/
def afterScopedName (text : List Char) : Option (List Char) :=
  ((afterMemberName text).bind (afterChar ':')).bind (afterSome isWordChar)

def afterVariable : List Char → Option (List Char)
  | '$' :: '\x7b' :: rest => afterChar '\x7d' (rest.dropWhile (· != '\x7d'))
  | '$' :: text =>
      (afterScopedName text).or ((afterSome isWordChar text).or
        (match text with
          | c :: rest => if c = '$' ∨ c = '^' ∨ c = '?' then some rest else none
          | [] => none))
  | _ => none

/-- The name in a variable as written. -/
def variableName : List Char → List Char
  | '$' :: '\x7b' :: rest => rest.dropLast
  | text => text.drop 1

def isTypeNameChar (c : Char) : Bool :=
  isWordChar c || c == '.'

/-- A type name in brackets, which may have bracketed arguments. -/
def afterTypeLiteral : List Char → Option (List Char)
  | '[' :: c :: rest =>
      if isNameStart c then
        match rest.dropWhile isTypeNameChar with
        | '[' :: arguments =>
            (afterChar ']' (arguments.dropWhile (· != ']'))).bind (afterChar ']')
        | after => afterChar ']' after
      else none
  | _ => none

/-- Nothing that a dashed operator could go on with. -/
def endsDashedOperator : List Char → Bool
  | [] => true
  | c :: _ => !isNameChar c

def afterDashedOperator : List Char → Option (List Char)
  | '-' :: text =>
      (afterSome Char.isAlpha text).bind fun rest =>
        if endsDashedOperator rest then some rest else none
  | _ => none

def afterBinaryOperator (text : List Char) : Option (List Char) :=
  (afterDashedOperator text).or
    (match text with
      | '.' :: '.' :: rest => some rest
      | c :: rest =>
          if c = '+' ∨ c = '*' ∨ c = '/' ∨ c = '%' ∨ c = '-' then some rest else none
      | [] => none)

/-- What follows a word whose letters may stand in either case. -/
def afterCaseless : (word : List Char) → List Char → Option (List Char)
  | [], text => some text
  | _ :: _, [] => none
  | letter :: word, c :: rest => if c.toLower = letter then afterCaseless word rest else none

def afterNegationWord (text : List Char) : Option (List Char) :=
  ((afterCaseless ['-', 'n', 'o', 't'] text).or (afterCaseless ['-', 'b', 'n', 'o', 't'] text)).bind
    fun rest => if endsDashedOperator rest then some rest else none

def afterUnaryOperator (text : List Char) : Option (List Char) :=
  (afterNegationWord text).or
    (match text with
      | c :: rest => if c = '!' ∨ c = ',' ∨ c = '-' ∨ c = '+' then some rest else none
      | [] => none)

/-- The mark of a command that is called through an expression: an ampersand, or a dot before a
blank. -/
def afterCallOperator : List Char → Option (List Char)
  | '&' :: rest => some rest
  | '.' :: c :: rest => if c = ' ' ∨ c = '\t' then some (c :: rest) else none
  | _ => none

def afterMemberSeparator : List Char → Option (List Char)
  | ':' :: ':' :: rest => some rest
  | '.' :: rest => some rest
  | _ => none

end ScriptAudit.Syntax.Lexeme
