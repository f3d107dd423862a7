namespace ScriptAudit.Syntax.Lexeme

/-! Quoted strings and here-strings: where they end and what they say.

The scanning functions take the text after the opening mark and give what stands between the marks,
as written, and the rest of the text. -/

/-- Up to the closing single quote.  Two quotes in a row stand for one, unless the text holds no
later quote to close the string: then the first of the two closes it. -/
def singleQuotedBody : List Char → Option (List Char × List Char)
  | [] => none
  | '\'' :: '\'' :: rest =>
      match singleQuotedBody rest with
      | some (body, after) => some ('\'' :: '\'' :: body, after)
      | none => some ([], '\'' :: rest)
  | '\'' :: rest => some ([], rest)
  | c :: rest => (singleQuotedBody rest).map fun found => (c :: found.1, found.2)

/-- Up to the closing double quote.  A backtick escapes the character after it, and two quotes in a
row are read as in a single-quoted string. -/
def doubleQuotedBody : List Char → Option (List Char × List Char)
  | [] => none
  | '"' :: '"' :: rest =>
      match doubleQuotedBody rest with
      | some (body, after) => some ('"' :: '"' :: body, after)
      | none => some ([], '"' :: rest)
  | '"' :: rest => some ([], rest)
  | '\x60' :: c :: rest =>
      (doubleQuotedBody rest).map fun found => ('\x60' :: c :: found.1, found.2)
  | ['\x60'] => none
  | c :: rest => (doubleQuotedBody rest).map fun found => (c :: found.1, found.2)

/-- What follows one line break. -/
def afterLineBreak? : List Char → Option (List Char)
  | '\n' :: rest => some rest
  | '\r' :: '\n' :: rest => some rest
  | _ => none

/-- What follows the closing mark of a here-string. -/
def afterHereCloser? (quote : Char) : List Char → Option (List Char)
  | c :: '@' :: rest => if c = quote then some rest else none
  | _ => none

/-- The lines up to the first line break that a closing mark follows, without that break. -/
def hereLines (quote : Char) (text : List Char) : Option (List Char × List Char) :=
  match text with
  | [] => none
  | c :: rest =>
      match (afterLineBreak? (c :: rest)).bind (afterHereCloser? quote) with
      | some after => some ([], after)
      | none => (hereLines quote rest).map fun found => (c :: found.1, found.2)

/-- The lines of a here-string.  A closing mark on the first line ends the string only when none
follows on a later line. -/
def hereBody (quote : Char) (text : List Char) : Option (List Char × List Char) :=
  match hereLines quote text with
  | some found => some found
  | none => (afterHereCloser? quote text).map fun after => ([], after)

/-- A here-string whose opening mark stands before `text`: the rest of the first line is blank. -/
def hereString (quote : Char) (text : List Char) : Option (List Char × List Char) :=
  (afterLineBreak? (text.dropWhile fun c => c == ' ' || c == '\t')).bind (hereBody quote)

/-- What a single-quoted string says. -/
def singleQuotedValue : List Char → List Char
  | [] => []
  | '\'' :: '\'' :: rest => '\'' :: singleQuotedValue rest
  | c :: rest => c :: singleQuotedValue rest

/-- The character that a backtick and this one stand for. -/
def escapedChar (c : Char) : Char :=
  match c with
  | '0' => '\x00'
  | 'a' => '\x07'
  | 'b' => '\x08'
  | 'e' => '\x1b'
  | 'f' => '\x0c'
  | 'n' => '\n'
  | 'r' => '\r'
  | 't' => '\t'
  | 'v' => '\x0b'
  | _ => c

/-- A dollar sign in front of this text begins an expansion. -/
def startsExpansion : List Char → Bool
  | [] => false
  | c :: _ =>
      c.isAlpha || c == '_' || c == '\x7b' || c == '(' || c == '?' || c == '$' || c == '^'

/-- What a double-quoted text says when nothing in it is expanded, and whether something is. -/
def unescape (collapseQuotes : Bool) : List Char → List Char × Bool
  | [] => ([], false)
  | '\x60' :: c :: rest =>
      let later := unescape collapseQuotes rest
      (escapedChar c :: later.1, later.2)
  | '"' :: '"' :: rest =>
      if collapseQuotes then
        let later := unescape collapseQuotes rest
        ('"' :: later.1, later.2)
      else
        let later := unescape collapseQuotes rest
        ('"' :: '"' :: later.1, later.2)
  | c :: rest =>
      let later := unescape collapseQuotes rest
      (c :: later.1, (c == '$' && startsExpansion rest) || later.2)

end ScriptAudit.Syntax.Lexeme
