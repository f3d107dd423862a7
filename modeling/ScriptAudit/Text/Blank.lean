namespace ScriptAudit.Text

/-! White space and line boundaries. -/

/-- The characters that have the white-space property. -/
def isWhiteSpace (c : Char) : Bool :=
  c == ' ' || ('\t' ≤ c && c ≤ '\r') || c == '\u0085' || c == '\u00a0' || c == '\u1680' ||
    ('\u2000' ≤ c && c ≤ '\u200a') || c == '\u2028' || c == '\u2029' || c == '\u202f' ||
    c == '\u205f' || c == '\u3000'

/-- What separates words: white space and the four information separators. -/
def isSeparator (c : Char) : Bool :=
  isWhiteSpace c || ('\x1c' ≤ c && c ≤ '\x1f')

/-- What ends a line of a message: the line and page breaks and the first three information
separators. -/
def isLineBoundary (c : Char) : Bool :=
  ('\n' ≤ c && c ≤ '\r') || ('\x1c' ≤ c && c ≤ '\x1e') || c == '\u0085' || c == '\u2028' ||
    c == '\u2029'

/-- The text without the separators at its two ends. -/
def strip (text : String) : String :=
  String.ofList ((text.toList.dropWhile isSeparator).reverse.dropWhile isSeparator).reverse

/-- The words of a text; `word` holds the letters of the current one. -/
def wordsFrom (word : List Char) : List Char → List (List Char)
  | [] => if word.isEmpty then [] else [word]
  | c :: rest =>
      if isSeparator c then
        if word.isEmpty then wordsFrom [] rest else word :: wordsFrom [] rest
      else wordsFrom (word ++ [c]) rest

/-- A text on one line: its words, with one space between neighbours. -/
def oneLine (text : String) : String :=
  String.intercalate " " ((wordsFrom [] text.toList).map String.ofList)

/-- At most `width` characters of a text on one line, the last three being dots when some are
left out. -/
def clip (text : String) (width : Nat) : String :=
  let line := oneLine text
  if line.length ≤ width then line
  else String.ofList (line.toList.take (width - 3)) ++ "..."

end ScriptAudit.Text
