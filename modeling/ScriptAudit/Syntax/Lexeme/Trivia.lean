namespace ScriptAudit.Syntax.Lexeme

/-! What stands between tokens: blanks, continued lines and comments.

Each function gives the rest of the text after what it skips. -/

/-- What follows the first end of a block comment. -/
def afterBlockComment : List Char → Option (List Char)
  | [] => none
  | '#' :: '>' :: rest => some rest
  | _ :: rest => afterBlockComment rest

theorem afterBlockComment_length {text rest : List Char}
    (found : afterBlockComment text = some rest) : rest.length < text.length := by
  induction text with
  | nil => simp [afterBlockComment] at found
  | cons c tail ih =>
      unfold afterBlockComment at found
      split at found
      · simp_all
      · next same =>
          injection same with _ sameTail
          injection found with found
          subst sameTail found
          simp only [List.length_cons]
          omega
      · next same =>
          injection same with _ sameTail
          subst sameTail
          exact Nat.lt_succ_of_lt (ih found)

def isLineBreak (c : Char) : Bool :=
  c == '\r' || c == '\n'

def isInlineBlank (c : Char) : Bool :=
  c == ' ' || c == '\t' || c == '\x0c'

/-- What follows a backtick at the end of a line. -/
def afterContinuation : List Char → Option (List Char)
  | '\x60' :: '\n' :: rest => some rest
  | '\x60' :: '\r' :: '\n' :: rest => some rest
  | _ => none

theorem afterContinuation_length {text rest : List Char}
    (found : afterContinuation text = some rest) : rest.length < text.length := by
  unfold afterContinuation at found
  split at found
  · injection found with found
    subst found
    simp only [List.length_cons]
    omega
  · injection found with found
    subst found
    simp only [List.length_cons]
    omega
  · simp at found

/-- What follows one blank, continued line or comment.  Line breaks and semicolons count as blanks
when `breaks` holds. -/
def afterTriviaItem (breaks : Bool) (text : List Char) : Option (List Char) :=
  match text with
  | [] => none
  | '\x60' :: _ => afterContinuation text
  | '<' :: '#' :: rest => afterBlockComment rest
  | '#' :: rest => some (rest.dropWhile (!isLineBreak ·))
  | c :: rest =>
      if isInlineBlank c || (breaks && (isLineBreak c || c == ';')) then some rest else none

theorem dropWhile_length_le (keep : Char → Bool) (text : List Char) :
    (text.dropWhile keep).length ≤ text.length := by
  induction text with
  | nil => simp
  | cons c rest ih =>
      unfold List.dropWhile
      split
      · exact Nat.le_succ_of_le ih
      · exact Nat.le_refl _

theorem afterTriviaItem_length {breaks : Bool} {text rest : List Char}
    (found : afterTriviaItem breaks text = some rest) : rest.length < text.length := by
  unfold afterTriviaItem at found
  split at found
  · simp at found
  · exact afterContinuation_length found
  · have := afterBlockComment_length found
    simp only [List.length_cons]
    omega
  · next tail =>
      injection found with found
      subst found
      exact Nat.lt_succ_of_le (dropWhile_length_le _ _)
  · split at found
    · injection found with found
      subst found
      exact Nat.lt_succ_self _
    · simp at found

/-- Skips any number of trivia items. -/
def skipTrivia (breaks : Bool) (text : List Char) : List Char :=
  match found : afterTriviaItem breaks text with
  | none => text
  | some rest =>
      have := afterTriviaItem_length found
      skipTrivia breaks rest
termination_by text.length

/-- Skips blanks and continued lines, but no comment. -/
def skipInlineBlanks (text : List Char) : List Char :=
  match text with
  | [] => []
  | c :: rest =>
      if isInlineBlank c then skipInlineBlanks rest
      else match found : afterContinuation (c :: rest) with
        | none => c :: rest
        | some after =>
            have := afterContinuation_length found
            skipInlineBlanks after
termination_by text.length
decreasing_by
  · exact Nat.lt_succ_self _
  · exact this

end ScriptAudit.Syntax.Lexeme
