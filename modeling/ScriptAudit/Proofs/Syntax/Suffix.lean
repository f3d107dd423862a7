import ScriptAudit.Syntax.Lexeme.Quotation
import ScriptAudit.Syntax.Lexeme.Trivia
import ScriptAudit.Syntax.Lexeme.Word

namespace ScriptAudit.Syntax.Lexeme

/-! What a scanning function leaves to be read is an end of the text that it was given. -/

open Text

variable {text rest : List Char}

theorem afterSome_suffix {kind : Char → Bool} (read : afterSome kind text = some rest) :
    rest <:+ text := by
  cases text with
  | nil => simp [afterSome] at read
  | cons c tail =>
      simp only [afterSome] at read
      split at read
      · cases read
        exact (List.dropWhile_suffix kind).trans (List.suffix_cons c tail)
      · cases read

theorem afterChar_suffix {wanted : Char} (read : afterChar wanted text = some rest) :
    rest <:+ text := by
  cases text with
  | nil => simp [afterChar] at read
  | cons c tail =>
      simp only [afterChar] at read
      split at read
      · cases read
        exact List.suffix_cons c _
      · cases read

theorem afterBlockComment_suffix (read : afterBlockComment text = some rest) : rest <:+ text := by
  fun_induction afterBlockComment text with
  | case1 => simp at read
  | case2 =>
      cases read
      exact ⟨['#', '>'], rfl⟩
  | case3 c tail _ ih => exact (ih read).trans (List.suffix_cons c tail)

theorem afterContinuation_suffix (read : afterContinuation text = some rest) : rest <:+ text := by
  unfold afterContinuation at read
  split at read <;> cases read
  · exact ⟨['\x60', '\n'], rfl⟩
  · exact ⟨['\x60', '\r', '\n'], rfl⟩

theorem afterTriviaItem_suffix {breaks : Bool} (read : afterTriviaItem breaks text = some rest) :
    rest <:+ text := by
  unfold afterTriviaItem at read
  split at read
  · cases read
  · exact afterContinuation_suffix read
  · exact (afterBlockComment_suffix read).trans ⟨['<', '#'], rfl⟩
  · cases read
    exact (List.dropWhile_suffix _).trans (List.suffix_cons '#' _)
  · split at read <;> cases read
    exact List.suffix_cons _ _

theorem skipTrivia_suffix (breaks : Bool) (text : List Char) : skipTrivia breaks text <:+ text := by
  fun_induction skipTrivia breaks text with
  | case1 => exact List.suffix_refl _
  | case2 text rest found _ ih => exact ih.trans (afterTriviaItem_suffix found)

theorem skipInlineBlanks_suffix (text : List Char) : skipInlineBlanks text <:+ text := by
  fun_induction skipInlineBlanks text with
  | case1 => exact List.suffix_refl _
  | case2 c rest _ ih => exact ih.trans (List.suffix_cons c rest)
  | case3 c rest _ found => exact List.suffix_refl _
  | case4 c rest _ after found _ ih =>
      exact ih.trans (afterContinuation_suffix found)

theorem afterLineBreak?_suffix (read : afterLineBreak? text = some rest) : rest <:+ text := by
  unfold afterLineBreak? at read
  split at read <;> cases read
  · exact ⟨['\n'], rfl⟩
  · exact ⟨['\r', '\n'], rfl⟩

theorem afterDashedOperator_suffix (read : afterDashedOperator text = some rest) :
    rest <:+ text := by
  unfold afterDashedOperator at read
  split at read
  · obtain ⟨letters, found, read⟩ := Option.bind_eq_some_iff.mp read
    split at read <;> cases read
    exact (afterSome_suffix found).trans (List.suffix_cons '-' _)
  · cases read

theorem afterBinaryOperator_suffix (read : afterBinaryOperator text = some rest) :
    rest <:+ text := by
  rcases Option.or_eq_some_iff.mp read with dashed | ⟨_, read⟩
  · exact afterDashedOperator_suffix dashed
  · split at read
    · cases read
      exact ⟨['.', '.'], rfl⟩
    · split at read <;> cases read
      exact List.suffix_cons _ _
    · cases read

theorem afterCaseless_suffix {word : List Char} (read : afterCaseless word text = some rest) :
    rest <:+ text := by
  fun_induction afterCaseless word text with
  | case1 =>
      cases read
      exact List.suffix_refl _
  | case2 => cases read
  | case3 word c tail ih => exact (ih read).trans (List.suffix_cons c tail)
  | case4 => cases read

theorem afterNegationWord_suffix (read : afterNegationWord text = some rest) : rest <:+ text := by
  obtain ⟨word, found, read⟩ := Option.bind_eq_some_iff.mp read
  split at read <;> cases read
  rcases Option.or_eq_some_iff.mp found with found | ⟨_, found⟩
  · exact afterCaseless_suffix found
  · exact afterCaseless_suffix found

theorem afterUnaryOperator_suffix (read : afterUnaryOperator text = some rest) : rest <:+ text := by
  rcases Option.or_eq_some_iff.mp read with word | ⟨_, read⟩
  · exact afterNegationWord_suffix word
  · split at read
    · split at read <;> cases read
      exact List.suffix_cons _ _
    · cases read

theorem afterCallOperator_suffix (read : afterCallOperator text = some rest) : rest <:+ text := by
  unfold afterCallOperator at read
  split at read
  · cases read
    exact List.suffix_cons _ _
  · split at read <;> cases read
    exact List.suffix_cons _ _
  · cases read

theorem afterMemberSeparator_suffix (read : afterMemberSeparator text = some rest) :
    rest <:+ text := by
  unfold afterMemberSeparator at read
  split at read <;> cases read
  · exact ⟨[':', ':'], rfl⟩
  · exact ⟨['.'], rfl⟩

end ScriptAudit.Syntax.Lexeme
