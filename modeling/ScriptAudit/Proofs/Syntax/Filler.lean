import ScriptAudit.Syntax.Lexeme.Trivia

namespace ScriptAudit.Syntax

/-! Trivia as it is written between the parts of a literal. -/

open Lexeme

/-- A blank, a separator or a comment.  A comment on a line has the line break that ends it, with or
without a carriage return. -/
inductive Filler where
  | space
  | tab
  | feed
  | returnFeed
  | semicolon
  | block (body : List Char) (closed : ¬ ['#', '>'] <:+: body)
  | line (body : List Char) (plain : ∀ c ∈ body, isLineBreak c = false) (withReturn : Bool)

namespace Filler

def feedText (withReturn : Bool) : List Char :=
  if withReturn then ['\r', '\n'] else ['\n']

def text : Filler → List Char
  | space => [' ']
  | tab => ['\t']
  | feed => feedText false
  | returnFeed => feedText true
  | semicolon => [';']
  | block body _ => '<' :: '#' :: (body ++ ['#', '>'])
  | line body _ withReturn => '#' :: (body ++ feedText withReturn)

/-- The filler ends a statement. -/
def separates : Filler → Bool
  | feed | returnFeed | semicolon | line .. => true
  | space | tab | block .. => false

end Filler

def trivia (fillers : List Filler) : List Char :=
  fillers.flatMap Filler.text

namespace Lexeme

theorem skipTrivia_step {breaks : Bool} {text rest : List Char}
    (item : afterTriviaItem breaks text = some rest) :
    skipTrivia breaks text = skipTrivia breaks rest := by
  rw [skipTrivia]
  split
  · next stuck => cases stuck.symm.trans item
  · next other found =>
      cases found.symm.trans item
      rfl

theorem skipTrivia_stop {breaks : Bool} {text : List Char}
    (stuck : afterTriviaItem breaks text = none) : skipTrivia breaks text = text := by
  rw [skipTrivia]
  split
  · rfl
  · next other found => cases found.symm.trans stuck

/-- What begins with no blank and no comment is not skipped. -/
theorem skipTrivia_plain {c : Char}
    (plain : c ∉ ['\x60', '<', '#', ' ', '\t', '\x0c', '\r', '\n', ';']) (breaks : Bool)
    (rest : List Char) : skipTrivia breaks (c :: rest) = c :: rest := by
  refine skipTrivia_stop ?_
  unfold afterTriviaItem
  split
  · rfl
  · next same => exact absurd (by simp [(List.cons.inj same).1]) plain
  · next same => exact absurd (by simp [(List.cons.inj same).1]) plain
  · next same => exact absurd (by simp [(List.cons.inj same).1]) plain
  · next same =>
      cases same
      simp only [List.mem_cons, List.not_mem_nil, or_false, not_or] at plain
      simp [isInlineBlank, isLineBreak, plain]

theorem afterBlockComment_append {body : List Char} (rest : List Char)
    (closed : ¬ ['#', '>'] <:+: body) :
    afterBlockComment (body ++ '#' :: '>' :: rest) = some rest := by
  induction body with
  | nil => rfl
  | cons c body ih =>
      have inner : ¬ ['#', '>'] <:+: body := fun within => closed (List.infix_cons within)
      rw [List.cons_append, afterBlockComment]
      · exact ih inner
      · intro later hash end_
        -- The comment would end inside its body, or between the body and its closing mark.
        cases body with
        | nil => simp at end_
        | cons next others =>
            rw [List.cons_append] at end_
            cases end_
            exact closed ⟨[], others, by rw [hash]; rfl⟩

theorem skipTrivia_feed (withReturn : Bool) (rest : List Char) :
    skipTrivia true (Filler.feedText withReturn ++ rest) = skipTrivia true rest := by
  cases withReturn with
  | false => exact skipTrivia_step rfl
  | true => exact (skipTrivia_step rfl).trans (skipTrivia_step rfl)

theorem dropWhile_feed (withReturn : Bool) (rest : List Char) :
    (Filler.feedText withReturn ++ rest).dropWhile (!isLineBreak ·) =
      Filler.feedText withReturn ++ rest := by
  cases withReturn <;> rfl

theorem skipTrivia_line {breaks : Bool} {body : List Char}
    (plain : ∀ c ∈ body, isLineBreak c = false) (withReturn : Bool) (rest : List Char) :
    skipTrivia breaks ((Filler.line body plain withReturn).text ++ rest) =
      skipTrivia breaks (Filler.feedText withReturn ++ rest) := by
  refine skipTrivia_step ?_
  have commented : (body ++ (Filler.feedText withReturn ++ rest)).dropWhile (!isLineBreak ·) =
      Filler.feedText withReturn ++ rest := by
    rw [List.dropWhile_append_of_pos, dropWhile_feed]
    exact fun c member => by simp [plain c member]
  rw [Filler.text, List.cons_append, List.append_assoc, afterTriviaItem, commented]

theorem skipTrivia_block {breaks : Bool} {body : List Char} (closed : ¬ ['#', '>'] <:+: body)
    (rest : List Char) :
    skipTrivia breaks ((Filler.block body closed).text ++ rest) = skipTrivia breaks rest := by
  refine skipTrivia_step ?_
  rw [Filler.text, List.cons_append, List.cons_append, List.append_assoc, afterTriviaItem]
  exact afterBlockComment_append rest closed

/-- Where line breaks count as blanks, a filler is skipped whole. -/
theorem skipTrivia_filler (filler : Filler) (rest : List Char) :
    skipTrivia true (filler.text ++ rest) = skipTrivia true rest := by
  cases filler with
  | space => exact skipTrivia_step rfl
  | tab => exact skipTrivia_step rfl
  | feed => exact skipTrivia_feed false rest
  | returnFeed => exact skipTrivia_feed true rest
  | semicolon => exact skipTrivia_step rfl
  | block body closed => exact skipTrivia_block closed rest
  | line body plain withReturn =>
      exact (skipTrivia_line plain withReturn rest).trans (skipTrivia_feed withReturn rest)

theorem skipTrivia_trivia (fillers : List Filler) (rest : List Char) :
    skipTrivia true (trivia fillers ++ rest) = skipTrivia true rest := by
  induction fillers with
  | nil => rfl
  | cons filler fillers ih =>
      rw [trivia, List.flatMap_cons, List.append_assoc, skipTrivia_filler]
      exact ih

/-- What is left of a text where blanks on one line were skipped begins with the end of a statement,
and after it and more blanks comes `rest`. -/
def Separated (left rest : List Char) : Prop :=
  ∃ c later, left = c :: later ∧ (c = ';' ∨ isLineBreak c = true) ∧
    skipTrivia true later = skipTrivia true rest

theorem feed_separated (withReturn : Bool) (rest : List Char) :
    Separated (skipTrivia false (Filler.feedText withReturn ++ rest)) rest := by
  cases withReturn with
  | false => exact ⟨'\n', rest, skipTrivia_stop rfl, .inr rfl, rfl⟩
  | true => exact ⟨'\r', '\n' :: rest, skipTrivia_stop rfl, .inr rfl, skipTrivia_step rfl⟩

/-- On one line a filler is skipped whole as well, unless it separates statements. -/
theorem skipTrivia_inline (filler : Filler) (rest : List Char) :
    (filler.separates = true ∧ Separated (skipTrivia false (filler.text ++ rest)) rest) ∨
      (filler.separates = false ∧
        skipTrivia false (filler.text ++ rest) = skipTrivia false rest) := by
  cases filler with
  | space => exact .inr ⟨rfl, skipTrivia_step rfl⟩
  | tab => exact .inr ⟨rfl, skipTrivia_step rfl⟩
  | feed => exact .inl ⟨rfl, feed_separated false rest⟩
  | returnFeed => exact .inl ⟨rfl, feed_separated true rest⟩
  | semicolon => exact .inl ⟨rfl, ';', rest, skipTrivia_stop rfl, .inl rfl, rfl⟩
  | block body closed => exact .inr ⟨rfl, skipTrivia_block closed rest⟩
  | line body plain withReturn =>
      refine .inl ⟨rfl, ?_⟩
      rw [skipTrivia_line]
      exact feed_separated withReturn rest

theorem skipTrivia_inline_trivia (fillers : List Filler) (rest : List Char) :
    (fillers.any Filler.separates = true ∧
      Separated (skipTrivia false (trivia fillers ++ rest)) rest) ∨
      (fillers.any Filler.separates = false ∧
        skipTrivia false (trivia fillers ++ rest) = skipTrivia false rest) := by
  induction fillers with
  | nil => exact .inr ⟨rfl, rfl⟩
  | cons filler fillers ih =>
      rw [trivia, List.flatMap_cons, List.append_assoc, List.any_cons, ← trivia]
      rcases skipTrivia_inline filler (trivia fillers ++ rest) with
        ⟨separates, c, later, left, ends, skipped⟩ | ⟨joins, skipped⟩
      · rw [separates, Bool.true_or]
        exact .inl ⟨rfl, c, later, left, ends, skipped.trans (skipTrivia_trivia fillers rest)⟩
      · rw [joins, Bool.false_or, skipped]
        exact ih

theorem skipTrivia_joined {fillers : List Filler} (joins : fillers.any Filler.separates = false)
    (rest : List Char) : skipTrivia false (trivia fillers ++ rest) = skipTrivia false rest := by
  rcases skipTrivia_inline_trivia fillers rest with ⟨separates, -⟩ | ⟨-, skipped⟩
  · rw [joins] at separates
    cases separates
  · exact skipped

end Lexeme
end ScriptAudit.Syntax
