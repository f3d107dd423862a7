import ScriptAudit.Proofs.Syntax.Quotation
import ScriptAudit.Proofs.Syntax.Suffix

namespace ScriptAudit.Syntax

/-! The two ends of what is read.

A lexeme begins with no line feed and ends with no carriage return, so none of its ends lies between
the two characters of a line break. -/

/-- What was read of a text, up to the rest that is left, ends with no carriage return. -/
def Solid (before after : List Char) : Prop :=
  ∃ read c, before = read ++ c :: after ∧ c ≠ '\r'

/-- Nothing was read, or what was read ends with no carriage return. -/
def Flush (before after : List Char) : Prop :=
  after = before ∨ Solid before after

/-- What was read begins with no line feed and ends with no carriage return. -/
structure Trimmed (before after : List Char) : Prop where
  begins : before.head? ≠ some '\n'
  ends : Solid before after

variable {before middle after : List Char} {c : Char}

namespace Solid

theorem suffix (solid : Solid before after) : after <:+ before := by
  obtain ⟨read, c, rfl, -⟩ := solid
  exact ⟨read ++ [c], by simp⟩

theorem length_lt (solid : Solid before after) : after.length < before.length := by
  obtain ⟨read, c, rfl, -⟩ := solid
  simp only [List.length_append, List.length_cons]
  omega

theorem of_suffix (later : middle <:+ before) (solid : Solid middle after) :
    Solid before after := by
  obtain ⟨skipped, rfl⟩ := later
  obtain ⟨read, c, rfl, plain⟩ := solid
  exact ⟨skipped ++ read, c, by simp, plain⟩

theorem single (plain : c ≠ '\r') (after : List Char) : Solid (c :: after) after :=
  ⟨[], c, rfl, plain⟩

theorem cons (c : Char) (solid : Solid before after) : Solid (c :: before) after :=
  solid.of_suffix (List.suffix_cons c before)

theorem flush (solid : Solid before middle) (later : Flush middle after) : Solid before after := by
  rcases later with rfl | later
  · exact solid
  · exact later.of_suffix solid.suffix

theorem dropWhile {keep : Char → Bool} (plain : c ≠ '\r') (unkept : keep '\r' = false)
    (rest : List Char) : Solid (c :: rest) (rest.dropWhile keep) := by
  induction rest generalizing c with
  | nil => exact .single plain _
  | cons d rest ih =>
      rw [List.dropWhile_cons]
      split
      · next kept =>
          refine (ih ?_).cons c
          rintro rfl
          rw [unkept] at kept
          cases kept
      · exact .single plain _

end Solid

namespace Flush

theorem refl (text : List Char) : Flush text text :=
  .inl rfl

theorem suffix (flush : Flush before after) : after <:+ before := by
  rcases flush with rfl | solid
  · exact List.suffix_refl _
  · exact solid.suffix

theorem trans (early : Flush before middle) (late : Flush middle after) : Flush before after := by
  rcases early with rfl | early
  · exact late
  · exact .inr (early.flush late)

end Flush

namespace Trimmed

theorem flush (trimmed : Trimmed before middle) (later : Flush middle after) :
    Trimmed before after :=
  ⟨trimmed.begins, trimmed.ends.flush later⟩

theorem solid (trimmed : Trimmed before middle) (later : Solid middle after) :
    Trimmed before after :=
  trimmed.flush (.inr later)

/-- A character in front of what ends with no carriage return. -/
theorem cons (first : c ≠ '\n') (solid : Solid before after) : Trimmed (c :: before) after :=
  ⟨by simpa using first, solid.cons c⟩

end Trimmed

namespace Lexeme

open Text

variable {text rest body : List Char}

theorem afterSome_trimmed {kind : Char → Bool} (noReturn : kind '\r' = false)
    (noFeed : kind '\n' = false) (read : afterSome kind text = some rest) : Trimmed text rest := by
  cases text with
  | nil => cases read
  | cons c tail =>
      simp only [afterSome] at read
      split at read <;> cases read
      next kept =>
        have plain : c ≠ '\r' ∧ c ≠ '\n' := by
          constructor
          · rintro rfl
            exact Bool.false_ne_true (noReturn.symm.trans kept)
          · rintro rfl
            exact Bool.false_ne_true (noFeed.symm.trans kept)
        exact ⟨by simpa using plain.2, .dropWhile plain.1 noReturn _⟩

theorem afterChar_eq_some {wanted : Char} :
    afterChar wanted text = some rest ↔ text = wanted :: rest := by
  cases text with
  | nil => simp [afterChar]
  | cons c tail => simp [afterChar]

theorem afterChar_solid {wanted : Char} (plain : wanted ≠ '\r')
    (read : afterChar wanted text = some rest) : Solid text rest := by
  rw [afterChar_eq_some.mp read]
  exact .single plain _

theorem singleQuotedBody_solid (read : singleQuotedBody text = some (body, after)) :
    Solid text after :=
  ⟨body, '\'', singleQuotedBody_parts read, by decide⟩

theorem doubleQuotedBody_solid (read : doubleQuotedBody text = some (body, after)) :
    Solid text after :=
  ⟨body, '"', doubleQuotedBody_parts read, by decide⟩

theorem afterHereCloser?_solid {quote : Char} (read : afterHereCloser? quote text = some rest) :
    Solid text rest := by
  unfold afterHereCloser? at read
  split at read
  · split at read <;> cases read
    exact .cons _ (.single (by decide) _)
  · cases read

theorem hereLines_solid {quote : Char} (read : hereLines quote text = some (body, after)) :
    Solid text after := by
  fun_induction hereLines quote text generalizing body with
  | case1 => cases read
  | case2 c rest closed found =>
      cases read
      obtain ⟨broken, breaks, closes⟩ := Option.bind_eq_some_iff.mp found
      exact (afterHereCloser?_solid closes).of_suffix (afterLineBreak?_suffix breaks)
  | case3 c rest _ ih =>
      obtain ⟨found, inner, same⟩ := Option.map_eq_some_iff.mp read
      cases same
      exact (ih inner).cons c

theorem hereBody_solid {quote : Char} (read : hereBody quote text = some (body, after)) :
    Solid text after := by
  unfold hereBody at read
  split at read
  · next found lines =>
      cases read
      exact hereLines_solid lines
  · obtain ⟨closed, closes, same⟩ := Option.map_eq_some_iff.mp read
    cases same
    exact afterHereCloser?_solid closes

theorem hereString_solid {quote : Char} (read : hereString quote text = some (body, after)) :
    Solid text after := by
  obtain ⟨lines, breaks, inner⟩ := Option.bind_eq_some_iff.mp read
  exact ((hereBody_solid inner).of_suffix (afterLineBreak?_suffix breaks)).of_suffix
    (List.dropWhile_suffix _)

theorem digits_trimmed (read : afterSome isDecimalDigit text = some rest) : Trimmed text rest :=
  afterSome_trimmed (by decide) (by decide) read

theorem skipExponent_flush (text : List Char) : Flush text (skipExponent text) := by
  unfold skipExponent
  split
  · next c sign rest =>
      split
      · dsimp only
        cases found : afterSome isDecimalDigit
            (if sign = '+' ∨ sign = '-' then rest else sign :: rest) with
        | none => exact .refl _
        | some digits =>
            refine .inr ((digits_trimmed found).ends.of_suffix ?_)
            split
            · exact ⟨[c, sign], rfl⟩
            · exact ⟨[c], rfl⟩
      · exact .refl _
  · exact .refl _

theorem lowerChar_return : lowerChar '\r' = '\r' := by decide +kernel

theorem skipTypeSuffix_flush (text : List Char) : Flush text (skipTypeSuffix text) := by
  unfold skipTypeSuffix
  split
  · next c rest =>
      split
      · next letter =>
          refine .inr (.single ?_ _)
          rintro rfl
          rw [lowerChar_return] at letter
          exact absurd letter (by decide)
      · exact .refl _
  · exact .refl _

theorem skipMultiplier_flush (text : List Char) : Flush text (skipMultiplier text) := by
  unfold skipMultiplier
  split
  · next c b rest =>
      split
      · next letters =>
          refine .inr (.cons c (.single ?_ _))
          rintro rfl
          rw [lowerChar_return] at letters
          exact absurd letters.2 (by decide)
      · exact .refl _
  · exact .refl _

theorem afterSuffixes_flush (read : afterSuffixes text = some rest) : Flush text rest := by
  have skipped := (skipTypeSuffix_flush text).trans (skipMultiplier_flush _)
  dsimp only [afterSuffixes] at read
  split at read
  · next ended =>
      cases read
      rwa [ended] at skipped
  · split at read <;> cases read
    exact skipped

theorem afterHexadecimal_trimmed (read : afterHexadecimal text = some rest) :
    Trimmed text rest := by
  unfold afterHexadecimal at read
  split at read
  · split at read
    · obtain ⟨digits, found, finished⟩ := Option.bind_eq_some_iff.mp read
      have hexadecimal := afterSome_trimmed (by decide) (by decide) found
      exact .cons (by decide) ((hexadecimal.ends.flush (afterSuffixes_flush finished)).cons _)
    · cases read
  · cases read

theorem afterFraction_trimmed (read : afterFraction text = some rest) : Trimmed text rest := by
  obtain ⟨point, found, digits⟩ := Option.bind_eq_some_iff.mp read
  rw [afterChar_eq_some.mp found]
  exact .cons (by decide) (digits_trimmed digits).ends

theorem afterDecimal_trimmed (read : afterDecimal text = some rest) : Trimmed text rest := by
  have finish {from_ : List Char} (start : Trimmed text from_)
      (finished : afterSuffixes (skipExponent from_) = some rest) : Trimmed text rest :=
    start.flush ((skipExponent_flush _).trans (afterSuffixes_flush finished))
  simp only [afterDecimal, Option.or_eq_some_iff, Option.bind_eq_some_iff] at read
  rcases read with ⟨fraction, ⟨whole, digits, point⟩, finished⟩ |
    ⟨_, ⟨fraction, point, finished⟩ | ⟨_, whole, digits, finished⟩⟩
  · exact finish ((digits_trimmed digits).solid (afterFraction_trimmed point).ends) finished
  · exact finish (afterFraction_trimmed point) finished
  · exact finish (digits_trimmed digits) finished

theorem afterUnsigned_trimmed (read : afterUnsigned text = some rest) : Trimmed text rest := by
  rcases Option.or_eq_some_iff.mp read with hexadecimal | ⟨-, decimal⟩
  · exact afterHexadecimal_trimmed hexadecimal
  · exact afterDecimal_trimmed decimal

theorem afterNumeral_trimmed (read : afterNumeral text = some rest) : Trimmed text rest := by
  unfold afterNumeral at read
  split at read
  · exact .cons (by decide) (afterUnsigned_trimmed read).ends
  · exact afterUnsigned_trimmed read

theorem afterKeyword_trimmed (read : afterKeyword text = some rest) : Trimmed text rest :=
  afterSome_trimmed (by decide) (by decide) read

/-- White space ends a bareword, so a bareword holds none. -/
theorem afterBareword_trimmed (read : afterBareword text = some rest) : Trimmed text rest := by
  unfold afterBareword at read
  split at read
  · cases read
  · next c tail =>
      split at read <;> cases read
      next goesOn =>
        have plain : c ≠ '\r' ∧ c ≠ '\n' := by
          constructor <;> (rintro rfl; exact goesOn (by decide))
        exact ⟨by simpa using plain.2, .dropWhile plain.1 (by decide) _⟩

theorem afterParameter_trimmed (read : afterParameter text = some rest) : Trimmed text rest := by
  unfold afterParameter at read
  split at read
  · next c tail =>
      split at read <;> cases read
      next starts =>
        have plain : c ≠ '\r' := by
          rintro rfl
          exact absurd starts (by decide)
        have name : Solid (c :: tail) (tail.dropWhile isNameChar) := .dropWhile plain (by decide) _
        refine .cons (by decide) ?_
        cases found : afterChar ':' (tail.dropWhile isNameChar) with
        | none => exact name
        | some colon => exact (afterChar_solid (by decide) found).of_suffix name.suffix
  · cases read

theorem afterMemberName_solid (read : afterMemberName text = some rest) : Solid text rest := by
  unfold afterMemberName at read
  split at read
  · cases read
  · split at read <;> cases read
    next starts =>
      refine .dropWhile ?_ (by decide) _
      rintro rfl
      exact absurd starts (by decide)

theorem word_solid (read : afterSome isWordChar text = some rest) : Solid text rest :=
  (afterSome_trimmed (by decide) (by decide) read).ends

theorem afterScopedName_solid (read : afterScopedName text = some rest) : Solid text rest := by
  obtain ⟨colon, found, name⟩ := Option.bind_eq_some_iff.mp read
  obtain ⟨scope, named, parted⟩ := Option.bind_eq_some_iff.mp found
  exact (word_solid name).of_suffix
    ((afterChar_suffix parted).trans (afterMemberName_solid named).suffix)

theorem afterVariable_trimmed (read : afterVariable text = some rest) : Trimmed text rest := by
  unfold afterVariable at read
  split at read
  · exact .cons (by decide)
      (((afterChar_solid (by decide) read).of_suffix (List.dropWhile_suffix _)).cons _)
  · next tail _ =>
      refine .cons (by decide) ?_
      rcases Option.or_eq_some_iff.mp read with qualified | ⟨-, simple⟩
      · exact afterScopedName_solid qualified
      · rcases Option.or_eq_some_iff.mp simple with word | ⟨-, special⟩
        · exact word_solid word
        · split at special
          · split at special
            · next sign =>
                cases special
                refine .single ?_ _
                rintro rfl
                exact absurd sign (by decide)
            · cases special
          · cases special
  · cases read

theorem afterTypeLiteral_trimmed (read : afterTypeLiteral text = some rest) :
    Trimmed text rest := by
  unfold afterTypeLiteral at read
  split at read
  · next c tail =>
      have name : tail.dropWhile isTypeNameChar <:+ c :: tail :=
        (List.dropWhile_suffix _).trans (List.suffix_cons c tail)
      refine .cons (by decide) ?_
      split at read
      · split at read
        · next arguments found =>
            obtain ⟨inner, closed, read⟩ := Option.bind_eq_some_iff.mp read
            have bracket : arguments <:+ tail.dropWhile isTypeNameChar := by
              rw [found]
              exact List.suffix_cons '[' arguments
            exact (afterChar_solid (by decide) read).of_suffix (((afterChar_suffix closed).trans
              (List.dropWhile_suffix _)).trans (bracket.trans name))
        · exact (afterChar_solid (by decide) read).of_suffix name
      · cases read
  · cases read

theorem afterCaseless_begins {letter : Char} {word : List Char} (dash : letter = '-')
    (read : afterCaseless (letter :: word) text = some rest) : text.head? ≠ some '\n' := by
  subst dash
  cases text with
  | nil => cases read
  | cons c tail =>
      rw [afterCaseless] at read
      split at read
      · next same =>
          rw [List.head?_cons]
          rintro ⟨⟩
          exact absurd same (by decide)
      · cases read

theorem afterUnaryOperator_begins (read : afterUnaryOperator text = some rest) :
    text.head? ≠ some '\n' := by
  rcases Option.or_eq_some_iff.mp read with word | ⟨-, read⟩
  · obtain ⟨after, found, -⟩ := Option.bind_eq_some_iff.mp word
    rcases Option.or_eq_some_iff.mp found with found | ⟨-, found⟩
    · exact afterCaseless_begins rfl found
    · exact afterCaseless_begins rfl found
  · split at read
    · split at read <;> cases read
      next sign =>
        rw [List.head?_cons]
        rintro ⟨⟩
        exact absurd sign (by decide)
    · cases read

theorem afterCallOperator_begins (read : afterCallOperator text = some rest) :
    text.head? ≠ some '\n' := by
  unfold afterCallOperator at read
  split at read
  · simp
  · simp
  · cases read

end Lexeme
end ScriptAudit.Syntax
