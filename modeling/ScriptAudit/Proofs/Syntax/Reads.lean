import ScriptAudit.Proofs.Syntax.Reader
import ScriptAudit.Syntax.Parse

namespace ScriptAudit.Syntax

/-! What a reader makes of a text that is known.

A reader reads from one rest of a text to another one, or it fails.  Whether it does is told of the
text alone; what is known of the tokens is carried along. -/

/-- The token is no integer with more digits than an integer may have. -/
def Token.Fits (token : Token) : Prop :=
  token.kind = .number → ∀ digits, Lexeme.integerDigits? token.text.toList = some digits →
    digits ≤ Text.greatestIntegerDigits

def Fitting (tokens : List Token) : Prop :=
  ∀ token ∈ tokens, token.Fits

theorem fitting_nil : Fitting [] :=
  fun _ member => absurd member List.not_mem_nil

theorem Fitting.cons {token : Token} {tokens : List Token} (fits : token.Fits)
    (fitting : Fitting tokens) : Fitting (token :: tokens) :=
  List.forall_mem_cons.mpr ⟨fits, fitting⟩

theorem overlongInteger?_eq_none {tokens : List Token} :
    overlongInteger? tokens = none ↔ Fitting tokens := by
  rw [overlongInteger?, List.findSome?_eq_none_iff]
  refine forall_congr' fun token => imp_congr_right fun _ => ?_
  unfold Token.Fits
  by_cases number : token.kind = .number
  · cases counted : Lexeme.integerDigits? token.text.toList with
    | none => simp [number]
    | some digits => simp [number]
  · simp [number]

namespace Reader

variable {α β : Type}

/-- From tokens as given the reader takes the text in front of `after`, and there are tokens as
reached and a result as wanted. -/
def Reads (given reached : List Token → Prop) (item : Reader α) (before after : List Char)
    (wanted : α → Prop) : Prop :=
  ∀ tokens, given tokens → ∃ value left, item ⟨before, tokens⟩ = some (value, ⟨after, left⟩) ∧
    reached left ∧ wanted value

def Fails (item : Reader α) (before : List Char) : Prop :=
  ∀ tokens, item ⟨before, tokens⟩ = none

variable {given passed reached : List Token → Prop} {before middle after : List Char}
variable {wanted : α → Prop}

theorem Reads.imp {item : Reader α} {weaker : α → Prop}
    (reads : Reads given reached item before after wanted)
    (follows : ∀ value, wanted value → weaker value) :
    Reads given reached item before after weaker := by
  intro tokens holds
  obtain ⟨value, left, read, keeps, good⟩ := reads tokens holds
  exact ⟨value, left, read, keeps, follows value good⟩

theorem reads_pure {value : α} (good : wanted value) :
    Reads given given (pure value) before before wanted := fun tokens holds =>
  ⟨value, tokens, rfl, holds, good⟩

theorem Reads.bind {first : Reader α} {next : α → Reader β} {last : β → Prop}
    (reads : Reads given passed first before middle wanted)
    (goes : ∀ value, wanted value → Reads passed reached (next value) middle after last) :
    Reads given reached (first >>= next) before after last := by
  intro tokens holds
  obtain ⟨value, left, read, keeps, good⟩ := reads tokens holds
  obtain ⟨result, more, readMore, keepsMore, goodMore⟩ := goes value good left keeps
  exact ⟨result, more, bind_eq_some.mpr ⟨value, _, read, readMore⟩, keepsMore, goodMore⟩

theorem Reads.orElse {first second : Reader α}
    (reads : Reads given reached first before after wanted) :
    Reads given reached (first <|> second) before after wanted := by
  intro tokens holds
  obtain ⟨value, left, read, rest⟩ := reads tokens holds
  exact ⟨value, left, orElse_eq_some.mpr (.inl read), rest⟩

theorem Fails.orElse_eq {first second : Reader α} (fails : Fails first before)
    (tokens : List Token) : (first <|> second) ⟨before, tokens⟩ = second ⟨before, tokens⟩ := by
  change (first _ <|> second _) = _
  rw [fails tokens]
  rfl

theorem Fails.orElse {first second : Reader α} (fails : Fails first before)
    (reads : Reads given reached second before after wanted) :
    Reads given reached (first <|> second) before after wanted := by
  intro tokens holds
  rw [fails.orElse_eq]
  exact reads tokens holds

theorem Fails.orElse_fails {first second : Reader α} (fails : Fails first before)
    (failsToo : Fails second before) : Fails (first <|> second) before := by
  intro tokens
  rw [fails.orElse_eq]
  exact failsToo tokens

theorem Fails.bind {first : Reader α} {next : α → Reader β} (fails : Fails first before) :
    Fails (first >>= next) before := by
  intro tokens
  change (first _).bind _ = none
  rw [fails tokens]
  rfl

/-- A reader fails where what comes after it fails. -/
theorem Reads.bind_fails {first : Reader α} {next : α → Reader β}
    (reads : Reads (fun _ => True) reached first before middle wanted)
    (fails : ∀ value, Fails (next value) middle) : Fails (first >>= next) before := by
  intro tokens
  obtain ⟨value, left, read, -⟩ := reads tokens trivial
  change (first _).bind _ = none
  rw [read]
  exact fails value _

theorem skip_reads {scan : List Char → Option (List Char)} (scanned : scan before = some after) :
    Reads given given (skip scan) before after fun _ => True := fun tokens holds =>
  ⟨(), tokens, skip_eq_some.mpr ⟨after, scanned, rfl⟩, holds, trivial⟩

theorem skip_fails {scan : List Char → Option (List Char)} (stuck : scan before = none) :
    Fails (skip scan) before := fun tokens => by
  rw [skip, stuck]
  rfl

theorem lexeme_fails {scan : List Char → Option (List Char)} (stuck : scan before = none) :
    Fails (lexeme scan) before := fun tokens => by
  rw [lexeme, stuck]
  rfl

theorem char_reads (c : Char) (rest : List Char) :
    Reads given given (char c) (c :: rest) rest fun _ => True :=
  skip_reads (if_pos rfl)

theorem char_fails {c : Char} (other : before.head? ≠ some c) : Fails (char c) before := by
  refine skip_fails ?_
  cases before with
  | nil => rfl
  | cons first rest => exact if_neg fun same => other (congrArg some same)

theorem space_reads {text rest : List Char} (skipped : Lexeme.skipTrivia false text = rest) :
    Reads given given space text rest fun _ => True :=
  skip_reads (congrArg some skipped)

theorem blank_reads {text rest : List Char} (skipped : Lexeme.skipTrivia true text = rest) :
    Reads given given blank text rest fun _ => True :=
  skip_reads (congrArg some skipped)

theorem repeated_reads_none {item : Reader α} {wanted : List α → Prop} (fails : Fails item before)
    (good : wanted []) : Reads given given (repeated item) before before wanted := by
  intro tokens holds
  refine ⟨[], tokens, ?_, holds, good⟩
  rw [repeated, repeatedFrom, fails tokens]

/-- What goes on after a repetition goes on with nothing where there is no item. -/
theorem Fails.repeated_bind {item : Reader α} {next : List α → Reader β} {last : β → Prop}
    (fails : Fails item before) (reads : Reads given reached (next []) before after last) :
    Reads given reached (repeated item >>= next) before after last :=
  (repeated_reads_none fails rfl : Reads _ _ _ _ _ (· = [])).bind fun _ none => by rwa [none]

theorem repeated_reads_more {item : Reader α} {later all : List α → Prop}
    (reads : Reads given passed item before middle wanted)
    (shorter : middle.length < before.length)
    (rest : Reads passed reached (repeated item) middle after later)
    (good : ∀ value values, wanted value → later values → all (value :: values)) :
    Reads given reached (repeated item) before after all := by
  intro tokens holds
  obtain ⟨value, left, read, keeps, found⟩ := reads tokens holds
  obtain ⟨values, more, readMore, keepsMore, foundMore⟩ := rest left keeps
  refine ⟨value :: values, more, ?_, keepsMore, good value values found foundMore⟩
  have readMore : repeatedFrom item ⟨middle, left⟩ = (values, ⟨after, more⟩) :=
    Option.some.inj readMore
  rw [repeated, repeatedFrom, read]
  dsimp only
  rw [if_pos shorter, readMore]

end Reader

namespace Grammar

open Reader

variable {α : Type} {origin : Origin} {given reached : List Token → Prop}
variable {before after : List Char}

theorem offset_reads : Reads given given (offset origin) before before fun _ => True :=
  fun tokens holds => ⟨_, tokens, rfl, holds, trivial⟩

theorem located_reads {body : Reader (Source.Extent → α)} {wanted : α → Prop}
    (reads : Reads given reached body before after fun make => ∀ extent, wanted (make extent)) :
    Reads given reached (located origin body) before after wanted := by
  intro tokens holds
  obtain ⟨make, left, read, keeps, good⟩ := reads tokens holds
  exact ⟨_, left, located_eq_some.mpr ⟨make, read, rfl⟩, keeps, good _⟩

theorem located_fails {body : Reader (Source.Extent → α)} (fails : Fails body before) :
    Fails (located origin body) before := fun tokens => by
  rw [located, fails tokens]
  rfl

/-- The extent of a lexeme that stands in front of this rest of the text. -/
def lexemeExtent (origin : Origin) (lexeme rest : List Char) : Source.Extent :=
  origin.place (origin.length - (lexeme ++ rest).length) (origin.length - rest.length)

/-- What a token took is the lexeme in front of the rest. -/
theorem token_lexeme {kind : TokenKind} {scan : List Char → Option (List Char)}
    {lexeme rest : List Char} (scanned : scan (lexeme ++ rest) = some rest) (tokens : List Token) :
    token origin kind scan ⟨lexeme ++ rest, tokens⟩ =
      some ((lexeme, lexemeExtent origin lexeme rest),
        ⟨rest, ⟨kind, String.ofList lexeme, lexemeExtent origin lexeme rest⟩ :: tokens⟩) := by
  have taken : (lexeme ++ rest).take ((lexeme ++ rest).length - rest.length) = lexeme := by
    simp
  simp only [token, bind_eq_some, pure_eq_some, located_eq_some, lexeme_eq_some]
  exact ⟨_, _, ⟨_, ⟨lexeme, ⟨rest, tokens⟩, ⟨rest, scanned, by rw [taken]⟩, rfl⟩, rfl⟩, _, _, rfl,
    rfl⟩

theorem token_reads_lexeme {kind : TokenKind} {scan : List Char → Option (List Char)}
    {lexeme rest : List Char} (scanned : scan (lexeme ++ rest) = some rest)
    (keeps : ∀ extent tokens, given tokens →
      reached (⟨kind, String.ofList lexeme, extent⟩ :: tokens)) :
    Reads given reached (token origin kind scan) (lexeme ++ rest) rest
      fun found => found.1 = lexeme := fun tokens holds =>
  ⟨_, _, token_lexeme scanned tokens, keeps _ tokens holds, rfl⟩

theorem token_fails {kind : TokenKind} {scan : List Char → Option (List Char)}
    (stuck : scan before = none) : Fails (token origin kind scan) before :=
  (located_fails (lexeme_fails stuck).bind).bind

end Grammar
end ScriptAudit.Syntax
