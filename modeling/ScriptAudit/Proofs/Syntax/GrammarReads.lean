import ScriptAudit.Proofs.Syntax.Filler
import ScriptAudit.Proofs.Syntax.IntegerLiteral
import ScriptAudit.Proofs.Syntax.Reads

namespace ScriptAudit.Syntax.Grammar

/-! What the grammar makes of literals.

Alternatives are told apart by how a text begins, so most of them fail at its first character. -/

open Lexeme Reader

variable {origin : Origin} {inner : Level} {before middle after : List Char}
variable {wanted : Node → Prop} {given reached : List Token → Prop}

section
variable {α : Type}

/-- A part of the grammar that begins with a character which is not there. -/
theorem opened_fails {opening : Char} {body : Reader (Source.Extent → α)}
    (other : before.head? ≠ some opening) :
    Fails (located origin (do
      char opening
      body)) before :=
  located_fails (char_fails other).bind

theorem opened_fails_second {opening second third : Char} {body : Reader (Source.Extent → α)}
    {rest : List Char} (other : third ≠ second) :
    Fails (located origin (do
      char opening
      char second
      body)) (opening :: third :: rest) :=
  located_fails ((char_reads opening _).bind_fails fun _ => (char_fails (by simpa)).bind)

end

theorem quotation_fails {opening : Char} {others : List Char}
    {body : List Char → Option (List Char × List Char)} (other : before.head? ≠ some opening) :
    Fails (quotation origin (opening :: others) body) before := by
  intro tokens
  have mismatch : before.take (opening :: others).length ≠ opening :: others := by
    intro same
    cases before with
    | nil => cases same
    | cons first rest =>
        rw [List.length_cons, List.take_succ_cons] at same
        exact other (congrArg some (List.cons.inj same).1)
  unfold quotation
  split
  · exact if_neg mismatch
  · rfl

theorem quotation_fails_second {opening second third : Char} {rest : List Char}
    {body : List Char → Option (List Char × List Char)} (other : third ≠ second) :
    Fails (quotation origin [opening, second] body) (opening :: third :: rest) := by
  intro tokens
  unfold quotation
  split
  · exact if_neg (by simpa using other)
  · rfl

theorem stringLiteral_fails (noSingle : before.head? ≠ some '\'')
    (noDouble : before.head? ≠ some '"') : Fails (stringLiteral origin) before :=
  (quotation_fails noSingle).bind.orElse_fails (quotation_fails noDouble).bind

theorem typeExpression_fails (other : before.head? ≠ some '[') :
    Fails (typeExpression origin inner) before := by
  refine located_fails (Fails.bind (Fails.bind (token_fails ?_)))
  unfold afterTypeLiteral
  split
  · simp at other
  · rfl

/-- What begins with no bracket is a string, a type, a number or a variable, if it is anything. -/
theorem primary_plain (plain : ∀ c ∈ before.head?, c ∉ ['@', '$', '(', '\x7b'])
    (tokens : List Token) :
    primary origin inner ⟨before, tokens⟩ =
      (stringLiteral origin <|> typeExpression origin inner <|> numeral origin <|>
        variableNode origin) ⟨before, tokens⟩ := by
  have other : ∀ c ∈ ['@', '$', '(', '\x7b'], before.head? ≠ some c :=
    fun c member same => plain c same member
  have noAt := other '@' (by decide)
  refine ((opened_fails noAt).orElse_eq tokens).trans ?_
  refine ((opened_fails noAt).orElse_eq tokens).trans ?_
  refine ((opened_fails (other '$' (by decide))).orElse_eq tokens).trans ?_
  refine ((opened_fails (other '(' (by decide))).orElse_eq tokens).trans ?_
  refine ((opened_fails (other '\x7b' (by decide))).orElse_eq tokens).trans ?_
  refine ((quotation_fails noAt).bind.orElse_eq tokens).trans ?_
  exact (quotation_fails noAt).bind.orElse_eq tokens

theorem quotation_lexeme {opening said lexeme : List Char}
    {body : List Char → Option (List Char × List Char)}
    (found : body (lexeme ++ after) = some (said, after)) (tokens : List Token) :
    quotation origin opening body ⟨opening ++ lexeme ++ after, tokens⟩ =
      some ((said, lexemeExtent origin (opening ++ lexeme) after),
        ⟨after, ⟨.string, String.ofList (opening ++ lexeme),
          lexemeExtent origin (opening ++ lexeme) after⟩ :: tokens⟩) := by
  have taken : token origin .string (fun _ => some after) ⟨opening ++ lexeme ++ after, tokens⟩ =
      some _ := token_lexeme rfl tokens
  rw [List.append_assoc] at taken ⊢
  simp [quotation, found, taken]

theorem quotation_reads {opening said lexeme : List Char}
    {body : List Char → Option (List Char × List Char)}
    (found : body (lexeme ++ after) = some (said, after)) :
    Reads Fitting Fitting (quotation origin opening body) (opening ++ (lexeme ++ after)) after
      fun read => read.1 = said := by
  intro tokens holds
  rw [← List.append_assoc]
  exact ⟨_, _, quotation_lexeme found tokens, .cons (fun number => by cases number) holds, rfl⟩

theorem singleQuoted_reads (text : List Char) (ended : ∀ later, after ≠ '\'' :: later) :
    Reads Fitting Fitting (singleQuoted origin) ('\'' :: (doubled text ++ '\'' :: after)) after
      fun node => ∃ extent, node = .stringConstant extent (String.ofList text) .single := by
  have body : singleQuotedBody (doubled text ++ ['\''] ++ after) = some (doubled text, after) := by
    rw [List.append_assoc]
    exact singleQuotedBody_doubled text ended
  have read : Reads Fitting Fitting (quotation origin ['\''] singleQuotedBody)
      ('\'' :: (doubled text ++ ['\''] ++ after)) after fun read => read.1 = doubled text :=
    quotation_reads body
  rw [List.append_assoc] at read
  refine read.bind fun found same => reads_pure ⟨found.2, ?_⟩
  rw [same, singleQuotedValue_doubled]

theorem stringLiteral_reads (text : List Char) (ended : ∀ later, after ≠ '\'' :: later) :
    Reads Fitting Fitting (stringLiteral origin) ('\'' :: (doubled text ++ '\'' :: after)) after
      fun node => ∃ extent, node = .stringConstant extent (String.ofList text) .single :=
  (singleQuoted_reads text ended).orElse

theorem primary_string (text : List Char) (bounded : Bounded after) :
    Reads Fitting Fitting (primary origin inner) ('\'' :: (doubled text ++ '\'' :: after)) after
      fun node => ∃ extent, node = .stringConstant extent (String.ofList text) .single := by
  have ended : ∀ later, after ≠ '\'' :: later := by
    rintro later rfl
    exact absurd bounded.head (by decide)
  intro tokens holds
  rw [primary_plain (by simp)]
  exact (stringLiteral_reads text ended).orElse tokens holds

/-- A double-quoted string or here-string is read as its body, which it stands for alone. -/
theorem quoted_reads {opening lexeme body : List Char}
    {scan : List Char → Option (List Char × List Char)} (collapse : Bool) (quote : Quote)
    (found : scan (lexeme ++ after) = some (body, after)) :
    Reads Fitting Fitting (do
      let found ← quotation origin opening scan
      return doubleQuotedNode found.2 found.1 collapse quote) (opening ++ (lexeme ++ after)) after
      fun node => ∃ extent, node = doubleQuotedNode extent body collapse quote :=
  (quotation_reads found).bind fun read same => reads_pure ⟨read.2, by rw [same]⟩

theorem primary_doubleQuoted {lexeme body : List Char}
    (found : doubleQuotedBody (lexeme ++ after) = some (body, after)) :
    Reads Fitting Fitting (primary origin inner) ('"' :: (lexeme ++ after)) after
      fun node => ∃ extent, node = doubleQuotedNode extent body true .double := by
  have reads : Reads Fitting Fitting (doubleQuoted origin) ('"' :: (lexeme ++ after)) after _ :=
    quoted_reads true .double found
  intro tokens holds
  rw [primary_plain (by simp)]
  exact ((quotation_fails (by simp)).bind.orElse reads).orElse tokens holds

/-- What begins with an at sign, but neither as a table nor as an array, is a here-string, if it is
anything. -/
theorem primary_here {second : Char} {rest : List Char} (noTable : second ≠ '\x7b')
    (noArray : second ≠ '(') (tokens : List Token) :
    primary origin inner ⟨'@' :: second :: rest, tokens⟩ =
      (hereSingle origin <|> hereDouble origin <|> stringLiteral origin <|>
        typeExpression origin inner <|> numeral origin <|> variableNode origin)
        ⟨'@' :: second :: rest, tokens⟩ := by
  refine ((opened_fails_second noTable).orElse_eq tokens).trans ?_
  refine ((opened_fails_second noArray).orElse_eq tokens).trans ?_
  refine ((opened_fails (by simp)).orElse_eq tokens).trans ?_
  refine ((opened_fails (by simp)).orElse_eq tokens).trans ?_
  exact (opened_fails (by simp)).orElse_eq tokens

theorem primary_hereDouble {lexeme body : List Char}
    (found : hereString '"' (lexeme ++ after) = some (body, after)) :
    Reads Fitting Fitting (primary origin inner) ('@' :: '"' :: (lexeme ++ after)) after
      fun node => ∃ extent, node = doubleQuotedNode extent body false .hereDouble := by
  have reads : Reads Fitting Fitting (hereDouble origin)
      ('@' :: '"' :: (lexeme ++ after)) after _ :=
    quoted_reads false .hereDouble found
  intro tokens holds
  rw [primary_here (by decide) (by decide)]
  exact ((quotation_fails_second (by decide)).bind.orElse reads.orElse) tokens holds

/-- A number is read wherever its token may be added to those in front. -/
theorem primary_numeral {lexeme : List Char} (scanned : afterNumeral (lexeme ++ after) = some after)
    (keeps : ∀ extent tokens, given tokens →
      reached (⟨.number, String.ofList lexeme, extent⟩ :: tokens)) :
    Reads given reached (primary origin inner) (lexeme ++ after) after fun node =>
      ∃ extent, node = .number extent (numeralValue lexeme) := by
  have reads : Reads given reached (numeral origin) (lexeme ++ after) after fun node =>
      ∃ extent, node = .number extent (numeralValue lexeme) :=
    (token_reads_lexeme scanned keeps).bind fun found same =>
      reads_pure ⟨found.2, by rw [same]⟩
  have other : ∀ c ∈ ['@', '$', '(', '\x7b', '\'', '"', '['],
      (lexeme ++ after).head? ≠ some c := by
    intro c mark same
    obtain ⟨rest, text⟩ := List.head?_eq_some_iff.mp same
    have unread := afterNumeral_other rest (List.mem_append_left _ mark)
    rw [← text, scanned] at unread
    cases unread
  intro tokens holds
  rw [primary_plain fun c same mark => other c (List.mem_append_left _ mark) same]
  refine Fails.orElse ?_ (Fails.orElse ?_ reads.orElse) tokens holds
  · exact stringLiteral_fails (other '\'' (by simp)) (other '"' (by simp))
  · exact typeExpression_fails (other '[' (by simp))

theorem primary_number {digits : List Char} (written : IsDigits digits) (negative : Bool)
    (bounded : Bounded after)
    (keeps : ∀ extent tokens, given tokens →
      reached (⟨.number, String.ofList (sign negative ++ digits), extent⟩ :: tokens)) :
    Reads given reached (primary origin inner) (sign negative ++ digits ++ after) after fun node =>
      ∃ extent, node = .number extent (.integer (signedValue negative digits)) := by
  rw [← numeralValue_digits written]
  exact primary_numeral (afterNumeral_digits written negative bounded) keeps

theorem token_fits_digits {digits : List Char} (written : IsDigits digits) (negative : Bool)
    (extent : Source.Extent) :
    Token.Fits ⟨.number, String.ofList (sign negative ++ digits), extent⟩ ↔
      digits.length ≤ Text.greatestIntegerDigits := by
  have counted : integerDigits? (String.ofList (sign negative ++ digits)).toList =
      some digits.length := by
    rw [String.toList_ofList, integerDigits?_digits written]
  constructor
  · exact fun fits => fits rfl _ counted
  · intro short _ count same
    cases counted.symm.trans same
    exact short

theorem constantText_name (value : Bool) :
    String.ofList (variableName (constantText value)) = if value then "true" else "false" := by
  cases value <;> rfl

theorem variableNode_constant (value : Bool) (bounded : Bounded after) :
    Reads Fitting Fitting (variableNode origin) (constantText value ++ after) after fun node =>
      ∃ extent, node = .variableReference extent (if value then "true" else "false") := by
  have keeps : ∀ extent tokens, Fitting tokens →
      Fitting (⟨.variableName, String.ofList (constantText value), extent⟩ :: tokens) :=
    fun _ _ => .cons fun number => by cases number
  refine (token_reads_lexeme (afterVariable_constant value bounded) keeps).bind
    fun found same => reads_pure ⟨found.2, ?_⟩
  rw [same, constantText_name]

/-- What begins with a dollar sign but no subexpression is a variable, if it is anything. -/
theorem primary_dollar {second : Char} {rest : List Char} (other : second ≠ '(')
    (reads : Reads given reached (variableNode origin) ('$' :: second :: rest) after wanted) :
    Reads given reached (primary origin inner) ('$' :: second :: rest) after wanted := by
  refine (opened_fails (by simp)).orElse ?_
  refine (opened_fails (by simp)).orElse ?_
  refine (opened_fails_second other).orElse ?_
  refine (opened_fails (by simp)).orElse ?_
  refine (opened_fails (by simp)).orElse ?_
  refine (quotation_fails (by simp)).bind.orElse ?_
  refine (quotation_fails (by simp)).bind.orElse ?_
  refine (stringLiteral_fails (by simp) (by simp)).orElse ?_
  refine (typeExpression_fails (by simp)).orElse ?_
  exact Fails.orElse (token_fails rfl).bind reads

theorem primary_constant (value : Bool) (bounded : Bounded after) :
    Reads Fitting Fitting (primary origin inner) (constantText value ++ after) after fun node =>
      ∃ extent, node = .variableReference extent (if value then "true" else "false") := by
  have reads : Reads Fitting Fitting (variableNode origin) _ _ _ :=
    variableNode_constant value bounded
  cases value <;> exact primary_dollar (by decide) reads

end ScriptAudit.Syntax.Grammar
