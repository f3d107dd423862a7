import ScriptAudit.Proofs.Syntax.GrammarReads
import ScriptAudit.Proofs.Syntax.RepeatedKeys

namespace ScriptAudit.Syntax

/-! Where operands, statements and pairs of a literal end.

An operand ends at a boundary.  A statement is an operand alone when a separator or a closing
bracket comes next, after blanks and comments on the same line. -/

open Lexeme

/-- Nothing is left to be read but what a closing bracket begins. -/
abbrev Closed : List Char → Prop :=
  GoesOn [')', '\x7d']

theorem Closed.bounded {text : List Char} (closed : Closed text) : Bounded text :=
  closed.mono (by simp [boundaries])

theorem Closed.cases {text : List Char} (closed : Closed text) :
    text = [] ∨ ∃ c rest, text = c :: rest ∧ (c = ')' ∨ c = '\x7d') := by
  cases text with
  | nil => exact .inl rfl
  | cons c rest =>
      have closing := closed c rfl
      simp only [List.mem_cons, List.not_mem_nil, or_false] at closing
      exact .inr ⟨c, rest, rfl, closing⟩

theorem Closed.skipTrivia {text : List Char} (closed : Closed text) (breaks : Bool) :
    skipTrivia breaks text = text := by
  rcases closed.cases with rfl | ⟨c, rest, rfl, rfl | rfl⟩ <;>
    exact skipTrivia_stop (by cases breaks <;> rfl)

theorem Closed.nothing {text : List Char} (closed : Closed text) :
    afterNumeral text = none ∧ afterVariable text = none ∧ afterUnaryOperator text = none ∧
      afterCallOperator text = none ∧ afterBareword text = none ∧ afterKeyword text = none := by
  rcases closed.cases with rfl | ⟨c, rest, rfl, rfl | rfl⟩ <;> exact ⟨rfl, rfl, rfl, rfl, rfl, rfl⟩

/-- A statement that has been read up to this text goes on no further. -/
structure StatementEnd (text : List Char) : Prop where
  bounded : Bounded text
  ends : GoesOn ['\n', '\r', ';', ')', '\x7d'] (skipTrivia false text)

theorem Filler.text_head (filler : Filler) :
    ∃ c rest, filler.text = c :: rest ∧ c ∈ boundaries := by
  cases filler with
  | space => exact ⟨' ', [], rfl, by decide⟩
  | tab => exact ⟨'\t', [], rfl, by decide⟩
  | feed => exact ⟨'\n', [], rfl, by decide⟩
  | returnFeed => exact ⟨'\r', ['\n'], rfl, by decide⟩
  | semicolon => exact ⟨';', [], rfl, by decide⟩
  | block body closed => exact ⟨'<', '#' :: (body ++ ['#', '>']), rfl, by decide⟩
  | line body plain withReturn => exact ⟨'#', body ++ feedText withReturn, rfl, by decide⟩

theorem bounded_trivia {fillers : List Filler} {rest : List Char}
    (bounded : fillers = [] → Bounded rest) : Bounded (trivia fillers ++ rest) := by
  cases fillers with
  | nil => exact bounded rfl
  | cons filler fillers =>
      obtain ⟨c, text, same, boundary⟩ := filler.text_head
      rw [trivia, List.flatMap_cons, same]
      exact goesOn_cons _ boundary

theorem statementEnd_trivia {fillers : List Filler} {rest : List Char}
    (ends : fillers.any Filler.separates = true ∨ Closed rest) :
    StatementEnd (trivia fillers ++ rest) := by
  refine ⟨bounded_trivia fun none => ?_, ?_⟩
  · rcases ends with separates | closed
    · rw [none] at separates
      cases separates
    · exact closed.bounded
  · rcases skipTrivia_inline_trivia fillers rest with
      ⟨-, c, later, left, separator, -⟩ | ⟨joins, skipped⟩
    · rw [left]
      refine goesOn_cons later ?_
      simp only [isLineBreak, Bool.or_eq_true, beq_iff_eq] at separator
      rcases separator with rfl | rfl | rfl <;> decide
    · rcases ends with separates | closed
      · rw [joins] at separates
        cases separates
      · rw [skipped, Closed.skipTrivia closed]
        exact closed.mono (by simp)

theorem statementEnd_nil : StatementEnd [] := by
  have ended : StatementEnd (trivia [] ++ []) := statementEnd_trivia (.inr goesOn_nil)
  exact ended

namespace Grammar

open Reader

variable {origin : Origin} {inner : Level} {before middle after : List Char}
variable {wanted : Node → Prop} {given passed reached : List Token → Prop}

theorem suffix_fails (bounded : Bounded before) : Fails (suffix origin inner) before := by
  have other : ∀ c, c ∉ boundaries → before.head? ≠ some c :=
    fun c outside same => outside (bounded c same)
  have nameless : Fails memberName before := by
    refine (lexeme_fails ?_).bind
    unfold afterMemberSeparator
    split
    · exact absurd rfl (other ':' (by decide))
    · exact absurd rfl (other '.' (by decide))
    · rfl
  refine Fails.bind (nameless.bind.orElse_fails (nameless.bind.orElse_fails ?_))
  exact (char_fails (other '[' (by decide))).bind

theorem operand_reads (reads : Reads given reached (primary origin inner) before after wanted)
    (bounded : Bounded after) : Reads given reached (operand origin inner) before after wanted := by
  have target : Reads given reached (postfixExpression origin inner) before after wanted :=
    offset_reads.bind fun start _ => reads.bind fun target good =>
      (suffix_fails bounded).repeated_bind (reads_pure good)
  exact target.orElse

theorem nextElement_fails (ended : StatementEnd before) :
    Fails (nextElement origin inner) before := by
  refine (space_reads rfl).bind_fails fun _ => (char_fails fun comma => ?_).bind
  exact absurd (ended.ends ',' comma) (by decide)

theorem operation_fails (ended : StatementEnd before) : Fails (operation origin inner) before := by
  refine (space_reads rfl).bind_fails fun _ => (lexeme_fails ?_).bind
  have ends := ended.ends
  revert ends
  generalize skipTrivia false before = left
  intro ends
  cases left with
  | nil => rfl
  | cons c rest =>
      have mark := ends c rfl
      simp only [List.mem_cons, List.not_mem_nil, or_false] at mark
      rcases mark with rfl | rfl | rfl | rfl | rfl <;> rfl

theorem nextCommand_fails (ended : StatementEnd before) :
    Fails (nextCommand origin inner) before := by
  refine (space_reads rfl).bind_fails fun _ => (char_fails fun bar => ?_).bind
  exact absurd (ended.ends '|' bar) (by decide)

theorem arrayLiteral_reads {later : List Node → Prop} {all : Node → Prop}
    (first : Reads given passed (operand origin inner) before middle wanted)
    (rest : Reads passed reached (repeated (nextElement origin inner)) middle after later)
    (good : ∀ node nodes extent, wanted node → later nodes →
      all (if nodes.isEmpty then node else .arrayLiteral extent (node :: nodes))) :
    Reads given reached (arrayLiteral origin inner) before after all :=
  located_reads (first.bind fun node found => rest.bind fun nodes more =>
    reads_pure fun extent => good node nodes extent found more)

theorem pipeline_reads (reads : Reads given reached (arrayLiteral origin inner) before after wanted)
    (ended : StatementEnd after) :
    Reads given reached (pipeline origin inner) before after fun node =>
      ∃ extent value, node = .pipeline extent [value] ∧ wanted value := by
  have expression : Reads given reached (expression origin inner) before after wanted :=
    reads.bind fun node found => (operation_fails ended).repeated_bind (reads_pure found)
  have element : Reads given reached (element origin inner) before after wanted := expression.orElse
  exact located_reads (element.bind fun node found => (nextCommand_fails ended).repeated_bind
    (reads_pure fun extent => ⟨extent, node, rfl, found⟩))

/-- An operand that nothing follows is a statement. -/
theorem pipeline_reads_alone
    (reads : Reads given reached (operand origin inner) before after wanted)
    (ended : StatementEnd after) :
    Reads given reached (pipeline origin inner) before after fun node =>
      ∃ extent value, node = .pipeline extent [value] ∧ wanted value := by
  have none : Reads reached reached (repeated (nextElement origin inner)) after after (· = []) :=
    repeated_reads_none (nextElement_fails ended) rfl
  refine pipeline_reads (arrayLiteral_reads reads none ?_) ended
  rintro node _ extent found rfl
  exact found

/-- There is no statement where nothing begins that one begins with. -/
theorem pipeline_fails_primary (primary : Fails (primary origin inner) before)
    (noOperator : afterUnaryOperator before = none) (noCall : afterCallOperator before = none)
    (noBareword : afterBareword before = none) : Fails (pipeline origin inner) before := by
  -- From the operands outwards: each reader fails because what it begins with does.
  have operand : Fails (operand origin inner) before := by
    refine Fails.orElse_fails (offset_reads.bind_fails fun _ => primary.bind) ?_
    exact located_fails (lexeme_fails noOperator).bind
  have expression : Fails (expression origin inner) before :=
    (located_fails operand.bind).bind
  have command : Fails (command origin inner) before := by
    refine located_fails (Fails.bind (Fails.orElse_fails (lexeme_fails noCall).bind ?_))
    exact (token_fails noBareword).bind.bind
  exact located_fails (expression.orElse_fails command).bind

theorem pipeline_fails (closed : Closed before) : Fails (pipeline origin inner) before := by
  obtain ⟨noNumeral, noVariable, noOperator, noCall, noBareword, -⟩ := closed.nothing
  have other : ∀ c, c ∉ [')', '\x7d'] → before.head? ≠ some c :=
    fun c outside same => outside (closed c same)
  have primary : Fails (primary origin inner) before := fun tokens => by
    rw [primary_plain fun c same => ?_]
    · refine Fails.orElse_fails (stringLiteral_fails ?_ ?_) (Fails.orElse_fails
        (typeExpression_fails ?_) (Fails.orElse_fails (token_fails noNumeral).bind
          (token_fails noVariable).bind)) tokens
      · exact other '\'' (by decide)
      · exact other '"' (by decide)
      · exact other '[' (by decide)
    · have all : ∀ c ∈ [')', '\x7d'], c ∉ ['@', '$', '(', '\x7b'] := by simp
      exact all c (closed c same)
  exact pipeline_fails_primary primary noOperator noCall noBareword

/-- What ends a statement or a pair, read with the blanks around it. -/
theorem mark_reads {mark : Reader Unit} {fillers : List Filler}
    (separator : ∀ c rest, c = ';' ∨ isLineBreak c = true →
      Reads given given mark (c :: rest) rest fun _ => True)
    (solid : skipTrivia true after = after)
    (ends : fillers.any Filler.separates = true ∨
      skipTrivia false after = after ∧ Reads given given mark after after fun _ => True) :
    Reads given given (do
      space
      mark
      blank) (trivia fillers ++ after) after fun _ => True := by
  rcases skipTrivia_inline_trivia fillers after with
    ⟨-, c, later, left, mark, skipped⟩ | ⟨joins, skipped⟩
  · exact (space_reads left).bind fun _ _ => (separator c later mark).bind fun _ _ =>
      blank_reads (skipped.trans solid)
  · rcases ends with separates | ⟨stops, marked⟩
    · rw [joins] at separates
      cases separates
    · exact (space_reads (skipped.trans stops)).bind fun _ _ => marked.bind fun _ _ =>
        blank_reads solid

theorem terminator_reads {fillers : List Filler} (closed : Closed after) :
    Reads given given terminator (trivia fillers ++ after) after fun _ => True := by
  refine mark_reads (fun c rest separator tokens holds => ?_)
    (closed.skipTrivia true) (.inr ⟨closed.skipTrivia false, fun tokens holds => ?_⟩)
  · exact ⟨(), tokens, if_pos separator, holds, trivial⟩
  · refine ⟨(), tokens, ?_, holds, trivial⟩
    rcases closed.cases with rfl | ⟨c, rest, rfl, rfl | rfl⟩ <;> rfl

/-- A pair ends at a separator, or at the brace that closes its table. -/
theorem pairTerminator_reads {fillers : List Filler} (solid : skipTrivia true after = after)
    (ends : fillers.any Filler.separates = true ∨ ∃ rest, after = '\x7d' :: rest) :
    Reads given given pairTerminator (trivia fillers ++ after) after fun _ => True := by
  refine mark_reads (fun c rest separator tokens holds => ?_) solid
    (ends.imp_right ?_)
  · exact ⟨(), tokens, if_pos separator, holds, trivial⟩
  · rintro ⟨rest, rfl⟩
    exact ⟨skipTrivia_stop rfl, fun tokens holds => ⟨(), tokens, rfl, holds, trivial⟩⟩

theorem statements_reads_none {text : List Char} (blank : skipTrivia true text = after)
    (fails : Fails inner.pipeline after) :
    Reads given given (statements inner) text after (· = []) :=
  (blank_reads blank).bind fun _ _ => repeated_reads_none fails.bind rfl

theorem statements_reads_one {text : List Char} {fillers : List Filler}
    (blank : skipTrivia true text = before)
    (reads : Reads given reached inner.pipeline before (trivia fillers ++ after) wanted)
    (closed : Closed after) (fails : Fails inner.pipeline after)
    (shorter : after.length < before.length) :
    Reads given reached (statements inner) text after fun nodes =>
      ∃ node, nodes = [node] ∧ wanted node := by
  have statement : Reads given reached (Grammar.statement inner) before after wanted :=
    reads.bind fun node found => (terminator_reads closed).bind fun _ _ => reads_pure found
  have finished : Reads reached reached (repeated (Grammar.statement inner)) after after (· = []) :=
    repeated_reads_none fails.bind rfl
  refine (blank_reads blank).bind fun _ _ => repeated_reads_more statement shorter finished ?_
  rintro node _ found rfl
  exact ⟨node, rfl, found⟩

theorem primary_array {text : List Char} {wanted : List Node → Prop}
    (reads : Reads given reached (statements inner) text (')' :: after) wanted) :
    Reads given reached (primary origin inner) ('@' :: '(' :: text) after fun node =>
      ∃ extent nodes, node = .arrayExpression extent nodes ∧ wanted nodes := by
  have array : Reads given reached (arrayExpression origin inner) ('@' :: '(' :: text) after
      fun node => ∃ extent nodes, node = .arrayExpression extent nodes ∧ wanted nodes :=
    located_reads ((char_reads '@' _).bind fun _ _ => (char_reads '(' text).bind fun _ _ =>
      reads.bind fun nodes found => (char_reads ')' after).bind fun _ _ =>
        reads_pure fun extent => ⟨extent, nodes, rfl, found⟩)
  exact (opened_fails_second (by decide)).orElse array.orElse

/-- A pair is read where its key is, with blanks and comments around the sign behind it. -/
theorem hashPair_reads_key {text : List Char} {gap opening : List Filler} {named : Node → Prop}
    (joins : gap.any Filler.separates = false) (solid : skipTrivia true before = before)
    (key : Reads given passed (hashKey origin) text
      (trivia gap ++ '=' :: (trivia opening ++ before)) named)
    (value : Reads passed reached inner.pipeline before middle wanted)
    (ends : Reads reached reached pairTerminator middle after fun _ => True) :
    Reads given reached (hashPair origin inner) text after fun pair =>
      named pair.1 ∧ wanted pair.2 := by
  have inline : ∀ rest, skipTrivia false (trivia gap ++ '=' :: rest) = '=' :: rest :=
    fun rest => (skipTrivia_joined joins _).trans (skipTrivia_stop rfl)
  exact key.bind fun key known => (space_reads (inline _)).bind fun _ _ =>
    (char_reads '=' _).bind fun _ _ =>
    (blank_reads ((skipTrivia_trivia opening before).trans solid)).bind fun _ _ =>
    value.bind fun node found => ends.bind fun _ _ => reads_pure ⟨known, found⟩

theorem hashPair_reads (name : List Char) {gap opening : List Filler}
    (joins : gap.any Filler.separates = false) (solid : skipTrivia true before = before)
    (value : Reads Fitting reached inner.pipeline before middle wanted)
    (ends : Reads reached reached pairTerminator middle after fun _ => True) :
    Reads Fitting reached (hashPair origin inner)
      ('\'' :: (doubled name ++ '\'' :: (trivia gap ++ '=' :: (trivia opening ++ before)))) after
      fun pair => (∃ extent, pair.1 = .stringConstant extent (String.ofList name) .single) ∧
        wanted pair.2 := by
  -- Another quote behind the key would be read as part of it.
  have ended : ∀ rest later, trivia gap ++ '=' :: rest ≠ '\'' :: later := by
    intro rest later same
    cases gap with
    | nil => cases same
    | cons filler gap =>
        obtain ⟨c, text, begins, boundary⟩ := filler.text_head
        rw [trivia, List.flatMap_cons, begins] at same
        rw [(List.cons.inj same).1] at boundary
        exact absurd boundary (by decide)
  exact hashPair_reads_key joins solid
    (stringLiteral_reads name (ended (trivia opening ++ before))).orElse value ends

theorem hashPair_fails {rest : List Char} : Fails (hashPair origin inner) ('\x7d' :: rest) := by
  have closed : Closed ('\x7d' :: rest) := goesOn_cons rest (by decide)
  obtain ⟨noNumeral, -, -, -, -, noKeyword⟩ := closed.nothing
  refine Fails.bind (Fails.orElse_fails (stringLiteral_fails (by simp) (by simp)) ?_)
  exact Fails.orElse_fails (token_fails noNumeral).bind (token_fails noKeyword).bind

theorem primary_hashtable {text : List Char} {wanted : List (Node × Node) → Prop}
    (blank : skipTrivia true text = middle)
    (reads : Reads given reached (repeated (hashPair origin inner)) middle ('\x7d' :: after)
      wanted) :
    Reads given reached (primary origin inner) ('@' :: '\x7b' :: text) after fun node =>
      ∃ extent pairs, node = .hashtable extent pairs ∧ wanted pairs := by
  have table : Reads given reached (hashtable origin inner) ('@' :: '\x7b' :: text) after
      fun node => ∃ extent pairs, node = .hashtable extent pairs ∧ wanted pairs :=
    located_reads ((char_reads '@' _).bind fun _ _ => (char_reads '\x7b' text).bind fun _ _ =>
      (blank_reads blank).bind fun _ _ => reads.bind fun pairs found =>
        (char_reads '\x7d' after).bind fun _ _ =>
          reads_pure fun extent => ⟨extent, pairs, rfl, found⟩)
  exact table.orElse

theorem primary_hashtable_one {text : List Char} {wanted : Node × Node → Prop}
    (blank : skipTrivia true text = middle)
    (pair : Reads given reached (hashPair origin inner) middle ('\x7d' :: after) wanted)
    (shorter : after.length + 1 < middle.length) :
    Reads given reached (primary origin inner) ('@' :: '\x7b' :: text) after fun node =>
      ∃ extent pair, node = .hashtable extent [pair] ∧ wanted pair := by
  have finished : Reads reached reached (repeated (hashPair origin inner)) ('\x7d' :: after)
      ('\x7d' :: after) (· = []) :=
    repeated_reads_none hashPair_fails rfl
  have pairs : Reads given reached (repeated (hashPair origin inner)) middle ('\x7d' :: after)
      fun pairs => ∃ pair, pairs = [pair] ∧ wanted pair := by
    refine repeated_reads_more pair shorter finished ?_
    rintro pair _ found rfl
    exact ⟨pair, rfl, found⟩
  refine (primary_hashtable blank pairs).imp ?_
  rintro _ ⟨extent, _, rfl, pair, rfl, found⟩
  exact ⟨extent, pair, rfl, found⟩

/-- What begins as a table is nothing else. -/
theorem primary_fails_hashtable {rest : List Char}
    (fails : Fails (hashtable origin inner) ('@' :: '\x7b' :: rest)) :
    Fails (primary origin inner) ('@' :: '\x7b' :: rest) := by
  refine fails.orElse_fails ?_
  refine (opened_fails_second (by decide)).orElse_fails ?_
  refine (opened_fails (by simp)).orElse_fails ?_
  refine (opened_fails (by simp)).orElse_fails ?_
  refine (opened_fails (by simp)).orElse_fails ?_
  refine (quotation_fails_second (by decide)).bind.orElse_fails ?_
  refine (quotation_fails_second (by decide)).bind.orElse_fails ?_
  refine (stringLiteral_fails (by simp) (by simp)).orElse_fails ?_
  refine (typeExpression_fails (by simp)).orElse_fails ?_
  exact (token_fails rfl).bind.orElse_fails (token_fails rfl).bind

theorem script_reads_amid {text : List Char} {fillers : List Filler}
    (blank : skipTrivia true text = before) (begun : 0 < before.length)
    (reads : Reads given reached (level origin (origin.length + 1)).pipeline before
      (trivia fillers) wanted) :
    Reads given reached (script origin) text [] fun tree =>
      ∃ extent statement, tree = .scriptBlock extent [statement] ∧ wanted statement := by
  rw [← List.append_nil (trivia fillers)] at reads
  have body : Reads given reached (statements (level origin (origin.length + 1))) text []
      fun nodes => ∃ node, nodes = [node] ∧ wanted node :=
    statements_reads_one blank reads goesOn_nil (pipeline_fails goesOn_nil) begun
  refine located_reads (body.bind fun nodes => ?_)
  rintro ⟨statement, rfl, found⟩
  exact reads_pure fun extent => ⟨extent, statement, rfl, found⟩

theorem script_reads {text : List Char} (solid : skipTrivia true text = text)
    (begun : 0 < text.length)
    (reads : Reads given reached (level origin (origin.length + 1)).pipeline text [] wanted) :
    Reads given reached (script origin) text [] fun tree =>
      ∃ extent statement, tree = .scriptBlock extent [statement] ∧ wanted statement := by
  have ended : Reads given reached (level origin (origin.length + 1)).pipeline text (trivia [])
      wanted := reads
  exact script_reads_amid solid begun ended

end Grammar

section
variable {text : List Char} {file : String} {given reached : List Token → Prop}
variable {wanted : Node → Prop}

/-- A text that is read to its end has a tree if all its tokens fit, every key has a form and no key
comes twice. -/
theorem parseText_reads
    (reads : Reader.Reads given Fitting (Grammar.script (originOf (.ofText text) file)) text []
      wanted)
    (holds : given [])
    (keyed : ∀ tree, wanted tree → tree.allRepeatedKeys = [] ∧ tree.ShowsKeys) :
    ∃ result, parseText (String.ofList text) file = .ok result ∧ result.issues = [] ∧
      wanted result.tree := by
  obtain ⟨tree, tokens, read, fitting, good⟩ := reads [] holds
  have none : overlongInteger? tokens.reverse = none :=
    overlongInteger?_eq_none.mpr fun token member => fitting token (List.mem_reverse.mp member)
  refine ⟨⟨tree, tokens.reverse, []⟩, ?_, rfl, good⟩
  obtain ⟨unrepeated, shown⟩ := keyed tree good
  simp [parseText, read, none, Node.findFirst_hidesKey.mpr shown, Node.duplicateKeyIssues,
    unrepeated]

/-- A text that is not read to its end has an issue where the reading stopped, and no tree. -/
theorem parseText_stops {rest : List Char}
    (reads : Reader.Reads given reached (Grammar.script (originOf (.ofText text) file)) text rest
      wanted)
    (holds : given []) (left : rest ≠ []) :
    parseText (String.ofList text) file =
      .ok ⟨emptyTree (.ofText text) file, [], [stopIssue (.ofText text) file rest]⟩ := by
  obtain ⟨tree, tokens, read, -, -⟩ := reads [] holds
  simp [parseText, read, left]

/-- An operand that is all of a text makes a statement of its own. -/
theorem parseText_reads_alone {lexeme : List Char} (solid : skipTrivia true lexeme = lexeme)
    (begun : lexeme ≠ []) (file : String)
    (reads : ∀ origin inner,
      Reader.Reads Fitting Fitting (Grammar.primary origin inner) lexeme [] wanted)
    (keyed : ∀ node, wanted node → node.allRepeatedKeys = [] ∧ node.ShowsKeys) :
    ∃ result, parseText (String.ofList lexeme) file = .ok result ∧ result.issues = [] ∧
      ∃ whole around node, result.tree = .scriptBlock whole [.pipeline around [node]] ∧
        wanted node := by
  have script : Reader.Reads Fitting Fitting (Grammar.script (originOf (.ofText lexeme) file))
      lexeme [] _ :=
    Grammar.script_reads solid (List.length_pos_iff.mpr begun) (Grammar.pipeline_reads_alone
      (Grammar.operand_reads (reads _ _) goesOn_nil) statementEnd_nil)
  obtain ⟨result, parsed, clean, whole, _, tree, around, node, rfl, found⟩ :=
    parseText_reads script fitting_nil fun _ made => by
      obtain ⟨whole, _, rfl, around, node, rfl, found⟩ := made
      obtain ⟨unrepeated, shown⟩ := keyed node found
      refine ⟨?_, shown.alone whole around⟩
      simp [Node.allRepeatedKeys, repeatedInAll, unrepeated]
  exact ⟨result, parsed, clean, whole, around, node, tree, found⟩

/-- The last token is an integer of this lexeme, and all of the others fit. -/
def EndsInInteger (lexeme : String) (tokens : List Token) : Prop :=
  ∃ extent earlier, tokens = ⟨.number, lexeme, extent⟩ :: earlier ∧ Fitting earlier

/-- A text whose last token is an integer that is too long has no tree. -/
theorem parseText_overlong {lexeme : String} {digits : Nat}
    (reads : Reader.Reads Fitting (EndsInInteger lexeme)
      (Grammar.script (originOf (.ofText text) file)) text [] wanted)
    (counted : integerDigits? lexeme.toList = some digits)
    (long : Text.greatestIntegerDigits < digits) :
    parseText (String.ofList text) file =
      .error ⟨.integerTooLong lexeme digits Text.greatestIntegerDigits, some (.ofFile file)⟩ := by
  obtain ⟨tree, _, read, ⟨extent, earlier, rfl, fitting⟩, -⟩ := reads [] fitting_nil
  have none : overlongInteger? earlier.reverse = none :=
    overlongInteger?_eq_none.mpr fun token member => fitting token (List.mem_reverse.mp member)
  have found : overlongInteger? (earlier.reverse ++ [⟨.number, lexeme, extent⟩]) =
      some (⟨.number, lexeme, extent⟩, digits) := by
    rw [overlongInteger?, List.findSome?_append, ← overlongInteger?, none]
    simp [counted, long]
  simp [parseText, read, found]

end

end ScriptAudit.Syntax
