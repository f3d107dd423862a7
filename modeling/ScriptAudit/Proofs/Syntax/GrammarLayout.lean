import ScriptAudit.Proofs.Syntax.Layout

namespace ScriptAudit.Syntax.Grammar

/-! The layout of what each part of the grammar reads.

A level reads nodes that span what was passed when the level below it does, so all levels do. -/

open Source Lexeme Reader

variable {origin : Origin}

/-- The part of a node that was read between two cursors. -/
theorem located_spans {body : Reader (Extent → Node)}
    (built : ∀ {cursor make after}, body cursor = some (make, after) →
      Trimmed cursor.rest after.rest ∧ ∀ extent, (make extent).extent = extent ∧
        (make extent).Complete ∧ AllReadFrom origin cursor.rest after.rest (make extent).children) :
    Spans origin (located origin body) := by
  intro cursor node after read
  obtain ⟨make, found, rfl⟩ := located_eq_some.mp read
  obtain ⟨trimmed, whole⟩ := built found
  obtain ⟨placed, complete, parts⟩ := whole (origin.between cursor.rest after.rest)
  exact .placed placed trimmed complete parts

/-- What a token leaves to be read, and the extent that it has. -/
theorem token_scans {kind : TokenKind} {scan : List Char → Option (List Char)}
    {cursor after : Cursor} {found : List Char × Extent}
    (read : token origin kind scan cursor = some (found, after)) :
    scan cursor.rest = some after.rest ∧ found.2 = origin.between cursor.rest after.rest := by
  obtain ⟨scanned, -, placed, -⟩ := token_reads read
  exact ⟨scanned, placed⟩

/-- A leaf made of a lexeme that was read. -/
theorem leaf_spans {lexed : Reader (List Char × Extent)} {make : List Char × Extent → Node}
    (trimmed : ∀ {cursor found after}, lexed cursor = some (found, after) →
      Trimmed cursor.rest after.rest ∧ found.2 = origin.between cursor.rest after.rest)
    (leaf : ∀ found, (make found).extent = found.2 ∧ (make found).Complete ∧
      (make found).children = []) :
    Spans origin (do
      let found ← lexed
      return make found) := by
  intro cursor node after read
  simp only [bind_eq_some, pure_eq_some] at read
  obtain ⟨found, _, read, same⟩ := read
  cases same
  obtain ⟨trimmed, placed⟩ := trimmed read
  obtain ⟨extent, complete, childless⟩ := leaf found
  refine .placed (extent.trans placed) trimmed complete ?_
  rw [childless]
  exact .nil trimmed.ends.suffix

theorem token_trimmed {kind : TokenKind} {scan : List Char → Option (List Char)}
    (trims : ∀ {text rest}, scan text = some rest → Trimmed text rest)
    {cursor after : Cursor} {found : List Char × Extent}
    (read : token origin kind scan cursor = some (found, after)) :
    Trimmed cursor.rest after.rest ∧ found.2 = origin.between cursor.rest after.rest := by
  obtain ⟨scanned, placed⟩ := token_scans read
  exact ⟨trims scanned, placed⟩

theorem bare_spans {kind : TokenKind} {scan : List Char → Option (List Char)}
    (trims : ∀ {text rest}, scan text = some rest → Trimmed text rest) :
    Spans origin (bare origin kind scan) :=
  leaf_spans (token_trimmed trims) fun _ => ⟨rfl, trivial, rfl⟩

theorem quotation_trimmed {first : Char} {opening : List Char}
    {body : List Char → Option (List Char × List Char)} (begins : first ≠ '\n')
    (ends : ∀ {text found}, body text = some found → Solid text found.2)
    {cursor after : Cursor} {found : List Char × Extent}
    (read : quotation origin (first :: opening) body cursor = some (found, after)) :
    Trimmed cursor.rest after.rest ∧ found.2 = origin.between cursor.rest after.rest := by
  unfold quotation at read
  split at read
  · next inner closed =>
      split at read
      · next opened =>
          obtain ⟨lexed, tokenRead, same⟩ := Option.map_eq_some_iff.mp read
          cases same
          obtain ⟨scanned, placed⟩ := token_scans tokenRead
          refine ⟨⟨?_, ?_⟩, placed⟩
          · have head := congrArg List.head? opened
            rw [List.head?_take, if_neg (by simp), List.head?_cons] at head
            rw [head]
            exact fun same => begins (Option.some.inj same)
          · rw [← Option.some.inj scanned]
            exact (ends closed).of_suffix (List.drop_suffix _ _)
      · cases read
  · cases read

theorem singleQuoted_spans : Spans origin (singleQuoted origin) :=
  leaf_spans (quotation_trimmed (by decide) singleQuotedBody_solid) fun _ => ⟨rfl, trivial, rfl⟩

theorem hereSingle_spans : Spans origin (hereSingle origin) :=
  leaf_spans (quotation_trimmed (by decide) hereString_solid) fun _ => ⟨rfl, trivial, rfl⟩

/-- A double-quoted text is a leaf whether something in it is expanded or not. -/
theorem doubleQuotedNode_leaf (extent : Extent) (body : List Char) (collapse : Bool)
    (quote : Quote) :
    (doubleQuotedNode extent body collapse quote).extent = extent ∧
      (doubleQuotedNode extent body collapse quote).Complete ∧
      (doubleQuotedNode extent body collapse quote).children = [] := by
  dsimp only [doubleQuotedNode]
  split
  · exact ⟨rfl, trivial, rfl⟩
  · exact ⟨rfl, trivial, rfl⟩

theorem doubleQuoted_spans : Spans origin (doubleQuoted origin) :=
  leaf_spans (quotation_trimmed (by decide) doubleQuotedBody_solid) fun _ =>
    doubleQuotedNode_leaf ..

theorem hereDouble_spans : Spans origin (hereDouble origin) :=
  leaf_spans (quotation_trimmed (by decide) hereString_solid) fun _ => doubleQuotedNode_leaf ..

theorem stringLiteral_spans : Spans origin (stringLiteral origin) :=
  singleQuoted_spans.orElse doubleQuoted_spans

theorem numeral_spans : Spans origin (numeral origin) :=
  leaf_spans (token_trimmed afterNumeral_trimmed) fun _ => ⟨rfl, trivial, rfl⟩

theorem variableNode_spans : Spans origin (variableNode origin) :=
  leaf_spans (token_trimmed afterVariable_trimmed) fun _ => ⟨rfl, trivial, rfl⟩

theorem hashKey_spans : Spans origin (hashKey origin) :=
  stringLiteral_spans.orElse (numeral_spans.orElse (bare_spans afterKeyword_trimmed))

theorem bareword_spans : Spans origin (bareword origin) :=
  bare_spans afterBareword_trimmed

theorem plainCommand_trimmed {cursor after : Cursor} {name : Node × String}
    (read : plainCommand origin cursor = some (name, after)) :
    Trimmed cursor.rest after.rest ∧
      AllReadFrom origin cursor.rest after.rest [name.1] := by
  simp only [plainCommand, bind_eq_some, pure_eq_some] at read
  obtain ⟨target, last, targetRead, same⟩ := read
  cases same
  have spans := bareword_spans targetRead
  exact ⟨spans.trimmed, .single spans⟩

theorem statementMark_advances : Advances statementMark := by
  intro cursor value after read
  unfold statementMark at read
  split at read
  · cases read
    exact cursor.reaches_refl
  · next c rest same =>
      split at read
      · cases read
        rw [Cursor.Reaches, same]
        exact List.suffix_cons c rest
      · split at read <;> cases read
        exact cursor.reaches_refl

theorem pairMark_advances : Advances pairMark := by
  intro cursor value after read
  unfold pairMark at read
  split at read
  · cases read
  · next c rest same =>
      split at read
      · cases read
        rw [Cursor.Reaches, same]
        exact List.suffix_cons c rest
      · split at read <;> cases read
        exact cursor.reaches_refl

theorem terminator_advances : Advances terminator := by
  intro cursor value after read
  simp only [terminator, bind_eq_some] at read
  obtain ⟨_, _, spaces, _, _, mark, blanks⟩ := read
  exact ((space_advances spaces).trans (statementMark_advances mark)).trans (blank_advances blanks)

theorem pairTerminator_advances : Advances pairTerminator := by
  intro cursor value after read
  simp only [pairTerminator, bind_eq_some] at read
  obtain ⟨_, _, spaces, _, _, mark, blanks⟩ := read
  exact ((space_advances spaces).trans (pairMark_advances mark)).trans (blank_advances blanks)

theorem memberName_solid {cursor after : Cursor} {name : Bool × String}
    (read : memberName cursor = some (name, after)) : Solid cursor.rest after.rest := by
  simp only [memberName, bind_eq_some, pure_eq_some] at read
  obtain ⟨_, _, separator, _, _, name, same⟩ := read
  cases same
  exact (afterMemberName_solid (lexeme_scans name)).of_suffix
    (afterMemberSeparator_suffix (lexeme_scans separator))

/-- A suffix extends a node from where the node begins to where the suffix ends. -/
def Extends (origin : Origin) (build : Extent → Node → Node) (first last : List Char) : Prop :=
  ∀ {start : List Char} {target : Node}, target.ReadFrom origin start first →
    (build (origin.between start last) target).ReadFrom origin start last

theorem argumentList_covers {argument : Option Node} {first last : List Char}
    (read : AllReadFrom origin first last argument.toList) :
    AllReadFrom origin first last (argumentList argument) := by
  cases argument with
  | none => exact read
  | some node =>
      cases node with
      | arrayLiteral extent elements =>
          cases read with
          | cons gap head tail =>
              cases head with
              | placed _ _ _ parts => exact parts.widen gap tail.reaches
      | _ => exact read

theorem memberAccess_extends {cursor after : Cursor} {build : Extent → Node → Node}
    (read : memberAccess cursor = some (build, after)) :
    Extends origin build cursor.rest after.rest := by
  simp only [memberAccess, bind_eq_some, pure_eq_some] at read
  obtain ⟨name, _, named, same⟩ := read
  cases same
  have solid := memberName_solid named
  intro start target before
  exact .placed rfl (before.trimmed.solid solid) rfl
    (.cons (List.suffix_refl _) before (.nil solid.suffix))

section
variable {inner : Level} (nested : inner.Spans origin)
include nested

theorem statement_covers : Covers origin (fun node => [node]) (statement inner) := by
  intro cursor node after read
  simp only [statement, bind_eq_some, pure_eq_some] at read
  obtain ⟨_, middle, read, _, _, ending, same⟩ := read
  cases same
  exact (AllReadFrom.single (nested.pipeline read)).widen (List.suffix_refl _)
    (terminator_advances ending)

theorem statements_covers : Covers origin id (statements inner) := by
  intro cursor nodes after read
  simp only [statements, bind_eq_some] at read
  obtain ⟨_, middle, blanks, read⟩ := read
  exact (repeated_covers_nodes (statement_covers nested) read).widen (blank_advances blanks)
    (List.suffix_refl _)

theorem hashPair_covers :
    Covers origin (fun pair => [pair.1, pair.2]) (hashPair origin inner) := by
  intro cursor pair after read
  simp only [hashPair, bind_eq_some, pure_eq_some] at read
  obtain ⟨key, afterKey, keyRead, _, _, spaces, _, _, equals, _, beforeValue, blanks, value,
    afterValue, valueRead, _, _, ending, same⟩ := read
  cases same
  have between : afterKey.Reaches beforeValue :=
    ((space_advances spaces).trans (char_advances _ equals)).trans (blank_advances blanks)
  exact .cons (List.suffix_refl _) (hashKey_spans keyRead) (.cons between
    (nested.pipeline valueRead) (.nil (pairTerminator_advances ending)))

theorem hashtable_spans : Spans origin (hashtable origin inner) := by
  refine located_spans fun {cursor make after} read => ?_
  simp only [bind_eq_some, pure_eq_some] at read
  obtain ⟨_, _, sign, _, _, brace, _, first, blanks, pairs, last, read, _, _, closed, same⟩ := read
  cases same
  have early := (char_advances _ brace).trans (blank_advances blanks)
  have parts := repeated_covers (hashPair_covers nested) read
  exact ⟨enclosed_trimmed sign (early.trans parts.reaches) closed (by decide) (by decide),
    fun _ => ⟨rfl, trivial, parts.widen ((char_advances _ sign).trans early)
      (char_advances _ closed)⟩⟩

theorem enclosed_spans {sign : Char} {make : Extent → List Node → Node} (begins : sign ≠ '\n')
    (block : ∀ extent body, (make extent body).extent = extent ∧ (make extent body).Complete ∧
      (make extent body).children = body) :
    Spans origin (located origin do
      char sign
      char '('
      let body ← statements inner
      char ')'
      return (make · body)) := by
  refine located_spans fun {cursor make' after} read => ?_
  simp only [bind_eq_some, pure_eq_some] at read
  obtain ⟨_, _, signed, _, first, opened, body, last, read, _, _, closed, same⟩ := read
  cases same
  have early := char_advances _ opened
  have parts := statements_covers nested read
  refine ⟨enclosed_trimmed signed (early.trans parts.reaches) closed begins (by decide),
    fun extent => ?_⟩
  obtain ⟨placed, complete, children⟩ := block extent body
  refine ⟨placed, complete, ?_⟩
  rw [children]
  exact parts.widen ((char_advances _ signed).trans early) (char_advances _ closed)

theorem arrayExpression_spans : Spans origin (arrayExpression origin inner) :=
  enclosed_spans nested (by decide) fun _ _ => ⟨rfl, trivial, rfl⟩

theorem subExpression_spans : Spans origin (subExpression origin inner) :=
  enclosed_spans nested (by decide) fun _ _ => ⟨rfl, trivial, rfl⟩

theorem scriptBlock_spans : Spans origin (scriptBlock origin inner) := by
  refine located_spans fun {cursor make after} read => ?_
  simp only [bind_eq_some, pure_eq_some] at read
  obtain ⟨_, first, opened, body, last, read, _, _, closed, same⟩ := read
  cases same
  have parts := statements_covers nested read
  exact ⟨enclosed_trimmed opened parts.reaches closed (by decide) (by decide),
    fun _ => ⟨rfl, trivial, parts.widen (char_advances _ opened) (char_advances _ closed)⟩⟩

theorem parenthesized_spans : Spans origin (parenthesized origin inner) := by
  refine located_spans fun {cursor make after} read => ?_
  simp only [bind_eq_some, pure_eq_some] at read
  obtain ⟨_, _, opened, _, first, blanks, body, last, read, _, _, moreBlanks, _, _, closed, same⟩ :=
    read
  cases same
  have spans := nested.pipeline read
  have early := blank_advances blanks
  have late := blank_advances moreBlanks
  exact ⟨enclosed_trimmed opened ((early.trans spans.reaches).trans late) closed (by decide)
      (by decide),
    fun _ => ⟨rfl, rfl, (AllReadFrom.single spans).widen ((char_advances _ opened).trans early)
      (late.trans (char_advances _ closed))⟩⟩

/-- A type name alone spans itself; in front of an operand it belongs to the conversion. -/
theorem typeExpression_spans : Spans origin (typeExpression origin inner) := by
  intro cursor node after read
  obtain ⟨make, built, rfl⟩ := located_eq_some.mp read
  simp only [typeNode, bind_eq_some, pure_eq_some, ifPresent_eq_some, seqRight_eq_some] at built
  obtain ⟨name, middle, ⟨found, _, lexed, named⟩, operand, last, built, same⟩ := built
  cases same
  cases named
  obtain ⟨trimmed, placed⟩ := token_trimmed afterTypeLiteral_trimmed lexed
  rcases built with ⟨operand, last, ⟨_, first, spaces, operandRead⟩, same⟩ | ⟨_, same⟩
  · cases same
    have spans := nested.operand operandRead
    have gap := space_advances spaces
    exact .placed rfl (trimmed.solid (spans.trimmed.ends.of_suffix gap)) rfl
      (.cons (List.IsSuffix.trans gap trimmed.ends.suffix) spans (.nil (List.suffix_refl _)))
  · cases same
    exact .placed placed trimmed trivial (.nil trimmed.ends.suffix)

theorem primary_spans : Spans origin (primary origin inner) :=
  (hashtable_spans nested).orElse <| (arrayExpression_spans nested).orElse <|
    (subExpression_spans nested).orElse <| (parenthesized_spans nested).orElse <|
    (scriptBlock_spans nested).orElse <| hereSingle_spans.orElse <| hereDouble_spans.orElse <|
    stringLiteral_spans.orElse <| (typeExpression_spans nested).orElse <|
    numeral_spans.orElse variableNode_spans

theorem memberInvocation_extends {cursor after : Cursor} {build : Extent → Node → Node}
    (read : memberInvocation inner cursor = some (build, after)) :
    Extends origin build cursor.rest after.rest := by
  simp only [memberInvocation, bind_eq_some, pure_eq_some] at read
  obtain ⟨name, _, named, _, _, opened, _, first, blanks, argument, last, read, _, _, moreBlanks,
    _, _, closed, same⟩ := read
  cases same
  have early := (char_advances _ opened).trans (blank_advances blanks)
  have late := blank_advances moreBlanks
  have spans := ifPresent_covers nested.expression.endsWith.covers read
  have arguments := (argumentList_covers spans).widen early (late.trans (char_advances _ closed))
  have solid := (char_solid closed (by decide)).of_suffix ((early.trans spans.reaches).trans late)
  have name := memberName_solid named
  intro start target before
  exact .placed rfl ((before.trimmed.solid name).solid solid) rfl
    (.cons (List.suffix_refl _) before (arguments.widen name.suffix (List.suffix_refl _)))

theorem indexAccess_extends {cursor after : Cursor} {build : Extent → Node → Node}
    (read : indexAccess inner cursor = some (build, after)) :
    Extends origin build cursor.rest after.rest := by
  simp only [indexAccess, bind_eq_some, pure_eq_some] at read
  obtain ⟨_, _, opened, _, first, blanks, subscript, last, read, _, _, moreBlanks, _, _, closed,
    same⟩ := read
  cases same
  have early := (char_advances _ opened).trans (blank_advances blanks)
  have late := blank_advances moreBlanks
  have spans := nested.expression read
  have solid := (char_solid closed (by decide)).of_suffix ((early.trans spans.reaches).trans late)
  intro start target before
  exact .placed rfl (before.trimmed.solid solid) ⟨rfl, rfl⟩ (.cons (List.suffix_refl _) before
    ((AllReadFrom.single spans).widen early (late.trans (char_advances _ closed))))

theorem suffix_extends {cursor after : Cursor} {found : (Extent → Node → Node) × Nat}
    (read : suffix origin inner cursor = some (found, after)) :
    found.2 = offsetAt origin after ∧ Extends origin found.1 cursor.rest after.rest := by
  simp only [suffix, bind_eq_some, pure_eq_some, orElse_eq_some, offset_eq_some] at read
  obtain ⟨build, middle, read, stop, last, placed, same⟩ := read
  cases placed
  cases same
  refine ⟨rfl, ?_⟩
  rcases read with read | ⟨_, read | ⟨_, read⟩⟩
  · exact memberInvocation_extends nested read
  · exact memberAccess_extends read
  · exact indexAccess_extends nested read

theorem postfixExpression_spans : Spans origin (postfixExpression origin inner) := by
  intro cursor node after read
  simp only [postfixExpression, bind_eq_some, pure_eq_some, offset_eq_some] at read
  obtain ⟨start, _, placed, target, middle, targetRead, suffixes, last, suffixesRead, same⟩ := read
  cases placed
  cases same
  refine repeated_folds
    (fun node found => found.1 (origin.place (offsetAt origin cursor) found.2) node) cursor.rest
    (fun found node before => ?_) suffixesRead (primary_spans nested targetRead)
  obtain ⟨stop, grows⟩ := suffix_extends nested found
  rw [stop]
  exact grows before

theorem prefixedExpression_spans : Spans origin (prefixedExpression origin inner) := by
  refine located_spans fun {cursor make after} read => ?_
  simp only [bind_eq_some, pure_eq_some] at read
  obtain ⟨operator, _, signed, _, first, spaces, operand, last, read, same⟩ := read
  cases same
  have scanned := lexeme_scans signed
  have signedReaches : cursor.Reaches _ := afterUnaryOperator_suffix scanned
  have early := signedReaches.trans (space_advances spaces)
  have spans := nested.operand read
  exact ⟨⟨afterUnaryOperator_begins scanned, spans.trimmed.ends.of_suffix early⟩,
    fun _ => ⟨rfl, rfl, .cons early spans (.nil (List.suffix_refl _))⟩⟩

theorem operand_spans : Spans origin (operand origin inner) :=
  (postfixExpression_spans nested).orElse (prefixedExpression_spans nested)

theorem nextElement_endsWith : EndsWith origin id (nextElement origin inner) := by
  intro cursor node after read
  simp only [nextElement, bind_eq_some] at read
  obtain ⟨_, _, spaces, _, _, comma, _, first, blanks, read⟩ := read
  exact ⟨_, ((space_advances spaces).trans (char_advances _ comma)).trans (blank_advances blanks),
    operand_spans nested read⟩

/-- One element alone spans itself; several of them belong to an array. -/
theorem arrayLiteral_spans : Spans origin (arrayLiteral origin inner) := by
  intro cursor node after read
  obtain ⟨make, built, rfl⟩ := located_eq_some.mp read
  simp only [bind_eq_some, pure_eq_some] at built
  obtain ⟨first, middle, firstRead, later, last, laterRead, same⟩ := built
  cases same
  have spans := operand_spans nested firstRead
  have follows := nextElement_endsWith nested
  cases later with
  | nil =>
      obtain rfl := repeated_nil laterRead
      exact spans
  | cons second others =>
      exact .placed rfl (spans.trimmed.flush (repeated_flush follows.solid laterRead)) trivial
        (.cons (List.suffix_refl _) spans (repeated_covers_nodes follows.covers laterRead))

theorem operation_grows {start : List Char} {cursor after : Cursor} {found : String × Node}
    (read : operation origin inner cursor = some (found, after)) {left : Node}
    (before : left.ReadFrom origin start cursor.rest) :
    (binaryOf origin left found).ReadFrom origin start after.rest := by
  simp only [operation, bind_eq_some, pure_eq_some] at read
  obtain ⟨_, _, spaces, operator, _, signed, _, first, blanks, right, last, rightRead, same⟩ := read
  cases same
  have operatorReaches := afterBinaryOperator_suffix (lexeme_scans signed)
  exact .merged before
    (((space_advances spaces).trans operatorReaches).trans (blank_advances blanks))
    (arrayLiteral_spans nested rightRead)

theorem expression_spans : Spans origin (expression origin inner) := by
  intro cursor node after read
  simp only [expression, bind_eq_some, pure_eq_some] at read
  obtain ⟨first, middle, firstRead, operations, last, operationsRead, same⟩ := read
  cases same
  exact repeated_folds (binaryOf origin) cursor.rest (fun found _ => operation_grows nested found)
    operationsRead (arrayLiteral_spans nested firstRead)

theorem calledCommand_trimmed {cursor after : Cursor} {name : Node × String}
    (read : calledCommand origin inner cursor = some (name, after)) :
    Trimmed cursor.rest after.rest ∧
      AllReadFrom origin cursor.rest after.rest [name.1] := by
  simp only [calledCommand, bind_eq_some, pure_eq_some] at read
  obtain ⟨operator, _, signed, _, first, spaces, target, last, targetRead, same⟩ := read
  cases same
  have scanned := lexeme_scans signed
  have signedReaches : cursor.Reaches _ := afterCallOperator_suffix scanned
  have early := signedReaches.trans (space_advances spaces)
  have spans := (bareword_spans.orElse (primary_spans nested)) targetRead
  exact ⟨⟨afterCallOperator_begins scanned, spans.trimmed.ends.of_suffix early⟩,
    .cons early spans (.nil (List.suffix_refl _))⟩

theorem commandArgument_endsWith : EndsWith origin id (commandArgument origin inner) := by
  intro cursor node after read
  simp only [commandArgument, bind_eq_some] at read
  obtain ⟨_, first, gaps, read⟩ := read
  exact ⟨_, gap_advances gaps, ((bare_spans afterParameter_trimmed).orElse
    ((postfixExpression_spans nested).orElse bareword_spans)) read⟩

theorem command_spans : Spans origin (command origin inner) := by
  refine located_spans fun {cursor make after} read => ?_
  simp only [bind_eq_some, pure_eq_some, orElse_eq_some] at read
  obtain ⟨name, middle, nameRead, arguments, last, argumentsRead, same⟩ := read
  cases same
  have named : Trimmed cursor.rest middle.rest ∧
      AllReadFrom origin cursor.rest middle.rest [name.1] := by
    rcases nameRead with called | ⟨_, plain⟩
    · exact calledCommand_trimmed nested called
    · exact plainCommand_trimmed plain
  have follows := commandArgument_endsWith nested
  exact ⟨named.1.flush (repeated_flush follows.solid argumentsRead), fun _ => ⟨rfl, trivial,
    named.2.append (repeated_covers_nodes follows.covers argumentsRead)⟩⟩

theorem element_spans : Spans origin (element origin inner) :=
  (expression_spans nested).orElse (command_spans nested)

theorem nextCommand_endsWith : EndsWith origin id (nextCommand origin inner) := by
  intro cursor node after read
  simp only [nextCommand, bind_eq_some] at read
  obtain ⟨_, _, spaces, _, _, bar, _, first, blanks, read⟩ := read
  exact ⟨_, ((space_advances spaces).trans (char_advances _ bar)).trans (blank_advances blanks),
    element_spans nested read⟩

theorem pipeline_spans : Spans origin (pipeline origin inner) := by
  refine located_spans fun {cursor make after} read => ?_
  simp only [bind_eq_some, pure_eq_some] at read
  obtain ⟨first, middle, firstRead, later, last, laterRead, same⟩ := read
  cases same
  have spans := element_spans nested firstRead
  have follows := nextCommand_endsWith nested
  exact ⟨spans.trimmed.flush (repeated_flush follows.solid laterRead), fun _ => ⟨rfl, trivial,
    .cons (List.suffix_refl _) spans (repeated_covers_nodes follows.covers laterRead)⟩⟩

end

theorem level_spans (depth : Nat) : (level origin depth).Spans origin := by
  induction depth with
  | zero =>
      have nothing : Spans origin failure := fun _ _ _ read => nomatch read
      exact ⟨nothing, nothing, nothing⟩
  | succ depth nested =>
      exact ⟨pipeline_spans nested, expression_spans nested, operand_spans nested⟩

/-- A whole text is a script block, whose statements may have trivia around them. -/
theorem script_covers {cursor after : Cursor} {tree : Node}
    (read : script origin cursor = some (tree, after)) :
    ∃ statements, tree = .scriptBlock (origin.between cursor.rest after.rest) statements ∧
      AllReadFrom origin cursor.rest after.rest statements := by
  obtain ⟨make, built, rfl⟩ := located_eq_some.mp read
  simp only [bind_eq_some, pure_eq_some] at built
  obtain ⟨body, last, read, same⟩ := built
  cases same
  exact ⟨body, rfl, statements_covers (level_spans _) read⟩

end ScriptAudit.Syntax.Grammar
