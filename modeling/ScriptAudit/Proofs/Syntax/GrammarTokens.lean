import ScriptAudit.Proofs.Syntax.Tokens

namespace ScriptAudit.Syntax

/-! The tokens of what each part of the grammar reads.

A level reads the tokens of the nodes that it gives when the level below it does, so all levels
do. -/

open Source Lexeme Reader

/-- A type name stands in brackets. -/
theorem Lexeme.afterTypeLiteral_parts {text rest : List Char}
    (read : afterTypeLiteral text = some rest) : ∃ name, text = '[' :: name ++ ']' :: rest := by
  have parted (kind : Char → Bool) (text : List Char) :
      ∃ front, text = front ++ text.dropWhile kind :=
    ⟨text.takeWhile kind, List.takeWhile_append_dropWhile.symm⟩
  unfold afterTypeLiteral at read
  split at read
  · next c tail =>
      split at read
      · obtain ⟨name, whole⟩ := parted isTypeNameChar tail
        split at read
        · next arguments bracket =>
            obtain ⟨closing, found, closed⟩ := Option.bind_eq_some_iff.mp read
            obtain ⟨inner, wholeInner⟩ := parted (· != ']') arguments
            rw [afterChar_eq_some.mp found, afterChar_eq_some.mp closed] at wholeInner
            rw [bracket, wholeInner] at whole
            exact ⟨c :: name ++ '[' :: inner ++ [']'], by simp [whole]⟩
        · rw [afterChar_eq_some.mp read] at whole
          exact ⟨c :: name, by simp [whole]⟩
      · cases read
  · cases read

namespace Grammar

variable {origin : Origin} {cursor after : Cursor}

/-- A token that was read is the latest one on record. -/
theorem token_readFrom {kind : TokenKind} {scan : List Char → Option (List Char)}
    {found : List Char × Extent} (read : token origin kind scan cursor = some (found, after))
    (trimmed : Trimmed cursor.rest after.rest) :
    after.tokens = ⟨kind, String.ofList found.1, found.2⟩ :: cursor.tokens ∧
      Token.ReadFrom origin cursor.rest after.rest ⟨kind, String.ofList found.1, found.2⟩ := by
  obtain ⟨-, lexed, placed, recorded⟩ := token_reads read
  have written : cursor.rest = found.1 ++ after.rest := by
    rw [lexed]
    exact (List.suffix_iff_eq_append.mp trimmed.ends.suffix).symm
  exact ⟨recorded, trimmed, by rw [String.toList_ofList]; exact written, placed⟩

/-- A leaf made of a lexeme that was read. -/
theorem leaf_records {lexed : Reader (List Char × Extent)} {make : List Char × Extent → Node}
    (recorded : ∀ {cursor found after}, lexed cursor = some (found, after) →
      ∃ token : Token, after.tokens = token :: cursor.tokens ∧
        token.ReadFrom origin cursor.rest after.rest ∧ token.StandsFor (make found))
    (leaf : ∀ found, (make found).hasToken = true ∧ (make found).children = []) :
    RecordsParts origin (fun node => [node]) (do
      let found ← lexed
      return make found) := by
  intro cursor node after read
  simp only [bind_eq_some, pure_eq_some] at read
  obtain ⟨found, _, read, same⟩ := read
  cases same
  obtain ⟨token, latest, readFrom, stands⟩ := recorded read
  obtain ⟨marked, childless⟩ := leaf found
  refine ⟨_, rfl, [token], latest, ?_⟩
  rw [tokenNodes_leaf marked childless]
  exact .cons (List.suffix_refl _) readFrom stands (.nil (List.suffix_refl _))

theorem lexeme_records {kind : TokenKind} {scan : List Char → Option (List Char)}
    {make : List Char × Extent → Node}
    (trims : ∀ {text rest}, scan text = some rest → Trimmed text rest)
    (stands : ∀ found, Token.StandsFor ⟨kind, String.ofList found.1, found.2⟩ (make found))
    (leaf : ∀ found, (make found).hasToken = true ∧ (make found).children = []) :
    RecordsParts origin (fun node => [node]) (do
      let found ← token origin kind scan
      return make found) :=
  leaf_records (fun read => by
    obtain ⟨latest, readFrom⟩ := token_readFrom read (trims (token_scans read).1)
    exact ⟨_, latest, readFrom, stands _⟩) leaf

/-- The token of a string is its opening mark and what its body was read from. -/
theorem quotation_readFrom {first : Char} {opening : List Char}
    {body : List Char → Option (List Char × List Char)} (shape : List Char → List Char → Prop)
    (begins : first ≠ '\n') (ends : ∀ {text found}, body text = some found → Solid text found.2)
    (parts : ∀ {text said rest}, body text = some (said, rest) →
      ∃ written, text = written ++ rest ∧ shape written said)
    {found : List Char × Extent}
    (read : quotation origin (first :: opening) body cursor = some (found, after)) :
    ∃ written, shape written found.1 ∧
      after.tokens =
        ⟨.string, String.ofList (first :: opening ++ written), found.2⟩ :: cursor.tokens ∧
      Token.ReadFrom origin cursor.rest after.rest
        ⟨.string, String.ofList (first :: opening ++ written), found.2⟩ := by
  have trimmed := (quotation_trimmed begins ends read).1
  unfold quotation at read
  split at read
  · next said closed =>
      split at read
      · next opened =>
          obtain ⟨lexed, tokenRead, same⟩ := Option.map_eq_some_iff.mp read
          cases same
          obtain ⟨scanned, -⟩ := token_reads tokenRead
          obtain ⟨written, parted, holds⟩ := parts closed
          have whole : cursor.rest = first :: opening ++ written ++ lexed.2.rest := by
            conv => lhs; rw [← List.take_append_drop (first :: opening).length cursor.rest]
            rw [opened, parted, Option.some.inj scanned, List.append_assoc]
          obtain ⟨latest, readFrom⟩ := token_readFrom tokenRead trimmed
          have lexeme : lexed.1.1 = first :: opening ++ written := by
            have twice := readFrom.written
            rw [String.toList_ofList] at twice
            exact List.append_cancel_right (twice.symm.trans whole)
          rw [lexeme] at latest readFrom
          exact ⟨written, holds, latest, readFrom⟩
      · cases read
  · cases read

theorem singleQuoted_records : RecordsParts origin (fun node => [node]) (singleQuoted origin) :=
  leaf_records (fun read => by
    obtain ⟨written, rfl, latest, readFrom⟩ := quotation_readFrom
      (fun written said => written = said ++ ['\'']) (by decide) singleQuotedBody_solid
      (fun closed => ⟨_, by simpa using singleQuotedBody_parts closed, rfl⟩) read
    exact ⟨_, latest, readFrom, .singleQuoted⟩) fun _ => ⟨rfl, rfl⟩

theorem hereSingle_records : RecordsParts origin (fun node => [node]) (hereSingle origin) :=
  leaf_records (fun read => by
    obtain ⟨written, lines, latest, readFrom⟩ :=
      quotation_readFrom _ (by decide) hereString_solid hereString_parts read
    exact ⟨_, latest, readFrom, .hereSingle lines⟩) fun _ => ⟨rfl, rfl⟩

theorem doubleQuotedNode_marked (extent : Extent) (body : List Char) (collapse : Bool)
    (quote : Quote) : (doubleQuotedNode extent body collapse quote).hasToken = true := by
  dsimp only [doubleQuotedNode]
  split <;> rfl

theorem doubleQuoted_records : RecordsParts origin (fun node => [node]) (doubleQuoted origin) :=
  leaf_records (fun read => by
    obtain ⟨written, rfl, latest, readFrom⟩ := quotation_readFrom
      (fun written said => written = said ++ ['"']) (by decide) doubleQuotedBody_solid
      (fun closed => ⟨_, by simpa using doubleQuotedBody_parts closed, rfl⟩) read
    exact ⟨_, latest, readFrom, .doubleQuoted⟩) fun _ =>
      ⟨doubleQuotedNode_marked .., (doubleQuotedNode_leaf ..).2.2⟩

theorem hereDouble_records : RecordsParts origin (fun node => [node]) (hereDouble origin) :=
  leaf_records (fun read => by
    obtain ⟨written, lines, latest, readFrom⟩ :=
      quotation_readFrom _ (by decide) hereString_solid hereString_parts read
    exact ⟨_, latest, readFrom, .hereDouble lines⟩) fun _ =>
      ⟨doubleQuotedNode_marked .., (doubleQuotedNode_leaf ..).2.2⟩

theorem stringLiteral_records : RecordsParts origin (fun node => [node]) (stringLiteral origin) :=
  singleQuoted_records.orElse doubleQuoted_records

theorem numeral_records : RecordsParts origin (fun node => [node]) (numeral origin) :=
  lexeme_records afterNumeral_trimmed (fun _ => .number) fun _ => ⟨rfl, rfl⟩

theorem variableNode_records : RecordsParts origin (fun node => [node]) (variableNode origin) :=
  lexeme_records afterVariable_trimmed (fun _ => .variableName) fun _ => ⟨rfl, rfl⟩

theorem hashKey_records : RecordsParts origin (fun node => [node]) (hashKey origin) :=
  stringLiteral_records.orElse (numeral_records.orElse
    (lexeme_records afterKeyword_trimmed (fun _ => .bareword) fun _ => ⟨rfl, rfl⟩))

theorem bareword_records : RecordsParts origin (fun node => [node]) (bareword origin) :=
  lexeme_records afterBareword_trimmed (fun _ => .bareword) fun _ => ⟨rfl, rfl⟩

theorem skip_skips {scan : List Char → Option (List Char)} (advances : Advances (skip scan)) :
    Skips (skip scan) where
  advances := advances
  silent read := by
    obtain ⟨_, _, same⟩ := skip_eq_some.mp read
    cases same
    rfl

theorem lexeme_skips {scan : List Char → Option (List Char)}
    (shortens : ∀ {text rest}, scan text = some rest → rest <:+ text) : Skips (lexeme scan) where
  advances _ _ _ read := shortens (lexeme_scans read)
  silent read := by
    obtain ⟨_, _, same⟩ := lexeme_eq_some.mp read
    cases same
    rfl

theorem char_skips (c : Char) : Skips (char c) :=
  skip_skips (char_advances c)

theorem space_skips : Skips space :=
  skip_skips space_advances

theorem blank_skips : Skips blank :=
  skip_skips blank_advances

theorem gap_skips : Skips gap :=
  skip_skips gap_advances

theorem offset_skips : Skips (offset origin) where
  advances _ _ _ read := by
    cases offset_eq_some.mp read
    exact Cursor.reaches_refl _
  silent read := by
    cases offset_eq_some.mp read
    rfl

/-- Blanks, a mark, and blanks again. -/
theorem ending_skips {mark : Reader Unit} (advances : Advances mark)
    (silent : ∀ {cursor value after}, mark cursor = some (value, after) →
      after.tokens = cursor.tokens) :
    Skips (do
      space
      mark
      blank) where
  advances _ _ _ read := by
    simp only [bind_eq_some] at read
    obtain ⟨_, _, spaces, _, _, marked, blanks⟩ := read
    exact ((space_advances spaces).trans (advances marked)).trans (blank_advances blanks)
  silent read := by
    simp only [bind_eq_some] at read
    obtain ⟨_, _, spaces, _, _, marked, blanks⟩ := read
    rw [blank_skips.silent blanks, silent marked, space_skips.silent spaces]

theorem terminator_skips : Skips terminator :=
  ending_skips statementMark_advances fun {cursor _ _} read => by
    unfold statementMark at read
    grind

theorem pairTerminator_skips : Skips pairTerminator :=
  ending_skips pairMark_advances fun {cursor _ _} read => by
    unfold pairMark at read
    grind

theorem memberName_skips : Skips memberName where
  advances _ _ _ read := (memberName_solid read).suffix
  silent read := by
    simp only [memberName, bind_eq_some, pure_eq_some, lexeme_eq_some] at read
    obtain ⟨_, _, ⟨_, _, separator⟩, _, _, ⟨_, _, name⟩, same⟩ := read
    cases separator
    cases name
    cases same
    rfl

theorem tokenNodes_argumentList (argument : Option Node) :
    tokenNodes (argumentList argument) = tokenNodes argument.toList := by
  cases argument with
  | none => rfl
  | some node =>
      cases node with
      | arrayLiteral extent elements =>
          exact Eq.symm (tokenNodes_unmarked rfl)
      | _ => rfl

/-- Something is built around a node that was read before. -/
def Appends (build : Extent → Node → Node) (nodes : List Node) : Prop :=
  ∀ extent target, tokenNodes [build extent target] = tokenNodes [target] ++ nodes

theorem memberAccess_records : Records origin Appends memberAccess :=
  .skip memberName_skips fun _ => .pure fun _ _ => by
    rw [tokenNodes_unmarked (by rfl)]
    simp [Node.children]

end Grammar

/-- The three readers of a level read the tokens of the nodes that they give. -/
structure Level.Records (origin : Origin) (inner : Level) : Prop where
  pipeline : RecordsParts origin (fun node => [node]) inner.pipeline
  expression : RecordsParts origin (fun node => [node]) inner.expression
  operand : RecordsParts origin (fun node => [node]) inner.operand

namespace Grammar

section
variable {origin : Origin} {inner : Level} (nested : inner.Records origin)
include nested

theorem statements_records : RecordsParts origin id (statements inner) :=
  .skip blank_skips fun _ => repeated_records_nodes <|
    .parts nested.pipeline fun _ => .skip terminator_skips fun _ => .pure (by simp)

theorem hashPair_records :
    RecordsParts origin (fun pair => [pair.1, pair.2]) (hashPair origin inner) :=
  .parts hashKey_records fun _ => .skip space_skips fun _ => .skip (char_skips _) fun _ =>
    .skip blank_skips fun _ => .parts nested.pipeline fun _ => .skip pairTerminator_skips fun _ =>
      .pure (by simp)

theorem hashtable_records : RecordsParts origin (fun node => [node]) (hashtable origin inner) :=
  .located <| .skip (char_skips _) fun _ => .skip (char_skips _) fun _ =>
    .skip blank_skips fun _ => .parts (repeated_records_parts (hashPair_records nested)) fun _ =>
      .skip (char_skips _) fun _ => .pure fun _ => by
        rw [tokenNodes_unmarked (by rfl)]
        simp [Node.children]

/-- Statements between two marks. -/
theorem enclosed_records {sign : Char} {make : Extent → List Node → Node}
    (block : ∀ extent body, (make extent body).hasToken = false ∧
      (make extent body).children = body) :
    RecordsParts origin (fun node => [node]) (located origin do
      char sign
      char '('
      let body ← statements inner
      char ')'
      return (make · body)) :=
  .located <| .skip (char_skips _) fun _ => .skip (char_skips _) fun _ =>
    .parts (statements_records nested) fun body => .skip (char_skips _) fun _ =>
      .pure fun extent => by
        obtain ⟨unmarked, children⟩ := block extent body
        rw [tokenNodes_unmarked unmarked, children]
        simp

theorem arrayExpression_records :
    RecordsParts origin (fun node => [node]) (arrayExpression origin inner) :=
  enclosed_records nested fun _ _ => ⟨rfl, rfl⟩

theorem subExpression_records :
    RecordsParts origin (fun node => [node]) (subExpression origin inner) :=
  enclosed_records nested fun _ _ => ⟨rfl, rfl⟩

theorem scriptBlock_records :
    RecordsParts origin (fun node => [node]) (scriptBlock origin inner) :=
  .located <| .skip (char_skips _) fun _ => .parts (statements_records nested) fun _ =>
    .skip (char_skips _) fun _ => .pure fun _ => by
      rw [tokenNodes_unmarked (by rfl)]
      simp [Node.children]

theorem parenthesized_records :
    RecordsParts origin (fun node => [node]) (parenthesized origin inner) :=
  .located <| .skip (char_skips _) fun _ => .skip blank_skips fun _ =>
    .parts nested.pipeline fun _ => .skip blank_skips fun _ => .skip (char_skips _) fun _ =>
      .pure fun _ => by
        rw [tokenNodes_unmarked (by rfl)]
        simp [Node.children]

/-- The token of a type name stands for the name alone or for the conversion that begins with it,
which is known only after the operand has been looked for. -/
theorem typeExpression_records :
    RecordsParts origin (fun node => [node]) (typeExpression origin inner) := by
  intro cursor node after read
  obtain ⟨make, built, rfl⟩ := located_eq_some.mp read
  simp only [typeNode, bind_eq_some, pure_eq_some, ifPresent_eq_some, seqRight_eq_some] at built
  obtain ⟨name, middle, ⟨found, _, lexed, named⟩, operand, last, built, same⟩ := built
  cases same
  cases named
  obtain ⟨scanned, placed⟩ := token_scans lexed
  obtain ⟨latest, readFrom⟩ := token_readFrom lexed (afterTypeLiteral_trimmed scanned)
  obtain ⟨written, bracketed⟩ := afterTypeLiteral_parts scanned
  have lexeme : found.1 = '[' :: written ++ [']'] := by
    have twice := readFrom.written
    rw [String.toList_ofList, bracketed] at twice
    exact (List.append_cancel_right ((List.append_assoc ..).trans twice)).symm
  have typeName : (found.1.drop 1).dropLast = written := by simp [lexeme]
  rw [lexeme] at latest readFrom
  rcases built with ⟨operand, last, ⟨_, first, spaces, operandRead⟩, same⟩ | ⟨_, same⟩
  · cases same
    obtain ⟨_, rfl, tokens, recorded, later⟩ := nested.operand operandRead
    refine ⟨_, tokenNodes_marked (by rfl), ⟨.type, _, _⟩ :: tokens, ?_,
      .cons (List.suffix_refl _) readFrom ?_
        (.append (.nil (space_advances spaces)) later)⟩
    · rw [recorded, space_skips.silent spaces, latest]
      simp
    · rw [typeName]
      exact .conversion (by rw [placed]; rfl)
  · cases same
    refine ⟨_, tokenNodes_leaf rfl rfl, [⟨.type, _, _⟩], latest,
      .cons (List.suffix_refl _) readFrom ?_ (.nil (List.suffix_refl _))⟩
    rw [typeName]
    exact .type

theorem primary_records : RecordsParts origin (fun node => [node]) (primary origin inner) :=
  (hashtable_records nested).orElse <| (arrayExpression_records nested).orElse <|
    (subExpression_records nested).orElse <| (parenthesized_records nested).orElse <|
    (scriptBlock_records nested).orElse <| hereSingle_records.orElse <|
    hereDouble_records.orElse <| stringLiteral_records.orElse <|
    (typeExpression_records nested).orElse <| numeral_records.orElse variableNode_records

theorem memberInvocation_records : Records origin Appends (memberInvocation inner) :=
  .skip memberName_skips fun _ => .skip (char_skips _) fun _ => .skip blank_skips fun _ =>
    .parts (ifPresent_records nested.expression) fun _ => .skip blank_skips fun _ =>
      .skip (char_skips _) fun _ => .pure fun _ _ => by
        rw [tokenNodes_unmarked (by rfl)]
        simp only [Node.children, tokenNodes_append, tokenNodes_argumentList, Option.toList_some,
          List.append_nil]

theorem indexAccess_records : Records origin Appends (indexAccess inner) :=
  .skip (char_skips _) fun _ => .skip blank_skips fun _ =>
    .parts nested.expression fun _ => .skip blank_skips fun _ =>
      .skip (char_skips _) fun _ => .pure fun _ _ => by
        rw [tokenNodes_unmarked (by rfl)]
        simp [Node.children]

theorem suffix_records :
    Records origin (fun found nodes => Appends found.1 nodes) (suffix origin inner) :=
  .bind ((memberInvocation_records nested).orElse
      (memberAccess_records.orElse (indexAccess_records nested))) fun _ _ appends =>
    .skip offset_skips fun _ => .pure fun extent target => by
      rw [appends extent target, List.append_nil]

theorem postfixExpression_records :
    RecordsParts origin (fun node => [node]) (postfixExpression origin inner) :=
  .skip offset_skips fun _ => .parts (primary_records nested) fun target =>
    .bind (repeated_records_folds _ ((suffix_records nested).imp fun appends target =>
        appends _ target)) fun _ _ folds =>
      .pure (by rw [folds target, List.append_nil])

theorem prefixedExpression_records :
    RecordsParts origin (fun node => [node]) (prefixedExpression origin inner) :=
  .located <| .skip (lexeme_skips afterUnaryOperator_suffix) fun _ => .skip space_skips fun _ =>
    .parts nested.operand fun _ => .pure fun _ => by
      rw [tokenNodes_unmarked (by rfl)]
      simp [Node.children]

theorem operand_records : RecordsParts origin (fun node => [node]) (operand origin inner) :=
  (postfixExpression_records nested).orElse (prefixedExpression_records nested)

theorem nextElement_records :
    RecordsParts origin (fun node => [node]) (nextElement origin inner) :=
  .skip space_skips fun _ => .skip (char_skips _) fun _ => .skip blank_skips fun _ =>
    operand_records nested

theorem arrayLiteral_records :
    RecordsParts origin (fun node => [node]) (arrayLiteral origin inner) :=
  .located <| .parts (operand_records nested) fun first =>
    .parts (repeated_records_nodes (nextElement_records nested)) fun later => .pure fun extent => by
      cases later with
      | nil => simp
      | cons second others =>
          rw [tokenNodes_unmarked (by rfl)]
          simp [Node.children]

theorem operation_records :
    RecordsParts origin (fun found => [found.2]) (operation origin inner) :=
  .skip space_skips fun _ => .skip (lexeme_skips afterBinaryOperator_suffix) fun _ =>
    .skip blank_skips fun _ => .parts (arrayLiteral_records nested) fun _ => .pure (by simp)

theorem operations_records :
    Records origin (fun operations nodes => ∀ first,
      tokenNodes [operations.foldl (binaryOf origin) first] = tokenNodes [first] ++ nodes)
      (repeated (operation origin inner)) :=
  repeated_records_folds (binaryOf origin) <| (operation_records nested).imp fun holds _ => by
    rw [binaryOf, tokenNodes_unmarked (by rfl), ← holds]
    simp [Node.children]

theorem expression_records :
    RecordsParts origin (fun node => [node]) (expression origin inner) :=
  .parts (arrayLiteral_records nested) fun first =>
    .bind (operations_records nested) fun _ _ folds =>
      .pure (by rw [folds first, List.append_nil])

theorem commandName_records : RecordsParts origin (fun name => [name.1])
    (calledCommand origin inner <|> plainCommand origin) :=
  Records.orElse
    (.skip (lexeme_skips afterCallOperator_suffix) fun _ => .skip space_skips fun _ =>
      .parts (bareword_records.orElse (primary_records nested)) fun _ => .pure (by simp))
    (.parts bareword_records fun _ => .pure (by simp))

theorem commandArgument_records :
    RecordsParts origin (fun node => [node]) (commandArgument origin inner) :=
  .skip gap_skips fun _ =>
    (lexeme_records afterParameter_trimmed (fun _ => .parameter) fun _ => ⟨rfl, rfl⟩).orElse
      ((postfixExpression_records nested).orElse bareword_records)

theorem command_records : RecordsParts origin (fun node => [node]) (command origin inner) :=
  .located <| .parts (commandName_records nested) fun _ =>
    .parts (repeated_records_nodes (commandArgument_records nested)) fun _ => .pure fun _ => by
      rw [tokenNodes_unmarked (by rfl), List.append_nil]
      exact tokenNodes_cons _ _

theorem element_records : RecordsParts origin (fun node => [node]) (element origin inner) :=
  (expression_records nested).orElse (command_records nested)

theorem nextCommand_records :
    RecordsParts origin (fun node => [node]) (nextCommand origin inner) :=
  .skip space_skips fun _ => .skip (char_skips _) fun _ => .skip blank_skips fun _ =>
    element_records nested

theorem pipeline_records : RecordsParts origin (fun node => [node]) (pipeline origin inner) :=
  .located <| .parts (element_records nested) fun _ =>
    .parts (repeated_records_nodes (nextCommand_records nested)) fun _ => .pure fun _ => by
      rw [tokenNodes_unmarked (by rfl), List.append_nil]
      exact tokenNodes_cons _ _

end

variable {origin : Origin}

theorem level_records (depth : Nat) : (level origin depth).Records origin := by
  induction depth with
  | zero =>
      have nothing : RecordsParts origin (fun node => [node]) failure :=
        fun _ _ _ read => nomatch read
      exact ⟨nothing, nothing, nothing⟩
  | succ depth nested =>
      exact ⟨pipeline_records nested, expression_records nested, operand_records nested⟩

theorem script_records : RecordsParts origin (fun node => [node]) (script origin) :=
  .located <| .parts (statements_records (level_records _)) fun _ => .pure fun _ => by
    rw [tokenNodes_unmarked (by rfl)]
    simp [Node.children]

end Grammar
end ScriptAudit.Syntax
