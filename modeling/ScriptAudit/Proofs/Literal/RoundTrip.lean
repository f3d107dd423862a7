import ScriptAudit.Proofs.Literal.Denotes
import ScriptAudit.Proofs.Literal.Written
import ScriptAudit.Proofs.Syntax.StatementReads

namespace ScriptAudit.Literal

/-! A literal that is written and read again is the same literal.

The readers of a level read every literal that is no longer than the level is deep, for what is
nested in a literal is shorter than the literal and read one level below. -/

open Syntax Syntax.Grammar Syntax.Lexeme Syntax.Reader

variable {origin : Origin} {depth : Nat} {after : List Char}

/-- The level reads this text as the literal wherever it stands in front of a boundary. -/
def ReadAs (origin : Origin) (depth : Nat) (text : List Char) (value : Value) : Prop :=
  ∀ after, Bounded after →
    Reads Fitting Fitting (operand origin (level origin depth)) (text ++ after) after
      (Denotes value)

def LaterReadAs (origin : Origin) (depth : Nat) (text : List Char) (values : List Value) : Prop :=
  ∀ after, StatementEnd after →
    Reads Fitting Fitting (repeated (nextElement origin (level origin depth))) (text ++ after) after
      (DenotesAll values)

def EntriesReadAs (origin : Origin) (depth : Nat) (text : List Char)
    (entries : List (String × Value)) : Prop :=
  ∀ after, Reads Fitting Fitting (repeated (hashPair origin (level origin depth)))
    (text ++ '\x7d' :: after) ('\x7d' :: after) (DenotesEntries entries)

theorem level_pipeline_fails (closed : Closed after) :
    Fails (level origin depth).pipeline after := by
  cases depth with
  | zero => exact fun _ => rfl
  | succ depth => exact pipeline_fails closed

variable {item value : Value} {items : List Value} {text others : List Char}

theorem readAs_text (said : String) : ReadAs origin depth (quotedText said) (.text said) := by
  intro after bounded
  rw [quotedText, List.cons_append, List.append_assoc]
  refine operand_reads ((primary_string said.toList bounded).imp ?_) bounded
  rintro node ⟨extent, rfl⟩
  rw [String.ofList_toList]
  exact denotes_text extent said .single

theorem readAs_integer {digits : List Char} (negative : Bool) (written : IsDigits digits)
    (short : digits.length ≤ Text.greatestIntegerDigits) :
    ReadAs origin depth (sign negative ++ digits)
      (.number (.integer (signedValue negative digits))) := by
  intro after bounded
  have keeps : ∀ extent tokens, Fitting tokens →
      Fitting (⟨.number, String.ofList (sign negative ++ digits), extent⟩ :: tokens) :=
    fun extent _ => .cons ((token_fits_digits written negative extent).mpr short)
  refine operand_reads ((primary_number written negative bounded keeps).imp ?_) bounded
  rintro node ⟨extent, rfl⟩
  exact denotes_number extent _

theorem readAs_bool (value : Bool) : ReadAs origin depth (constantText value) (.bool value) := by
  intro after bounded
  refine operand_reads ((primary_constant value bounded).imp ?_) bounded
  rintro node ⟨extent, rfl⟩
  exact denotes_bool extent value

theorem readAs_emptyArray (inside : List Filler) :
    ReadAs origin depth ('@' :: '(' :: (trivia inside ++ [')'])) (.array []) := by
  intro after bounded
  have closed : Closed (')' :: after) := goesOn_cons after (by decide)
  have blank : skipTrivia true (trivia inside ++ [')'] ++ after) = ')' :: after := by
    rw [List.append_assoc, skipTrivia_trivia]
    exact closed.skipTrivia true
  refine operand_reads ((primary_array
    (statements_reads_none blank (level_pipeline_fails closed))).imp ?_) bounded
  rintro node ⟨extent, nodes, rfl, rfl⟩
  exact denotes_emptyArray extent

theorem pipeline_readAs (first : ReadAs origin depth text item)
    (written : WrittenLater items others) (later : LaterReadAs origin depth others items)
    (ended : StatementEnd after) :
    Reads Fitting Fitting (pipeline origin (level origin depth)) (text ++ (others ++ after)) after
      (Denotes (joined item items)) := by
  have literal : Reads Fitting Fitting (arrayLiteral origin (level origin depth))
      (text ++ (others ++ after)) after (Denotes (joined item items)) :=
    arrayLiteral_reads (first _ (written.bounded ended.bounded)) (later after ended)
      fun node nodes extent one more => denotes_joined one more extent
  refine (pipeline_reads literal ended).imp ?_
  rintro node ⟨extent, element, rfl, denotes⟩
  exact denotes.pipeline extent

theorem pipeline_readAs_alone (reads : ReadAs origin depth text value)
    (ended : StatementEnd after) :
    Reads Fitting Fitting (pipeline origin (level origin depth)) (text ++ after) after
      (Denotes value) := by
  refine (pipeline_reads_alone (reads after ended.bounded) ended).imp ?_
  rintro node ⟨extent, element, rfl, denotes⟩
  exact denotes.pipeline extent

theorem readAs_array (opening closing : List Filler) (writtenFirst : Written item text)
    (first : ReadAs origin depth text item) (writtenLater : WrittenLater items others)
    (later : LaterReadAs origin depth others items)
    (spreads : items = [] → ∀ inner, item ≠ .array inner) :
    ReadAs origin (depth + 1)
      ('@' :: '(' :: (trivia opening ++ (text ++ (others ++ (trivia closing ++ [')'])))))
      (.array (item :: items)) := by
  intro after bounded
  have closed : Closed (')' :: after) := goesOn_cons after (by decide)
  have ended : StatementEnd (trivia closing ++ ')' :: after) := statementEnd_trivia (.inr closed)
  have reads : Reads Fitting Fitting (level origin (depth + 1)).pipeline
      (text ++ (others ++ (trivia closing ++ ')' :: after))) (trivia closing ++ ')' :: after)
      (Denotes (joined item items)) := pipeline_readAs first writtenLater later ended
  have shorter : (')' :: after).length <
      (text ++ (others ++ (trivia closing ++ ')' :: after))).length := by
    have := writtenFirst.length_pos
    simp only [List.length_append]
    omega
  have body := statements_reads_one ((skipTrivia_trivia opening _).trans (writtenFirst.solid _))
    reads closed (level_pipeline_fails closed) shorter
  simp only [List.cons_append, List.append_assoc]
  refine operand_reads ((primary_array body).imp ?_) bounded
  rintro node ⟨extent, nodes, rfl, statement, rfl, denotes⟩
  exact denotes.array spreads extent

theorem laterReadAs_nil : LaterReadAs origin depth [] [] := fun _ ended =>
  repeated_reads_none (nextElement_fails ended) .nil

theorem laterReadAs_cons (opening : List Filler) (writtenFirst : Written item text)
    (first : ReadAs origin depth text item) (writtenLater : WrittenLater items others)
    (later : LaterReadAs origin depth others items) :
    LaterReadAs origin depth (',' :: (trivia opening ++ (text ++ others))) (item :: items) := by
  intro after ended
  have next : Reads Fitting Fitting (nextElement origin (level origin depth))
      (',' :: (trivia opening ++ (text ++ (others ++ after)))) (others ++ after) (Denotes item) :=
    (space_reads (skipTrivia_stop rfl)).bind fun _ _ => (char_reads ',' _).bind fun _ _ =>
      (blank_reads ((skipTrivia_trivia opening _).trans (writtenFirst.solid _))).bind fun _ _ =>
        first _ (writtenLater.bounded ended.bounded)
  have shorter : (others ++ after).length <
      (',' :: (trivia opening ++ (text ++ (others ++ after)))).length := by
    simp only [List.length_cons, List.length_append]
    omega
  simp only [List.cons_append, List.append_assoc]
  exact repeated_reads_more next shorter (later after ended) fun _ _ => .cons

theorem entriesReadAs_nil : EntriesReadAs origin depth [] [] := fun _ =>
  repeated_reads_none hashPair_fails .nil

theorem entriesReadAs_cons {entries : List (String × Value)} (key : String)
    (gap opening closing : List Filler) (joins : gap.any Filler.separates = false)
    (writtenFirst : Written value text) (first : ReadAs origin depth text value)
    (writtenLater : WrittenEntries entries others)
    (later : EntriesReadAs origin (depth + 1) others entries)
    (separated : entries ≠ [] → closing.any Filler.separates = true) :
    EntriesReadAs origin (depth + 1)
      (quotedText key ++ (trivia gap ++ '=' :: (trivia opening ++ (text ++
        (trivia closing ++ others))))) ((key, value) :: entries) := by
  intro after
  have ends : closing.any Filler.separates = true ∨
      ∃ rest, others ++ '\x7d' :: after = '\x7d' :: rest := by
    cases writtenLater with
    | nil => exact .inr ⟨after, rfl⟩
    | cons => exact .inl (separated (List.cons_ne_nil _ _))
  -- What ends the pair ends its value, too: a table has no closing bracket but the brace.
  have ended : StatementEnd (trivia closing ++ (others ++ '\x7d' :: after)) := by
    refine statementEnd_trivia (ends.imp_right ?_)
    rintro ⟨rest, same⟩
    rw [same]
    exact goesOn_cons rest (by decide)
  have reads : Reads Fitting Fitting (level origin (depth + 1)).pipeline
      (text ++ (trivia closing ++ (others ++ '\x7d' :: after)))
      (trivia closing ++ (others ++ '\x7d' :: after)) (Denotes value) :=
    pipeline_readAs_alone first ended
  have pair : Reads Fitting Fitting (hashPair origin (level origin (depth + 1)))
      ('\'' :: (doubled key.toList ++ '\'' :: (trivia gap ++ '=' :: (trivia opening ++
        (text ++ (trivia closing ++ (others ++ '\x7d' :: after)))))))
      (others ++ '\x7d' :: after) _ :=
    hashPair_reads key.toList joins (writtenFirst.solid _) reads
      (pairTerminator_reads (writtenLater.solid after) ends)
  have shorter : (others ++ '\x7d' :: after).length <
      ('\'' :: (doubled key.toList ++ '\'' :: (trivia gap ++ '=' :: (trivia opening ++
        (text ++ (trivia closing ++ (others ++ '\x7d' :: after))))))).length := by
    simp only [List.length_cons, List.length_append]
    omega
  simp only [quotedText, List.cons_append, List.append_assoc, List.nil_append]
  refine repeated_reads_more pair shorter (later after) ?_
  rintro ⟨name, node⟩ pairs ⟨⟨extent, rfl⟩, denotes⟩ more
  rw [String.ofList_toList]
  exact .cons denotes more

theorem readAs_table {entries : List (String × Value)} (opening : List Filler)
    (written : WrittenEntries entries text) (reads : EntriesReadAs origin depth text entries)
    (distinct : Table.Distinct entries) :
    ReadAs origin depth ('@' :: '\x7b' :: (trivia opening ++ (text ++ ['\x7d'])))
      (.table entries) := by
  intro after bounded
  have table := primary_hashtable ((skipTrivia_trivia opening _).trans (written.solid after))
    (reads after)
  simp only [List.cons_append, List.append_assoc, List.nil_append]
  refine operand_reads (table.imp ?_) bounded
  rintro node ⟨extent, pairs, rfl, denotes⟩
  exact denotes.table distinct extent

mutual

-- By induction on how the literal was written.  Only arrays and tables with something in them go
-- down a level, and their brackets pay for it.
theorem readAs_written {value : Value} {text : List Char} {depth : Nat}
    (written : Written value text) (deep : text.length ≤ depth) :
    ReadAs origin depth text value := by
  cases written with
  | text said => exact readAs_text said
  | integer negative written short => exact readAs_integer negative written short
  | bool value => exact readAs_bool value
  | emptyArray inside => exact readAs_emptyArray inside
  | array opening closing first later spreads =>
      obtain _ | depth := depth
      · simp at deep
      · simp only [List.length_cons, List.length_append] at deep
        exact readAs_array opening closing first (readAs_written first (by omega)) later
          (laterReadAs_written later (by omega)) spreads
  | table opening distinct written =>
      simp only [List.length_cons, List.length_append] at deep
      exact readAs_table opening written (entriesReadAs_written written (by omega)) distinct

theorem laterReadAs_written {items : List Value} {text : List Char} {depth : Nat}
    (written : WrittenLater items text) (deep : text.length ≤ depth) :
    LaterReadAs origin depth text items := by
  cases written with
  | nil => exact laterReadAs_nil
  | cons opening first later =>
      simp only [List.length_cons, List.length_append] at deep
      exact laterReadAs_cons opening first (readAs_written first (by omega)) later
        (laterReadAs_written later (by omega))

theorem entriesReadAs_written {entries : List (String × Value)} {text : List Char} {depth : Nat}
    (written : WrittenEntries entries text) (deep : text.length ≤ depth) :
    EntriesReadAs origin depth text entries := by
  cases written with
  | nil => exact entriesReadAs_nil
  | cons key gap opening closing joins first later separated =>
      obtain _ | depth := depth
      · simp [quotedText] at deep
      · simp only [quotedText, List.length_cons, List.length_append] at deep
        exact entriesReadAs_cons key gap opening closing joins first
          (readAs_written first (by omega)) later (entriesReadAs_written later (by omega)) separated

end

/-- A literal alone in a text is the only statement of it. -/
theorem parseText_rendered {value : Value} {text : List Char} (rendered : Rendered value text)
    (file : String) :
    ∃ result extent statement, parseText (String.ofList text) file = .ok result ∧
      result.issues = [] ∧ result.tree = .scriptBlock extent [statement] ∧
      Denotes value statement := by
  obtain ⟨opening, body, closing, same, written⟩ := rendered
  have blank : skipTrivia true text = body ++ trivia closing := by
    rw [same, skipTrivia_trivia]
    exact written.solid _
  have begun : 0 < (body ++ trivia closing).length := by
    have := written.length_pos
    rw [List.length_append]
    omega
  have shorter : body.length ≤ text.length := by
    rw [same]
    simp only [List.length_append]
    omega
  have ended : StatementEnd (trivia closing ++ []) := statementEnd_trivia (.inr goesOn_nil)
  rw [List.append_nil] at ended
  have reads : ReadAs (originOf (.ofText text) file) text.length body value :=
    readAs_written written shorter
  have script := script_reads_amid blank begun (pipeline_readAs_alone reads ended)
  obtain ⟨⟨tree, tokens, _⟩, parsed, clean, extent, statement, same, denotes⟩ :=
    parseText_reads script fitting_nil (by
      rintro _ ⟨extent, node, rfl, denotes⟩
      exact ⟨denotes.repeatedInAll, .intro rfl (by simpa [Node.children] using denotes.shown)⟩)
  exact ⟨_, extent, statement, parsed, clean, same, denotes⟩

/-- A literal that is written and read again is the same literal, with the keys of its tables
spelled and ordered as they were. -/
theorem evaluate_written {value : Value} {text : List Char} (written : Written value text)
    (file : String) :
    ∃ result, parseText (String.ofList text) file = .ok result ∧ result.issues = [] ∧
      ∀ wrap, evaluate wrap result.tree = .ok value := by
  have rendered : Rendered value text := ⟨[], text, [], by simp [trivia], written⟩
  obtain ⟨result, extent, statement, parsed, clean, same, denotes⟩ :=
    parseText_rendered rendered file
  refine ⟨result, parsed, clean, fun wrap => ?_⟩
  rw [same]
  exact denotes.evaluates wrap

theorem evaluate_written_table :
    Written (.table [("It's", .array [.number (.integer (-1)), .bool true]), ("b", .array [])])
      "@\x7b 'It''s' =\n@(-1, $true ; ) # kept\n'b'=@()<#;#>\x7d".toList ∧
    ∃ result,
      parseText "@\x7b 'It''s' =\n@(-1, $true ; ) # kept\n'b'=@()<#;#>\x7d" "" = .ok result ∧
      result.issues = [] ∧ ∀ wrap, evaluate wrap result.tree = .ok (.table
        [("It's", .array [.number (.integer (-1)), .bool true]), ("b", .array [])]) := by
  have digits : IsDigits ['1'] := ⟨List.cons_ne_nil _ _, by simp⟩
  have integer : Written (.number (.integer (-1))) (sign true ++ ['1']) :=
    .integer true digits (by decide)
  have later : WrittenLater [.bool true] (',' :: (trivia [.space] ++ (constantText true ++ []))) :=
    .cons [.space] (.bool true) .nil
  have array : Written (.array [.number (.integer (-1)), .bool true]) _ :=
    .array [] [.space, .semicolon, .space] integer later fun none => by cases none
  have last : WrittenEntries [("b", .array [])] _ :=
    .cons "b" [] [] [.block [';'] (by decide)] rfl (.emptyArray []) .nil fun some => absurd rfl some
  have plain : ∀ c ∈ [' ', 'k', 'e', 'p', 't'], isLineBreak c = false := by simp [isLineBreak]
  have entries : WrittenEntries [("It's", _), ("b", .array [])] _ :=
    .cons "It's" [.space] [.feed] [.space, .line _ plain false] rfl array last fun _ => rfl
  have distinct : (Table.folded [("It's", Value.array [.number (.integer (-1)), .bool true]),
      ("b", .array [])]).Nodup := by decide
  have written : Written (.table [("It's", .array [.number (.integer (-1)), .bool true]),
      ("b", .array [])]) "@\x7b 'It''s' =\n@(-1, $true ; ) # kept\n'b'=@()<#;#>\x7d".toList :=
    .table [.space] distinct entries
  exact ⟨written, evaluate_written written ""⟩

/-- A number is read however many digits it has. -/
theorem pipeline_reads_integer (origin : Origin) (depth : Nat) {digits : List Char}
    (written : IsDigits digits) (negative : Bool) (ended : StatementEnd after) :
    Reads Fitting (EndsInInteger (String.ofList (sign negative ++ digits)))
      (pipeline origin (level origin depth)) (sign negative ++ digits ++ after) after fun _ =>
        True := by
  have number : Reads Fitting (EndsInInteger (String.ofList (sign negative ++ digits)))
      (primary origin (level origin depth)) (sign negative ++ digits ++ after) after _ :=
    primary_number written negative ended.bounded fun extent earlier fitting =>
      ⟨extent, earlier, rfl, fitting⟩
  exact (pipeline_reads_alone (operand_reads number ended.bounded) ended).imp fun _ _ => trivial

/-- An integer that is written as a literal is none when it has too many digits. -/
theorem parseText_overlong_integer {digits : List Char} (written : IsDigits digits)
    (long : Text.greatestIntegerDigits < digits.length) (negative : Bool) (file : String) :
    parseText (String.ofList (sign negative ++ digits)) file =
      .error ⟨.integerTooLong (String.ofList (sign negative ++ digits)) digits.length
        Text.greatestIntegerDigits, some (.ofFile file)⟩ := by
  obtain ⟨c, rest, same, mark⟩ := numeral_marked written negative
  have solid : skipTrivia true (sign negative ++ digits) = sign negative ++ digits := by
    rw [same, skipTrivia_mark mark]
  have begun : 0 < (sign negative ++ digits).length := by
    rw [same]
    exact Nat.zero_lt_succ _
  have statement := pipeline_reads_integer (originOf (.ofText (sign negative ++ digits)) file)
    (sign negative ++ digits).length written negative statementEnd_nil
  rw [List.append_nil] at statement
  refine parseText_overlong (script_reads solid begun statement) ?_ long
  rw [String.toList_ofList, integerDigits?_digits written]

/-- A table with nothing but a number in it. -/
def numeralTable (key : String) (digits : List Char) : List Char :=
  '@' :: '\x7b' :: (quotedText key ++ ('=' :: (digits ++ ['\x7d'])))

theorem pipeline_reads_numeralTable (origin : Origin) (depth : Nat) {digits : List Char}
    (written : IsDigits digits) (key : String) :
    Reads Fitting (EndsInInteger (String.ofList digits))
      (pipeline origin (level origin (depth + 1))) (numeralTable key digits) [] fun _ => True := by
  have solid : skipTrivia true (digits ++ ['\x7d']) = digits ++ ['\x7d'] := by
    obtain ⟨c, rest, same, mark⟩ := numeral_marked written false
    change digits = c :: rest at same
    rw [same]
    exact skipTrivia_mark mark true _
  have closed : Closed ['\x7d'] := goesOn_cons [] (by decide)
  have ended : StatementEnd (trivia [] ++ ['\x7d']) := statementEnd_trivia (.inr closed)
  have number : Reads Fitting (EndsInInteger (String.ofList digits))
      (level origin (depth + 1)).pipeline (digits ++ ['\x7d']) (trivia [] ++ ['\x7d']) fun _ =>
        True := pipeline_reads_integer origin depth written false ended
  have none : ([] : List Filler).any Filler.separates = false := rfl
  have pair : Reads Fitting _ (hashPair origin (level origin (depth + 1)))
      ('\'' :: (doubled key.toList ++ '\'' :: (trivia [] ++ '=' :: (trivia [] ++
        (digits ++ ['\x7d']))))) ['\x7d'] _ :=
    hashPair_reads key.toList none solid number
      (pairTerminator_reads (closed.skipTrivia true) (.inr ⟨[], rfl⟩))
  have shorter : 0 + 1 < ('\'' :: (doubled key.toList ++ '\'' :: (trivia [] ++
      '=' :: (trivia [] ++ (digits ++ ['\x7d']))))).length := by
    simp only [List.length_cons, List.length_append]
    omega
  have table := operand_reads
    (primary_hashtable_one (skipTrivia_mark (by decide) true _) pair shorter) goesOn_nil
  have alone := pipeline_reads_alone table statementEnd_nil
  simp only [numeralTable, quotedText, List.cons_append, List.append_assoc, List.nil_append]
  exact alone.imp fun _ _ => trivial

theorem script_reads_numeralTable {digits : List Char} (written : IsDigits digits)
    (key file : String) :
    Reads Fitting (EndsInInteger (String.ofList digits))
      (script (originOf (.ofText (numeralTable key digits)) file)) (numeralTable key digits) []
      fun tree => ∃ extent statement, tree = .scriptBlock extent [statement] ∧ True := by
  have solid : skipTrivia true (numeralTable key digits) = numeralTable key digits :=
    skipTrivia_mark (by decide) true _
  have table := pipeline_reads_numeralTable (originOf (.ofText (numeralTable key digits)) file)
    (quotedText key ++ ('=' :: (digits ++ ['\x7d']))).length.succ written key
  exact script_reads solid (Nat.zero_lt_succ _) table

/-- An integer with too many digits is none inside a table either. -/
theorem parseText_overlong_entry {digits : List Char} (written : IsDigits digits)
    (long : Text.greatestIntegerDigits < digits.length) (key file : String) :
    parseText (String.ofList (numeralTable key digits)) file =
      .error ⟨.integerTooLong (String.ofList digits) digits.length Text.greatestIntegerDigits,
        some (.ofFile file)⟩ := by
  refine parseText_overlong (script_reads_numeralTable written key file) ?_ long
  have counted := integerDigits?_digits written false
  rw [String.toList_ofList]
  exact counted

/-- A one and as many zeros as an integer may have digits. -/
theorem overlong_digits : IsDigits ('1' :: List.replicate 4300 '0') ∧
    Text.greatestIntegerDigits < ('1' :: List.replicate 4300 '0').length := by
  refine ⟨⟨List.cons_ne_nil _ _, List.forall_mem_cons.mpr ⟨rfl, fun c member => ?_⟩⟩, ?_⟩
  · rw [List.eq_of_mem_replicate member]
    rfl
  · rw [List.length_cons, List.length_replicate]
    decide

theorem integer_not_read :
    IsDigits ('1' :: List.replicate 4300 '0') ∧
      ¬ ∃ result, parseText (String.ofList ('1' :: List.replicate 4300 '0')) "" = .ok result := by
  obtain ⟨written, long⟩ := overlong_digits
  refine ⟨written, ?_⟩
  rintro ⟨result, parsed⟩
  cases parsed.symm.trans (parseText_overlong_integer written long false "")

end ScriptAudit.Literal
