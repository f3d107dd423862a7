import ScriptAudit.Proofs.Syntax.Edges
import ScriptAudit.Proofs.Syntax.StatementReads

namespace ScriptAudit.Syntax

/-! Keys without quotes.

A key is read as a number if it can be.  What is left of it behind a number is not read any more, so
a word that begins with a number is no key. -/

open Lexeme Reader

namespace Lexeme

theorem afterSome_eq_nil {kind : Char → Bool} {text : List Char}
    (read : afterSome kind text = some []) : text ≠ [] ∧ ∀ c ∈ text, kind c = true := by
  cases text with
  | nil => cases read
  | cons c rest =>
      rw [afterSome] at read
      split at read
      · next first =>
          exact ⟨List.cons_ne_nil _ _, List.forall_mem_cons.mpr
            ⟨first, List.dropWhile_eq_nil_iff.mp (Option.some.inj read)⟩⟩
      · cases read

/-- A character that a key without quotes may have. -/
def isKeyChar (c : Char) : Bool :=
  !(endsBareword c || isSigil c)

theorem isKeyChar_ne {c mark : Char} (inside : isKeyChar c = true)
    (outside : isKeyChar mark = false) : c ≠ mark := by
  rintro rfl
  cases inside.symm.trans outside

theorem skipTrivia_key {c : Char} (inside : isKeyChar c = true) (breaks : Bool)
    (rest : List Char) : skipTrivia breaks (c :: rest) = c :: rest := by
  have all : ∀ c ∈ ['\x60', '<', '#', ' ', '\t', '\x0c', '\r', '\n', ';'], isKeyChar c = false :=
    forall_mem_of_all (by decide)
  exact skipTrivia_plain (fun mark => isKeyChar_ne inside (all c mark) rfl) breaks rest

theorem key_begins {key : List Char} (word : afterKeyword key = some []) :
    ∃ c rest, key = c :: rest ∧ isKeyChar c = true := by
  obtain ⟨begun, all⟩ := afterSome_eq_nil word
  cases key with
  | nil => exact absurd rfl begun
  | cons c rest => exact ⟨c, rest, rfl, all c List.mem_cons_self⟩

theorem afterKeyword_append {key after : List Char} (word : afterKeyword key = some [])
    (bounded : Bounded after) : afterKeyword (key ++ after) = some after := by
  obtain ⟨begun, all⟩ := afterSome_eq_nil word
  exact afterSome_append begun all (bounded.dropWhile (forall_mem_of_all (by decide)))

end Lexeme

namespace Grammar

variable {origin : Origin} {inner : Level} {key rest after : List Char}

theorem char_fails_key {c mark : Char} (inside : isKeyChar c = true)
    (outside : isKeyChar mark = false) : Fails (char mark) (c :: rest) :=
  char_fails fun same => isKeyChar_ne inside outside (Option.some.inj same)

theorem stringLiteral_fails_key (word : afterKeyword key = some []) :
    Fails (stringLiteral origin) (key ++ after) := by
  obtain ⟨c, rest, rfl, inside⟩ := key_begins word
  exact stringLiteral_fails (fun same => isKeyChar_ne inside rfl (Option.some.inj same))
    fun same => isKeyChar_ne inside rfl (Option.some.inj same)

/-- A word is read as a key when no beginning of it is a number. -/
theorem hashKey_reads_bare (word : afterKeyword key = some []) (noNumber : afterNumeral key = none)
    (bounded : Bounded after) :
    Reads Fitting Fitting (hashKey origin) (key ++ after) after fun node =>
      ∃ extent, node = .stringConstant extent (String.ofList key) .bare := by
  have keeps : ∀ extent tokens, Fitting tokens →
      Fitting (⟨.bareword, String.ofList key, extent⟩ :: tokens) :=
    fun _ _ => .cons fun number => by cases number
  have bareword : Reads Fitting Fitting (bare origin .bareword afterKeyword) (key ++ after) after
      fun node => ∃ extent, node = .stringConstant extent (String.ofList key) .bare :=
    (token_reads_lexeme (afterKeyword_append word bounded) keeps).bind fun found same =>
      reads_pure ⟨found.2, by rw [same]⟩
  have numeral : Fails (numeral origin) (key ++ after) := by
    refine (token_fails ?_).bind
    rw [afterNumeral_append key bounded, noNumber]
    rfl
  exact (stringLiteral_fails_key word).orElse (numeral.orElse bareword)

/-- A number that begins a word is taken for the key, and the rest of the word is no equals sign. -/
theorem hashPair_fails_numeral (word : afterKeyword key = some [])
    (number : afterNumeral key = some rest) (left : rest ≠ []) (bounded : Bounded after) :
    Fails (hashPair origin inner) (key ++ after) := by
  have quoted : Fails (stringLiteral origin) (key ++ after) := stringLiteral_fails_key word
  obtain ⟨lexeme, rfl⟩ := (afterNumeral_trimmed number).ends.suffix
  have scanned : afterNumeral (lexeme ++ (rest ++ after)) = some (rest ++ after) := by
    rw [← List.append_assoc, afterNumeral_append _ bounded, number]
    rfl
  rw [List.append_assoc] at quoted ⊢
  have taken : Reads (fun _ => True) (fun _ => True) (hashKey origin) (lexeme ++ (rest ++ after))
      (rest ++ after) fun _ => True :=
    quoted.orElse ((token_reads_lexeme scanned fun _ _ _ => trivial).bind fun _ _ =>
      reads_pure trivial).orElse
  cases rest with
  | nil => exact absurd rfl left
  | cons c more =>
      have inside : isKeyChar c = true :=
        (afterSome_eq_nil word).2 c (List.mem_append_right _ List.mem_cons_self)
      exact taken.bind_fails fun _ => (space_reads (skipTrivia_key inside _ _)).bind_fails fun _ =>
        (char_fails_key inside rfl).bind

end Grammar

/-- The word as the key of a table with one entry. -/
def keyedTable (key : List Char) : List Char :=
  '@' :: '\x7b' :: ' ' :: (key ++ [' ', '=', ' ', '\'', 'v', '\'', ' ', '\x7d'])

/-- The table has this key, without quotes, and the text `v` as its value. -/
def IsKeyedTable (key : List Char) (node : Node) : Prop :=
  ∃ place named around quoted, node = .hashtable place
    [(.stringConstant named (String.ofList key) .bare,
      .pipeline around [.stringConstant quoted "v" .single])]

theorem IsKeyedTable.unrepeated {key : List Char} {node : Node} (keyed : IsKeyedTable key node) :
    node.allRepeatedKeys = [] := by
  obtain ⟨place, named, around, quoted, rfl⟩ := keyed
  simp [Node.allRepeatedKeys, repeatedInPairs, repeatedInAll, repeatedKeys]

theorem IsKeyedTable.shown {key : List Char} {node : Node} (keyed : IsKeyedTable key node) :
    node.ShowsKeys := by
  obtain ⟨place, named, around, quoted, rfl⟩ := keyed
  have text : ∀ extent said quote, (Node.stringConstant extent said quote).ShowsKeys :=
    fun _ _ _ => .intro rfl (by simp [Node.children])
  have value : (Node.pipeline around [.stringConstant quoted "v" .single]).ShowsKeys :=
    .intro rfl (by simp [Node.children, text])
  exact .intro rfl (by simp [Node.children, text, value])

namespace Grammar

variable {key : List Char}

theorem skipTrivia_keyedTable (word : afterKeyword key = some []) (after : List Char) :
    skipTrivia true (' ' :: (key ++ after)) = key ++ after := by
  obtain ⟨c, rest, rfl, inside⟩ := key_begins word
  exact (skipTrivia_step rfl).trans (skipTrivia_key inside true _)

theorem pipeline_reads_keyedTable (word : afterKeyword key = some [])
    (noNumber : afterNumeral key = none) (origin : Origin) (depth : Nat) :
    Reads Fitting Fitting (pipeline origin (level origin (depth + 1))) (keyedTable key) []
      fun node => ∃ around table, node = .pipeline around [table] ∧ IsKeyedTable key table := by
  have closed : Closed ['\x7d'] := goesOn_cons [] (by decide)
  have ended : StatementEnd (trivia [.space] ++ ['\x7d']) := statementEnd_trivia (.inr closed)
  have value : Reads Fitting Fitting (level origin (depth + 1)).pipeline
      ('\'' :: (doubled ['v'] ++ '\'' :: (trivia [.space] ++ ['\x7d'])))
      (trivia [.space] ++ ['\x7d']) _ :=
    pipeline_reads_alone (operand_reads (primary_string ['v'] ended.bounded) ended.bounded) ended
  have named : Reads Fitting Fitting (hashKey origin)
      (key ++ (trivia [.space] ++ '=' :: (trivia [.space] ++
        '\'' :: (doubled ['v'] ++ '\'' :: (trivia [.space] ++ ['\x7d'])))))
      (trivia [.space] ++ '=' :: (trivia [.space] ++
        '\'' :: (doubled ['v'] ++ '\'' :: (trivia [.space] ++ ['\x7d'])))) _ :=
    hashKey_reads_bare word noNumber (goesOn_cons _ (by decide))
  have pair := hashPair_reads_key rfl (skipTrivia_stop rfl) named value
    (pairTerminator_reads (closed.skipTrivia true) (.inr ⟨[], rfl⟩))
  have table := operand_reads (primary_hashtable_one (skipTrivia_keyedTable word _) pair (by
    simp only [List.length_append, List.length_cons]
    omega)) goesOn_nil
  refine (pipeline_reads_alone table statementEnd_nil).imp ?_
  rintro _ ⟨around, _, rfl, place, ⟨_, _⟩, rfl, ⟨named, rfl⟩, within, _, rfl, quoted, rfl⟩
  exact ⟨around, _, rfl, place, named, within, quoted, rfl⟩

theorem script_reads_nothing {rest : List Char} (word : afterKeyword key = some [])
    (number : afterNumeral key = some rest) (left : rest ≠ []) (origin : Origin) :
    Reads Fitting Fitting (script origin) (keyedTable key) (keyedTable key) fun _ => True := by
  have bounded : Bounded [' ', '=', ' ', '\'', 'v', '\'', ' ', '\x7d'] :=
    goesOn_cons _ (by decide)
  have pairs : Reads (fun _ => True) (fun _ => True)
      (repeated (hashPair origin (level origin origin.length))) _ _ (· = []) :=
    repeated_reads_none (hashPair_fails_numeral word number left bounded) rfl
  have unclosed : ∀ after, Fails (char '\x7d') (key ++ after) := by
    obtain ⟨c, more, rfl, inside⟩ := key_begins word
    exact fun after => char_fails_key inside rfl
  have table : Fails (hashtable origin (level origin origin.length)) (keyedTable key) :=
    located_fails ((char_reads '@' _).bind_fails fun _ => (char_reads '\x7b' _).bind_fails fun _ =>
      (blank_reads (skipTrivia_keyedTable word _)).bind_fails fun _ =>
      pairs.bind_fails fun _ => (unclosed _).bind)
  have statement : Fails (level origin (origin.length + 1)).pipeline (keyedTable key) :=
    pipeline_fails_primary (primary_fails_hashtable table) rfl rfl rfl
  exact located_reads ((statements_reads_none (skipTrivia_stop rfl) statement).bind fun _ _ =>
    reads_pure fun _ => trivial)

end Grammar

/-- A word is usable as the key of a table exactly when no beginning of it is a number.  Otherwise
the table is a syntax error. -/
theorem parseText_bareKey {key : List Char} (word : afterKeyword key = some [])
    (noNumber : afterNumeral key ≠ some []) (file : String) :
    ∃ result, parseText (String.ofList (keyedTable key)) file = .ok result ∧
      (afterNumeral key = none → result.issues = [] ∧
        ∃ whole around table, result.tree = .scriptBlock whole [.pipeline around [table]] ∧
          IsKeyedTable key table) ∧
      (afterNumeral key ≠ none → result = ⟨emptyTree (.ofText (keyedTable key)) file, [],
        [stopIssue (.ofText (keyedTable key)) file (keyedTable key)]⟩) := by
  cases number : afterNumeral key with
  | none =>
      have script : Reads Fitting Fitting
          (Grammar.script (originOf (.ofText (keyedTable key)) file)) (keyedTable key) [] _ :=
        Grammar.script_reads (skipTrivia_stop rfl) (Nat.zero_lt_succ _)
          (Grammar.pipeline_reads_keyedTable word number _ _)
      obtain ⟨result, parsed, clean, whole, _, tree, around, table, rfl, keyed⟩ :=
        parseText_reads script fitting_nil fun _ made => by
          obtain ⟨whole, _, rfl, around, _, rfl, keyed⟩ := made
          refine ⟨?_, keyed.shown.alone whole around⟩
          simp [Node.allRepeatedKeys, repeatedInAll, keyed.unrepeated]
      exact ⟨result, parsed, ⟨fun _ => ⟨clean, whole, around, table, tree, keyed⟩,
        fun other => absurd rfl other⟩⟩
  | some rest =>
      have left : rest ≠ [] := fun none => noNumber (by rw [number, none])
      have nothing := Grammar.script_reads_nothing word number left
        (originOf (.ofText (keyedTable key)) file)
      have stopped := parseText_stops nothing fitting_nil (List.cons_ne_nil _ _)
      exact ⟨_, stopped, ⟨fun same => absurd same (Option.some_ne_none rest), fun _ => rfl⟩⟩

theorem parseText_bareKey_dashed :
    (∃ result, parseText "@\x7b a-1 = 'v' \x7d" "" = .ok result ∧ result.issues = []) ∧
    ∃ result, parseText "@\x7b 1-a = 'v' \x7d" "" = .ok result ∧
      result.issues.map Issue.cause = [.unexpectedText "@\x7b 1-a = 'v' \x7d"] := by
  constructor
  · have word : afterKeyword ['a', '-', '1'] = some [] := by decide
    obtain ⟨result, parsed, usable, -⟩ := parseText_bareKey word (by decide) ""
    exact ⟨result, parsed, (usable (by decide)).1⟩
  · have word : afterKeyword ['1', '-', 'a'] = some [] := by decide
    obtain ⟨result, parsed, -, stopped⟩ := parseText_bareKey word (by decide) ""
    refine ⟨result, parsed, ?_⟩
    rw [stopped (by decide)]
    rfl

end ScriptAudit.Syntax
