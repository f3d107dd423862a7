import ScriptAudit.Literal.Evaluate
import ScriptAudit.Proofs.Syntax.Leaves
import ScriptAudit.Proofs.Syntax.StatementReads

namespace ScriptAudit.Syntax

/-! Which double-quoted strings are taken for constants.

A dollar sign begins an expansion where the grammar would read a variable, and in front of a
parenthesis.  The reading of strings goes by the character behind the dollar sign.  It misses the
variables whose name begins with a digit, or with a letter that is not one of the basic 52. -/

open Source Lexeme

namespace Lexeme

/-- What stands behind each of the dollar signs, a backtick taking the character after it away. -/
def afterDollars : List Char → List (List Char)
  | [] => []
  | '\x60' :: _ :: rest => afterDollars rest
  | '$' :: rest => rest :: afterDollars rest
  | _ :: rest => afterDollars rest

/-- A dollar sign in front of this text is the first character of a variable, or of an expression
in parentheses. -/
def isExpanded (rest : List Char) : Bool :=
  (afterVariable ('$' :: rest)).isSome || rest.head? == some '('

/-- A name that begins with neither a letter from a to z nor an underscore. -/
def isOverlooked (rest : List Char) : Bool :=
  rest.head?.any fun c => Text.isWordChar c && !isNameStart c

/-- What the reading of strings takes for an expansion.  An opening brace is enough for it, although
a variable needs the closing one too. -/
def isNoticed (rest : List Char) : Bool :=
  rest.head? == some '\x7b' || isExpanded rest && !isOverlooked rest

theorem isWordChar_of_isNameStart {c : Char} (start : isNameStart c = true) :
    Text.isWordChar c = true := by
  rcases Bool.or_eq_true_iff.mp start with letter | underscore
  · have small : c.toNat < 128 := by
      have below {last : Char} (bounded : c.val ≤ last.val) (ends : last.toNat < 128) :
          c.toNat < 128 :=
        Nat.lt_of_le_of_lt (UInt32.le_iff_toNat_le.mp bounded) ends
      rcases Bool.or_eq_true_iff.mp letter with upper | lower
      · have bounds : 'A'.val ≤ c.val ∧ c.val ≤ 'Z'.val := of_decide_eq_true upper
        exact below bounds.2 (by decide)
      · have bounds : decide ('a'.val ≤ c.val) && decide (c.val ≤ 'z'.val) := lower
        exact below (of_decide_eq_true (Bool.and_eq_true_iff.mp bounds).2) (by decide)
    rw [Text.isWordChar, if_pos small, Char.isAlphanum, letter]
    rfl
  · rw [eq_of_beq underscore]
    rfl

/-- A dollar sign begins a variable by what stands right behind it, braces apart. -/
theorem afterVariable_isSome {c : Char} (tail : List Char) (unbraced : c ≠ '\x7b') :
    (afterVariable ('$' :: c :: tail)).isSome =
      (Text.isWordChar c || c == '$' || c == '^' || c == '?') := by
  have read : afterVariable ('$' :: c :: tail) =
      (afterScopedName (c :: tail)).or ((afterSome Text.isWordChar (c :: tail)).or
        (if c = '$' ∨ c = '^' ∨ c = '?' then some tail else none)) := by
    rw [afterVariable]
    simpa using unbraced
  cases word : Text.isWordChar c with
  | true => simp [read, afterSome, word]
  | false =>
      have unnamed : isNameStart c ≠ true := fun start => by
        rw [isWordChar_of_isNameStart start] at word
        cases word
      have unread : afterScopedName (c :: tail) = none := by
        simp [afterScopedName, afterMemberName, unnamed]
      rw [read, unread]
      by_cases mark : c = '$' ∨ c = '^' ∨ c = '?'
      · rcases mark with rfl | rfl | rfl <;> simp [afterSome, word]
      · rw [not_or, not_or] at mark
        simp [afterSome, word, mark]

theorem startsExpansion_eq (rest : List Char) : startsExpansion rest = isNoticed rest := by
  cases rest with
  | nil => rfl
  | cons c tail =>
      by_cases braced : c = '\x7b'
      · simp [braced, isNoticed, startsExpansion]
      · have unbraced : (c == '\x7b') = false := beq_eq_false_iff_ne.mpr braced
        have said : startsExpansion (c :: tail) =
            (isNameStart c || (c == '(' || c == '?' || c == '$' || c == '^')) := by
          simp [startsExpansion, isNameStart, unbraced, Bool.or_assoc]
        rw [said, isNoticed, isExpanded, afterVariable_isSome tail braced, isOverlooked,
          List.head?_cons, Option.any_some]
        cases start : isNameStart c with
        | true => simp [isWordChar_of_isNameStart start]
        | false =>
            cases word : Text.isWordChar c with
            | true =>
                have marks : ∀ mark ∈ ['(', '?', '$', '^'], Text.isWordChar mark = false :=
                  forall_mem_of_all (by decide)
                have unmarked : c ∉ ['(', '?', '$', '^'] := fun member => by
                  rw [marks c member] at word
                  cases word
                simp only [List.mem_cons, List.not_mem_nil, or_false, not_or,
                  ← beq_eq_false_iff_ne] at unmarked
                simp [unmarked, unbraced]
            | false =>
                simp only [Bool.false_or]
                grind

theorem unescape_expands (collapse : Bool) (body : List Char) :
    (unescape collapse body).2 = (afterDollars body).any isNoticed := by
  fun_induction unescape collapse body with
  | case1 => rfl
  | case2 c rest later ih => exact ih
  | case3 rest _ later ih => exact ih
  | case4 rest _ later ih => exact ih
  | case5 c rest unescaped _ later ih =>
      by_cases dollar : c = '$'
      · subst dollar
        rw [afterDollars, List.any_cons, ← startsExpansion_eq, ← ih]
        rfl
      · rw [afterDollars, ← ih]
        · simp [dollar, later]
        · exact unescaped
        · exact fun same => absurd same dollar

end Lexeme

/-- The lexeme is a double-quoted string or here-string with this body. -/
inductive Quotes : Quote → (body lexeme : List Char) → Prop
  | doubleQuoted {body : List Char} (closed : doubleQuotedBody (body ++ ['"']) = some (body, [])) :
      Quotes .double body ('"' :: (body ++ ['"']))
  | hereDouble {written body : List Char} (lines : hereString '"' written = some (body, [])) :
      Quotes .hereDouble body ('@' :: '"' :: written)

/-- The node says what a double-quoted text with this body is taken for: for an expandable string,
which has no value, when an expansion is noticed in it, and for a constant otherwise. -/
def Node.Takes (node : Node) (quote : Quote) (body : List Char) : Prop :=
  if (afterDollars body).any isNoticed then
    node = .expandableString node.extent (String.ofList body) quote ∧
      ∀ wrapScalars, Literal.nodeValue wrapScalars node = .error (Literal.notLiteral node)
  else ∃ value, node = .stringConstant node.extent value quote

theorem doubleQuotedNode_takes (extent : Extent) (body : List Char) (collapse : Bool)
    (quote : Quote) : (Grammar.doubleQuotedNode extent body collapse quote).Takes quote body := by
  rw [Grammar.doubleQuotedNode, unescape_expands, Node.Takes]
  split
  · exact ⟨rfl, fun _ => rfl⟩
  · exact ⟨_, rfl⟩

/-- The token of a double-quoted text stands for the node that is made of its body. -/
theorem Token.StandsFor.of_quotes {lexeme body : List Char} {extent : Extent} {node : Node}
    {quote : Quote} (stands : Token.StandsFor ⟨.string, String.ofList lexeme, extent⟩ node)
    (quotes : Quotes quote body lexeme) :
    ∃ collapse, node = Grammar.doubleQuotedNode extent body collapse quote := by
  generalize written : String.ofList lexeme = text at stands
  cases stands with
  | doubleQuoted =>
      have same := String.ofList_injective written
      cases quotes with
      | doubleQuoted =>
          exact ⟨true, by rw [List.append_cancel_right (List.cons.inj same).2]⟩
      | hereDouble => simp at same
  | hereDouble linesToo =>
      have same := String.ofList_injective written
      cases quotes with
      | doubleQuoted => simp at same
      | hereDouble lines =>
          rw [← (List.cons.inj (List.cons.inj same).2).2, lines] at linesToo
          cases linesToo
          exact ⟨false, rfl⟩
  | singleQuoted | hereSingle =>
      have same := String.ofList_injective written
      cases quotes <;> simp at same

theorem primary_quotes {origin : Origin} {inner : Level} {lexeme body : List Char} {quote : Quote}
    (quotes : Quotes quote body lexeme) :
    Reader.Reads Fitting Fitting (Grammar.primary origin inner) lexeme [] fun node =>
      ∃ extent collapse, node = Grammar.doubleQuotedNode extent body collapse quote := by
  cases quotes with
  | doubleQuoted closed =>
      rw [← List.append_nil (body ++ ['"'])] at closed ⊢
      exact (Grammar.primary_doubleQuoted closed).imp fun _ ⟨extent, same⟩ => ⟨extent, true, same⟩
  | @hereDouble written _ lines =>
      rw [← List.append_nil written] at lines ⊢
      exact (Grammar.primary_hereDouble lines).imp fun _ ⟨extent, same⟩ => ⟨extent, false, same⟩

theorem Grammar.doubleQuotedNode_keyed (extent : Extent) (body : List Char) (collapse : Bool)
    (quote : Quote) :
    let node := Grammar.doubleQuotedNode extent body collapse quote
    node.allRepeatedKeys = [] ∧ node.ShowsKeys := by
  dsimp only [Grammar.doubleQuotedNode]
  split <;> exact ⟨rfl, .intro rfl (by simp [Node.children])⟩

/-- A double-quoted text alone is a statement of its own. -/
theorem parseText_quotes {lexeme body : List Char} {quote : Quote} (file : String)
    (quotes : Quotes quote body lexeme) :
    ∃ result, parseText (String.ofList lexeme) file = .ok result ∧ result.issues = [] ∧
      ∃ whole around node, result.tree = .scriptBlock whole [.pipeline around [node]] ∧
        node.Takes quote body := by
  have solid : skipTrivia true lexeme = lexeme := by
    cases quotes <;> exact skipTrivia_stop rfl
  have begun : lexeme ≠ [] := by
    cases quotes <;> exact List.cons_ne_nil _ _
  obtain ⟨result, parsed, clean, whole, around, _, tree, extent, collapse, rfl⟩ :=
    parseText_reads_alone solid begun file (fun _ _ => primary_quotes quotes) fun _ made => by
      obtain ⟨extent, collapse, rfl⟩ := made
      exact Grammar.doubleQuotedNode_keyed ..
  exact ⟨result, parsed, clean, whole, around, _, tree, doubleQuotedNode_takes ..⟩

/-- A double-quoted text is taken for an expandable string exactly when an expansion is noticed in
its body, and otherwise for a constant.  Alone it makes a statement, and wherever it is a token of a
text without syntax errors, the tree has the node that is made of it. -/
theorem quoted_text_expands {lexeme body : List Char} {quote : Quote}
    (quotes : Quotes quote body lexeme) :
    (∀ file, ∃ result, parseText (String.ofList lexeme) file = .ok result ∧ result.issues = [] ∧
      ∃ whole around node, result.tree = .scriptBlock whole [.pipeline around [node]] ∧
        node.Takes quote body) ∧
    ∀ text file result, parseText text file = .ok result → result.issues = [] →
      ∀ token ∈ result.tokens, token.kind = .string → token.text = String.ofList lexeme →
        ∃ node ∈ result.tree.walk true, node.extent = token.extent ∧ node.Takes quote body := by
  refine ⟨fun file => parseText_quotes file quotes, ?_⟩
  rintro text file result parsed clean ⟨_, _, extent⟩ member rfl rfl
  obtain ⟨node, met, stands⟩ := (parseText_tokensFrom parsed clean).stands_of_mem member
  obtain ⟨collapse, rfl⟩ := stands.of_quotes quotes
  exact ⟨_, List.mem_of_mem_filter met, (Grammar.doubleQuotedNode_leaf ..).1,
    doubleQuotedNode_takes ..⟩

/-- The grammar reads `$1` as a variable, but a string that holds it is a constant. -/
theorem quoted_digit_constant : (afterDollars ['$', '1']).any isExpanded = true ∧
    ∃ result, parseText "\"$1\"" "" = .ok result ∧ result.issues = [] ∧
      ∃ whole around extent value, result.tree =
        .scriptBlock whole [.pipeline around [.stringConstant extent value .double]] := by
  have quotes : Quotes .double ['$', '1'] ['"', '$', '1', '"'] :=
    .doubleQuoted rfl
  have unnoticed : (afterDollars ['$', '1']).any isNoticed = false := by decide
  obtain ⟨result, parsed, clean, whole, around, node, tree, takes⟩ :=
    (quoted_text_expands quotes).1 ""
  rw [Node.Takes, if_neg (by simp [unnoticed])] at takes
  obtain ⟨value, same⟩ := takes
  exact ⟨by decide, result, parsed, clean, whole, around, _, value, by rw [tree, ← same]⟩

end ScriptAudit.Syntax
