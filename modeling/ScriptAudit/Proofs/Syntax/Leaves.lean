import ScriptAudit.Proofs.Syntax.Faithful
import ScriptAudit.Proofs.Syntax.GrammarTokens

namespace ScriptAudit

/-! The tokens of a text without syntax errors are the leaves of its tree. -/

open Source

namespace Syntax

variable {text : List Char} {file : String} {before after : List Char}

theorem slice_between {lexeme : List Char} (inside : lexeme ++ after <:+ text) :
    (LineIndex.ofText text).slice (text.length - (lexeme ++ after).length)
      (text.length - after.length) = String.ofList lexeme := by
  obtain ⟨front, rfl⟩ := inside
  have start : (front ++ (lexeme ++ after)).length - (lexeme ++ after).length = front.length := by
    simp
  have stop : (front ++ (lexeme ++ after)).length - after.length - front.length =
      lexeme.length := by
    simp only [List.length_append]
    omega
  rw [LineIndex.slice, start, stop]
  simp [LineIndex.ofText]

namespace Token.ReadFrom

variable {token later : Token}

theorem locates (read : token.ReadFrom (originIn text file) before after)
    (inside : before <:+ text) :
    (LineIndex.ofText text).Locates token.extent (text.length - before.length)
      (text.length - after.length) := by
  have starts := isEdge_of_begins file inside read.trimmed.begins
  have stops := isEdge_of_solid file inside read.trimmed.ends
  rw [read.placed]
  exact ⟨starts, stops, offset_le read.trimmed.ends.suffix, Nat.sub_le _ _, rfl⟩

theorem text_eq (read : token.ReadFrom (originIn text file) before after)
    (inside : before <:+ text) : token.text = token.extent.text := by
  have written := read.written
  rw [written] at inside
  rw [read.placed, written]
  exact (String.ofList_toList (s := token.text)).symm.trans (slice_between inside).symm

/-- A token ends before the next one begins. -/
theorem precedes {next last : List Char} (read : token.ReadFrom (originIn text file) before after)
    (readLater : later.ReadFrom (originIn text file) next last) (gap : next <:+ after)
    (inside : before <:+ text) :
    token.extent.start < later.extent.start ∧ token.extent.stop ≤ later.extent.start := by
  rw [read.placed, readLater.placed]
  exact ⟨LineIndex.position_lt _
      (Nat.lt_of_lt_of_le (offset_lt inside read.trimmed.ends) (offset_le gap)),
    LineIndex.position_le _ (offset_le gap)⟩

end Token.ReadFrom

namespace TokensFrom

variable {tokens : List Token} {nodes : List Node}

theorem each {origin : Origin} (read : TokensFrom origin before after tokens nodes) :
    ∀ token ∈ tokens, ∃ first next, first <:+ before ∧ token.ReadFrom origin first next := by
  induction read with
  | nil => simp
  | cons gap head _ _ ih =>
      refine List.forall_mem_cons.mpr ⟨⟨_, _, gap, head⟩, fun token member => ?_⟩
      obtain ⟨first, next, later, found⟩ := ih token member
      exact ⟨first, next, later.trans (head.trimmed.ends.suffix.trans gap), found⟩

theorem stands_of_mem {origin : Origin} (read : TokensFrom origin before after tokens nodes)
    {token : Token} (member : token ∈ tokens) : ∃ node ∈ nodes, token.StandsFor node := by
  induction read with
  | nil => cases member
  | cons _ _ stands _ ih =>
      rcases List.mem_cons.mp member with rfl | later
      · exact ⟨_, List.mem_cons_self, stands⟩
      · obtain ⟨node, found, standsToo⟩ := ih later
        exact ⟨node, List.mem_cons_of_mem _ found, standsToo⟩

theorem ordered (read : TokensFrom (originIn text file) before after tokens nodes)
    (inside : before <:+ text) :
    tokens.Pairwise fun earlier later => earlier.extent.start < later.extent.start ∧
      earlier.extent.stop ≤ later.extent.start := by
  induction read with
  | nil => exact .nil
  | cons gap head _ tail ih =>
      have within := gap.trans inside
      refine .cons (fun token member => ?_)
        (ih (head.trimmed.ends.suffix.trans within))
      obtain ⟨first, next, later, found⟩ := tail.each token member
      exact head.precedes found later within

end TokensFrom

/-- The tokens of a text without syntax errors were read from it, for the nodes of its tree that
have tokens. -/
theorem parseText_tokensFrom {text file : String} {result : ParseResult}
    (parsed : parseText text file = .ok result) (clean : result.issues = []) :
    TokensFrom (originIn text.toList file) text.toList [] result.tokens
      ((result.tree.walk true).filter Node.hasToken) := by
  obtain ⟨cursor, read, consumed, recorded, -⟩ := parseText_read parsed clean
  obtain ⟨_, rfl, tokens, gathered, tokensRead⟩ := Grammar.script_records read
  rw [consumed] at tokensRead
  rw [gathered, List.append_nil, List.reverse_reverse] at recorded
  rw [recorded, Node.walk_eq_visit]
  exact tokensRead

/-- The tokens of a text without syntax errors come in the order of the text, and none of them is
empty or reaches into another one.  They are those of the leaves in the order of the walk, each
with the extent of its leaf, and at the start of each conversion the one of its type name. -/
theorem parseText_tokens {text file : String} {result : ParseResult}
    (parsed : parseText text file = .ok result) (clean : result.issues = []) :
    (∀ token ∈ result.tokens, token.text = token.extent.text ∧ ∃ start stop, start < stop ∧
      (LineIndex.ofText text.toList).Locates token.extent start stop) ∧
    result.tokens.Pairwise (fun earlier later => earlier.extent.start < later.extent.start ∧
      earlier.extent.stop ≤ later.extent.start) ∧
    List.Forall₂ Token.StandsFor result.tokens
      ((result.tree.walk true).filter Node.hasToken) := by
  have read := parseText_tokensFrom parsed clean
  refine ⟨fun token member => ?_, read.ordered (List.suffix_refl _), read.stand⟩
  obtain ⟨first, next, inside, found⟩ := read.each token member
  exact ⟨found.text_eq inside, _, _, offset_lt inside found.trimmed.ends, found.locates inside⟩

/-- A conversion in an array, whose type name has a token in front of that of its operand. -/
theorem parseText_tokens_conversion : ∃ result,
    parseText "@([int]'1', $x)" "" = .ok result ∧ result.issues = [] ∧
    result.tokens.map Token.kind = [.type, .string, .variableName] ∧
    List.Forall₂ Token.StandsFor result.tokens
      ((result.tree.walk true).filter Node.hasToken) := by
  obtain ⟨result, parsed, clean, kinds⟩ : ∃ result,
      parseText "@([int]'1', $x)" "" = .ok result ∧ result.issues = [] ∧
        result.tokens.map Token.kind == [.type, .string, .variableName] :=
    exists_parsed (by decide +kernel)
  exact ⟨result, parsed, clean, eq_of_beq kinds, (parseText_tokens parsed clean).2.2⟩

end Syntax
end ScriptAudit
