import ScriptAudit.Proofs.Syntax.Span
import ScriptAudit.Syntax.Parse

namespace ScriptAudit.Syntax

/-! Texts that parse without errors.

Their tree was read by the grammar from the whole text, and no hashtable in it repeats a key. -/

open Source

structure Parsed (text file : String) (tree : Node) : Prop where
  block : ∃ extent statements, tree = .scriptBlock extent statements
  spans : tree.Spans (originOf (.ofText text.toList) file) 0 text.toList.length
  unrepeated : tree.allRepeatedKeys = []

/-- A script block is the whole of its text. -/
theorem scriptBlock_spans {text : List Char} {file : String} {statements : List Node}
    (parts : AllReadFrom (originIn text file) text [] statements) :
    (Node.scriptBlock ((originIn text file).between text []) statements).Spans
      (originIn text file) 0 text.length := by
  have parts := parts.spans (List.suffix_refl _)
  rw [Nat.sub_self] at parts
  refine .intro ?_ (isEdge_zero file text) (isEdge_length file text) (Nat.zero_le _)
    (Nat.le_refl _) trivial parts
  change (originIn text file).place (text.length - text.length) text.length = _
  rw [Nat.sub_self]

theorem parseText_read {text file : String} {result : ParseResult}
    (parsed : parseText text file = .ok result) (clean : result.issues = []) :
    ∃ cursor, Grammar.script (originIn text.toList file) ⟨text.toList, []⟩ =
        some (result.tree, cursor) ∧ cursor.rest = [] ∧ result.tokens = cursor.tokens.reverse ∧
      result.tree.allRepeatedKeys = [] := by
  unfold parseText at parsed
  dsimp only at parsed
  split at parsed
  · cases parsed
    cases clean
  · next tree cursor read =>
      split at parsed
      · cases parsed
        cases clean
      · next ended =>
          split at parsed
          · cases parsed
          · split at parsed
            · cases parsed
            · split at parsed
              · next unrepeated =>
                  cases parsed
                  exact ⟨cursor, read, Classical.not_not.mp ended, rfl,
                    by simpa [Node.duplicateKeyIssues] using unrepeated⟩
              · next repeated =>
                  cases parsed
                  exact absurd (List.isEmpty_iff.mpr clean) repeated

theorem parseText_parsed {text file : String} {result : ParseResult}
    (parsed : parseText text file = .ok result) (clean : result.issues = []) :
    Parsed text file result.tree := by
  obtain ⟨cursor, read, consumed, -, unrepeated⟩ := parseText_read parsed clean
  obtain ⟨statements, whole, parts⟩ := Grammar.script_covers read
  rw [consumed] at parts whole
  exact ⟨⟨_, _, whole⟩, whole ▸ scriptBlock_spans parts, unrepeated⟩

/-- A reading that was checked gave a result without issues that passed the check. -/
theorem exists_parsed {ε : Type} {read : Except ε ParseResult} {check : ParseResult → Bool}
    (checked : read.toOption.any fun result => result.issues.isEmpty && check result) :
    ∃ result, read = .ok result ∧ result.issues = [] ∧ check result := by
  cases read with
  | ok result =>
      rw [Except.toOption, Option.any_some, Bool.and_eq_true] at checked
      exact ⟨result, rfl, List.isEmpty_iff.mp checked.1, checked.2⟩
  | error fault => cases checked

end ScriptAudit.Syntax
