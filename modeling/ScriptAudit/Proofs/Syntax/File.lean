import ScriptAudit.Proofs.Fault.Ends
import ScriptAudit.Syntax.File

namespace ScriptAudit.Syntax

/-! What parsing a file ends with: a tree or syntax errors, a text that cannot be parsed, or bytes
that are no text. -/

open Files

theorem parseText_ends (text file : String) :
    Ends (fun _ => True) (fun fault => fault.kind = .parserFailure) (parseText text file) := by
  unfold parseText
  dsimp only
  split
  · trivial
  · split
    · trivial
    · split
      · rfl
      · split
        · rfl
        · split <;> trivial

theorem readText_read {tree : FileTree} {path : String} {content : ByteArray}
    (read : tree.read path = .ok content) :
    tree.readText path = match dataFileText? content with
      | some text => .ok text
      | none => .error .undecodable := by
  rw [FileTree.readText, read]
  rfl

/-- A file that can be read is parsed as the text that its content denotes. -/
theorem parseFile_read {tree : FileTree} {path : String} {content : ByteArray}
    (read : tree.read path = .ok content) :
    parseFile tree path = match dataFileText? content with
      | some text => (parseText text path).mapError .fault
      | none => .error (.file .undecodable) := by
  unfold parseFile
  rw [readText_read read]
  cases dataFileText? content <;> rfl

/-- A file that was parsed could be read. -/
theorem exists_read_of_parseFile {tree : FileTree} {path : String} {result : ParseResult}
    (parsed : parseFile tree path = .ok result) :
    ∃ content text, tree.read path = .ok content ∧ parseText text path = .ok result := by
  cases read : tree.read path with
  | error trouble =>
      rw [parseFile, FileTree.readText, read] at parsed
      cases trouble <;> cases parsed
  | ok content =>
      rw [parseFile_read read] at parsed
      split at parsed
      · next text decoded =>
          refine ⟨content, text, rfl, ?_⟩
          cases made : parseText text path with
          | error fault =>
              rw [made] at parsed
              cases parsed
          | ok found =>
              rw [made] at parsed
              cases parsed
              rfl
      · cases parsed

end ScriptAudit.Syntax
