import ScriptAudit.Correction.Apply
import ScriptAudit.Files.Tree

namespace ScriptAudit.Correction

/-! Applying corrections to a file.

The text is taken as it stands, with its byte order mark and its line breaks, and the file is
written again only when something was applied. -/

open Files

/-- What the corrections do to a file, and its content afterwards. -/
def patch (tree : FileTree) (path : String) (encoding : Encoding)
    (diagnostics : List Diagnostic) : Except Trouble (Outcome × ByteArray) := do
  let content ← tree.read path
  match encoding.decode? content with
  | none => .error .undecodable
  | some text =>
      let outcome := apply tree.current (tidy path) text diagnostics
      if outcome.changed then
        match encoding.encode? outcome.text with
        | some written => return (outcome, written)
        | none => .error .unencodable
      else return (outcome, content)

end ScriptAudit.Correction
