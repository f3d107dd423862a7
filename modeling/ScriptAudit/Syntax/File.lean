import ScriptAudit.Fault.Problem
import ScriptAudit.Syntax.Parse

namespace ScriptAudit.Syntax

/-! Parsing files and texts. -/

open Files

def unreadable (path : String) (trouble : Trouble) : Fault :=
  ⟨.unreadable path trouble.reason, some (.ofFile path)⟩

/-- Reads and parses a file.  Why a path gives no content is told; content that is no text is
not. -/
def parseFile (tree : FileTree) (path : String) : Except Problem ParseResult :=
  match tree.readText path with
  | .ok text => (parseText text path).mapError .fault
  | .error .nullCharacter => .error (.file .nullCharacter)
  | .error .undecodable => .error (.file .undecodable)
  | .error trouble => .error (.fault (unreadable path trouble))

/-- Parses the text or the file that is given. -/
def parse (tree : FileTree) (text path : Option String) : Except Problem ParseResult :=
  match text, path with
  | some text, none => (parseText text "").mapError .fault
  | none, some path => parseFile tree path
  | _, _ => .error .notOneSource

end ScriptAudit.Syntax
