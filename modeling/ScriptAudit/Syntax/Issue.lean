import ScriptAudit.Source.Extent

namespace ScriptAudit.Syntax

/-! Syntax errors. -/

inductive IssueCause where
  | duplicateKey (spelling : String)
  | unexpectedText (snippet : String)
  | unexpectedEnd
  | stated (message : String)
deriving DecidableEq

structure Issue where
  cause : IssueCause
  extent : Source.Extent
deriving DecidableEq

namespace Issue

def message (issue : Issue) : String :=
  match issue.cause with
  | .duplicateKey spelling =>
      "Duplicate keys '" ++ spelling ++ "' are not allowed in hash literals"
  | .unexpectedText snippet => "Unexpected token '" ++ snippet ++ "'"
  | .unexpectedEnd => "Unexpected end of input"
  | .stated message => message

def describe (issue : Issue) : String :=
  issue.extent.describe ++ ": " ++ issue.message

end Issue
end ScriptAudit.Syntax
