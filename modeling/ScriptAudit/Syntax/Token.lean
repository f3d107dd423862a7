import ScriptAudit.Source.Extent

namespace ScriptAudit.Syntax

/-! The leaf tokens of a data file. -/

inductive TokenKind where
  | string
  | number
  | variableName
  | bareword
  | parameter
  | type
deriving DecidableEq

def TokenKind.name : TokenKind → String
  | string => "string"
  | number => "number"
  | variableName => "variable"
  | bareword => "bareword"
  | parameter => "parameter"
  | type => "type"

structure Token where
  kind : TokenKind
  text : String
  extent : Source.Extent
deriving DecidableEq

end ScriptAudit.Syntax
