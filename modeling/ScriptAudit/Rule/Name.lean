import ScriptAudit.Pattern.Glob
import ScriptAudit.Text.Case
import ScriptAudit.Text.Split

namespace ScriptAudit.Rule

/-! Names of rules.

A qualified name is a namespace, a backslash and a simple name.  Names and patterns ignore letter
case.  A pattern with a namespace and a name with one must agree in both; where either of them has
none, the simple names decide. -/

def simpleName (name : String) : String :=
  String.ofList (Text.afterLast '\\' name.toList)

def isQualified (name : String) : Bool :=
  name.toList.contains '\\'

/-- A name without a namespace in front gets the given one. -/
def qualify (source name : String) : String :=
  if isQualified name || source == "" then name else source ++ "\\" ++ name

/-- One name against one pattern, both in lower case. -/
def foldedMatches (pattern name : String) : Bool :=
  if Pattern.hasWildcards pattern then Pattern.globMatches pattern name else name == pattern

def nameMatches (pattern name : String) : Bool :=
  let pattern := Text.lower pattern
  let name := Text.lower name
  foldedMatches pattern name ||
    (!(isQualified pattern && isQualified name) &&
      foldedMatches (simpleName pattern) (simpleName name))

end ScriptAudit.Rule
