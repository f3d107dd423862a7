import ScriptAudit.Pattern.Glob
import ScriptAudit.Pattern.Regex.Match
import ScriptAudit.Pattern.Regex.Parse

namespace ScriptAudit.Suppression

/-! What a suppression aims at.

Every target is tried as a wildcard pattern first, letter case aside.  One that is no wildcard
pattern is then tried as a regular expression. -/

open Pattern

inductive TargetKind where
  | none
  | literal
  | glob
  | regex
deriving DecidableEq

def TargetKind.name : TargetKind → String
  | none => "none"
  | literal => "literal"
  | glob => "glob"
  | regex => "regex"

/-- Characters that have a meaning in regular expressions only. -/
def isRegexOnly (c : Char) : Bool :=
  ['^', '$', '+', '(', ')', '\x7b', '\x7d', '|', '\\'].contains c

/-- Every bracket belongs to a class.  A class may end at its first closing bracket, and also at
the next one when the first is the first member. -/
def bracketsClose (pattern : List Char) : Bool :=
  match pattern with
  | [] => true
  | '[' :: rest =>
      (match early : upToBracket rest with
        | some (_, after) =>
            have := upToBracket_length early
            bracketsClose after
        | none => false) ||
      (match late : classBody rest with
        | some (_, after) =>
            have := classBody_length late
            bracketsClose after
        | none => false)
  | c :: rest => c != ']' && bracketsClose rest
termination_by pattern.length

def isGlob (pattern : String) : Bool :=
  !pattern.toList.any isRegexOnly && bracketsClose pattern.toList

def classify (target : Option String) : TargetKind :=
  match target with
  | Option.none | some "" => .none
  | some pattern =>
      if !isGlob pattern then .regex
      else if hasWildcards pattern then .glob
      else .literal

/-- The whole name matches a regular expression, letter case aside.  A malformed pattern matches
nothing, and one that is refused has no answer. -/
def matchesRegex (named : String → Option Nat) (pattern name : String) : Except Refusal Bool :=
  match Regex.ofText named true pattern with
  | .ok regex => .ok (regex.matchesAll name)
  | .error .malformed => .ok false
  | .error (.refused refusal) => .error refusal

/-- The target fits a name; `named` has the characters that have names. -/
def targetMatches (named : String → Option Nat) (target : Option String) (name : String) :
    Except Refusal Bool :=
  let pattern := target.getD ""
  let fits := globMatches (Text.lower pattern) (Text.lower name)
  match classify target with
  | .none => .ok true
  | .regex => if fits then .ok true else matchesRegex named pattern name
  | _ => .ok fits

end ScriptAudit.Suppression
