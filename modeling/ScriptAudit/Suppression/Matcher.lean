import ScriptAudit.Diagnostic.Basic
import ScriptAudit.Files.Path
import ScriptAudit.Rule.Name
import ScriptAudit.Suppression.Entry

namespace ScriptAudit.Suppression

/-! Which diagnostics are suppressed.

A suppression covers the diagnostics inside its extent that belong to its rule.  With a scope or a
target it also asks for a region around the diagnostic: the innermost one of the right kind must
fit the target.  A target may be a regular expression that is refused, and then there is no
answer. -/

open Source

/-- `base` is the folder where relative paths begin, and `named` has the characters that have
names. -/
structure Matcher where
  base : String
  named : String → Option Nat := fun _ => none
  entries : List Entry := []
  regions : List Region := []

/-- The first region begins later than the second one, or at the same place and ends earlier. -/
def Region.inside (first second : Region) : Bool :=
  second.extent.start < first.extent.start ||
    (first.extent.start == second.extent.start && first.extent.stop < second.extent.stop)

/-- The innermost of several regions, the first one of those that agree. -/
def innermost? (regions : List Region) : Option Region :=
  regions.foldl (fun best region =>
    match best with
    | none => some region
    | some other => if region.inside other then some region else some other) none

namespace Matcher

def add (matcher : Matcher) (entry : Entry) : Matcher :=
  { matcher with entries := matcher.entries ++ [entry] }

def addRegion (matcher : Matcher) (region : Region) : Matcher :=
  { matcher with regions := matcher.regions ++ [region] }

/-- The regions of these kinds around a diagnostic. -/
def enclosing (matcher : Matcher) (diagnostic : Diagnostic) (kinds : List RegionKind) :
    List Region :=
  matcher.regions.filter fun region =>
    kinds.contains region.kind &&
      Files.sameFile matcher.base region.extent.file diagnostic.shownPath &&
      region.extent.Contains diagnostic.extent

/-- The suppression covers the diagnostic, regions aside. -/
def covers (matcher : Matcher) (entry : Entry) (diagnostic : Diagnostic) : Bool :=
  entry.extent.Contains diagnostic.extent &&
    Files.sameFile matcher.base entry.extent.file diagnostic.shownPath &&
    (entry.rule == "*" || Rule.nameMatches entry.rule diagnostic.rule) &&
    (entry.id.all fun id => id == "" || Text.sameFolded (diagnostic.id.getD "") id)

def applies (matcher : Matcher) (entry : Entry) (diagnostic : Diagnostic) :
    Except Pattern.Refusal Bool :=
  if !matcher.covers entry diagnostic then .ok false
  else if entry.scope = .none && entry.targetKind = .none then .ok true
  else match innermost? (matcher.enclosing diagnostic entry.scope.regionKinds) with
    | none => .ok false
    | some region => targetMatches matcher.named entry.target region.name

/-- The number of the first suppression of the list that applies.  Those after it are not tried. -/
def firstApplying? (matcher : Matcher) (diagnostic : Diagnostic) :
    List Entry → Except Pattern.Refusal (Option Nat)
  | [] => .ok none
  | entry :: rest => do
      if ← matcher.applies entry diagnostic then return some 0
      else return (← matcher.firstApplying? diagnostic rest).map (· + 1)

/-- The number of the first suppression that applies. -/
def matchingEntry? (matcher : Matcher) (diagnostic : Diagnostic) :
    Except Pattern.Refusal (Option Nat) :=
  matcher.firstApplying? diagnostic matcher.entries

def suppresses (matcher : Matcher) (diagnostic : Diagnostic) : Except Pattern.Refusal Bool := do
  return (← matcher.matchingEntry? diagnostic).isSome

/-- The diagnostics that are kept, and those that are suppressed. -/
def filter (matcher : Matcher) :
    List Diagnostic → Except Pattern.Refusal (List Diagnostic × List Diagnostic)
  | [] => .ok ([], [])
  | diagnostic :: rest => do
      let suppressed ← matcher.suppresses diagnostic
      let later ← matcher.filter rest
      return if suppressed then (later.1, diagnostic :: later.2)
        else (diagnostic :: later.1, later.2)

end Matcher
end ScriptAudit.Suppression
