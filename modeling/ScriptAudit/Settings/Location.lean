import ScriptAudit.Syntax.Walk
import ScriptAudit.Text.Case

namespace ScriptAudit.Settings

/-! Where settings stand in a settings file.

The locations are listed under the lower-case keys of the settings.  Each entry of the rules has a
location too, under its key after `rules.` and a dot. -/

open Syntax Source

structure Location where
  key : Extent
  value : Extent

abbrev Locations := List (String × Location)

namespace Locations

/-- Sets the location of a key, in its old place when it has one. -/
def put (locations : Locations) (key : String) (location : Location) : Locations :=
  match locations with
  | [] => [(key, location)]
  | entry :: rest =>
      if entry.1 = key then (key, location) :: rest else entry :: put rest key location

def find? (locations : Locations) (key : String) : Option Location :=
  locations.lookup (Text.lower key)

end Locations

def rulesKey : String := "rules"

/-- The only element of a pipeline stands for the pipeline. -/
def soleElement : Node → Node
  | .pipeline _ [element] => element
  | node => node

def pairsOf : Node → List (Node × Node)
  | .hashtable _ pairs => pairs
  | _ => []

/-- The locations of the constant keys among these pairs, after those found so far. -/
def locateKeys (start : String) (found : Locations) (pairs : List (Node × Node)) : Locations :=
  pairs.foldl (fun found pair =>
    match pair.1 with
    | .stringConstant extent key _ =>
        found.put (start ++ Text.lower key) ⟨extent, pair.2.extent⟩
    | _ => found) found

/-- The locations of a settings hashtable.  With a text in front of its keys it is part of another
one, and the rules are not looked for. -/
def locate (start : String) (hashtable : Node) : Locations :=
  (pairsOf hashtable).foldl (fun found pair =>
    let outer := locateKeys start found [pair]
    match pair.1 with
    | .stringConstant _ key _ =>
        if start = "" ∧ Text.lower key = rulesKey then
          locateKeys (rulesKey ++ ".") outer (pairsOf (soleElement pair.2))
        else outer
    | _ => outer) []

end ScriptAudit.Settings
