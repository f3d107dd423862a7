import ScriptAudit.Source.Extent
import ScriptAudit.Text.Blank
import ScriptAudit.Text.Case

namespace ScriptAudit.Suppression

/-! Regions of a script, and which of them a suppression asks for. -/

inductive RegionKind where
  | script
  | function
  | classBody
deriving DecidableEq

def RegionKind.name : RegionKind → String
  | script => "script"
  | function => "function"
  | classBody => "class"

def RegionKind.all : List RegionKind := [.script, .function, .classBody]

/-- A part of a script that has a name: a function, a class, or the script itself. -/
structure Region where
  name : String
  kind : RegionKind
  extent : Source.Extent
deriving DecidableEq

inductive Scope where
  | none
  | function
  | classBody
  | all
deriving DecidableEq

namespace Scope

def name : Scope → String
  | none => "none"
  | function => "function"
  | classBody => "class"
  | all => "all"

/-- The scope that a text names, letter case and blanks around it aside. -/
def ofText? (text : String) : Option Scope :=
  let word := Text.lower (Text.strip text)
  if word = "" ∨ word = "none" then some none
  else if word = "*" ∨ word = "all" then some all
  else if word = "function" then some function
  else if word = "class" then some classBody
  else Option.none

/-- The kinds of regions in which a suppression of this scope holds. -/
def regionKinds : Scope → List RegionKind
  | function => [.function]
  | classBody => [.classBody]
  | none | all => RegionKind.all

end Scope
end ScriptAudit.Suppression
