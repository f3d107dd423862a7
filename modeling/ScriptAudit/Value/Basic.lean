import ScriptAudit.Number.Basic
import ScriptAudit.Text.Case
import ScriptAudit.Text.Quoted

namespace ScriptAudit

/-! Values of settings and rule arguments.

A *literal* is what a data file can denote: a truth value, a number, a text, an array or a table,
nested to any depth.  The keys of a table are texts that stay distinct when letter case is ignored.
Callers may hand in more than that: missing values, growable lists, mappings with keys of any kind,
paths and byte strings. -/

inductive Value where
  | null
  | bool (value : Bool)
  | number (value : Number)
  | text (value : String)
  | array (items : List Value)
  | table (entries : List (String × Value))
  | list (items : List Value)
  | mapping (pairs : List (Value × Value))
  | path (value : String)
  | bytes (value : List UInt8)

instance : Inhabited Value := ⟨.null⟩

namespace Value

/-- What messages call the type of a value. -/
def typeName : Value → String
  | null => "NoneType"
  | bool _ => "bool"
  | number (.integer _) => "int"
  | number (.real _) => "float"
  | text _ => "str"
  | array _ => "tuple"
  | table _ => "LiteralMap"
  | list _ => "list"
  | mapping _ => "dict"
  | path _ => "PurePosixPath"
  | bytes _ => "bytes"

/-- Tables and mappings. -/
def isKeyed : Value → Bool
  | table _ | mapping _ => true
  | _ => false

def boolText (value : Bool) : String :=
  if value then "True" else "False"

/-- Items between brackets of a sequence that is fixed: one item alone is followed by a comma. -/
def fixedText : List String → String
  | [item] => "(" ++ item ++ ",)"
  | items => "(" ++ String.intercalate ", " items ++ ")"

def braced (items : List String) : String :=
  "\x7b" ++ String.intercalate ", " items ++ "\x7d"

mutual

/-- How messages show a value. -/
def display : Value → String
  | null => "None"
  | bool value => boolText value
  | number value => value.text
  | text value => Text.quoted value
  | array items => fixedText (displayItems items)
  | table entries => "LiteralMap(" ++ braced (displayEntries entries) ++ ")"
  | list items => "[" ++ String.intercalate ", " (displayItems items) ++ "]"
  | mapping pairs => braced (displayPairs pairs)
  | path value => "PurePosixPath(" ++ Text.quoted value ++ ")"
  | bytes value => Text.quotedBytes value

def displayItems : List Value → List String
  | [] => []
  | item :: rest => item.display :: displayItems rest

def displayEntries : List (String × Value) → List String
  | [] => []
  | (key, value) :: rest => (Text.quoted key ++ ": " ++ value.display) :: displayEntries rest

def displayPairs : List (Value × Value) → List String
  | [] => []
  | (key, value) :: rest => (key.display ++ ": " ++ value.display) :: displayPairs rest

end

end Value
end ScriptAudit
