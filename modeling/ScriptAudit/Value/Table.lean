import ScriptAudit.Value.Basic

namespace ScriptAudit

/-! Tables: entries in the order in which they were given, with keys that ignore letter case. -/

namespace Table

def folded {α : Type} (entries : List (String × α)) : List String :=
  entries.map fun entry => Text.lower entry.1

/-- No two keys agree when letter case is ignored. -/
def Distinct {α : Type} (entries : List (String × α)) : Prop :=
  (folded entries).Nodup

def find? {α : Type} (entries : List (String × α)) (key : String) : Option (String × α) :=
  entries.find? fun entry => Text.lower entry.1 == Text.lower key

def get? {α : Type} (entries : List (String × α)) (key : String) : Option α :=
  (find? entries key).map Prod.snd

/-- The spelling under which a key was given. -/
def spelling? {α : Type} (entries : List (String × α)) (key : String) : Option String :=
  (find? entries key).map Prod.fst

def contains {α : Type} (entries : List (String × α)) (key : String) : Bool :=
  (find? entries key).isSome

/-- Gives a key a value and a spelling: in its old place when it is there, and at the end
otherwise. -/
def put {α : Type} (entries : List (String × α)) (key : String) (value : α) : List (String × α) :=
  match entries with
  | [] => [(key, value)]
  | entry :: rest =>
      if Text.lower entry.1 == Text.lower key then (key, value) :: rest
      else entry :: put rest key value

/-- Why pairs do not make a table. -/
inductive Fault where
  | keyNotText (typeName : String)
  | duplicateKey (key : String)

def Fault.message : Fault → String
  | keyNotText typeName => "LiteralMap keys must be strings, got " ++ typeName
  | duplicateKey key => "duplicate key " ++ Text.quoted key ++ " (keys are case-insensitive)"

/-- Adds one pair to a table. -/
def add {α : Type} (entries : List (String × α)) (key : Value) (value : α) :
    Except Fault (List (String × α)) :=
  match key with
  | .text name =>
      if contains entries name then .error (.duplicateKey name)
      else .ok (entries ++ [(name, value)])
  | _ => .error (.keyNotText key.typeName)

def ofPairs {α : Type} (pairs : List (Value × α)) : Except Fault (List (String × α)) :=
  pairs.foldlM (fun entries pair => add entries pair.1 pair.2) []

end Table

namespace Value

/-- The entries of a table or mapping as pairs. -/
def pairs : Value → List (Value × Value)
  | table entries => entries.map fun entry => (.text entry.1, entry.2)
  | mapping pairs => pairs
  | _ => []

end Value
end ScriptAudit
