import ScriptAudit.Value.Table

namespace ScriptAudit.Value

/-! Literals and plain data.

Freezing makes a literal of plain data: lists become arrays and mappings become tables.  The way
back gives lists and mappings that can be written out. -/

inductive FreezeFault where
  | noLiteralForm (typeName : String)
  | table (fault : Table.Fault)

def FreezeFault.message : FreezeFault → String
  | noLiteralForm typeName => typeName ++ " has no literal form"
  | table fault => fault.message

mutual

def freeze : Value → Except FreezeFault Value
  | bool value => .ok (.bool value)
  | number value => .ok (.number value)
  | text value => .ok (.text value)
  | array items | list items => .array <$> freezeItems items
  | table entries => .table <$> freezeEntries [] entries
  | mapping pairs => .table <$> freezePairs [] pairs
  | null => .error (.noLiteralForm "NoneType")
  | path _ => .error (.noLiteralForm "PurePosixPath")
  | bytes _ => .error (.noLiteralForm "bytes")

def freezeItems : List Value → Except FreezeFault (List Value)
  | [] => .ok []
  | item :: rest => do
      let first ← item.freeze
      let later ← freezeItems rest
      return first :: later

/-- Freezes entries one after the other and adds them to the table made so far. -/
def freezeEntries (made : List (String × Value)) :
    List (String × Value) → Except FreezeFault (List (String × Value))
  | [] => .ok made
  | (key, value) :: rest => do
      let frozen ← value.freeze
      let longer ← (Table.add made (.text key) frozen).mapError .table
      freezeEntries longer rest

/-- Freezes the value of each pair before its key is looked at. -/
def freezePairs (made : List (String × Value)) :
    List (Value × Value) → Except FreezeFault (List (String × Value))
  | [] => .ok made
  | (key, value) :: rest => do
      let frozen ← value.freeze
      let longer ← (Table.add made key frozen).mapError .table
      freezePairs longer rest

end

mutual

def toPlain : Value → Value
  | array items => .list (toPlainItems items)
  | table entries => .mapping (toPlainEntries entries)
  | value => value

def toPlainItems : List Value → List Value
  | [] => []
  | item :: rest => item.toPlain :: toPlainItems rest

def toPlainEntries : List (String × Value) → List (Value × Value)
  | [] => []
  | (key, value) :: rest => (.text key, value.toPlain) :: toPlainEntries rest

end

end ScriptAudit.Value
