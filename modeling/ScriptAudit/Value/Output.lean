import ScriptAudit.Json.Basic
import ScriptAudit.Value.Basic

namespace ScriptAudit.Value

/-! Literals as JSON: arrays and tables become arrays and objects. -/

mutual

def toJson : Value → Json
  | null => .null
  | bool value => .bool value
  | number value => .number value
  | text value | path value => .text value
  | array items | list items => .array (jsonItems items)
  | table entries => .object (jsonEntries entries)
  | mapping pairs => .object (jsonPairs pairs)
  | bytes value => .text (Text.quotedBytes value)

def jsonItems : List Value → List Json
  | [] => []
  | item :: rest => item.toJson :: jsonItems rest

def jsonEntries : List (String × Value) → List (String × Json)
  | [] => []
  | (key, value) :: rest => (key, value.toJson) :: jsonEntries rest

def jsonPairs : List (Value × Value) → List (String × Json)
  | [] => []
  | (.text key, value) :: rest => (key, value.toJson) :: jsonPairs rest
  | (_, _) :: rest => jsonPairs rest

end

end ScriptAudit.Value
