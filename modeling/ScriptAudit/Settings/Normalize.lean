import ScriptAudit.Fault.Basic
import ScriptAudit.Value.Table

namespace ScriptAudit.Settings

/-! Settings that a caller hands in, as literals.

Every key must be a text, keys must not differ in letter case only, and every value must have a
literal form. -/

def shapeFault (cause : Fault.Cause) : Fault :=
  ⟨cause, none⟩

mutual

def normalize (place : Fault.Place) : Value → Except Fault Value
  | .null => .error (shapeFault (.nullValue place))
  | .bool value => .ok (.bool value)
  | .number value => .ok (.number value)
  | .text value => .ok (.text value)
  | .array items | .list items => .array <$> normalizeItems place items
  | .table entries => .table <$> normalizeEntries place [] entries
  | .mapping pairs => .table <$> normalizePairs place [] pairs
  | .path _ => .error (shapeFault (.unsupportedType place "PurePosixPath"))
  | .bytes _ => .error (shapeFault (.unsupportedType place "bytes"))

def normalizeItems (place : Fault.Place) : List Value → Except Fault (List Value)
  | [] => .ok []
  | item :: rest => do
      let first ← normalize place item
      let later ← normalizeItems place rest
      return first :: later

/-- The entries after those made so far. -/
def normalizeEntries (place : Fault.Place) (made : List (String × Value)) :
    List (String × Value) → Except Fault (List (String × Value))
  | [] => .ok made
  | (key, value) :: rest =>
      match Table.spelling? made key with
      | some other => .error (shapeFault (.keysDifferInCase place other key))
      | none => do
          let literal ← normalize (place.child key) value
          normalizeEntries place (made ++ [(key, literal)]) rest

def normalizePairs (place : Fault.Place) (made : List (String × Value)) :
    List (Value × Value) → Except Fault (List (String × Value))
  | [] => .ok made
  | (key, value) :: rest =>
      match key with
      | .text name =>
          match Table.spelling? made name with
          | some other => .error (shapeFault (.keysDifferInCase place other name))
          | none => do
              let literal ← normalize (place.child name) value
              normalizePairs place (made ++ [(name, literal)]) rest
      | _ => .error (shapeFault (.keyNotText place key))

end

end ScriptAudit.Settings
