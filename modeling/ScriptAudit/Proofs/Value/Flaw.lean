import ScriptAudit.Fault.Basic
import ScriptAudit.Value.Freeze

namespace ScriptAudit.Value

/-! What keeps a value from having a literal form.

A part of it has none, a key is no text, or two keys of one mapping agree but for letter case. -/

inductive Flaw where
  | formless (value : Value)
  | keyNotText (key : Value)
  | keysAgree (first second : String)

namespace Flaw

/-- What normalizing tells of a flaw, with the place where it was met. -/
def cause (place : Fault.Place) : Flaw → Fault.Cause
  | formless .null => .nullValue place
  | formless value => .unsupportedType place value.typeName
  | keyNotText key => .keyNotText place key
  | keysAgree first second => .keysDifferInCase place first second

/-- What freezing tells of a flaw. -/
def freezeFault : Flaw → FreezeFault
  | formless value => .noLiteralForm value.typeName
  | keyNotText key => .table (.keyNotText key.typeName)
  | keysAgree _ second => .table (.duplicateKey second)

variable (flaw : Flaw) (place : Fault.Place)

theorem cause_kind : (flaw.cause place).kind = .invalidValueShape := by
  cases flaw with
  | formless value => cases value <;> rfl
  | keyNotText key => rfl
  | keysAgree first second => rfl

theorem cause_hidden (hidden : (flaw.cause place).isShown = false) :
    ∃ key, flaw = .keyNotText key ∧ Fault.isShown key = false := by
  cases flaw with
  | formless value => cases value <;> cases hidden
  | keyNotText key => exact ⟨key, rfl, hidden⟩
  | keysAgree first second => cases hidden

end Flaw

/-- Nothing, a path or a byte string. -/
def isFormless : Value → Bool
  | null | path _ | bytes _ => true
  | _ => false

/-- The values that a value is made of, keys left out. -/
def inside : Value → List Value
  | array items | list items => items
  | value => value.pairs.map Prod.snd

def keys (value : Value) : List Value :=
  value.pairs.map Prod.fst

/-- The value has this flaw, itself or in something inside of it. -/
inductive Flawed : Value → Flaw → Prop where
  | formless {value : Value} (formless : value.isFormless) : Flawed value (.formless value)
  | keyNotText {value key : Value} (member : key ∈ value.keys) (other : ∀ name, key ≠ .text name) :
      Flawed value (.keyNotText key)
  | keysAgree {value : Value} {first second : String}
      (pair : [.text first, .text second].Sublist value.keys)
      (same : Text.lower first = Text.lower second) : Flawed value (.keysAgree first second)
  | inside {value part : Value} {flaw : Flaw} (member : part ∈ value.inside)
      (flawed : Flawed part flaw) : Flawed value flaw

theorem mem_inside {value : Value} {pair : Value × Value} (member : pair ∈ value.pairs) :
    pair.2 ∈ value.inside := by
  cases value with
  | table | mapping => exact List.mem_map_of_mem member
  | _ => cases member

end ScriptAudit.Value
