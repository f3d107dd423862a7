import ScriptAudit.Value.Equality

namespace ScriptAudit.Value

/-! Digests of values: equal values have equal digests.

Lists and mappings can change and have none. -/

/-- The odd part of a number and the power of two that it was divided by. -/
def oddPart (magnitude : Nat) : Nat × Nat :=
  if small : magnitude = 0 then (0, 0)
  else if magnitude % 2 = 1 then (magnitude, 0)
  else
    have : magnitude / 2 < magnitude := Nat.div_lt_self (Nat.pos_of_ne_zero small) (by decide)
    let half := oddPart (magnitude / 2)
    (half.1, half.2 + 1)

def digestParts (negative : Bool) (magnitude : Nat) (exponent : Int) : UInt64 :=
  let odd := oddPart magnitude
  if magnitude = 0 then 0
  else mixHash (hash (Number.Binary64.signed negative odd.1)) (hash (exponent + odd.2))

/-- Equal numbers have equal digests, whatever their form. -/
def digestNumber : Number → UInt64
  | .integer value => digestParts (value < 0) value.natAbs 0
  | .real (.finite negative mantissa exponent) => digestParts negative mantissa exponent
  | .real (.infinite negative) => if negative then 1 else 2
  | .real (.nan _) => 3

mutual

/-- The digest of a value, from a digest of texts and one of numbers; an error names the type of
the first part that has none. -/
def digest (ofText : String → UInt64) (ofNumber : Number → UInt64) : Value → Except String UInt64
  | null => .ok 7
  | bool value => .ok (ofNumber (.integer (if value then 1 else 0)))
  | number value => .ok (ofNumber value)
  | text value => .ok (ofText value)
  | array items => digestItems ofText ofNumber items
  | table entries => digestEntries ofText ofNumber entries
  | list _ => .error "list"
  | mapping _ => .error "dict"
  | path value => .ok (mixHash 11 (ofText value))
  | bytes value => .ok (value.foldl (fun sum byte => mixHash sum byte.toUInt64) 13)

def digestItems (ofText : String → UInt64) (ofNumber : Number → UInt64) :
    List Value → Except String UInt64
  | [] => .ok 17
  | item :: rest => do
      let first ← item.digest ofText ofNumber
      let later ← digestItems ofText ofNumber rest
      return mixHash first later

/-- The order of the entries does not count. -/
def digestEntries (ofText : String → UInt64) (ofNumber : Number → UInt64) :
    List (String × Value) → Except String UInt64
  | [] => .ok 19
  | (key, value) :: rest => do
      let first ← value.digest ofText ofNumber
      let later ← digestEntries ofText ofNumber rest
      return mixHash (ofText (Text.lower key)) first + later

end

def standardDigest (value : Value) : Except String UInt64 :=
  value.digest hash digestNumber

end ScriptAudit.Value
