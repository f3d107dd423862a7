import ScriptAudit.Fault.Basic

namespace ScriptAudit.Json

/-! What has a text in JSON.

An integer with too many digits has none.  With an indentation that no machine word holds there is
none either, except for a text alone, which is written without a look at the indentation. -/

mutual

/-- Every integer in it can be written. -/
def isWritable : Json → Bool
  | number value => Fault.isShownNumber value
  | array items => areWritable items
  | object fields => fieldsWritable fields
  | null | bool _ | text _ => true

def areWritable : List Json → Bool
  | [] => true
  | item :: rest => item.isWritable && areWritable rest

def fieldsWritable : List (String × Json) → Bool
  | [] => true
  | (_, value) :: rest => value.isWritable && fieldsWritable rest

end

/-- The bits of a signed machine word, apart from the sign. -/
def wordBits : Nat := 63

def fitsWord (number : Int) : Bool :=
  -(Nat.pow 2 wordBits : Int) ≤ number && number < (Nat.pow 2 wordBits : Int)

def isText : Json → Bool
  | text _ => true
  | _ => false

def indented? (indentation : Int) (json : Json) : Option String :=
  if (json.isText || fitsWord indentation) && json.isWritable then some (json.indented indentation)
  else none

end ScriptAudit.Json
