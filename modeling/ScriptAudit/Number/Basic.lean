import ScriptAudit.Number.Shortest

namespace ScriptAudit

/-! Numbers of a data file: integers of any size and double-precision numbers. -/

inductive Number where
  | integer (value : Int)
  | real (value : Number.Binary64)
deriving DecidableEq

namespace Number

def negate : Number → Number
  | integer value => integer (-value)
  | real value => real value.negate

/-- The number times `2 ^ power`. -/
def scale (power : Nat) : Number → Number
  | integer value => integer (value * Nat.pow 2 power)
  | real value => real (value.scale power)

def text : Number → String
  | integer value => decimal value
  | real value => value.text

def isZero : Number → Bool
  | integer value => value == 0
  | real value => value.isZero

def isNan : Number → Bool
  | real (.nan _) => true
  | _ => false

/-- Equality of the numbers themselves, whatever their form. -/
def same : Number → Number → Bool
  | integer value, integer value' => value == value'
  | integer value, real value' => value'.sameInt value
  | real value, integer value' => value.sameInt value'
  | real value, real value' => value.same value'

/-- The number is not above an integer. -/
def atMost : Number → Int → Bool
  | integer value, bound => value ≤ bound
  | real value, bound => value.atMostInt bound

end Number
end ScriptAudit
