namespace ScriptAudit.Number

/-! Double-precision numbers, held exactly.

A finite number is `mantissa * 2 ^ exponent` with a sign.  Every number has one form: the mantissa
lies below `2 ^ 53`, and it is at least `2 ^ 52` unless the exponent is the least one.  Nothing
equals a nan, which can still be told from others as the object that it is. -/

inductive Binary64 where
  | finite (negative : Bool) (mantissa : Nat) (exponent : Int)
  | infinite (negative : Bool)
  | nan (object : Nat)
deriving DecidableEq

/-- The quotient rounded to the nearest natural number, a half going to the even neighbour. -/
def roundRatio (numerator denominator : Nat) : Nat :=
  let quotient := numerator / denominator
  let twice := 2 * (numerator % denominator)
  if twice < denominator ∨ (twice = denominator ∧ quotient % 2 = 0) then quotient
  else quotient + 1

/-- Numerator and denominator of `numerator / denominator * 2 ^ power`. -/
def scaleRatio (numerator denominator : Nat) (power : Int) : Nat × Nat :=
  if 0 ≤ power then (numerator * Nat.pow 2 power.toNat, denominator)
  else (numerator, denominator * Nat.pow 2 (-power).toNat)

namespace Binary64

/-- The least mantissa of a number whose exponent is not the least one: `2 ^ 52`. -/
def leastMantissa : Nat := Nat.pow 2 52

/-- Every mantissa lies below it: `2 ^ 53`. -/
def mantissaLimit : Nat := Nat.pow 2 53

def leastExponent : Int := -1074

def greatestExponent : Int := 971

def isZero : Binary64 → Bool
  | finite _ mantissa _ => mantissa == 0
  | _ => false

def ofMantissa (negative : Bool) (mantissa : Nat) (exponent : Int) : Binary64 :=
  if greatestExponent < exponent then infinite negative else finite negative mantissa exponent

/-- The nearest number to a ratio, a half going to the even mantissa. -/
def ofRatio (negative : Bool) (numerator denominator : Nat) : Binary64 :=
  if numerator = 0 then finite negative 0 leastExponent
  else
    let guess := max leastExponent ((numerator.log2 : Int) - denominator.log2 - 53)
    let fine := scaleRatio numerator denominator (-guess)
    let exponent := if fine.1 / fine.2 < mantissaLimit then guess else guess + 1
    let scaled := scaleRatio numerator denominator (-exponent)
    let mantissa := roundRatio scaled.1 scaled.2
    if mantissa = mantissaLimit then ofMantissa negative leastMantissa (exponent + 1)
    else ofMantissa negative mantissa exponent

/-- The nearest number to `digits * 10 ^ power`.  A power far outside the range of the format
decides the answer before any big number is built. -/
def ofDecimal (negative : Bool) (digits : Nat) (power : Int) : Binary64 :=
  let magnitude := ((Nat.toDigits 10 digits).length : Int) + power
  if digits = 0 ∨ magnitude < -400 then finite negative 0 leastExponent
  else if 400 < magnitude then infinite negative
  else if 0 ≤ power then ofRatio negative (digits * Nat.pow 10 power.toNat) 1
  else ofRatio negative digits (Nat.pow 10 (-power).toNat)

def negate : Binary64 → Binary64
  | finite negative mantissa exponent => finite (!negative) mantissa exponent
  | infinite negative => infinite (!negative)
  | nan object => nan object

/-- The number times `2 ^ power`. -/
def scale (power : Int) : Binary64 → Binary64
  | finite negative mantissa exponent =>
      let ratio := scaleRatio mantissa 1 (exponent + power)
      ofRatio negative ratio.1 ratio.2
  | infinite negative => infinite negative
  | nan object => nan object

def signed (negative : Bool) (magnitude : Nat) : Int :=
  if negative then -(magnitude : Int) else magnitude

/-- Equality of the numbers themselves: both zeros agree and nothing agrees with a nan. -/
def same : Binary64 → Binary64 → Bool
  | finite negative mantissa exponent, finite negative' mantissa' exponent' =>
      mantissa == mantissa' && (mantissa == 0 || (negative == negative' && exponent == exponent'))
  | infinite negative, infinite negative' => negative == negative'
  | _, _ => false

def sameInt : Binary64 → Int → Bool
  | finite negative mantissa exponent, value =>
      if 0 ≤ exponent then signed negative mantissa * Nat.pow 2 exponent.toNat == value
      else signed negative mantissa == value * Nat.pow 2 (-exponent).toNat
  | _, _ => false

def atMostInt : Binary64 → Int → Bool
  | finite negative mantissa exponent, bound =>
      if 0 ≤ exponent then signed negative mantissa * Nat.pow 2 exponent.toNat ≤ bound
      else signed negative mantissa ≤ bound * Nat.pow 2 (-exponent).toNat
  | infinite negative, _ => negative
  | nan _, _ => false

end Binary64
end ScriptAudit.Number
