import ScriptAudit.Number.Binary64

namespace ScriptAudit.Number

/-! The fewest decimal digits that read back as the same double-precision number. -/

def decimal (value : Int) : String :=
  let digits := String.ofList (Nat.toDigits 10 value.natAbs)
  if value < 0 then "-" ++ digits else digits

/-- A positive number and the ends of the interval of reals that round to it, as numerators over
one denominator.  The ends belong to the interval when `closed` holds. -/
structure Rounding where
  low : Nat
  middle : Nat
  high : Nat
  denominator : Nat
  closed : Bool

namespace Rounding

/-- Below a power of two the neighbours are twice as near. -/
def ofFinite (mantissa : Nat) (exponent : Int) : Rounding :=
  let unit := Nat.pow 2 exponent.toNat
  let below :=
    if mantissa = Binary64.leastMantissa ∧ Binary64.leastExponent < exponent then 1 else 2
  { low := (4 * mantissa - below) * unit
    middle := 4 * mantissa * unit
    high := (4 * mantissa + 2) * unit
    denominator := 4 * Nat.pow 2 (-exponent).toNat
    closed := mantissa % 2 == 0 }

def holds (rounding : Rounding) (point : Nat) : Bool :=
  if rounding.closed then rounding.low ≤ point && point ≤ rounding.high
  else rounding.low < point && point < rounding.high

/-- The same interval in units of `10 ^ power`. -/
def inUnits (rounding : Rounding) (power : Int) : Rounding :=
  let shrink := Nat.pow 10 (-power).toNat
  { rounding with
    low := rounding.low * shrink
    middle := rounding.middle * shrink
    high := rounding.high * shrink
    denominator := rounding.denominator * Nat.pow 10 power.toNat }

/-- The multiple of the unit that lies in the interval and is nearest to the number. -/
def nearest? (rounding : Rounding) : Option Nat :=
  let below := rounding.middle / rounding.denominator
  let nearer := roundRatio rounding.middle rounding.denominator
  let farther := if nearer = below then below + 1 else below
  if rounding.holds (nearer * rounding.denominator) then some nearer
  else if rounding.holds (farther * rounding.denominator) then some farther
  else none

/-- Goes from the coarse decimal grid `10 ^ power` to finer ones until a point of the grid lies in
the interval. -/
def search (rounding : Rounding) (power : Int) : (grids : Nat) → Option (Nat × Int)
  | 0 => none
  | grids + 1 =>
      match (rounding.inUnits power).nearest? with
      | some digits => some (digits, power)
      | none => rounding.search (power - 1) grids

end Rounding

/-- A power of ten above `2 ^ power`. -/
def tensAbove (power : Int) : Int :=
  power * 30103 / 100000 + 2

/-- Digits and decimal exponent of the shortest decimal that reads back as the number. -/
def shortestDigits (mantissa : Nat) (exponent : Int) : Nat × Int :=
  if mantissa = 0 then (0, 0)
  else
    ((Rounding.ofFinite mantissa exponent).search
      (tensAbove (exponent + mantissa.log2 + 1)) 25).getD (0, 0)

/-- How a decimal is written: from which decimal exponent on, and up to which one, without a power
of ten; and how many digits a power of ten has at least. -/
structure DecimalStyle where
  positionalFrom : Int
  positionalBelow : Int
  exponentDigits : Nat

/-- Numbers from a ten-thousandth up to `10 ^ 16` are written without a power of ten. -/
def plainStyle : DecimalStyle := ⟨-4, 16, 2⟩

def zeros (count : Nat) : List Char := List.replicate count '0'

def exponentText (style : DecimalStyle) (power : Int) : List Char :=
  let digits := Nat.toDigits 10 power.natAbs
  (if power < 0 then '-' else '+') :: zeros (style.exponentDigits - digits.length) ++ digits

/-- `digits` with the point after the first `pointAt` of them; a number without a fraction ends in
a zero after the point. -/
def positional (digits : List Char) (pointAt : Int) : List Char :=
  if pointAt ≤ 0 then '0' :: '.' :: zeros (-pointAt).toNat ++ digits
  else
    let whole := pointAt.toNat
    if whole < digits.length then digits.take whole ++ '.' :: digits.drop whole
    else digits ++ zeros (whole - digits.length) ++ ['.', '0']

def scientific (style : DecimalStyle) (digits : List Char) (power : Int) : List Char :=
  let tail := digits.drop 1
  digits.take 1 ++ (if tail.isEmpty then [] else '.' :: tail) ++ 'e' :: exponentText style power

def magnitudeText (style : DecimalStyle) (mantissa : Nat) (exponent : Int) : List Char :=
  let shortest := shortestDigits mantissa exponent
  let digits := Nat.toDigits 10 shortest.1
  let power := shortest.2 + digits.length - 1
  if style.positionalFrom ≤ power ∧ power < style.positionalBelow then positional digits (power + 1)
  else scientific style digits power

namespace Binary64

/-- The number with the given spellings of infinity and of not-a-number. -/
def textWith (infinity nothing : String) : Binary64 → String
  | finite negative mantissa exponent =>
      String.ofList ((if negative then ['-'] else []) ++ magnitudeText plainStyle mantissa exponent)
  | infinite negative => if negative then "-" ++ infinity else infinity
  | nan _ => nothing

def text : Binary64 → String :=
  textWith "inf" "nan"

/-- The number with one decimal place, rounded from its exact value, a half going to the even
neighbour. -/
def onePlace : Binary64 → String
  | finite negative mantissa exponent =>
      let tenfold := scaleRatio (mantissa * 10) 1 exponent
      let tenths := roundRatio tenfold.1 tenfold.2
      (if negative then "-" else "") ++ decimal (tenths / 10 : Nat) ++ "." ++
        decimal (tenths % 10 : Nat)
  | infinite negative => if negative then "-inf" else "inf"
  | nan _ => "nan"

end Binary64
end ScriptAudit.Number
