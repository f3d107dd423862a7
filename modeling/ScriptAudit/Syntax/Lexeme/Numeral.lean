import ScriptAudit.Number.Basic
import ScriptAudit.Text.Case
import ScriptAudit.Text.Word

namespace ScriptAudit.Syntax.Lexeme

/-! Numbers as they are written.

A number is an optional minus sign, then hexadecimal digits after `0x` or a decimal with an optional
fraction and exponent, then an optional `l` or `d`, then an optional multiplier, and no word
character after it.  Letters count in either case.

Each scanning function gives the rest of the text after what it reads. -/

open Text

/-- What follows at least one character of a kind. -/
def afterSome (kind : Char → Bool) : List Char → Option (List Char)
  | [] => none
  | c :: rest => if kind c then some (rest.dropWhile kind) else none

def afterChar (wanted : Char) : List Char → Option (List Char)
  | [] => none
  | c :: rest => if c = wanted then some rest else none

def isHexDigit (c : Char) : Bool :=
  (hexValue? c).isSome

/-- The binary power that a multiplier in lower case stands for. -/
def multiplierPower? : Char → Option Nat
  | 'k' => some 10
  | 'm' => some 20
  | 'g' => some 30
  | 't' => some 40
  | 'p' => some 50
  | _ => none

/-- Skips an exponent, if there is a whole one. -/
def skipExponent (text : List Char) : List Char :=
  match text with
  | c :: sign :: rest =>
      if c = 'e' ∨ c = 'E' then
        let digits := if sign = '+' ∨ sign = '-' then rest else sign :: rest
        (afterSome isDecimalDigit digits).getD text
      else text
  | _ => text

def skipTypeSuffix : List Char → List Char
  | c :: rest => if lowerChar c = 'l' ∨ lowerChar c = 'd' then rest else c :: rest
  | [] => []

def skipMultiplier : List Char → List Char
  | c :: b :: rest =>
      if (multiplierPower? (lowerChar c)).isSome ∧ lowerChar b = 'b' then rest else c :: b :: rest
  | text => text

/-- The rest after the suffixes of a number, if no word character follows them. -/
def afterSuffixes (text : List Char) : Option (List Char) :=
  let rest := skipMultiplier (skipTypeSuffix text)
  match rest with
  | [] => some []
  | c :: _ => if isWordChar c then none else some rest

def afterHexadecimal : List Char → Option (List Char)
  | '0' :: x :: rest =>
      if x = 'x' ∨ x = 'X' then (afterSome isHexDigit rest).bind afterSuffixes else none
  | _ => none

def afterFraction (text : List Char) : Option (List Char) :=
  (afterChar '.' text).bind (afterSome isDecimalDigit)

/-- A decimal: the longest of its three forms after which a number can end. -/
def afterDecimal (text : List Char) : Option (List Char) :=
  let finish (rest : List Char) := afterSuffixes (skipExponent rest)
  let whole := afterSome isDecimalDigit text
  ((whole.bind afterFraction).bind finish).or
    (((afterFraction text).bind finish).or (whole.bind finish))

def afterUnsigned (text : List Char) : Option (List Char) :=
  (afterHexadecimal text).or (afterDecimal text)

def afterNumeral : List Char → Option (List Char)
  | '-' :: rest => afterUnsigned rest
  | text => afterUnsigned text

/-- Takes the multiplier off the end of a number in lower case, and gives its binary power. -/
def splitMultiplier (text : List Char) : List Char × Nat :=
  match text.reverse with
  | 'b' :: c :: before =>
      match multiplierPower? c with
      | some power => (before.reverse, power)
      | none => (text, 0)
  | _ => (text, 0)

/-- A decimal number taken apart. -/
structure DecimalParts where
  whole : List Nat
  fraction : List Nat
  power : Int

def digitValues (text : List Char) : List Nat :=
  text.filterMap digitValue?

def signedDigits : List Char → Int
  | '-' :: digits => -(ofDigits 10 (digitValues digits) : Nat)
  | '+' :: digits => (ofDigits 10 (digitValues digits) : Nat)
  | digits => (ofDigits 10 (digitValues digits) : Nat)

def DecimalParts.ofText (text : List Char) : DecimalParts :=
  let mantissa := text.takeWhile (· != 'e')
  let power := (text.dropWhile (· != 'e')).drop 1
  { whole := digitValues (mantissa.takeWhile (· != '.'))
    fraction := digitValues (mantissa.dropWhile (· != '.'))
    power := signedDigits power }

def DecimalParts.value (parts : DecimalParts) (negative : Bool) : Number.Binary64 :=
  .ofDecimal negative (ofDigits 10 (parts.whole ++ parts.fraction))
    (parts.power - parts.fraction.length)

/-- The number that an unsigned decimal in lower case denotes.  A fraction, an exponent or a final
`d` makes it a double-precision number. -/
def decimalValue (text : List Char) : Number :=
  let real := text.getLast? = some 'd'
  let bare := if real ∨ text.getLast? = some 'l' then text.dropLast else text
  if real ∨ bare.contains '.' ∨ bare.contains 'e' then
    .real ((DecimalParts.ofText bare).value false)
  else .integer (ofDigits 10 (digitValues bare) : Nat)

def unsignedValue (text : List Char) : Number :=
  match text with
  | '0' :: 'x' :: digits => .integer (ofDigits 16 (digits.filterMap hexValue?) : Nat)
  | _ => decimalValue text

/-- The value of a number as written. -/
def numeralValue (text : List Char) : Number :=
  let split := splitMultiplier (text.map lowerChar)
  match split.1 with
  | '-' :: magnitude => ((unsignedValue magnitude).scale split.2).negate
  | magnitude => (unsignedValue magnitude).scale split.2

/-- How many digits a decimal integer has. -/
def integerDigits? (text : List Char) : Option Nat :=
  let magnitude := (splitMultiplier (text.map lowerChar)).1.filter (· != '-')
  let bare := if magnitude.getLast? = some 'l' then magnitude.dropLast else magnitude
  if bare.all isDecimalDigit then some bare.length else none

end ScriptAudit.Syntax.Lexeme
