import ScriptAudit.Text.Blank
import ScriptAudit.Text.Word

namespace ScriptAudit.Text

/-! Whole numbers written in decimal. -/

/-- Decimal integers may have this many digits and no more. -/
def greatestIntegerDigits : Nat := 4300

/-- The values of digits of any script with single underscores between them. -/
def digitGroups (afterDigit : Bool) : List Char → Option (List Nat)
  | [] => if afterDigit then some [] else none
  | '_' :: rest => if afterDigit then digitGroups false rest else none
  | c :: rest => do
      let digit ← digitValue? c
      return digit :: (← digitGroups true rest)

/-- A whole number: groups of digits, with a sign and blanks around it.  There may not be too many
digits, those in front that are zero included. -/
def integer? (text : String) : Option Int :=
  let unsigned (chars : List Char) : Option Int :=
    (digitGroups false chars).bind fun digits =>
      if digits.length ≤ greatestIntegerDigits then some (ofDigits 10 digits : Int) else none
  match (strip text).toList with
  | '-' :: digits => (unsigned digits).map (- ·)
  | '+' :: digits => unsigned digits
  | digits => unsigned digits

end ScriptAudit.Text
